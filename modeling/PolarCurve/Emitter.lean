import PolarCurve.Formula
import PolarCurve.Settings

/-! The emitter moves along the curve of the formula that was last accepted. A handle is known by
its serial number, whoever holds it. -/

namespace PolarCurve

structure Handle where
  serial : Nat
  formula : Formula

structure PathPoint where
  theta : Float
  radius : Float
  x : Float
  y : Float
  emissionAngle : Float

structure Emitter where
  handle : Handle
  theta : Float
  speed : Float
  origin : Float × Float
  emissionAngle : Float

namespace PathPoint

def toJson (p : PathPoint) : Json :=
  Settings.record
    [("theta", Json.ofFloat p.theta), ("radius", Json.ofFloat p.radius), ("x", Json.ofFloat p.x),
      ("y", Json.ofFloat p.y), ("emissionAngle", Json.ofFloat p.emissionAngle)]

end PathPoint

namespace Emitter

def defaultRadius : Float := 5

def defaultSpeed : Float := 0.025

def defaultOrigin : Float × Float := (300, 300)

def new (serial : Nat) (origin : Float × Float) : Emitter where
  handle := ⟨serial, Formula.constant defaultRadius⟩
  theta := 0
  speed := defaultSpeed
  origin := origin
  emissionAngle := 0

def setHandle (e : Emitter) (handle : Handle) : Emitter := { e with handle := handle }

def setFormula (e : Emitter) (serial : Nat) (source : String) : Emitter × Option CompileError :=
  match Formula.compile source with
  | .ok formula => (e.setHandle ⟨serial, formula⟩, none)
  | .error error => (e, some error)

def setOrigin (e : Emitter) (x y : Float) : Emitter := { e with origin := (x, y) }

def setSpeed (e : Emitter) (speed : Float) : Emitter := { e with speed := speed }

def reset (e : Emitter) : Emitter := { e with theta := 0, emissionAngle := 0 }

def step (e : Emitter) : Emitter × PathPoint :=
  let radius := e.handle.formula.value e.theta
  let next := e.theta + e.speed
  let point : PathPoint :=
    { theta := e.theta
      radius := radius
      x := radius * Float.cos e.theta + e.origin.1
      y := radius * Float.sin e.theta + e.origin.2
      emissionAngle := -next }
  ({ e with theta := next, emissionAngle := -next }, point)

def sample (e : Emitter) : Nat → Emitter × List PathPoint
  | 0 => (e, [])
  | n + 1 =>
    let (e, point) := e.step
    let (e, points) := e.sample n
    (e, point :: points)

def applySettings (e : Emitter) (serial : Nat) (s : Settings) : Emitter × Option CompileError :=
  (e.setSpeed s.drawSpeed).setFormula serial s.formula

inductive Action
  | setFormula (serial : Nat) (source : String)
  | setHandle (handle : Handle)
  | setOrigin (x y : Float)
  | setSpeed (speed : Float)
  | reset
  | step
  | sample (count : Nat)
  | applySettings (serial : Nat) (settings : Settings)

structure Outcome where
  points : List PathPoint
  error : Option CompileError

def perform (e : Emitter) : Action → Emitter × Outcome
  | .setFormula serial source =>
    let (e, error) := e.setFormula serial source
    (e, ⟨[], error⟩)
  | .setHandle handle => (e.setHandle handle, ⟨[], none⟩)
  | .setOrigin x y => (e.setOrigin x y, ⟨[], none⟩)
  | .setSpeed speed => (e.setSpeed speed, ⟨[], none⟩)
  | .reset => (e.reset, ⟨[], none⟩)
  | .step =>
    let (e, point) := e.step
    (e, ⟨[point], none⟩)
  | .sample count =>
    let (e, points) := e.sample count
    (e, ⟨points, none⟩)
  | .applySettings serial settings =>
    let (e, error) := e.applySettings serial settings
    (e, ⟨[], error⟩)

end Emitter

end PolarCurve
