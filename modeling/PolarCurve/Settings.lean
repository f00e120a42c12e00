import PolarCurve.Json.Printer
import PolarCurve.Json.Reader
import PolarCurve.Json.Shape
import PolarCurve.Text.Blank

namespace PolarCurve

structure Velocity where
  min : Float
  max : Float
  angle : Float
deriving BEq

structure Scale where
  first : Float
  last : Float
deriving BEq

structure EmissionRate where
  fewest : UInt32
  most : UInt32
  shortest : Float
  longest : Float
deriving BEq

structure Settings where
  formula : String
  size : Float
  drawSpeed : Float
  xDrift : Float
  yDrift : Float
  driftDelay : Float
  lifespan : Float
  damping : Float
  particleVelocity : Float
  hueMin : Float
  hueMax : Float
  velocity : Velocity
  scale : Scale
  emissionRate : EmissionRate
  emitterRateParticles : UInt32
  emitterRateTime : Float
deriving BEq

inductive SettingsFault
  | notFinite (field : String)
  | notPositive (field : String) (value : Float)
  | negative (field : String) (value : Float)
  | hueOutOfRange (field : String) (value : Float)
  | inverted (field : String)
  | emptyFormula
deriving DecidableEq

def SettingsFault.message : SettingsFault → String
  | notFinite field => field ++ " must be a finite number"
  | notPositive field value => field ++ " must be greater than zero, got " ++ Double.text value
  | negative field value => field ++ " must not be negative, got " ++ Double.text value
  | hueOutOfRange field value => field ++ " must be within 0..=360, got " ++ Double.text value
  | inverted field => field ++ " has its minimum above its maximum"
  | emptyFormula => "formula must not be empty"

namespace Settings

def default : Settings where
  formula := "200*sin(2*theta)"
  size := 4
  drawSpeed := 0.03
  xDrift := 1
  yDrift := 1
  driftDelay := 0.1
  lifespan := 5
  damping := 0.0001
  particleVelocity := 0.2
  hueMin := 0
  hueMax := 360
  velocity := ⟨0.5, 1, 90⟩
  scale := ⟨1, 0.1⟩
  emissionRate := ⟨20, 22, 0.01, 0.03⟩
  emitterRateParticles := 13
  emitterRateTime := 0.01

def finite (field : String) (value : Float) : Except SettingsFault Unit :=
  if Double.code value < Double.infinity then .ok () else .error (.notFinite field)

def positive (field : String) (value : Float) : Except SettingsFault Unit := do
  finite field value
  if 0 < value then .ok () else .error (.notPositive field value)

def notNegative (field : String) (value : Float) : Except SettingsFault Unit := do
  finite field value
  if 0 ≤ value then .ok () else .error (.negative field value)

def hue (field : String) (value : Float) : Except SettingsFault Unit := do
  finite field value
  if 0 ≤ value ∧ value ≤ 360 then .ok () else .error (.hueOutOfRange field value)

def ordered (field : String) (inOrder : Bool) : Except SettingsFault Unit :=
  if inOrder then .ok () else .error (.inverted field)

def validate (s : Settings) : Except SettingsFault Unit := do
  if Text.trim s.formula.toList = [] then .error .emptyFormula
  positive "size" s.size
  finite "drawSpeed" s.drawSpeed
  finite "xDrift" s.xDrift
  finite "yDrift" s.yDrift
  notNegative "driftDelay" s.driftDelay
  positive "lifespan" s.lifespan
  notNegative "damping" s.damping
  notNegative "particleVelocity" s.particleVelocity
  hue "hueMin" s.hueMin
  hue "hueMax" s.hueMax
  ordered "hue" (s.hueMin ≤ s.hueMax)
  notNegative "velocity.min" s.velocity.min
  notNegative "velocity.max" s.velocity.max
  finite "velocity.angle" s.velocity.angle
  ordered "velocity" (s.velocity.min ≤ s.velocity.max)
  notNegative "scale.start" s.scale.first
  notNegative "scale.end" s.scale.last
  ordered "emissionRate.particles" (s.emissionRate.fewest ≤ s.emissionRate.most)
  positive "emissionRate.time" s.emissionRate.shortest
  positive "emissionRate.time" s.emissionRate.longest
  ordered "emissionRate.time" (s.emissionRate.shortest ≤ s.emissionRate.longest)
  positive "emitterRateTime" s.emitterRateTime

def names : List String :=
  ["formula", "size", "drawSpeed", "xDrift", "yDrift", "driftDelay", "lifespan", "damping",
    "particleVelocity", "hueMin", "hueMax", "velocity", "scale", "emissionRate",
    "emitterRateNumParticles", "emitterRateTime"]

def record (fields : List (String × Json)) : Json :=
  .object (fields.map fun (key, value) => (key.toList, value))

def count (n : UInt32) : Json := Json.ofNat n.toNat

def toJson (s : Settings) : Json :=
  record
    [("formula", Json.ofString s.formula),
     ("size", Json.ofFloat s.size),
     ("drawSpeed", Json.ofFloat s.drawSpeed),
     ("xDrift", Json.ofFloat s.xDrift),
     ("yDrift", Json.ofFloat s.yDrift),
     ("driftDelay", Json.ofFloat s.driftDelay),
     ("lifespan", Json.ofFloat s.lifespan),
     ("damping", Json.ofFloat s.damping),
     ("particleVelocity", Json.ofFloat s.particleVelocity),
     ("hueMin", Json.ofFloat s.hueMin),
     ("hueMax", Json.ofFloat s.hueMax),
     ("velocity", record
       [("min", Json.ofFloat s.velocity.min), ("max", Json.ofFloat s.velocity.max),
        ("angle", Json.ofFloat s.velocity.angle)]),
     ("scale", record
       [("start", Json.ofFloat s.scale.first), ("end", Json.ofFloat s.scale.last)]),
     ("emissionRate", record
       [("particles", .array [count s.emissionRate.fewest, count s.emissionRate.most]),
        ("time", .array
          [Json.ofFloat s.emissionRate.shortest, Json.ofFloat s.emissionRate.longest])]),
     ("emitterRateNumParticles", count s.emitterRateParticles),
     ("emitterRateTime", Json.ofFloat s.emitterRateTime)]

def count? (j : Json) : Option UInt32 := do
  let n ← j.nat?
  if n < 2 ^ 32 then some (UInt32.ofNat n) else none

def velocity? (j : Json) : Option Velocity := do
  let [some min, some max, some angle] ← j.fields? ["min", "max", "angle"] | none
  return ⟨← min.float?, ← max.float?, ← angle.float?⟩

def scale? (j : Json) : Option Scale := do
  let [some first, some last] ← j.fields? ["start", "end"] | none
  return ⟨← first.float?, ← last.float?⟩

def emissionRate? (j : Json) : Option EmissionRate := do
  let [some particles, some time] ← j.fields? ["particles", "time"] | none
  let [fewest, most] ← particles.items? | none
  let [shortest, longest] ← time.items? | none
  return ⟨← count? fewest, ← count? most, ← shortest.float?, ← longest.float?⟩

def ofJson? (j : Json) : Option Settings := do
  let [formula, size, drawSpeed, xDrift, yDrift, driftDelay, lifespan, damping, particleVelocity,
    hueMin, hueMax, velocity, scale, emissionRate, emitterRateParticles, emitterRateTime] ←
    j.fields? names | none
  let float (value : Float) := Json.orElse? value Json.float?
  return {
    formula := ← Json.orElse? default.formula Json.text? formula
    size := ← float default.size size
    drawSpeed := ← float default.drawSpeed drawSpeed
    xDrift := ← float default.xDrift xDrift
    yDrift := ← float default.yDrift yDrift
    driftDelay := ← float default.driftDelay driftDelay
    lifespan := ← float default.lifespan lifespan
    damping := ← float default.damping damping
    particleVelocity := ← float default.particleVelocity particleVelocity
    hueMin := ← float default.hueMin hueMin
    hueMax := ← float default.hueMax hueMax
    velocity := ← Json.orElse? default.velocity velocity? velocity
    scale := ← Json.orElse? default.scale scale? scale
    emissionRate := ← Json.orElse? default.emissionRate emissionRate? emissionRate
    emitterRateParticles := ← Json.orElse? default.emitterRateParticles count? emitterRateParticles
    emitterRateTime := ← float default.emitterRateTime emitterRateTime }

def document (s : Settings) : String := s.toJson.text

def ofDocument? (text : String) : Option Settings := do ofJson? (← Json.ofText? text.toList)

end Settings

end PolarCurve
