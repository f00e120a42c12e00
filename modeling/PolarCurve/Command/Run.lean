import PolarCurve.Command.Request
import PolarCurve.Emitter
import PolarCurve.Expr.Census
import PolarCurve.Formula.Report
import PolarCurve.Session
import PolarCurve.Settings.Storage

/-! Obeying requests: zero if all is well, one for a formula that does not compile, two for a file
or a command line that is of no use. -/

namespace PolarCurve.Command

structure Result where
  exit : Nat
  output : String
  errors : String
  store : Store

namespace Result

def good (store : Store) (output : String) : Result := ⟨0, output, "", store⟩

def failed (store : Store) (exit : Nat) (errors : String) : Result := ⟨exit, "", errors, store⟩

end Result

def unlines (lines : List String) : String := String.join (lines.map fun line => line ++ "\n")

def withFormula (store : Store) (source : String) (next : Formula → String) : Result :=
  match Formula.compile source with
  | .ok f => .good store (next f)
  | .error e => .failed store 1 ((Diagnostic.ofError e source).render source)

def report (store : Store) (source : String) : Result :=
  let r := Report.compile source
  ⟨if r.ok then 0 else 1, r.document ++ "\n", "", store⟩

def valueLine (f : Formula) (angle : Float) : String :=
  "r(" ++ Double.text angle ++ ") = " ++ Double.text (f.value angle)

def inspection (f : Formula) : String :=
  let names := f.tree.functions
  let counter := Counter.fresh.visit f.tree
  "formula: " ++ f.display ++ "\ntree:\n" ++ f.tree.outline ++
    "functions: " ++ (if names = [] then "none" else ", ".intercalate names) ++
    "\nuses theta: " ++ (if f.tree.mentionsTheta then "yes" else "no") ++
    "\nnodes: " ++ toString counter.nodes ++ ", depth: " ++ toString counter.deepest ++ "\n"

def pointLine (p : PathPoint) : String :=
  "\t".intercalate ([p.theta, p.radius, p.x, p.y, p.emissionAngle].map Double.sixPlaces)

def pointTable (points : List PathPoint) : String :=
  unlines ("theta\tradius\tx\ty\temission_angle" :: points.map pointLine)

def traceSettings (store : Store) (t : Trace) : Except StorageFault (Option Settings) :=
  match t.settings with
  | some path => (Settings.load path store).map some
  | none => .ok (t.preset.map Preset.settings)

def tracePoints (t : Trace) (settings : Option Settings) (f : Formula) : List PathPoint :=
  let e := Emitter.new 0 Emitter.defaultOrigin
  let e := match settings with
    | some s => e.setSpeed s.drawSpeed
    | none => e
  let e := match t.speed with
    | some speed => e.setSpeed speed
    | none => e
  let e := match t.origin with
    | some (x, y) => e.setOrigin x y
    | none => e
  ((e.setHandle ⟨1, f⟩).sample t.steps).2

def trace (store : Store) (t : Trace) : Result :=
  match traceSettings store t with
  | .error fault => .failed store 2 ("error: " ++ fault.message ++ "\n")
  | .ok settings =>
    match t.formula.or (settings.map Settings.formula) with
    | none => .failed store 2 "error: a formula, --settings or --preset is required\n"
    | some source =>
      withFormula store source fun f =>
        let points := tracePoints t settings f
        if t.json then (Json.array (points.map PathPoint.toJson)).text ++ "\n"
        else pointTable points

def preset (store : Store) (p : Preset) : Option String → Result
  | none => .good store (p.settings.document ++ "\n")
  | some path =>
    match p.settings.save path store with
    | .error fault => .failed store 2 ("error: " ++ fault.message ++ "\n")
    | .ok store => .good store ("wrote preset '" ++ p.name ++ "' to " ++ path ++ "\n")

def Request.run (input : String) (store : Store) : Request → Result
  | check formula => withFormula store (formula.getD input) fun _ => "ok\n"
  | json formula => report store (formula.getD input)
  | inspect formula => withFormula store (formula.getD input) inspection
  | eval formula angles =>
    withFormula store formula fun f => unlines (angles.map (valueLine f))
  | trace t => Command.trace store t
  | preset p out => Command.preset store p out
  | repl => .good store (unlines (Session.new.run (Session.typedLines input)))

def versionText : String := "polar 0.1.0\n"

def helpText : String :=
  unlines
    ["usage: polar [-v] [COMMAND]",
     "  check [FORMULA]            say whether a formula compiles",
     "  json [FORMULA]             report on a formula as a document",
     "  eval FORMULA -t T...       evaluate a formula at angles",
     "  trace [FORMULA] [OPTIONS]  sample the path of an emitter",
     "  inspect [FORMULA]          show the tree of a formula",
     "  preset NAME [-o FILE]      show or write the settings of a preset",
     "  repl                       start a session"]

def run (words : List String) (input : String) (store : Store) : Result :=
  match Request.ofWords words with
  | .ok request => request.run input store
  | .error .version => .good store versionText
  | .error .help => .good store helpText
  | .error .usage => .failed store 2 "usage error"

end PolarCurve.Command
