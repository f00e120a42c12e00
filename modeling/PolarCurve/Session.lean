import PolarCurve.Diagnostic
import PolarCurve.Expr.Outline
import PolarCurve.Text.Typed

/-! A session keeps the last good formula and an angle. A line that begins with a colon is a
command; any other line that is not blank is a formula. -/

namespace PolarCurve

structure Session where
  active : Option Formula
  theta : Float

structure Reply where
  lines : List String
  exit : Bool
deriving DecidableEq, Repr

namespace Session

def new : Session := ⟨none, 0⟩

def prompt (s : Session) : String :=
  match s.active with
  | some _ => "polar> "
  | none => "polar (no formula)> "

def help : List String :=
  ["commands: :help, :quit, :theta <value>, :eval [theta], :ast, :formula",
    "any other input is compiled as the new r(theta) formula"]

def noFormula : String := "no formula yet; type one, e.g. 100*sin(3*theta)"

def textLines (text : String) : List String := (Text.lines text.toList).map String.ofList

def valueAt (s : Session) (angle : Float) : String :=
  match s.active with
  | none => noFormula
  | some f =>
    match f.value? angle with
    | .ok value => "r(" ++ Double.text angle ++ ") = " ++ Double.text value
    | .error fault => "error: " ++ fault.message

def splitCommand (command : List Char) : List Char × List Char :=
  (command.takeWhile fun c => !Text.isBlank c,
    Text.trim (command.dropWhile fun c => !Text.isBlank c))

def setTheta (s : Session) (argument : List Char) : Session × List String :=
  match Double.read? argument with
  | some angle =>
    let s := { s with theta := angle }
    (s, ["theta = " ++ Double.text angle, s.valueAt angle])
  | none => (s, ["error: usage: :theta <number>"])

def evaluate (s : Session) (argument : List Char) : List String :=
  if argument = [] then [s.valueAt s.theta]
  else
    match Double.read? argument with
    | some angle => [s.valueAt angle]
    | none => ["error: usage: :eval [theta]"]

def outline (s : Session) : List String :=
  match s.active with
  | some f => textLines f.tree.outline
  | none => [noFormula]

def describe (s : Session) : String :=
  match s.active with
  | some f => f.source ++ " => " ++ f.display
  | none => noFormula

def command (s : Session) (text : List Char) : Session × Reply :=
  let (name, argument) := splitCommand text
  let name := String.ofList name
  if name = ":help" ∨ name = ":h" then (s, ⟨help, false⟩)
  else if name = ":quit" ∨ name = ":q" ∨ name = ":exit" then (s, ⟨[], true⟩)
  else if name = ":theta" then
    let (s, lines) := s.setTheta argument
    (s, ⟨lines, false⟩)
  else if name = ":eval" then (s, ⟨s.evaluate argument, false⟩)
  else if name = ":ast" then (s, ⟨s.outline, false⟩)
  else if name = ":formula" then (s, ⟨[s.describe], false⟩)
  else (s, ⟨["error: unknown command '" ++ String.ofList text ++ "'"], false⟩)

def submit (s : Session) (source : String) : Session × List String :=
  match Formula.compile source with
  | .ok f =>
    let s := { s with active := some f }
    (s, [s.valueAt s.theta])
  | .error error =>
    let picture := textLines ((Diagnostic.ofError error source).render source)
    match s.active with
    | some f => (s, picture ++ ["note: keeping previous formula '" ++ f.source ++ "'"])
    | none => (s, picture)

def handle (s : Session) (line : String) : Session × Reply :=
  match Text.trim line.toList with
  | [] => (s, ⟨[], false⟩)
  | c :: cs =>
    if c = ':' then s.command (c :: cs)
    else
      let (s, lines) := s.submit (String.ofList (c :: cs))
      (s, ⟨lines, false⟩)

def typedLines (text : String) : List String :=
  (Text.lines text.toList).map fun line => String.ofList (Text.typed line)

def run (s : Session) : List String → List String
  | [] => []
  | line :: rest =>
    let (s, reply) := s.handle line
    if reply.exit then reply.lines else reply.lines ++ s.run rest

end Session

end PolarCurve
