import PolarCurve.Command.Words
import PolarCurve.Settings.Preset

namespace PolarCurve.Command

structure Trace where
  formula : Option String
  settings : Option String
  preset : Option Preset
  steps : Nat
  speed : Option Float
  origin : Option (Float × Float)
  json : Bool

inductive Request
  | check (formula : Option String)
  | json (formula : Option String)
  | inspect (formula : Option String)
  | eval (formula : String) (angles : List Float)
  | trace (trace : Trace)
  | preset (preset : Preset) (out : Option String)
  | repl

def float? (word : String) : Option Float := Double.read? word.toList

def count? (word : String) : Option Nat :=
  let digits :=
    match word.toList with
    | '+' :: digits => digits
    | digits => digits
  let n := Nat.ofDigitChars 10 digits 0
  if digits ≠ [] ∧ digits.all Char.isDigit ∧ n < 2 ^ 64 then some n else none

def formulaSlot : Slot := ⟨true, fun _ => true⟩

def formulaUsage : Usage := ⟨[Switch.help, Switch.verbose], some formulaSlot⟩

def one (name : String) (letter : Option Char) (negatives : Bool) (accepts : String → Bool) :
    Switch :=
  ⟨name, letter, 1, some 1, negatives, false, accepts⟩

def evalUsage : Usage where
  switches :=
    [Switch.help, Switch.verbose,
     ⟨"theta", some 't', 1, none, true, true, fun word => (float? word).isSome⟩]
  slot := some formulaSlot

def traceUsage : Usage where
  switches :=
    [Switch.help, Switch.verbose,
     one "settings" none false (· ≠ ""),
     one "preset" none false fun word => (Preset.ofName? word).isSome,
     one "steps" none false fun word => (count? word).isSome,
     one "speed" none true fun word => (float? word).isSome,
     ⟨"origin", none, 2, some 2, true, false, fun word => (float? word).isSome⟩,
     Switch.flag "json" none false]
  slot := some formulaSlot

def presetUsage : Usage where
  switches := [Switch.help, Switch.verbose, one "out" (some 'o') false (· ≠ "")]
  slot := some ⟨false, fun word => (Preset.ofName? word).isSome⟩

def replUsage : Usage := ⟨[Switch.help, Switch.verbose], none⟩

def rootUsage : Usage := ⟨[Switch.help, Switch.verbose, Switch.version], none⟩

def commands : List String := ["check", "json", "eval", "trace", "inspect", "preset", "repl", "help"]

def readFormula (words : List String) : Except Stop (Option String) := do
  return (← Scan.start.all formulaUsage words).word

def readEval (words : List String) : Except Stop Request := do
  let scan ← Scan.start.all evalUsage words
  match scan.word, scan.values "theta" with
  | some formula, theta :: thetas => return .eval formula ((theta :: thetas).filterMap float?)
  | _, _ => .error .usage

def pair? : List Float → Option (Float × Float)
  | [x, y] => some (x, y)
  | _ => none

def readTrace (words : List String) : Except Stop Request := do
  let scan ← Scan.start.all traceUsage words
  if scan.has "settings" && scan.has "preset" then .error .usage
  return .trace
    { formula := scan.word
      settings := (scan.values "settings").head?
      preset := (scan.values "preset").head?.bind Preset.ofName?
      steps := ((scan.values "steps").head?.bind count?).getD 16
      speed := (scan.values "speed").head?.bind float?
      origin := pair? ((scan.values "origin").filterMap float?)
      json := scan.has "json" }

def readPreset (words : List String) : Except Stop Request := do
  let scan ← Scan.start.all presetUsage words
  match scan.word.bind Preset.ofName? with
  | some preset => return .preset preset (scan.values "out").head?
  | none => .error .usage

def readRepl (words : List String) : Except Stop Request := do
  let _ ← Scan.start.all replUsage words
  return .repl

def readHelp : List String → Except Stop Request
  | [] => .error .help
  | [word] => .error (if word ∈ commands then .help else .usage)
  | _ => .error .usage

def readCommand (name : String) (words : List String) : Except Stop Request :=
  if name = "check" then (readFormula words).map .check
  else if name = "json" then (readFormula words).map .json
  else if name = "inspect" then (readFormula words).map .inspect
  else if name = "eval" then readEval words
  else if name = "trace" then readTrace words
  else if name = "preset" then readPreset words
  else if name = "repl" then readRepl words
  else readHelp words

def readWords (scan : Scan) : List String → Except Stop Request
  | [] => do
    let _ ← scan.close
    return .check none
  | word :: words =>
    if !scan.plainOnly && word ∈ commands then readCommand word words
    else do
      let scan ← scan.step rootUsage word
      readWords scan words

def Request.ofWords (words : List String) : Except Stop Request := readWords Scan.start words

end PolarCurve.Command
