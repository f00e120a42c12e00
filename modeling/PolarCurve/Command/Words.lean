import PolarCurve.Number.Decimal

/-! Words of a command line: long switches with values behind an equals sign, short ones together
behind one hyphen, and plain words only behind a lone pair of hyphens. -/

namespace PolarCurve.Command

structure Switch where
  name : String
  letter : Option Char
  least : Nat
  most : Option Nat
  negatives : Bool
  repeats : Bool
  accepts : String → Bool

structure Slot where
  hyphens : Bool
  accepts : String → Bool

structure Usage where
  switches : List Switch
  slot : Option Slot

inductive Stop
  | usage
  | help
  | version
deriving DecidableEq, Repr

structure Scan where
  plainOnly : Bool
  word : Option String
  pending : Option (Switch × List String)
  given : List (String × List String)

namespace Switch

def flag (name : String) (letter : Option Char) (repeats : Bool) : Switch :=
  ⟨name, letter, 0, some 0, false, repeats, fun _ => true⟩

def takesValue (s : Switch) : Bool := s.most ≠ some 0

def takesMore (s : Switch) (count : Nat) : Bool :=
  match s.most with
  | none => true
  | some most => count < most

def help : Switch := flag "help" (some 'h') false

def version : Switch := flag "version" (some 'V') false

def verbose : Switch := flag "verbose" (some 'v') true

end Switch

namespace Scan

def start : Scan := ⟨false, none, none, []⟩

def note (s : Scan) (switch : Switch) (values : List String) : Except Stop Scan :=
  if values.length < switch.least then .error .usage
  else if !values.all switch.accepts then .error .usage
  else if !switch.repeats && s.given.any (fun g => g.1 = switch.name) then .error .usage
  else if switch.name = "help" then .error .help
  else if switch.name = "version" then .error .version
  else .ok { s with given := s.given ++ [(switch.name, values)] }

def close (s : Scan) : Except Stop Scan :=
  match s.pending with
  | none => .ok s
  | some (switch, values) => { s with pending := none }.note switch values

def take (s : Scan) (switch : Switch) (value : Option String) : Except Stop Scan := do
  let s ← s.close
  match value with
  | some value => s.note switch [value]
  | none => return { s with pending := some (switch, []) }

def takeWord (s : Scan) (usage : Usage) (word : String) : Except Stop Scan :=
  match s.plainOnly, s.pending with
  | false, some (switch, values) =>
    let values := values ++ [word]
    if switch.takesMore values.length then
      .ok { s with pending := some (switch, values) }
    else { s with pending := none }.note switch values
  | _, _ =>
    match s.word, usage.slot with
    | none, some slot => do
      let s ← s.close
      if slot.accepts word then return { s with word := some word } else .error .usage
    | _, _ => .error .usage

def allowsHyphens (s : Scan) (usage : Usage) : Bool :=
  match s.word, usage.slot with
  | none, some slot => slot.hyphens
  | _, _ => false

def looksNumeric (cs : List Char) : Bool :=
  let whole := cs.takeWhile Char.isDigit
  let (_, rest) := Double.splitFraction (cs.dropWhile Char.isDigit)
  whole ≠ [] &&
    match rest with
    | [] => true
    | c :: digits => c = 'e' && digits ≠ [] && digits.all Char.isDigit

def takesNegatives (s : Scan) : Bool :=
  match s.pending with
  | some (switch, _) => switch.negatives
  | none => false

def takeLong (s : Scan) (usage : Usage) (word : String) (body : List Char) : Except Stop Scan :=
  let name := String.ofList (body.takeWhile (· ≠ '='))
  let value :=
    match body.dropWhile (· ≠ '=') with
    | [] => none
    | _ :: value => some (String.ofList value)
  match usage.switches.find? fun switch => switch.name = name with
  | some switch =>
    if switch.takesValue then s.take switch value
    else
      match value with
      | some _ => .error .usage
      | none => do (← s.close).note switch []
  | none => if s.allowsHyphens usage then s.takeWord usage word else .error .usage

def takeLetters (s : Scan) (usage : Usage) : List Char → Except Stop Scan
  | [] => .ok s
  | c :: cs =>
    match usage.switches.find? fun switch => switch.letter = some c with
    | none => .error .usage
    | some switch =>
      if switch.takesValue then
        match cs with
        | [] => s.take switch none
        | '=' :: value => s.take switch (some (String.ofList value))
        | value => s.take switch (some (String.ofList value))
      else do (← (← s.close).note switch []).takeLetters usage cs

def takeShort (s : Scan) (usage : Usage) (word : String) (body : List Char) : Except Stop Scan :=
  let known := body.all fun c => usage.switches.any fun switch => switch.letter = some c
  if s.takesNegatives && looksNumeric body then s.takeWord usage word
  else if s.allowsHyphens usage && !known then s.takeWord usage word
  else s.takeLetters usage body

def step (s : Scan) (usage : Usage) (word : String) : Except Stop Scan :=
  if s.plainOnly then s.takeWord usage word
  else
    match word.toList with
    | ['-', '-'] => .ok { s with plainOnly := true }
    | '-' :: '-' :: body => s.takeLong usage word body
    | ['-'] => s.takeWord usage word
    | '-' :: body => s.takeShort usage word body
    | _ => s.takeWord usage word

def all (s : Scan) (usage : Usage) : List String → Except Stop Scan
  | [] => s.close
  | word :: words => do (← s.step usage word).all usage words

def values (s : Scan) (name : String) : List String :=
  (s.given.filter fun g => g.1 = name).flatMap Prod.snd

def has (s : Scan) (name : String) : Bool := s.given.any fun g => g.1 = name

end Scan

end PolarCurve.Command
