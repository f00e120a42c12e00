import PolarCurve.Json.Spelling

/-! Asking a document for what it should hold: a record is an object or an array of its fields in
order, a choice its name or an object with its name as the only key. -/

namespace PolarCurve.Json

def maxDepth : Nat := 127

def float? : Json → Option Float
  | number spelling => spelledFloat? spelling
  | _ => none

def nat? : Json → Option Nat
  | number spelling => spelledNat? spelling
  | _ => none

def bool? : Json → Option Bool
  | bool value => some value
  | _ => none

def text? : Json → Option String
  | string spelling => (unescape? spelling).map String.ofList
  | _ => none

def items? : Json → Option (List Json)
  | array items => some items
  | _ => none

def choice? : Json → Option (String × Json)
  | object [(key, value)] => (unescape? key).map fun name => (String.ofList name, value)
  | _ => none

def name? (room : Nat) (j : Json) : Option String :=
  match j.text? with
  | some name => some name
  | none =>
    match room, j.choice? with
    | _ + 1, some (name, null) => some name
    | _, _ => none

def member? (key : String) (members : List (String × Json)) : Option (Option Json) :=
  match members.filter fun m => m.1 = key with
  | [] => some none
  | [m] => some (some m.2)
  | _ => none

def readKeys : List (List Char × Json) → Option (List (String × Json))
  | [] => some []
  | (key, value) :: members => do
    let key ← unescape? key
    let members ← readKeys members
    return (String.ofList key, value) :: members

def fields? (names : List String) : Json → Option (List (Option Json))
  | object members => do
    let members ← readKeys members
    names.mapM fun name => member? name members
  | array items =>
    if items.length ≤ names.length then
      some (items.map some ++ List.replicate (names.length - items.length) none)
    else none
  | _ => none

def nullable? {α : Type} (ask : Json → Option α) : Json → Option (Option α)
  | null => some none
  | j => (ask j).map some

def orElse? {α : Type} (default : α) (ask : Json → Option α) : Option Json → Option α
  | none => some default
  | some j => ask j

end PolarCurve.Json
