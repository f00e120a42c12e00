import PolarCurve.Json.Spelling

namespace PolarCurve.Json

def isSpacing (c : Char) : Bool := c = ' ' || c = '\t' || c = '\n' || c = '\r'

def skip (cs : List Char) : List Char := cs.dropWhile isSpacing

def splitString : List Char → Option (List Char × List Char)
  | [] => none
  | c :: cs =>
    if c = '"' then some ([], cs)
    else if c = '\\' then
      match cs with
      | 'u' :: w :: x :: y :: z :: cs => do
        let _ ← hexUnit? w x y z
        let (spelling, rest) ← splitString cs
        return (c :: 'u' :: w :: x :: y :: z :: spelling, rest)
      | letter :: cs => do
        let _ ← ofLetter? letter
        let (spelling, rest) ← splitString cs
        return (c :: letter :: spelling, rest)
      | [] => none
    else if c.toNat < 0x20 then none
    else do
      let (spelling, rest) ← splitString cs
      return (c :: spelling, rest)

def splitWhole : List Char → Option (List Char × List Char)
  | [] => none
  | c :: cs =>
    if c = '0' then some (['0'], cs)
    else if c.isDigit then some (c :: cs.takeWhile Char.isDigit, cs.dropWhile Char.isDigit)
    else none

def splitPoint : List Char → List Char × List Char
  | '.' :: cs =>
    let digits := cs.takeWhile Char.isDigit
    if digits = [] then ([], '.' :: cs) else ('.' :: digits, cs.dropWhile Char.isDigit)
  | cs => ([], cs)

def splitPower : List Char → List Char × List Char
  | [] => ([], [])
  | c :: cs =>
    if c = 'e' ∨ c = 'E' then
      let (sign, rest) : List Char × List Char :=
        match cs with
        | '+' :: rest => (['+'], rest)
        | '-' :: rest => (['-'], rest)
        | rest => ([], rest)
      let digits := rest.takeWhile Char.isDigit
      if digits = [] then ([], c :: cs)
      else (c :: (sign ++ digits), rest.dropWhile Char.isDigit)
    else ([], c :: cs)

def splitNumber (cs : List Char) : Option (List Char × List Char) := do
  let (sign, cs) : List Char × List Char :=
    match cs with
    | '-' :: cs => (['-'], cs)
    | cs => ([], cs)
  let (whole, cs) ← splitWhole cs
  let (point, cs) := splitPoint cs
  let (power, cs) := splitPower cs
  return (sign ++ (whole ++ (point ++ power)), cs)

def dropWord? (word cs : List Char) : Option (List Char) :=
  if word.isPrefixOf cs then some (cs.drop word.length) else none

def readAtom (cs : List Char) : Option (Json × List Char) :=
  match cs with
  | [] => none
  | c :: rest =>
    if c = '"' then (splitString rest).map fun (spelling, rest) => (string spelling, rest)
    else if c = 'n' then (dropWord? "null".toList cs).map fun rest => (null, rest)
    else if c = 't' then (dropWord? "true".toList cs).map fun rest => (bool true, rest)
    else if c = 'f' then (dropWord? "false".toList cs).map fun rest => (bool false, rest)
    else (splitNumber cs).map fun (spelling, rest) => (number spelling, rest)

mutual

/-- Reads a value. The bound counts steps and not characters; each character allows two. -/
def read : Nat → List Char → Option (Json × List Char)
  | 0, _ => none
  | bound + 1, cs =>
    match skip cs with
    | '[' :: rest =>
      match skip rest with
      | ']' :: rest => some (array [], rest)
      | rest => (readItems bound rest).map fun (items, rest) => (array items, rest)
    | '\x7b' :: rest =>
      match skip rest with
      | '\x7d' :: rest => some (object [], rest)
      | rest => (readMembers bound rest).map fun (members, rest) => (object members, rest)
    | cs => readAtom cs

def readItems : Nat → List Char → Option (List Json × List Char)
  | 0, _ => none
  | bound + 1, cs => do
    let (item, rest) ← read bound cs
    match skip rest with
    | ',' :: rest => do
      let (items, rest) ← readItems bound rest
      return (item :: items, rest)
    | ']' :: rest => return ([item], rest)
    | _ => none

def readMembers : Nat → List Char → Option (List (List Char × Json) × List Char)
  | 0, _ => none
  | bound + 1, cs => do
    match skip cs with
    | '"' :: rest => do
      let (key, rest) ← splitString rest
      match skip rest with
      | ':' :: rest => do
        let (value, rest) ← read bound rest
        match skip rest with
        | ',' :: rest => do
          let (members, rest) ← readMembers bound rest
          return ((key, value) :: members, rest)
        | '\x7d' :: rest => return ([(key, value)], rest)
        | _ => none
      | _ => none
    | _ => none

end

def ofText? (cs : List Char) : Option Json :=
  match read (2 * cs.length + 2) cs with
  | some (j, rest) => if skip rest = [] then some j else none
  | none => none

end PolarCurve.Json
