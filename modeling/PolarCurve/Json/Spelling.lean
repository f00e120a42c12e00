import PolarCurve.Json
import PolarCurve.Number.Style

/-! The spelling of strings and numbers in documents. A number is its leading digits, as many as fit
64 bits, times a power of ten, in one product or quotient of doubles. -/

namespace PolarCurve.Json

def escapes : List (Char × Char) :=
  [('"', '"'), ('\\', '\\'), ('\x08', 'b'), ('\x0c', 'f'), ('\n', 'n'), ('\r', 'r'), ('\t', 't')]

def escapeChar (c : Char) : List Char :=
  match escapes.find? fun e => e.1 = c with
  | some (_, letter) => ['\\', letter]
  | none =>
    if c.toNat < 0x20 then
      ['\\', 'u', '0', '0', Nat.digitChar (c.toNat / 16), Nat.digitChar (c.toNat % 16)]
    else [c]

def escape (cs : List Char) : List Char := cs.flatMap escapeChar

def ofLetter? (letter : Char) : Option Char :=
  if letter = '/' then some '/'
  else (escapes.find? fun e => e.2 = letter).map Prod.fst

def hexValue? (c : Char) : Option Nat :=
  if c.isDigit then some (c.toNat - '0'.toNat)
  else if 'a' ≤ c ∧ c ≤ 'f' then some (c.toNat - 'a'.toNat + 10)
  else if 'A' ≤ c ∧ c ≤ 'F' then some (c.toNat - 'A'.toNat + 10)
  else none

def hexUnit? (a b c d : Char) : Option Nat := do
  let a ← hexValue? a
  let b ← hexValue? b
  let c ← hexValue? c
  let d ← hexValue? d
  return ((a * 16 + b) * 16 + c) * 16 + d

def isUpperUnit (u : Nat) : Bool := 0xD800 ≤ u && u < 0xDC00

def isLowerUnit (u : Nat) : Bool := 0xDC00 ≤ u && u < 0xE000

def unescape? : List Char → Option (List Char)
  | [] => some []
  | c :: cs =>
    if c ≠ '\\' then (unescape? cs).map (c :: ·)
    else
      match cs with
      | 'u' :: a :: b :: c :: d :: cs => do
        let unit ← hexUnit? a b c d
        if isLowerUnit unit then none
        else if isUpperUnit unit then
          match cs with
          | '\\' :: 'u' :: a :: b :: c :: d :: cs => do
            let lower ← hexUnit? a b c d
            if isLowerUnit lower then
              let code := 0x10000 + (unit - 0xD800) * 0x400 + (lower - 0xDC00)
              (unescape? cs).map (Char.ofNat code :: ·)
            else none
          | _ => none
        else (unescape? cs).map (Char.ofNat unit :: ·)
      | letter :: cs => do
        let c ← ofLetter? letter
        (unescape? cs).map (c :: ·)
      | [] => none

def ofNat (n : Nat) : Json := number (Nat.toDigits 10 n)

def ofFloat (x : Float) : Json :=
  if Double.code x < Double.infinity then number (Style.document.text x) else null

def ofText (cs : List Char) : Json := string (escape cs)

def ofString (s : String) : Json := ofText s.toList

/-- Takes up digits while the number they make fits 64 bits, and returns those that are left. -/
def significand (s : Nat) : List Char → Nat × List Char
  | [] => (s, [])
  | c :: cs =>
    let next := 10 * s + (c.toNat - '0'.toNat)
    if next < 2 ^ 64 then significand next cs else (s, c :: cs)

def powerOfTen (n : Nat) : Float := Double.ofNat (10 ^ n)

/-- A double times a power of ten in one rounding step, or in two for the smallest results. -/
def scale? (x : Float) : Int → Option Float
  | .ofNat n =>
    if n ≤ 308 then
      let product := x * powerOfTen n
      if Double.code product = Double.infinity then none else some product
    else if Double.code x = 0 then some x
    else none
  | .negSucc n =>
    if n < 308 then some (x / powerOfTen (n + 1))
    else if n < 616 then some (x / powerOfTen 308 / powerOfTen (n - 307))
    else some (Double.ofCode false 0)

def spelledFloat? (spelling : List Char) : Option Float := do
  let (negative, digits) := Double.splitSign spelling
  let whole := digits.takeWhile Char.isDigit
  let (fraction, rest) := Double.splitFraction (digits.dropWhile Char.isDigit)
  let power ← Double.readPower rest
  let (s, left) := significand 0 whole
  let (s, unused) := significand s fraction
  let taken : Int := fraction.length - unused.length
  let x ← scale? (Double.ofNat s) (left.length - taken + power)
  return if negative then -x else x

def spelledNat? (spelling : List Char) : Option Nat :=
  match significand 0 spelling with
  | (s, []) => if spelling.all Char.isDigit then some s else none
  | _ => none

end PolarCurve.Json
