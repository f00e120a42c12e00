import PolarCurve.Number.Double

/-! The double nearest to a decimal, the numerals of formulas, and the numbers that are typed as
arguments. -/

namespace PolarCurve

structure Decimal where
  coefficient : Nat
  exponent : Int
deriving DecidableEq, Repr

namespace Decimal

def ofDigits (whole fraction : List Char) (power : Int) : Decimal :=
  ⟨Nat.ofDigitChars 10 (whole ++ fraction) 0, power - fraction.length⟩

/-- The code of the nearest double. Decimals far outside the range of doubles need no arithmetic. -/
def code (d : Decimal) : Nat :=
  if d.coefficient = 0 then 0
  else
    let top := (Nat.toDigits 10 d.coefficient).length + d.exponent
    if 400 < top then Double.infinity
    else if top < -400 then 0
    else
      match d.exponent with
      | .ofNat e => Double.nearest (d.coefficient * 10 ^ e) 1
      | .negSucc e => Double.nearest d.coefficient (10 ^ (e + 1))

def toFloat (d : Decimal) : Float := Double.ofCode false d.code

def ofNumeral (cs : List Char) : Decimal :=
  ofDigits (cs.takeWhile (· ≠ '.')) ((cs.dropWhile (· ≠ '.')).drop 1) 0

end Decimal

namespace Double

def splitSign : List Char → Bool × List Char
  | '-' :: cs => (true, cs)
  | '+' :: cs => (false, cs)
  | cs => (false, cs)

def readPower : List Char → Option Int
  | [] => some 0
  | c :: cs =>
    if c = 'e' ∨ c = 'E' then
      let (negative, digits) := splitSign cs
      if digits ≠ [] ∧ digits.all Char.isDigit then
        let power := Nat.ofDigitChars 10 digits 0
        some (if negative then -power else power)
      else none
    else none

def splitFraction : List Char → List Char × List Char
  | '.' :: cs => (cs.takeWhile Char.isDigit, cs.dropWhile Char.isDigit)
  | cs => ([], cs)

def readMagnitude (cs : List Char) : Option Float :=
  let whole := cs.takeWhile Char.isDigit
  let (fraction, rest) := splitFraction (cs.dropWhile Char.isDigit)
  if whole = [] ∧ fraction = [] then none
  else (readPower rest).map fun power => (Decimal.ofDigits whole fraction power).toFloat

def read? (cs : List Char) : Option Float :=
  let (negative, rest) := splitSign cs
  let word := String.ofList (rest.map Char.toLower)
  if word = "inf" ∨ word = "infinity" then some (ofCode negative infinity)
  else if word = "nan" then some notANumber
  else (readMagnitude rest).map fun x => if negative then -x else x

end Double

end PolarCurve
