import PolarCurve.Number.Decimal

/-! Of all decimals that read back as a double, one with the fewest digits, and of those the
nearest. On each grid only the two neighbours of the value can be meant. -/

namespace PolarCurve.Double

inductive Tie
  | up
  | even
deriving DecidableEq, Repr

def ratio (code : Nat) : Int → Nat × Nat
  | .ofNat p => (units code, 2 ^ 1074 * 10 ^ p)
  | .negSucc p => (units code * 10 ^ (p + 1), 2 ^ 1074)

def scale (code : Nat) : Int :=
  (Nat.toDigits 10 (units code * 10 ^ 400 / 2 ^ 1074)).length - 400

/-- Whether the upper of two neighbours is the better one, from twice the remainder at the lower
one. -/
def Tie.prefersUpper (tie : Tie) (lower twice den : Nat) : Bool :=
  match tie with
  | .up => den ≤ twice
  | .even => den < twice || (twice == den && lower % 2 == 1)

def onGrid (tie : Tie) (code : Nat) (power : Int) : Option Decimal :=
  let (num, den) := ratio code power
  let lower : Decimal := ⟨num / den, power⟩
  let upper : Decimal := ⟨num / den + 1, power⟩
  if lower.code = code then
    if upper.code = code ∧ tie.prefersUpper (num / den) (2 * (num % den)) den then some upper
    else some lower
  else if upper.code = code then some upper
  else none

def exact (code : Nat) : Decimal := ⟨units code * 5 ^ 1074, -1074⟩

def shortest (tie : Tie) (code : Nat) : Decimal :=
  let top := scale code
  ((List.range 17).findSome? fun (n : Nat) => onGrid tie code (top - (n + 1))).getD (exact code)

end PolarCurve.Double
