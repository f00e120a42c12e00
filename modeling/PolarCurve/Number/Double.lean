/-! Doubles as exact multiples of 2^-1074: the bits without the sign are a natural number, the code,
and codes ascend with the magnitude. -/

namespace PolarCurve

/-- Powers of naturals are those of the core library, also where algebra brings in others. -/
@[default_instance 20000]
instance (priority := 5000) instPowNatCore : Pow Nat Nat := instPowNat

end PolarCurve

namespace PolarCurve.Double

/-- The code of infinity; smaller codes are finite, larger ones are not a number. -/
def infinity : Nat := 2047 * 2 ^ 52

def isNegative (x : Float) : Bool := 2 ^ 63 ≤ x.toBits.toNat

def code (x : Float) : Nat := x.toBits.toNat % 2 ^ 63

def ofCode (negative : Bool) (code : Nat) : Float :=
  Float.ofBits (UInt64.ofNat (if negative then 2 ^ 63 + code else code))

def shift (code : Nat) : Nat := code / 2 ^ 52 - 1

/-- The magnitude of a finite code in units. The leading bit that is not stored comes back by
itself. -/
def units (code : Nat) : Nat := (code - shift code * 2 ^ 52) * 2 ^ shift code

def roundHalfEven (num den : Nat) : Nat :=
  let whole := num / den
  let twice := 2 * (num % den)
  if den < twice ∨ (twice = den ∧ whole % 2 = 1) then whole + 1 else whole

/-- The code nearest to a quotient, ties to the even significand. A significand that rounds up to
the next power of two carries into the exponent, and past the greatest finite code comes
infinity. -/
def nearest (num den : Nat) : Nat :=
  let whole := num * 2 ^ 1074 / den
  let shift := whole.log2 - 52
  min (shift * 2 ^ 52 + roundHalfEven (num * 2 ^ 1074) (den * 2 ^ shift)) infinity

def ofNat (n : Nat) : Float := ofCode false (nearest n 1)

def notANumber : Float := Float.ofBits 0x7ff8000000000000

def pi : Float := Float.ofBits 0x400921fb54442d18

/-- The power function of C. Whatever is raised to a zero gives one, not a number included. -/
def pow (x y : Float) : Float := if y == 0 then 1 else Float.pow x y

end PolarCurve.Double
