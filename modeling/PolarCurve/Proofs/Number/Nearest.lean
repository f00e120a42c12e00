import PolarCurve.Number.Shortest
import Mathlib.Tactic.Lemma

/-! Decimals of the same value have the same nearest double, and the shortest decimal of a code
reads back as the code. -/

namespace PolarCurve

namespace Double

lemma roundHalfEven_mul (num den : Nat) {k : Nat} (hk : 0 < k) :
    roundHalfEven (num * k) (den * k) = roundHalfEven num den := by
  have hlt : den * k < 2 * (num % den * k) ↔ den < 2 * (num % den) := by
    rw [← Nat.mul_assoc]
    exact Nat.mul_lt_mul_right hk
  have heq : 2 * (num % den * k) = den * k ↔ 2 * (num % den) = den := by
    rw [← Nat.mul_assoc]
    exact Nat.mul_left_inj (Nat.ne_of_gt hk)
  simp only [roundHalfEven, Nat.mul_div_mul_right _ _ hk, Nat.mul_mod_mul_right, hlt, heq]

lemma nearest_mul (num den : Nat) {k : Nat} (hk : 0 < k) :
    nearest (num * k) (den * k) = nearest num den := by
  have hdiv : num * k * 2 ^ 1074 / (den * k) = num * 2 ^ 1074 / den := by
    rw [Nat.mul_right_comm, Nat.mul_div_mul_right _ _ hk]
  simp only [nearest, hdiv]
  rw [Nat.mul_right_comm num, Nat.mul_right_comm den, roundHalfEven_mul _ _ hk]

lemma roundHalfEven_of_dvd {num den : Nat} (h : den ∣ num) (hden : 0 < den) :
    roundHalfEven num den = num / den := by
  have hmod : num % den = 0 := Nat.mod_eq_zero_of_dvd h
  simp only [roundHalfEven, hmod]
  rw [if_neg (by omega)]

lemma significand_bounds (n : Nat) :
    n = shift n * 2 ^ 52 + (n - shift n * 2 ^ 52) ∧ n - shift n * 2 ^ 52 < 2 ^ 53 ∧
      (0 < shift n → 2 ^ 52 ≤ n - shift n * 2 ^ 52) := by
  rw [shift]
  omega

lemma log2_units (n : Nat) : (units n).log2 - 52 = shift n := by
  obtain ⟨-, hlt, hle⟩ := significand_bounds n
  rw [units]
  rcases Nat.eq_zero_or_pos (shift n) with h | h
  · rw [h] at hlt ⊢
    simp only [Nat.zero_mul, Nat.sub_zero, Nat.pow_zero, Nat.mul_one] at hlt ⊢
    rcases Nat.eq_zero_or_pos n with rfl | hn
    · rfl
    · have hlog : n.log2 < 53 := (Nat.log2_lt (by omega)).mpr hlt
      omega
  · have hlow := hle h
    have hlog : ((n - shift n * 2 ^ 52) * 2 ^ shift n).log2 = 52 + shift n := by
      apply (Nat.log2_eq_iff (Nat.mul_ne_zero (by omega) (Nat.ne_of_gt (Nat.two_pow_pos _)))).mpr
      constructor
      · rw [Nat.pow_add]
        exact Nat.mul_le_mul_right _ hlow
      · rw [Nat.add_right_comm, Nat.pow_add]
        exact Nat.mul_lt_mul_of_pos_right hlt (Nat.two_pow_pos _)
    omega

lemma nearest_units {n : Nat} (hn : n < infinity) : nearest (units n) (2 ^ 1074) = n := by
  have htwo (k : Nat) : 0 < 2 ^ k := Nat.two_pow_pos k
  have hpos := htwo 1074
  simp only [nearest]
  generalize 2 ^ 1074 = one at hpos ⊢
  obtain ⟨hsum, -, -⟩ := significand_bounds n
  have hround : roundHalfEven (units n * one) (one * 2 ^ shift n) = n - shift n * 2 ^ 52 := by
    rw [Nat.mul_comm one, roundHalfEven_mul _ _ hpos, units,
      roundHalfEven_of_dvd (Nat.dvd_mul_left _ _) (Nat.two_pow_pos _),
      Nat.mul_div_cancel _ (Nat.two_pow_pos _)]
  rw [Nat.mul_div_cancel _ hpos, log2_units, hround, ← hsum]
  exact Nat.min_eq_left (Nat.le_of_lt hn)

end Double

namespace Decimal

lemma code_eq_zero (e : Int) : (⟨0, e⟩ : Decimal).code = 0 := by
  simp [code]

lemma length_toDigits_mul_ten {c : Nat} (hc : 0 < c) :
    (Nat.toDigits 10 (c * 10)).length = (Nat.toDigits 10 c).length + 1 := by
  have h := Nat.toDigits_append_toDigits (b := 10) (n := c) (d := 0) (by decide) hc (by decide)
  rw [Nat.mul_comm, ← Nat.add_zero (10 * c), ← h]
  simp

def nearestPower (c : Nat) : Int → Nat
  | .ofNat p => Double.nearest (c * 10 ^ p) 1
  | .negSucc p => Double.nearest c (10 ^ (p + 1))

lemma code_eq {c : Nat} (hc : c ≠ 0) (e : Int) :
    (⟨c, e⟩ : Decimal).code =
      if 400 < (Nat.toDigits 10 c).length + e then Double.infinity
      else if (Nat.toDigits 10 c).length + e < -400 then 0
      else nearestPower c e := by
  simp only [code, hc, if_false]
  cases e <;> rfl

lemma nearestPower_mul_ten (c : Nat) (e : Int) :
    nearestPower (c * 10) (e - 1) = nearestPower c e := by
  match e with
  | .ofNat 0 =>
    have hpred : Int.ofNat 0 - 1 = Int.negSucc 0 := rfl
    rw [hpred, nearestPower, nearestPower, Nat.zero_add, Nat.pow_one, Nat.pow_zero, Nat.mul_one,
      ← Double.nearest_mul c 1 (by decide : 0 < 10), Nat.one_mul]
  | .ofNat (p + 1) =>
    have hpred : Int.ofNat (p + 1) - 1 = Int.ofNat p := by
      simp only [Int.ofNat_eq_natCast]
      omega
    rw [hpred, nearestPower, nearestPower, Nat.pow_succ', Nat.mul_assoc]
  | .negSucc p =>
    have hpred : Int.negSucc p - 1 = Int.negSucc (p + 1) := by omega
    rw [hpred, nearestPower, nearestPower, Nat.pow_succ _ (p + 1),
      Double.nearest_mul c _ (by decide)]

lemma nearestPower_le_infinity (c : Nat) (e : Int) : nearestPower c e ≤ Double.infinity := by
  cases e <;> exact Nat.min_le_right _ _

lemma code_le_infinity (d : Decimal) : d.code ≤ Double.infinity := by
  obtain ⟨c, e⟩ := d
  by_cases hc : c = 0
  · rw [hc, code_eq_zero]
    exact Nat.zero_le _
  · rw [code_eq hc]
    split
    · exact Nat.le_refl _
    · split
      · exact Nat.zero_le _
      · exact nearestPower_le_infinity c e

lemma code_mul_ten (c : Nat) (e : Int) :
    (⟨c * 10, e - 1⟩ : Decimal).code = (⟨c, e⟩ : Decimal).code := by
  rcases Nat.eq_zero_or_pos c with rfl | hc
  · rw [Nat.zero_mul, code_eq_zero, code_eq_zero]
  · have htop : ((Nat.toDigits 10 (c * 10)).length : Int) + (e - 1) =
        (Nat.toDigits 10 c).length + e := by
      rw [length_toDigits_mul_ten hc]
      omega
    rw [code_eq (by omega), code_eq (by omega), htop, nearestPower_mul_ten]

lemma code_mul_pow (c k : Nat) (e : Int) :
    (⟨c * 10 ^ k, e - k⟩ : Decimal).code = (⟨c, e⟩ : Decimal).code := by
  induction k with
  | zero => simp
  | succ k ih =>
    have hexp : e - ((k + 1 : Nat) : Int) = e - k - 1 := by omega
    rw [Nat.pow_succ, ← Nat.mul_assoc, hexp, code_mul_ten, ih]

end Decimal

namespace Double

lemma shift_le {n : Nat} (hn : n < infinity) : shift n ≤ 2045 := by
  rw [shift]
  rw [infinity] at hn
  omega

lemma units_lt {n k : Nat} (hk : shift n ≤ k) : units n < 2 ^ (53 + k) := by
  obtain ⟨-, hlt, -⟩ := significand_bounds n
  calc
    units n < 2 ^ 53 * 2 ^ shift n := Nat.mul_lt_mul_of_pos_right hlt (Nat.two_pow_pos _)
    _ ≤ 2 ^ 53 * 2 ^ k := Nat.mul_le_mul_left _ (Nat.pow_le_pow_right (by decide) hk)
    _ = 2 ^ (53 + k) := (Nat.pow_add 2 53 k).symm

lemma units_pos {n : Nat} (hn : 0 < n) : 0 < units n := by
  obtain ⟨hsum, -, hle⟩ := significand_bounds n
  apply Nat.mul_pos _ (Nat.two_pow_pos _)
  rcases Nat.eq_zero_or_pos (shift n) with h | h
  · rwa [h, Nat.zero_mul, Nat.sub_zero]
  · have := hle h
    omega

lemma length_toDigits_mul {m factor bound low high : Nat} (h0 : 0 < m) (hm : m < bound)
    (hlow : 10 ^ (low + 1) ≤ factor) (hhigh : bound * factor ≤ 10 ^ (high + 1)) :
    low + 1 < (Nat.toDigits 10 (m * factor)).length ∧
      (Nat.toDigits 10 (m * factor)).length ≤ high + 1 := by
  have hpos : 0 < factor := Nat.lt_of_lt_of_le (Nat.pow_pos (by decide)) hlow
  constructor
  · apply Nat.lt_of_not_le
    rw [Nat.length_toDigits_le_iff (by decide) (Nat.succ_pos _)]
    apply Nat.not_lt_of_le
    exact Nat.le_trans hlow (Nat.le_mul_of_pos_left _ h0)
  · rw [Nat.length_toDigits_le_iff (by decide) (Nat.succ_pos _)]
    exact Nat.lt_of_lt_of_le (Nat.mul_lt_mul_of_pos_right hm hpos) hhigh

lemma length_toDigits_exact {n : Nat} (h0 : 0 < n) (hn : n < infinity) :
    673 < (Nat.toDigits 10 (units n * 5 ^ 1074)).length ∧
      (Nat.toDigits 10 (units n * 5 ^ 1074)).length ≤ 1474 :=
  length_toDigits_mul (units_pos h0) (units_lt (shift_le hn)) (by decide +kernel)
    (by decide +kernel)

lemma nearestPower_mul_five_pow (m : Nat) {p q : Nat} (hq : q = p + 1) :
    Decimal.nearestPower (m * 5 ^ q) (.negSucc p) = nearest m (2 ^ q) := by
  rw [Decimal.nearestPower, ← hq, Nat.mul_pow 2 5, nearest_mul _ _ (Nat.pow_pos (by decide))]

lemma code_exact {n : Nat} (hn : n < infinity) : (exact n).code = n := by
  rcases Nat.eq_zero_or_pos n with rfl | h0
  · have hzero (k : Nat) (e : Int) : (⟨units 0 * k, e⟩ : Decimal).code = 0 := by
      rw [units, Nat.zero_sub, Nat.zero_mul, Nat.zero_mul, Decimal.code_eq_zero]
    exact hzero _ _
  · obtain ⟨hlow, hhigh⟩ := length_toDigits_exact h0 hn
    have hfive : 0 < 5 ^ 1074 := by decide +kernel
    have hne : units n * 5 ^ 1074 ≠ 0 := Nat.ne_of_gt (Nat.mul_pos (units_pos h0) hfive)
    have hexp : (-1074 : Int) = .negSucc 1073 := rfl
    rw [exact, Decimal.code_eq hne, if_neg (by omega), if_neg (by omega), hexp,
      nearestPower_mul_five_pow (units n) (rfl : 1074 = 1073 + 1)]
    exact nearest_units hn

lemma code_onGrid {tie : Tie} {n : Nat} {power : Int} {d : Decimal}
    (h : onGrid tie n power = some d) : d.code = n := by
  simp only [onGrid] at h
  split at h
  · next hlower =>
    split at h
    · next hupper =>
      cases h
      exact hupper.1
    · cases h
      exact hlower
  · split at h
    · next hupper =>
      cases h
      exact hupper
    · cases h

theorem code_shortest (tie : Tie) {n : Nat} (hn : n < infinity) : (shortest tie n).code = n := by
  simp only [shortest]
  cases hfound : (List.range 17).findSome? fun (k : Nat) => onGrid tie n (scale n - (k + 1)) with
  | none => exact code_exact hn
  | some d =>
    obtain ⟨k, -, hk⟩ := List.exists_of_findSome?_eq_some hfound
    exact code_onGrid hk

end Double
end PolarCurve
