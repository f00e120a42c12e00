import PolarCurve.Number.Style
import PolarCurve.Proofs.Number.Bits
import PolarCurve.Proofs.Number.Nearest
import Mathlib.Data.List.TakeWhile

namespace PolarCurve

namespace Decimal

structure Writes (cs : List Char) (n : Nat) : Prop where
  numeral : ∀ c ∈ cs, c.isDigit = true ∨ c = '.'
  digit : ∃ c ∈ cs, c.isDigit = true
  points : cs.count '.' ≤ 1
  reads : (ofNumeral cs).code = n

lemma point_not_mem {cs : List Char} (h : ∀ c ∈ cs, c.isDigit = true) : '.' ∉ cs := by
  intro hmem
  cases h '.' hmem

lemma ne_point {cs : List Char} (h : ∀ c ∈ cs, c.isDigit = true) :
    ∀ c ∈ cs, decide (c ≠ '.') = true := by
  intro c hc
  have hne : c ≠ '.' := by
    rintro rfl
    exact point_not_mem h hc
  simpa using hne

lemma ofNumeral_whole {whole : List Char} (h : ∀ c ∈ whole, c.isDigit = true) :
    ofNumeral whole = ⟨Nat.ofDigitChars 10 whole 0, 0⟩ := by
  rw [ofNumeral, List.takeWhile_eq_self_iff.mpr (ne_point h),
    List.dropWhile_eq_nil_iff.mpr (ne_point h)]
  simp [ofDigits]

lemma ofNumeral_fraction {whole : List Char} (h : ∀ c ∈ whole, c.isDigit = true)
    (fraction : List Char) :
    ofNumeral (whole ++ '.' :: fraction) =
      ⟨Nat.ofDigitChars 10 (whole ++ fraction) 0, -fraction.length⟩ := by
  rw [ofNumeral, List.takeWhile_append_of_pos (ne_point h),
    List.dropWhile_append_of_pos (ne_point h)]
  simp [ofDigits]

lemma writes_whole {whole : List Char} (h : ∀ c ∈ whole, c.isDigit = true) (hne : whole ≠ []) :
    Writes whole (⟨Nat.ofDigitChars 10 whole 0, 0⟩ : Decimal).code where
  numeral c hc := Or.inl (h c hc)
  digit := by
    obtain ⟨c, hc⟩ := List.exists_mem_of_ne_nil whole hne
    exact ⟨c, hc, h c hc⟩
  points := by
    rw [List.count_eq_zero_of_not_mem (point_not_mem h)]
    exact Nat.zero_le _
  reads := by rw [ofNumeral_whole h]

lemma writes_fraction {whole fraction : List Char} (h : ∀ c ∈ whole, c.isDigit = true)
    (hne : whole ≠ []) (hf : ∀ c ∈ fraction, c.isDigit = true) :
    Writes (whole ++ '.' :: fraction)
      (⟨Nat.ofDigitChars 10 (whole ++ fraction) 0, -fraction.length⟩ : Decimal).code where
  numeral c hc := by
    rcases List.mem_append.mp hc with hc | hc
    · exact Or.inl (h c hc)
    · rcases List.mem_cons.mp hc with rfl | hc
      · exact Or.inr rfl
      · exact Or.inl (hf c hc)
  digit := by
    obtain ⟨c, hc⟩ := List.exists_mem_of_ne_nil whole hne
    exact ⟨c, List.mem_append_left _ hc, h c hc⟩
  points := by
    rw [List.count_append, List.count_cons_self, List.count_eq_zero_of_not_mem (point_not_mem h),
      List.count_eq_zero_of_not_mem (point_not_mem hf)]
  reads := by rw [ofNumeral_fraction h]

lemma isDigit_append {as bs : List Char} (ha : ∀ c ∈ as, c.isDigit = true)
    (hb : ∀ c ∈ bs, c.isDigit = true) : ∀ c ∈ as ++ bs, c.isDigit = true := by
  intro c hc
  rcases List.mem_append.mp hc with hc | hc
  · exact ha c hc
  · exact hb c hc

lemma isDigit_zeros (k : Nat) : ∀ c ∈ List.replicate k '0', c.isDigit = true := by
  intro c hc
  rw [List.eq_of_mem_replicate hc]
  rfl

lemma ofDigitChars_zeros_append (k : Nat) (digits : List Char) :
    Nat.ofDigitChars 10 (List.replicate k '0' ++ digits) 0 = Nat.ofDigitChars 10 digits 0 := by
  rw [Nat.ofDigitChars_append, Nat.ofDigitChars_replicate_zero, Nat.mul_zero]

lemma code_append_zeros (digits : List Char) (k : Nat) :
    (⟨Nat.ofDigitChars 10 (digits ++ List.replicate k '0') 0, 0⟩ : Decimal).code =
      (⟨Nat.ofDigitChars 10 digits 0, k⟩ : Decimal).code := by
  have hmul := code_mul_pow (Nat.ofDigitChars 10 digits 0) k k
  rw [Int.sub_self] at hmul
  rw [Nat.ofDigitChars_append, Nat.ofDigitChars_replicate_zero, Nat.mul_comm, hmul]

end Decimal

open Decimal

namespace Style

section WriteOut

variable {digits : List Char} (h : ∀ c ∈ digits, c.isDigit = true)

include h

lemma writes_all (hne : digits ≠ []) {point : Nat} (hp : digits.length ≤ point) :
    Writes (plain.writeOut digits point)
      (⟨Nat.ofDigitChars 10 digits 0, point - digits.length⟩ : Decimal).code := by
  have htext : plain.writeOut digits point =
      digits ++ List.replicate (point - digits.length) '0' := by
    simp only [writeOut, List.take_of_length_le hp, List.drop_eq_nil_of_le hp]
    simp [hne, plain]
  have hexp : (point : Int) - digits.length = (point - digits.length : Nat) := by omega
  rw [htext, hexp, ← code_append_zeros]
  exact writes_whole (isDigit_append h (isDigit_zeros _)) (by simp [hne])

lemma writes_part (hne : digits ≠ []) {point : Nat} (hp : point < digits.length) :
    Writes (plain.writeOut digits point)
      (⟨Nat.ofDigitChars 10 digits 0, point - digits.length⟩ : Decimal).code := by
  have hfraction : ∀ c ∈ digits.drop point, c.isDigit = true :=
    fun c hc => h c (List.mem_of_mem_drop hc)
  have hwhole : ∀ c ∈ digits.take point, c.isDigit = true :=
    fun c hc => h c (List.mem_of_mem_take hc)
  have hexp : (point : Int) - digits.length = -((digits.drop point).length : Nat) := by
    rw [List.length_drop]
    omega
  have hdrop : digits.drop point ≠ [] := by
    rw [ne_eq, List.drop_eq_nil_iff]
    omega
  have hzero : point - digits.length = 0 := by omega
  cases point with
  | zero =>
    have htext : plain.writeOut digits (0 : Nat) = ['0'] ++ '.' :: digits := by
      simp [writeOut, hne]
    have hw := writes_fraction (isDigit_zeros 1) (by simp) h
    rw [ofDigitChars_zeros_append] at hw
    rw [htext, hexp]
    exact hw
  | succ point =>
    have htext : plain.writeOut digits (point + 1 : Nat) =
        digits.take (point + 1) ++ '.' :: digits.drop (point + 1) := by
      simp [writeOut, hzero, hdrop, hne]
    have hw := writes_fraction hwhole (by simp [hne]) hfraction
    rw [List.take_append_drop] at hw
    rw [htext, hexp]
    exact hw

lemma writes_small (zeros : Nat) :
    Writes (plain.writeOut digits (.negSucc zeros))
      (⟨Nat.ofDigitChars 10 digits 0, .negSucc zeros - digits.length⟩ : Decimal).code := by
  have hw := writes_fraction (isDigit_zeros 1) (by simp) (isDigit_append (isDigit_zeros (zeros + 1)) h)
  rw [← List.append_assoc, List.replicate_append_replicate, ofDigitChars_zeros_append] at hw
  have hexp : Int.negSucc zeros - digits.length =
      -((List.replicate (zeros + 1) '0' ++ digits).length : Nat) := by
    rw [List.length_append, List.length_replicate]
    omega
  rw [hexp]
  exact hw

lemma writes_writeOut (hne : digits ≠ []) (point : Int) :
    Writes (plain.writeOut digits point)
      (⟨Nat.ofDigitChars 10 digits 0, point - digits.length⟩ : Decimal).code := by
  cases point with
  | ofNat point =>
    rcases Nat.lt_or_ge point digits.length with hp | hp
    · exact writes_part h hne hp
    · exact writes_all h hne hp
  | negSucc zeros => exact writes_small h zeros

end WriteOut

lemma exists_stripped {c : Nat} (hc : c ≠ 0) : ∃ (shown : List Char) (k : Nat),
    ((Nat.toDigits 10 c).reverse.dropWhile (· = '0')).reverse = shown ∧
      Nat.toDigits 10 c = shown ++ List.replicate k '0' ∧ (∀ d ∈ shown, d.isDigit = true) ∧
      shown ≠ [] ∧ c = Nat.ofDigitChars 10 shown 0 * 10 ^ k := by
  obtain ⟨zeros, hzeros⟩ : ∃ zeros, zeros = (Nat.toDigits 10 c).reverse.takeWhile (· = '0') :=
    ⟨_, rfl⟩
  have hrep : zeros = List.replicate zeros.length '0' := by
    apply List.eq_replicate_of_mem
    intro d hd
    rw [hzeros] at hd
    simpa using List.mem_takeWhile_imp hd
  have hsplit : Nat.toDigits 10 c =
      ((Nat.toDigits 10 c).reverse.dropWhile (· = '0')).reverse ++
        List.replicate zeros.length '0' := by
    have := congrArg List.reverse
      (List.takeWhile_append_dropWhile (p := (· = '0')) (l := (Nat.toDigits 10 c).reverse))
    rw [List.reverse_append, List.reverse_reverse, ← hzeros, hrep, List.reverse_replicate] at this
    simpa using this.symm
  generalize ((Nat.toDigits 10 c).reverse.dropWhile (· = '0')).reverse = shown at hsplit
  have hval : c = Nat.ofDigitChars 10 shown 0 * 10 ^ zeros.length := by
    have := Nat.ofDigitChars_ten_toDigits (n := c)
    rw [hsplit, Nat.ofDigitChars_append, Nat.ofDigitChars_replicate_zero] at this
    rw [Nat.mul_comm, this]
  refine ⟨shown, zeros.length, rfl, hsplit, ?_, ?_, hval⟩
  · intro d hd
    apply Nat.isDigit_of_mem_toDigits (b := 10) (n := c) (by decide) (by decide)
    rw [hsplit]
    exact List.mem_append_left _ hd
  · rintro rfl
    rw [Nat.ofDigitChars_nil, Nat.zero_mul] at hval
    exact hc hval

lemma writes_decimalText {d : Decimal} (hd : d.coefficient ≠ 0) :
    Writes (plain.decimalText d) d.code := by
  obtain ⟨shown, k, hshown, hdigits, hall, hne, hval⟩ := exists_stripped hd
  have htext : plain.decimalText d =
      plain.writeOut shown ((Nat.toDigits 10 d.coefficient).length + d.exponent) := by
    simp only [decimalText, hshown]
    rfl
  have hlen : (Nat.toDigits 10 d.coefficient).length = shown.length + k := by
    rw [hdigits]
    simp
  have hcode : d.code = (⟨Nat.ofDigitChars 10 shown 0, d.exponent + k⟩ : Decimal).code := by
    have hmul := code_mul_pow (Nat.ofDigitChars 10 shown 0) k (d.exponent + k)
    rw [← hval, Int.add_sub_cancel] at hmul
    exact hmul
  have hexp : ((Nat.toDigits 10 d.coefficient).length : Int) + d.exponent - shown.length =
      d.exponent + k := by
    omega
  rw [htext, hcode, ← hexp]
  exact writes_writeOut hall hne _

end Style

namespace Double

open Style

lemma coefficient_shortest_ne_zero (tie : Tie) {n : Nat} (hn : n < infinity) (h0 : n ≠ 0) :
    (shortest tie n).coefficient ≠ 0 := by
  intro hzero
  have hcode := code_shortest tie hn
  rw [Decimal.code, if_pos hzero] at hcode
  exact h0 hcode.symm

lemma writes_magnitudeText {n : Nat} (hn : n < infinity) : Writes (plain.magnitudeText n) n := by
  rw [magnitudeText, if_pos hn]
  split
  · next h0 =>
    have hw := writes_writeOut (isDigit_zeros 1) (by simp) 1
    have hzero : (⟨Nat.ofDigitChars 10 (List.replicate 1 '0') 0, 1 - 1⟩ : Decimal).code = n := by
      rw [h0]
      exact code_eq_zero _
    rw [← hzero]
    exact hw
  · next h0 =>
    have hw := writes_decimalText (coefficient_shortest_ne_zero plain.tie hn h0)
    rw [code_shortest plain.tie hn] at hw
    exact hw

theorem writes_text {x : Float} (hfinite : code x < infinity) (hsign : isNegative x = false) :
    Writes (plain.text x) (code x) := by
  simp only [Style.text, hsign]
  rw [if_neg (by omega)]
  exact writes_magnitudeText hfinite

lemma magnitudeText_infinity : plain.magnitudeText infinity = "inf".toList := by
  rw [magnitudeText, if_neg (by decide), if_neg (Nat.lt_irrefl _)]

lemma magnitudeText_ne_infinity {n : Nat} (hn : n < infinity) :
    plain.magnitudeText n ≠ plain.magnitudeText infinity := by
  rw [magnitudeText_infinity]
  intro h
  have hnumeral := (writes_magnitudeText hn).numeral 'i' (by rw [h]; decide)
  exact absurd hnumeral (by decide)

lemma magnitudeText_inj {m n : Nat} (hm : m ≤ infinity) (hn : n ≤ infinity)
    (h : plain.magnitudeText m = plain.magnitudeText n) : m = n := by
  rcases Nat.lt_or_eq_of_le hm with hm | rfl
  · rcases Nat.lt_or_eq_of_le hn with hn | rfl
    · rw [← (writes_magnitudeText hm).reads, h, (writes_magnitudeText hn).reads]
    · exact (magnitudeText_ne_infinity hm h).elim
  · rcases Nat.lt_or_eq_of_le hn with hn | rfl
    · exact (magnitudeText_ne_infinity hn h.symm).elim
    · rfl

lemma minus_not_mem_magnitudeText {n : Nat} (hn : n ≤ infinity) :
    '-' ∉ plain.magnitudeText n := by
  rcases Nat.lt_or_eq_of_le hn with hn | rfl
  · intro hmem
    exact absurd ((writes_magnitudeText hn).numeral '-' hmem) (by decide)
  · rw [magnitudeText_infinity]
    decide

theorem text_inj {x y : Float} (hx : x.isNaN = false) (hy : y.isNaN = false)
    (h : text x = text y) : x = y := by
  have hcode : ∀ z : Float, z.isNaN = false → code z ≤ infinity := by
    intro z hz
    rw [Bool.eq_false_iff, ne_eq, isNaN_iff] at hz
    omega
  have hx := hcode x hx
  have hy := hcode y hy
  rw [text, text, String.ofList_inj, Style.text, Style.text] at h
  simp only [if_neg (Nat.not_lt_of_le hx), if_neg (Nat.not_lt_of_le hy)] at h
  have hminusx := minus_not_mem_magnitudeText hx
  have hminusy := minus_not_mem_magnitudeText hy
  cases hsx : isNegative x <;> cases hsy : isNegative y <;>
    simp only [hsx, hsy, if_true, Bool.false_eq_true, if_false, List.nil_append,
      List.singleton_append] at h
  · exact eq_of_code (hsx.trans hsy.symm) (magnitudeText_inj hx hy h)
  · rw [h] at hminusx
    exact (hminusx List.mem_cons_self).elim
  · rw [← h] at hminusy
    exact (hminusy List.mem_cons_self).elim
  · exact eq_of_code (hsx.trans hsy.symm) (magnitudeText_inj hx hy (List.cons.inj h).2)

end Double

end PolarCurve
