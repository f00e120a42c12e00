import PolarCurve.Json.Reader
import PolarCurve.Json.Shape
import PolarCurve.Proofs.Number.Numeral

namespace PolarCurve.Json

open Decimal (isDigit_append isDigit_zeros)

def NumberEnds (rest : List Char) : Prop :=
  ∀ c ∈ rest.head?, c.isDigit = false ∧ c ≠ '.' ∧ c ≠ 'e' ∧ c ≠ 'E'

inductive Whole : List Char → Prop
  | zero : Whole ['0']
  | digits {c : Char} {cs : List Char} (hc : c.isDigit = true) (hzero : c ≠ '0')
      (hcs : ∀ d ∈ cs, d.isDigit = true) : Whole (c :: cs)

inductive Point : List Char → Prop
  | none : Point []
  | digits {cs : List Char} (hne : cs ≠ []) (hcs : ∀ d ∈ cs, d.isDigit = true) : Point ('.' :: cs)

inductive Power : List Char → Prop
  | none : Power []
  | digits {sign cs : List Char} (hsign : sign = ['+'] ∨ sign = ['-']) (hne : cs ≠ [])
      (hcs : ∀ d ∈ cs, d.isDigit = true) : Power ('e' :: (sign ++ cs))

structure NumberSpelling (cs : List Char) : Prop where
  split : ∀ rest, NumberEnds rest → splitNumber (cs ++ rest) = some (cs, rest)
  first : ∃ c ds, cs = c :: ds ∧ (c.isDigit = true ∨ c = '-')

lemma span_digits {digits rest : List Char} (h : ∀ c ∈ digits, c.isDigit = true)
    (hrest : ∀ c ∈ rest.head?, c.isDigit = false) :
    (digits ++ rest).takeWhile Char.isDigit = digits ∧
      (digits ++ rest).dropWhile Char.isDigit = rest := by
  have hnone : rest.takeWhile Char.isDigit = [] ∧ rest.dropWhile Char.isDigit = rest := by
    cases rest with
    | nil => exact ⟨rfl, rfl⟩
    | cons c cs => simp [hrest c rfl]
  rw [List.takeWhile_append_of_pos h, List.dropWhile_append_of_pos h, hnone.1, hnone.2,
    List.append_nil]
  exact ⟨rfl, rfl⟩

lemma splitWhole_append {whole rest : List Char} (h : Whole whole)
    (hrest : ∀ c ∈ rest.head?, c.isDigit = false) :
    splitWhole (whole ++ rest) = some (whole, rest) := by
  cases h with
  | zero => rfl
  | @digits c cs hc hzero hcs =>
    obtain ⟨htake, hdrop⟩ := span_digits hcs hrest
    rw [List.cons_append, splitWhole, if_neg hzero, if_pos hc, htake, hdrop]

lemma splitPoint_append {point rest : List Char} (h : Point point)
    (hrest : ∀ c ∈ rest.head?, c.isDigit = false ∧ c ≠ '.') :
    splitPoint (point ++ rest) = (point, rest) := by
  cases h with
  | none =>
    rw [List.nil_append, splitPoint.eq_2]
    intro cs heq
    exact (hrest '.' (by rw [heq]; rfl)).2 rfl
  | digits hne hcs =>
    obtain ⟨htake, hdrop⟩ := span_digits hcs fun c hc => (hrest c hc).1
    rw [List.cons_append, splitPoint]
    simp only [htake, hdrop, hne, if_false]

lemma splitPower_append {power rest : List Char} (h : Power power) (hrest : NumberEnds rest) :
    splitPower (power ++ rest) = (power, rest) := by
  cases h with
  | none =>
    cases rest with
    | nil => rfl
    | cons c cs =>
      obtain ⟨-, -, he, hE⟩ := hrest c rfl
      rw [List.nil_append, splitPower.eq_def]
      exact if_neg (by simp [he, hE])
  | digits hsign hne hcs =>
    obtain ⟨htake, hdrop⟩ := span_digits hcs fun c hc => (hrest c hc).1
    rcases hsign with rfl | rfl <;>
      simp [splitPower, htake, hdrop, hne]

lemma numberEnds_power {power rest : List Char} (h : Power power) (hrest : NumberEnds rest) :
    ∀ c ∈ (power ++ rest).head?, c.isDigit = false ∧ c ≠ '.' := by
  intro c hc
  cases h with
  | none => exact ⟨(hrest c hc).1, (hrest c hc).2.1⟩
  | digits =>
    cases hc
    exact ⟨rfl, by decide⟩

lemma numberEnds_point {point power rest : List Char} (h : Point point) (hpower : Power power)
    (hrest : NumberEnds rest) : ∀ c ∈ (point ++ (power ++ rest)).head?, c.isDigit = false := by
  intro c hc
  cases h with
  | none => exact (numberEnds_power hpower hrest c hc).1
  | digits =>
    cases hc
    rfl

lemma Whole.head_ne {whole : List Char} (h : Whole whole) (rest cs : List Char) :
    whole ++ rest ≠ '-' :: cs := by
  intro heq
  cases h with
  | zero => cases heq
  | digits hc =>
    obtain ⟨rfl, -⟩ := List.cons.inj heq
    cases hc

lemma splitNumber_magnitude {whole point power rest : List Char} (hwhole : Whole whole)
    (hpoint : Point point) (hpower : Power power) (hrest : NumberEnds rest) :
    splitNumber (whole ++ (point ++ power) ++ rest) = some (whole ++ (point ++ power), rest) ∧
      splitNumber ('-' :: (whole ++ (point ++ power)) ++ rest) =
        some ('-' :: (whole ++ (point ++ power)), rest) := by
  have hrestWhole := splitWhole_append hwhole (numberEnds_point hpoint hpower hrest)
  have hrestPoint := splitPoint_append hpoint (numberEnds_power hpower hrest)
  have hrestPower := splitPower_append hpower hrest
  simp only [List.append_assoc, List.cons_append]
  constructor
  · rw [splitNumber]
    · simp [hrestWhole, hrestPoint, hrestPower]
    · exact fun cs heq => hwhole.head_ne _ _ heq
  · rw [splitNumber]
    simp [hrestWhole, hrestPoint, hrestPower]

inductive Magnitude : List Char → Prop
  | parts {whole point power : List Char} (hwhole : Whole whole) (hpoint : Point point)
      (hpower : Power power) : Magnitude (whole ++ (point ++ power))

lemma Whole.first {whole : List Char} (h : Whole whole) :
    ∃ c ds, whole = c :: ds ∧ c.isDigit = true := by
  cases h with
  | zero => exact ⟨'0', [], rfl, rfl⟩
  | @digits c cs hc => exact ⟨c, cs, rfl, hc⟩

lemma Magnitude.numberSpelling {cs : List Char} (h : Magnitude cs) :
    NumberSpelling cs ∧ NumberSpelling ('-' :: cs) := by
  obtain ⟨hwhole, hpoint, hpower⟩ := h
  constructor
  · refine ⟨fun rest hrest => (splitNumber_magnitude hwhole hpoint hpower hrest).1, ?_⟩
    obtain ⟨c, ds, rfl, hc⟩ := hwhole.first
    exact ⟨c, _, rfl, Or.inl hc⟩
  · exact ⟨fun rest hrest => (splitNumber_magnitude hwhole hpoint hpower hrest).2,
      '-', _, rfl, Or.inr rfl⟩

lemma isDigit_toDigits (n : Nat) : ∀ c ∈ Nat.toDigits 10 n, c.isDigit = true :=
  fun _ hc => Nat.isDigit_of_mem_toDigits (by decide) (by decide) hc

lemma exists_leading {n : Nat} (h : 0 < n) :
    ∃ c cs, Nat.toDigits 10 n = c :: cs ∧ c ≠ '0' := by
  induction n using Nat.strongRecOn with
  | ind n ih =>
    rcases Nat.lt_or_ge n 10 with hn | hn
    · exact ⟨_, [], Nat.toDigits_of_lt_base hn, by rw [ne_eq, Nat.digitChar_eq_zero]; omega⟩
    · obtain ⟨c, cs, hcs, hc⟩ := ih (n / 10) (by omega) (by omega)
      refine ⟨c, cs ++ [Nat.digitChar (n % 10)], ?_, hc⟩
      rw [Nat.toDigits_of_base_le (by decide) hn, hcs]
      rfl

lemma whole_toDigits (n : Nat) : Whole (Nat.toDigits 10 n) := by
  rcases Nat.eq_zero_or_pos n with rfl | hn
  · exact .zero
  · obtain ⟨c, cs, hcs, hc⟩ := exists_leading hn
    have hall := isDigit_toDigits n
    rw [hcs] at hall ⊢
    exact .digits (hall c List.mem_cons_self) hc fun d hd => hall d (List.mem_cons_of_mem _ hd)

theorem numberSpelling_toDigits (n : Nat) : NumberSpelling (Nat.toDigits 10 n) := by
  have h := (Magnitude.parts (whole_toDigits n) .none .none).numberSpelling.1
  simpa using h

lemma le_ofDigitChars (cs : List Char) (s : Nat) : s ≤ Nat.ofDigitChars 10 cs s := by
  rw [Nat.ofDigitChars_eq_ofDigitChars_zero]
  exact Nat.le_trans (Nat.le_mul_of_pos_left s (Nat.pow_pos (by decide))) (Nat.le_add_right _ _)

lemma significand_of_lt {cs : List Char} {s : Nat} (h : Nat.ofDigitChars 10 cs s < 2 ^ 64) :
    significand s cs = (Nat.ofDigitChars 10 cs s, []) := by
  induction cs generalizing s with
  | nil => rfl
  | cons c cs ih =>
    rw [Nat.ofDigitChars_cons] at h ⊢
    rw [significand, if_pos (Nat.lt_of_le_of_lt (le_ofDigitChars cs _) h), ih h]

theorem nat?_ofNat {n : Nat} (h : n < 2 ^ 64) : (ofNat n).nat? = some n := by
  have hvalue := Nat.ofDigitChars_ten_toDigits (n := n)
  have hlt : Nat.ofDigitChars 10 (Nat.toDigits 10 n) 0 < 2 ^ 64 := by rwa [hvalue]
  rw [ofNat, nat?, spelledNat?, significand_of_lt hlt, hvalue]
  exact if_pos (List.all_eq_true.mpr (isDigit_toDigits n))

lemma magnitude_fraction {whole fraction : List Char} (h : ∀ c ∈ fraction, c.isDigit = true)
    (hwhole : Whole whole) :
    Magnitude (whole ++ (if fraction ≠ [] then '.' :: fraction else ['.', '0'])) := by
  split
  · next hne => simpa using Magnitude.parts hwhole (.digits hne h) .none
  · simpa using Magnitude.parts hwhole (.digits (by simp) (isDigit_zeros 1)) .none

structure Shown (digits : List Char) : Prop where
  isDigit : ∀ c ∈ digits, c.isDigit = true
  leading : ∃ c cs, digits = c :: cs ∧ c ≠ '0'

namespace Shown

variable {digits : List Char} (h : Shown digits)

include h

lemma whole_take (n : Nat) {zeros : List Char} (hzeros : ∀ c ∈ zeros, c.isDigit = true) :
    Whole (digits.take (n + 1) ++ zeros) := by
  obtain ⟨c, cs, rfl, hc⟩ := h.leading
  refine .digits (h.isDigit c List.mem_cons_self) hc (isDigit_append ?_ hzeros)
  exact fun d hd => h.isDigit d (List.mem_cons_of_mem _ (List.mem_of_mem_take hd))

lemma isDigit_drop (n : Nat) : ∀ c ∈ digits.drop n, c.isDigit = true :=
  fun c hc => h.isDigit c (List.mem_of_mem_drop hc)

lemma magnitude_writeOut (point : Int) : Magnitude (Style.document.writeOut digits point) := by
  cases point with
  | ofNat point =>
    have hfraction := h.isDigit_drop point
    have hwhole : Whole (if digits.take point ++ List.replicate (point - digits.length) '0' = []
        then ['0'] else digits.take point ++ List.replicate (point - digits.length) '0') := by
      cases point with
      | zero => simpa using Whole.zero
      | succ point =>
        have hwhole := h.whole_take point (isDigit_zeros (point + 1 - digits.length))
        rw [if_neg]
        · exact hwhole
        · obtain ⟨c, ds, heq, -⟩ := hwhole.first
          rw [heq]
          exact List.cons_ne_nil _ _
    exact magnitude_fraction hfraction hwhole
  | negSucc zeros =>
    have hfraction := isDigit_append (isDigit_zeros (zeros + 1)) h.isDigit
    simpa [Style.writeOut] using Magnitude.parts .zero (.digits (by simp) hfraction) .none

lemma magnitude_writePower (power : Int) :
    Magnitude (Style.document.writePower digits power) := by
  have hwhole := h.whole_take 0 (isDigit_zeros 0)
  have hpower : Power ('e' :: ((if power < 0 then ['-'] else
      if Style.document.signedPower then ['+'] else []) ++ Nat.toDigits 10 power.natAbs)) := by
    refine .digits ?_ Nat.toDigits_ne_nil (isDigit_toDigits _)
    split
    · exact Or.inr rfl
    · exact Or.inl rfl
  simp only [Style.writePower]
  split
  · next hne => simpa using Magnitude.parts hwhole (.digits hne (h.isDigit_drop 1)) hpower
  · simpa using Magnitude.parts hwhole .none hpower

end Shown

lemma shown_of_ne_zero {n : Nat} (h : n ≠ 0) :
    Shown ((Nat.toDigits 10 n).reverse.dropWhile (· = '0')).reverse := by
  obtain ⟨shown, k, hshown, hdigits, hall, hne, -⟩ := Style.exists_stripped h
  obtain ⟨c, cs, hcs, hc⟩ := exists_leading (Nat.pos_of_ne_zero h)
  rw [hshown]
  refine ⟨hall, ?_⟩
  obtain ⟨d, ds, rfl⟩ := List.exists_cons_of_ne_nil hne
  rw [hdigits, List.cons_append] at hcs
  obtain ⟨rfl, -⟩ := List.cons.inj hcs
  exact ⟨d, ds, rfl, hc⟩

lemma magnitude_decimalText {d : Decimal} (h : d.coefficient ≠ 0) :
    Magnitude (Style.document.decimalText d) := by
  have hshown := shown_of_ne_zero h
  rw [Style.decimalText]
  split
  · exact hshown.magnitude_writeOut _
  · exact hshown.magnitude_writePower _

lemma magnitude_magnitudeText {n : Nat} (h : n < Double.infinity) :
    Magnitude (Style.document.magnitudeText n) := by
  rw [Style.magnitudeText, if_pos h]
  split
  · exact .parts .zero (.digits (by simp) (isDigit_zeros 1)) .none
  · next hne => exact magnitude_decimalText (Double.coefficient_shortest_ne_zero _ h hne)

theorem numberSpelling_text {x : Float} (h : Double.code x < Double.infinity) :
    NumberSpelling (Style.document.text x) := by
  have hmagnitude := (magnitude_magnitudeText h).numberSpelling
  rw [Style.text, if_neg (by omega)]
  split
  · exact hmagnitude.2
  · exact hmagnitude.1

def reread? (x : Float) : Option Float := (ofFloat x).float?

lemma reread?_eq (x : Float) : reread? x =
    if Double.code x < Double.infinity then spelledFloat? (Style.document.text x) else none := by
  rw [reread?, ofFloat]
  split <;> rfl

end PolarCurve.Json
