import PolarCurve.Proofs.Location
import PolarCurve.Token.Lexing
import Mathlib.Data.List.TakeWhile

namespace PolarCurve

open PieceKind Text

structure Stretch where
  before : List Char
  text : List Char
  after : List Char

namespace Stretch

def whole (s : Stretch) : List Char := s.before ++ s.text ++ s.after

def first (s : Stretch) : Nat := size s.before

def last (s : Stretch) : Nat := size s.before + size s.text

def Longest (p : Char → Bool) (s : Stretch) : Prop :=
  (∀ c ∈ s.text, p c = true) ∧ ∀ c ∈ s.after.head?, p c = false

inductive Holds (start : Location) (s : Stretch) : Except LexFault Token → Prop
  | number : s.Longest isNumeral → (∃ c ∈ s.text, c.isDigit = true) → s.text.count '.' ≤ 1 →
      Holds start s (.ok ⟨.number (Decimal.ofNumeral s.text).toFloat, String.ofList s.text,
        start.advance s.before⟩)
  | name : s.Longest isNamePart → (∃ c cs, s.text = c :: cs ∧ isNameStart c = true) →
      Holds start s (.ok ⟨.name (String.ofList s.text), String.ofList s.text,
        start.advance s.before⟩)
  | mark (m : Mark) : s.text = [m.char] →
      Holds start s (.ok ⟨.mark m, String.ofList s.text, start.advance s.before⟩)
  | secondPoint (whole fraction more : List Char) : s.Longest isNumeral →
      s.text = whole ++ '.' :: fraction ++ '.' :: more → '.' ∉ whole → '.' ∉ fraction →
      Holds start s (.error (.secondPoint
        ((start.advance s.before).offset + size (whole ++ '.' :: fraction))))
  | badNumber : s.Longest isNumeral → s.text = ['.'] →
      Holds start s (.error (.badNumber (String.ofList s.text) (start.advance s.before).offset))
  | strayChar (c : Char) : s.text = [c] → isSpacing c = false → isNumeral c = false →
      isNameStart c = false → (∀ m : Mark, m.char ≠ c) →
      Holds start s (.error (.strayChar c (start.advance s.before).offset))

end Stretch

namespace Piece

lemma not_mem_takeWhile_point (cs : List Char) : '.' ∉ cs.takeWhile (· ≠ '.') := by
  intro h
  simpa using List.mem_takeWhile_imp h

lemma eq_point_of_dropWhile {c : Char} {cs rest : List Char}
    (h : cs.dropWhile (· ≠ '.') = c :: rest) :
    c = '.' ∧ cs = cs.takeWhile (· ≠ '.') ++ '.' :: rest := by
  have hc := List.head?_dropWhile_not (fun c : Char => decide (c ≠ '.')) cs
  simp only [h, List.head?_cons, decide_eq_false_iff_not, ne_eq, not_not] at hc
  subst hc
  exact ⟨rfl, by rw [← h, List.takeWhile_append_dropWhile]⟩

lemma beforeSecondPoint?_eq_some {cs before : List Char}
    (h : beforeSecondPoint? cs = some before) :
    ∃ whole fraction more, before = whole ++ '.' :: fraction ∧ '.' ∉ whole ∧ '.' ∉ fraction ∧
      cs = whole ++ '.' :: fraction ++ '.' :: more := by
  rw [beforeSecondPoint?] at h
  split at h
  · cases h
  · next c rest hrest =>
    obtain ⟨rfl, hcs⟩ := eq_point_of_dropWhile hrest
    split at h
    · next hmem =>
      cases h
      cases hmore : rest.dropWhile (· ≠ '.') with
      | nil => simpa using List.dropWhile_eq_nil_iff.mp hmore '.' hmem
      | cons c more =>
        obtain ⟨-, hrest'⟩ := eq_point_of_dropWhile hmore
        refine ⟨_, _, more, rfl, not_mem_takeWhile_point cs, not_mem_takeWhile_point rest, ?_⟩
        rw [List.append_assoc, List.cons_append, ← hrest', ← hcs]
    · cases h

lemma beforeSecondPoint?_eq_none {cs : List Char} (h : beforeSecondPoint? cs = none) :
    cs.count '.' ≤ 1 := by
  rw [beforeSecondPoint?] at h
  split at h
  · next hrest =>
    have hnot : '.' ∉ cs := by
      intro hmem
      simpa using List.dropWhile_eq_nil_iff.mp hrest '.' hmem
    simp [List.count_eq_zero_of_not_mem hnot]
  · next c rest hrest =>
    obtain ⟨rfl, hcs⟩ := eq_point_of_dropWhile hrest
    split at h
    · cases h
    · next hmem =>
      rw [hcs, List.count_append, List.count_cons_self,
        List.count_eq_zero_of_not_mem (not_mem_takeWhile_point cs),
        List.count_eq_zero_of_not_mem hmem]

lemma eq_point_of_no_digit {cs : List Char} (hne : cs ≠ []) (hall : ∀ c ∈ cs, isNumeral c = true)
    (hdigit : ¬ ∃ c ∈ cs, c.isDigit = true) (hcount : cs.count '.' ≤ 1) : cs = ['.'] := by
  have hpoint : ∀ c ∈ cs, '.' = c := by
    intro c hc
    have hnum := hall c hc
    simp only [isNumeral, Bool.or_eq_true, decide_eq_true_eq] at hnum
    rcases hnum with hnum | rfl
    · exact (hdigit ⟨c, hc, hnum⟩).elim
    · rfl
  rw [List.count_eq_length.mpr hpoint] at hcount
  match cs, hne with
  | [c], _ => rw [hpoint c (List.mem_singleton.mpr rfl)]
  | _ :: _ :: _, _ => simp at hcount

end Piece

end PolarCurve
