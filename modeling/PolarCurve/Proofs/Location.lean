import PolarCurve.Location
import PolarCurve.Text.Bytes
import Mathlib.Tactic.Lemma

namespace PolarCurve

namespace Text

lemma size_append (as bs : List Char) : size (as ++ bs) = size as + size bs := by
  induction as with
  | nil => simp [size]
  | cons a as ih => simp only [List.cons_append, size, ih, Nat.add_assoc]

end Text

namespace Location

def CutsPair (left right : List Char) : Prop :=
  left.getLast? = some '\r' ∧ right.head? = some '\n'

lemma step_congr (l : Location) {c : Char} {next next' : Option Char}
    (h : c = '\r' → (next = some '\n' ↔ next' = some '\n')) : l.step c next = l.step c next' := by
  by_cases hc : c = '\r'
  · simp only [step, hc, true_and, h hc]
  · simp only [step, hc, false_and, if_false]

lemma advance_append (l : Location) {left right : List Char} (h : ¬ CutsPair left right) :
    l.advance (left ++ right) = (l.advance left).advance right := by
  induction left generalizing l with
  | nil => rfl
  | cons c cs ih =>
    cases cs with
    | nil =>
      have hstep : l.step c right.head? = l.step c none := by
        apply step_congr
        rintro rfl
        simp_all [CutsPair]
      simp [advance, hstep]
    | cons d ds =>
      have hcut : ¬ CutsPair (d :: ds) right := by
        simpa [CutsPair, List.getLast?_cons_cons] using h
      simpa [advance] using ih (l.step c (some d)) hcut

lemma step_offset (l : Location) (c : Char) (next : Option Char) :
    (l.step c next).offset = l.offset + c.utf8Size := by
  by_cases hr : c = '\r'
  · subst hr
    rw [step]
    split
    · rfl
    · rfl
  · by_cases hn : c = '\n'
    · subst hn
      rfl
    · simp [step, hr, hn]

theorem advance_offset (l : Location) (cs : List Char) :
    (l.advance cs).offset = l.offset + Text.size cs := by
  induction cs generalizing l with
  | nil => rfl
  | cons c cs ih => rw [advance, ih, step_offset, Text.size, Nat.add_assoc]

end Location

end PolarCurve
