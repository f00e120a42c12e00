import PolarCurve.Formula
import Mathlib.Data.List.DropRight
import Mathlib.Data.List.TakeWhile
import Mathlib.Tactic.Lemma

namespace PolarCurve

open Text

def Blanks (cs : List Char) : Prop := ∀ c ∈ cs, isBlank c = true

structure Bare (cs : List Char) : Prop where
  first : ∀ c ∈ cs.head?, isBlank c = false
  last : ∀ c ∈ cs.getLast?, isBlank c = false

namespace Text

lemma blanks_takeWhile (cs : List Char) : Blanks (cs.takeWhile isBlank) :=
  fun _ hc => List.mem_takeWhile_imp hc

lemma head?_trimStart (cs : List Char) : ∀ c ∈ (trimStart cs).head?, isBlank c = false := by
  intro c hc
  have hnot := List.head?_dropWhile_not isBlank cs
  rw [trimStart, Option.mem_def] at hc
  rw [hc] at hnot
  exact hnot

lemma trimEnd_eq (cs : List Char) : trimEnd cs = cs.rdropWhile isBlank := rfl

lemma exists_trimEnd_append (cs : List Char) : ∃ after, cs = trimEnd cs ++ after ∧ Blanks after := by
  refine ⟨cs.rtakeWhile isBlank, ?_, fun c hc => List.mem_rtakeWhile_imp hc⟩
  rw [trimEnd_eq, List.rdropWhile_append_rtakeWhile]

lemma getLast?_trimEnd (cs : List Char) : ∀ c ∈ (trimEnd cs).getLast?, isBlank c = false := by
  intro c hc
  obtain ⟨hne, rfl⟩ := List.mem_getLast?_eq_getLast hc
  rw [Bool.eq_false_iff]
  exact List.rdropWhile_last_not isBlank cs hne

lemma bare_trim (cs : List Char) : Bare (trim cs) where
  first := by
    obtain ⟨after, heq, -⟩ := exists_trimEnd_append (trimStart cs)
    intro c hc
    apply head?_trimStart cs
    rw [heq, List.head?_append]
    rw [trim, Option.mem_def] at hc
    rw [hc]
    rfl
  last := getLast?_trimEnd _

lemma exists_trim_append (cs : List Char) :
    ∃ after, cs = cs.takeWhile isBlank ++ trim cs ++ after ∧ Blanks after := by
  obtain ⟨after, heq, hafter⟩ := exists_trimEnd_append (trimStart cs)
  refine ⟨after, ?_, hafter⟩
  rw [List.append_assoc, trim, ← heq, trimStart, List.takeWhile_append_dropWhile]

end Text

inductive RadiusMark : List Char → Prop
  | none : RadiusMark []
  | close {blanks : List Char} (h : Blanks blanks) : RadiusMark ('r' :: '=' :: blanks)
  | apart {blanks : List Char} (h : Blanks blanks) : RadiusMark ('r' :: ' ' :: '=' :: blanks)

namespace Formula

lemma bare_of_trimStart {front cs : List Char} (h : Bare (front ++ cs)) : Bare (trimStart cs) where
  first := head?_trimStart cs
  last := by
    intro c hc
    apply h.last
    have hlast : cs.getLast? = some c := by
      rw [← List.takeWhile_append_dropWhile (p := isBlank) (l := cs), List.getLast?_append]
      rw [trimStart, Option.mem_def] at hc
      rw [hc]
      rfl
    rw [List.getLast?_append, hlast]
    rfl

lemma dropRadius_split {cs : List Char} (h : Bare cs) :
    Bare (dropRadius cs) ∧ ∃ mark, RadiusMark mark ∧ cs = mark ++ dropRadius cs := by
  unfold dropRadius
  split
  · next cs =>
    have heq := List.takeWhile_append_dropWhile (p := isBlank) (l := cs)
    have hmark : Bare (['r', ' ', '='] ++ cs) := h
    exact ⟨bare_of_trimStart hmark, _, .apart (blanks_takeWhile cs), by simp [trimStart, heq]⟩
  · next cs =>
    have heq := List.takeWhile_append_dropWhile (p := isBlank) (l := cs)
    have hmark : Bare (['r', '='] ++ cs) := h
    exact ⟨bare_of_trimStart hmark, _, .close (blanks_takeWhile cs), by simp [trimStart, heq]⟩
  · exact ⟨h, [], .none, rfl⟩

structure Framed (source before body : List Char) : Prop where
  whole : ∃ after, source = before ++ body ++ after ∧ Blanks after
  front : ∃ blanks mark, before = blanks ++ mark ∧ Blanks blanks ∧ RadiusMark mark
  bare : Bare body

theorem framed_unframe (source : List Char) :
    Framed source (unframe source).1 (unframe source).2 := by
  obtain ⟨after, heq, hafter⟩ := exists_trim_append source
  obtain ⟨hbare, mark, hmark, hsplit⟩ := dropRadius_split (bare_trim source)
  have hbefore : (unframe source).1 = source.takeWhile isBlank ++ mark := by
    have htake : (mark ++ dropRadius (trim source)).take
        ((mark ++ dropRadius (trim source)).length - (dropRadius (trim source)).length) = mark := by
      simp
    simp only [unframe]
    rw [← hsplit] at htake
    rw [htake]
  refine ⟨⟨after, ?_, hafter⟩, ⟨_, mark, hbefore, blanks_takeWhile source, hmark⟩, hbare⟩
  rw [hbefore]
  change source = source.takeWhile isBlank ++ mark ++ dropRadius (trim source) ++ after
  rw [List.append_assoc _ mark, ← hsplit]
  exact heq

end Formula

end PolarCurve
