import PolarCurve.Proofs.Text.Lines
import Mathlib.Algebra.BigOperators.Group.Finset.Piecewise
import Mathlib.Data.List.Infix

/-! On a walk piece by piece the line comes out one further down for each carriage return that the
pieces cut from its line feed. -/

namespace PolarCurve

namespace Text

open Finset

lemma size_eq_utf8ByteSize (cs : List Char) : size cs = (String.ofList cs).utf8ByteSize := by
  induction cs with
  | nil => rfl
  | cons c cs ih =>
    rw [size, ih, String.ofList_cons, String.utf8ByteSize_append, String.utf8ByteSize_singleton]

section Places

variable (P : List Char → List Char → Prop) [DecidableRel P]

def places (cs : List Char) : Finset Nat :=
  {n ∈ range (cs.length + 1) | P (cs.take n) (cs.drop n)}

variable {P}

lemma mem_places {cs : List Char} {n : Nat} :
    n ∈ places P cs ↔ n ≤ cs.length ∧ P (cs.take n) (cs.drop n) := by
  rw [places, mem_filter, mem_range, Nat.lt_succ_iff]

lemma card_places_cons (hP : ∀ c d left right, P (c :: d :: left) right ↔ P (d :: left) right)
    (c : Char) (cs : List Char) :
    (places P (c :: cs)).card + (if P [] cs then 1 else 0) =
      (places P cs).card + (if P [c] cs then 1 else 0) + if P [] (c :: cs) then 1 else 0 := by
  -- all places but the two foremost have a character before them that is not the new one
  have hshift : ∀ n ∈ range cs.length, (P (c :: cs.take (n + 1)) (cs.drop (n + 1)) ↔
      P (cs.take (n + 1)) (cs.drop (n + 1))) := by
    intro n hn
    cases cs with
    | nil => simp at hn
    | cons d cs => exact hP c d _ _
  simp only [places, card_filter, List.length_cons, sum_range_succ', List.take_succ_cons,
    List.drop_succ_cons, List.take_zero, List.drop_zero]
  rw [sum_congr rfl fun n hn => if_congr (hshift n hn) rfl rfl]
  omega

end Places

def boundaries (pieces : List (List Char)) : Finset Nat :=
  (pieces.inits.map fun before => before.flatten.length).toFinset

lemma mem_boundaries {pieces : List (List Char)} {n : Nat} :
    n ∈ boundaries pieces ↔ ∃ before, before <+: pieces ∧ before.flatten.length = n := by
  simp [boundaries]

lemma le_of_mem_boundaries {pieces : List (List Char)} {n : Nat} (h : n ∈ boundaries pieces) :
    n ≤ pieces.flatten.length := by
  obtain ⟨before, hbefore, rfl⟩ := mem_boundaries.mp h
  exact hbefore.flatten.length_le

lemma length_mem_boundaries (pieces : List (List Char)) :
    pieces.flatten.length ∈ boundaries pieces :=
  mem_boundaries.mpr ⟨pieces, List.prefix_refl pieces, rfl⟩

lemma boundaries_concat (pieces : List (List Char)) (piece : List Char) :
    boundaries (pieces ++ [piece]) =
      insert (pieces.flatten ++ piece).length (boundaries pieces) := by
  ext n
  simp only [mem_insert, mem_boundaries, List.prefix_concat_iff, or_and_right, exists_or,
    exists_eq_left, List.flatten_concat, eq_comm]

end Text

namespace Location

open Text Finset

def LoneFeed (left right : List Char) : Prop :=
  left.getLast? ≠ some '\r' ∧ right.head? = some '\n'

def LoneReturn (left right : List Char) : Prop :=
  left.getLast? = some '\r' ∧ right.head? ≠ some '\n'

instance : DecidableRel CutsPair := fun _ _ => inferInstanceAs (Decidable (_ ∧ _))

instance : DecidableRel LoneFeed := fun _ _ => inferInstanceAs (Decidable (_ ∧ _))

instance : DecidableRel LoneReturn := fun _ _ => inferInstanceAs (Decidable (_ ∧ _))

lemma card_feeds (cs : List Char) :
    (places LoneFeed cs).card + (places CutsPair cs).card = cs.count '\n' := by
  induction cs with
  | nil => rfl
  | cons c cs ih =>
    have hlone := card_places_cons (P := LoneFeed) (by simp [LoneFeed]) c cs
    have hpair := card_places_cons (P := CutsPair) (by simp [CutsPair]) c cs
    simp only [LoneFeed, CutsPair, List.getLast?_nil, List.getLast?_singleton, List.head?_cons,
      Option.some.injEq, reduceCtorEq, false_and, if_false, ne_eq, not_false_iff,
      true_and] at hlone hpair
    rw [List.count_cons, ← ih]
    -- a line feed at the head of `cs` stands alone there, but ends a pair if `c` is a carriage return
    grind

lemma card_loneReturns (cs : List Char) : (places LoneReturn cs).card = loneReturns cs := by
  induction cs with
  | nil => rfl
  | cons c cs ih =>
    have hlone := card_places_cons (P := LoneReturn) (by simp [LoneReturn]) c cs
    simpa [LoneReturn, ih, loneReturns, Nat.add_comm] using hlone

lemma line_advance_places (l : Location) (cs : List Char) :
    (l.advance cs).line = l.line + (places LoneFeed cs).card + (places CutsPair cs).card +
      (places LoneReturn cs).card := by
  rw [line_advance, ← card_feeds, card_loneReturns, ← Nat.add_assoc l.line]

def down (l : Location) (n : Nat) : Location := { l with line := l.line + n }

lemma down_zero (l : Location) : l.down 0 = l := rfl

lemma down_down (l : Location) (m n : Nat) : (l.down m).down n = l.down (m + n) := by
  simp only [down, Nat.add_assoc]

lemma step_down (l : Location) (n : Nat) (c : Char) (next : Option Char) :
    (l.down n).step c next = (l.step c next).down n := by
  simp only [step, down]
  split
  · rfl
  · split
    · rw [Nat.add_right_comm]
    · rfl

lemma advance_down (l : Location) (n : Nat) (cs : List Char) :
    (l.down n).advance cs = (l.advance cs).down n := by
  induction cs generalizing l with
  | nil => rfl
  | cons c cs ih => rw [advance, advance, step_down, ih]

lemma advance_cut_pair (l : Location) (cs : List Char) :
    (l.advance ['\r']).advance ('\n' :: cs) = (l.advance ('\r' :: '\n' :: cs)).down 1 := by
  rw [← advance_down]
  rfl

lemma advance_advance (l : Location) (left right : List Char) :
    (l.advance left).advance right =
      (l.advance (left ++ right)).down (if CutsPair left right then 1 else 0) := by
  by_cases hcut : CutsPair left right
  · rw [if_pos hcut]
    obtain ⟨above, rfl⟩ := List.getLast?_eq_some_iff.mp hcut.1
    obtain ⟨below, rfl⟩ := List.head?_eq_some_iff.mp hcut.2
    -- nothing is cut before the carriage return itself
    have hreturn : ∀ cs, l.advance (above ++ '\r' :: cs) = (l.advance above).advance ('\r' :: cs) :=
      fun cs => advance_append l (by simp [CutsPair])
    rw [List.append_assoc, List.singleton_append, hreturn, hreturn, advance_cut_pair]
  · rw [if_neg hcut, advance_append l hcut, down_zero]

lemma length_notMem_places (cs : List Char) : cs.length ∉ places CutsPair cs := by
  rw [mem_places, List.drop_length]
  rintro ⟨-, -, hhead⟩
  cases hhead

lemma mem_places_append {left right : List Char} {n : Nat} (hn : n ≤ left.length) :
    n ∈ places CutsPair (left ++ right) ↔
      n ∈ places CutsPair left ∨ n = left.length ∧ CutsPair left right := by
  rcases Nat.lt_or_eq_of_le hn with hlt | rfl
  · have hhead : (left.drop n ++ right).head? = (left.drop n).head? :=
      List.head?_append_of_ne_nil _ (by simpa using hlt)
    have hle : n ≤ (left ++ right).length := hn.trans (by simp)
    simp only [mem_places, CutsPair, List.take_append_of_le_length hn,
      List.drop_append_of_le_length hn, hhead, hle, hn, hlt.ne, false_and, or_false]
  · rw [mem_places, List.take_left, List.drop_left, List.length_append]
    simp [length_notMem_places]

/-- The pairs of the whole text that a boundary of the pieces separates. -/
def separated (pieces : List (List Char)) : Finset Nat :=
  places CutsPair pieces.flatten ∩ boundaries pieces

lemma mem_separated_concat {pieces : List (List Char)} {piece : List Char} {n : Nat} :
    n ∈ separated (pieces ++ [piece]) ↔
      n ∈ separated pieces ∨ n = pieces.flatten.length ∧ CutsPair pieces.flatten piece := by
  rw [separated, separated, boundaries_concat, List.flatten_concat, mem_inter, mem_inter, mem_insert]
  constructor
  · rintro ⟨hplace, rfl | hbound⟩
    · exact (length_notMem_places _ hplace).elim
    · rw [mem_places_append (le_of_mem_boundaries hbound)] at hplace
      exact hplace.imp (fun h => ⟨h, hbound⟩) id
  · rintro (⟨hplace, hbound⟩ | ⟨rfl, hcut⟩)
    · exact ⟨(mem_places_append (le_of_mem_boundaries hbound)).mpr (.inl hplace), .inr hbound⟩
    · exact ⟨(mem_places_append le_rfl).mpr (.inr ⟨rfl, hcut⟩), .inr (length_mem_boundaries pieces)⟩

lemma card_separated_concat (pieces : List (List Char)) (piece : List Char) :
    (separated (pieces ++ [piece])).card =
      (separated pieces).card + if CutsPair pieces.flatten piece then 1 else 0 := by
  by_cases hcut : CutsPair pieces.flatten piece
  · have hnew : pieces.flatten.length ∉ separated pieces :=
      fun hmem => length_notMem_places _ (mem_inter.mp hmem).1
    have hset : separated (pieces ++ [piece]) = insert pieces.flatten.length (separated pieces) := by
      ext n
      simp only [mem_separated_concat, mem_insert, hcut, and_true, or_comm]
    rw [hset, card_insert_of_notMem hnew, if_pos hcut]
  · have hset : separated (pieces ++ [piece]) = separated pieces := by
      ext n
      simp only [mem_separated_concat, hcut, and_false, or_false]
    rw [hset, if_neg hcut, Nat.add_zero]

lemma foldl_advance (l : Location) (pieces : List (List Char)) :
    pieces.foldl advance l = (l.advance pieces.flatten).down (separated pieces).card := by
  induction pieces using List.reverseRecOn with
  | nil => rfl
  | append_singleton pieces piece ih =>
    rw [List.foldl_concat, ih, advance_down, advance_advance, down_down, card_separated_concat,
      List.flatten_concat, Nat.add_comm]

theorem advance_pieces (l : Location) (pieces : List (List Char)) :
    (pieces.foldl advance l).offset = (l.advance pieces.flatten).offset ∧
    (pieces.foldl advance l).column = (l.advance pieces.flatten).column ∧
    (pieces.foldl advance l).line =
      (l.advance pieces.flatten).line + (separated pieces).card ∧
    (l.advance pieces.flatten).offset = l.offset + (String.ofList pieces.flatten).utf8ByteSize ∧
    (l.advance pieces.flatten).line = l.line + (places LoneFeed pieces.flatten).card +
      (places CutsPair pieces.flatten).card + (places LoneReturn pieces.flatten).card := by
  rw [foldl_advance]
  refine ⟨rfl, rfl, rfl, ?_, line_advance_places l _⟩
  rw [advance_offset, size_eq_utf8ByteSize]

-- two boundaries stand in the pair, and it counts once
example : [['\r'], [], ['\n']].foldl advance start = ⟨3, 1, 2⟩ ∧
    start.advance ['\r', '\n'] = ⟨2, 1, 2⟩ := by decide

end Location

end PolarCurve
