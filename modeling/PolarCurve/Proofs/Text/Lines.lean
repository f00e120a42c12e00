import PolarCurve.Proofs.Location
import PolarCurve.Text.Lines
import Mathlib.Data.List.Basic
import Mathlib.Data.List.GetD

/-! A place reckons the same lines as its text as long as every carriage return before it stands in
front of a line feed. -/

namespace PolarCurve

namespace Text

def ofRows (rows : List (List Char)) : List Char := rows.flatMap (· ++ ['\n'])

def withoutReturn (row : List Char) : List Char :=
  if row.getLast? = some '\r' then row.dropLast else row

lemma withoutReturn_cons {c : Char} {row : List Char} (h : c ≠ '\r' ∨ row ≠ []) :
    withoutReturn (c :: row) = c :: withoutReturn row := by
  cases row with
  | nil => simp [withoutReturn, h.resolve_right (not_not_intro rfl)]
  | cons d row =>
    simp only [withoutReturn, List.getLast?_cons_cons, List.dropLast_cons_cons]
    split <;> rfl

lemma withoutReturn_append_return (row : List Char) : withoutReturn (row ++ ['\r']) = row := by
  simp [withoutReturn]

lemma withoutReturn_of_last {row : List Char} (h : row.getLast? ≠ some '\r') :
    withoutReturn row = row := by
  rw [withoutReturn, if_neg h]

lemma prefix_withoutReturn (row : List Char) : withoutReturn row <+: row := by
  rw [withoutReturn]
  split
  · exact row.dropLast_prefix
  · exact List.prefix_refl row

lemma exists_rows (cs : List Char) : ∃ rows last, cs = ofRows rows ++ last ∧
    (∀ row ∈ rows, '\n' ∉ row) ∧ '\n' ∉ last := by
  induction cs with
  | nil => exact ⟨[], [], rfl, by simp, by simp⟩
  | cons c cs ih =>
    obtain ⟨rows, last, rfl, hrows, hlast⟩ := ih
    by_cases hc : c = '\n'
    · subst hc
      exact ⟨[] :: rows, last, rfl, by simpa using hrows, hlast⟩
    · cases rows with
      | nil => exact ⟨[], c :: last, rfl, by simp, by simp [Ne.symm hc, hlast]⟩
      | cons row rows =>
        refine ⟨(c :: row) :: rows, last, rfl, ?_, hlast⟩
        simpa [Ne.symm hc] using hrows

lemma count_feed_ofRows {rows : List (List Char)} (h : ∀ row ∈ rows, '\n' ∉ row) :
    (ofRows rows).count '\n' = rows.length := by
  induction rows with
  | nil => rfl
  | cons row rows ih =>
    rw [ofRows, List.flatMap_cons, List.count_append, ← ofRows,
      ih fun r hr => h r (List.mem_cons_of_mem _ hr), List.count_append,
      List.count_eq_zero_of_not_mem (h row List.mem_cons_self), List.length_cons]
    exact Nat.add_comm _ _

lemma getLast?_ofRows (rows : List (List Char)) : ∀ c ∈ (ofRows rows).getLast?, c = '\n' := by
  rcases List.eq_nil_or_concat rows with rfl | ⟨rows, row, rfl⟩
  · simp [ofRows]
  · simp [ofRows]

lemma append_feed_inj {row row' cs cs' : List Char} (hrow : '\n' ∉ row) (hrow' : '\n' ∉ row')
    (h : row ++ '\n' :: cs = row' ++ '\n' :: cs') : row = row' ∧ cs = cs' := by
  induction row generalizing row' with
  | nil =>
    cases row' with
    | nil => exact ⟨rfl, (List.cons.inj h).2⟩
    | cons c row' =>
      cases h
      exact (hrow' List.mem_cons_self).elim
  | cons c row ih =>
    cases row' with
    | nil =>
      cases h
      exact (hrow List.mem_cons_self).elim
    | cons d row' =>
      obtain ⟨rfl, hmore⟩ := List.cons.inj h
      rw [List.mem_cons, not_or] at hrow hrow'
      obtain ⟨rfl, hcs⟩ := ih hrow.2 hrow'.2 hmore
      exact ⟨rfl, hcs⟩

lemma ofRows_inj {rows rows' : List (List Char)} (hrows : ∀ row ∈ rows, '\n' ∉ row)
    (hrows' : ∀ row ∈ rows', '\n' ∉ row) (h : ofRows rows = ofRows rows') : rows = rows' := by
  induction rows generalizing rows' with
  | nil =>
    cases rows' with
    | nil => rfl
    | cons row rows' => simp [ofRows] at h
  | cons row rows ih =>
    cases rows' with
    | nil => simp [ofRows] at h
    | cons row' rows' =>
      rw [List.forall_mem_cons] at hrows hrows'
      simp only [ofRows, List.flatMap_cons, List.append_assoc, List.singleton_append] at h
      obtain ⟨hrow, hmore⟩ := append_feed_inj hrows.1 hrows'.1 h
      rw [hrow, ih hrows.2 hrows'.2 hmore]

lemma lines_cons {c : Char} {cs : List Char} (hfeed : c ≠ '\n')
    (hpair : ¬ (c = '\r' ∧ cs.head? = some '\n')) :
    lines (c :: cs) = (c :: (lines cs).headD []) :: (lines cs).tail := by
  rw [lines, if_neg hfeed, if_neg hpair]
  cases lines cs <;> rfl

lemma lines_row {row : List Char} (h : '\n' ∉ row) (hne : row ≠ []) : lines row = [row] := by
  induction row with
  | nil => exact (hne rfl).elim
  | cons c row ih =>
    rw [List.mem_cons, not_or] at h
    have hnext : ¬ (c = '\r' ∧ row.head? = some '\n') :=
      fun ⟨_, hhead⟩ => h.2 (List.mem_of_mem_head? hhead)
    rw [lines_cons (Ne.symm h.1) hnext]
    cases row with
    | nil => rfl
    | cons d row => rw [ih h.2 (List.cons_ne_nil d row)]; rfl

lemma lines_row_feed {row : List Char} (h : '\n' ∉ row) (cs : List Char) :
    lines (row ++ '\n' :: cs) = withoutReturn row :: lines cs := by
  induction row with
  | nil => rw [List.nil_append, lines, if_pos rfl]; rfl
  | cons c row ih =>
    rw [List.mem_cons, not_or] at h
    by_cases hpair : c = '\r' ∧ row = []
    · obtain ⟨rfl, rfl⟩ := hpair
      simp [lines, withoutReturn]
    · have hnext : ¬ (c = '\r' ∧ (row ++ '\n' :: cs).head? = some '\n') := by
        rintro ⟨rfl, hhead⟩
        cases row with
        | nil => exact hpair ⟨rfl, rfl⟩
        | cons d row =>
          cases hhead
          exact h.2 List.mem_cons_self
      rw [List.cons_append, lines_cons (Ne.symm h.1) hnext, ih h.2,
        withoutReturn_cons (not_and_or.mp hpair)]
      rfl

lemma lines_ofRows_append {rows : List (List Char)} (h : ∀ row ∈ rows, '\n' ∉ row)
    (cs : List Char) : lines (ofRows rows ++ cs) = rows.map withoutReturn ++ lines cs := by
  induction rows with
  | nil => rfl
  | cons row rows ih =>
    rw [ofRows, List.flatMap_cons, List.append_assoc, List.append_assoc, List.singleton_append,
      lines_row_feed (h row List.mem_cons_self), ← ofRows,
      ih fun r hr => h r (List.mem_cons_of_mem _ hr)]
    rfl

lemma lines_ofRows {rows : List (List Char)} (h : ∀ row ∈ rows, '\n' ∉ row) :
    lines (ofRows rows) = rows.map withoutReturn := by
  have happend := lines_ofRows_append h []
  rwa [List.append_nil, lines, List.append_nil] at happend

lemma feed_not_mem_lines {cs line : List Char} (h : line ∈ lines cs) : '\n' ∉ line := by
  obtain ⟨rows, last, rfl, hrows, hlast⟩ := exists_rows cs
  rw [lines_ofRows_append hrows, List.mem_append] at h
  rcases h with h | h
  · obtain ⟨row, hrow, rfl⟩ := List.mem_map.mp h
    exact fun hmem => hrows row hrow ((prefix_withoutReturn row).subset hmem)
  · cases last with
    | nil => cases h
    | cons c last =>
      rw [lines_row hlast (List.cons_ne_nil c last), List.mem_singleton] at h
      rwa [h]

/-- The line that holds the place between two parts of a text, cut in two at the place. -/
structure Hosts (left right front back : List Char) : Prop where
  line : (lines (left ++ right)).getD (left.count '\n') [] = front ++ back
  front : ∃ above, left = above ++ front ∧ '\n' ∉ front ∧ ∀ c ∈ above.getLast?, c = '\n'
  back : ∃ below, right = back ++ below ∧ '\n' ∉ back ∧
    (below = [] ∨ ['\n'] <+: below ∨ ['\r', '\n'] <+: below)

lemma exists_back {front right : List Char} (hfront : '\n' ∉ front)
    (hcut : ¬ Location.CutsPair front right) :
    ∃ back below, right = back ++ below ∧ '\n' ∉ back ∧
      (below = [] ∨ ['\n'] <+: below ∨ ['\r', '\n'] <+: below) ∧
      (lines (front ++ right)).getD 0 [] = front ++ back := by
  obtain ⟨rows, last, rfl, hrows, hlast⟩ := exists_rows right
  cases rows with
  | nil =>
    have hnone : '\n' ∉ front ++ last := by simp [hfront, hlast]
    refine ⟨last, [], by simp [ofRows], hlast, Or.inl rfl, ?_⟩
    rw [ofRows, List.flatMap_nil, List.nil_append]
    by_cases hnil : front ++ last = []
    · rw [hnil]; rfl
    · rw [lines_row hnone hnil]; rfl
  | cons row rows =>
    have hrow : '\n' ∉ row := hrows row List.mem_cons_self
    have hnone : '\n' ∉ front ++ row := by simp [hfront, hrow]
    obtain ⟨rest, hrest⟩ : ∃ rest, ofRows (row :: rows) ++ last = row ++ '\n' :: rest :=
      ⟨ofRows rows ++ last, by simp [ofRows]⟩
    rw [hrest] at hcut ⊢
    have hlines : (lines (front ++ (row ++ '\n' :: rest))).getD 0 [] =
        withoutReturn (front ++ row) := by
      rw [← List.append_assoc, lines_row_feed hnone]
      rfl
    rw [hlines]
    rcases List.eq_nil_or_concat' row with rfl | ⟨body, c, rfl⟩
    · refine ⟨[], '\n' :: rest, rfl, by simp, Or.inr (Or.inl ⟨rest, rfl⟩), ?_⟩
      rw [List.append_nil]
      exact withoutReturn_of_last fun hlast => hcut ⟨hlast, rfl⟩
    · by_cases hc : c = '\r'
      · subst hc
        refine ⟨body, '\r' :: '\n' :: rest, by simp, fun hmem => hrow (by simp [hmem]),
          Or.inr (Or.inr ⟨rest, rfl⟩), ?_⟩
        rw [← List.append_assoc, withoutReturn_append_return]
      · refine ⟨body ++ [c], '\n' :: rest, rfl, hrow, Or.inr (Or.inl ⟨rest, rfl⟩), ?_⟩
        apply withoutReturn_of_last
        simpa using hc

theorem exists_hosts {left right : List Char} (hcut : ¬ Location.CutsPair left right) :
    ∃ front back, Hosts left right front back := by
  obtain ⟨rows, front, rfl, hrows, hfront⟩ := exists_rows left
  have hcut' : ¬ Location.CutsPair front right := by
    rintro ⟨hlast, hhead⟩
    exact hcut ⟨by rw [List.getLast?_append, hlast]; rfl, hhead⟩
  obtain ⟨back, below, rfl, hback, hbelow, hline⟩ := exists_back hfront hcut'
  refine ⟨front, back, ?_, ⟨_, rfl, hfront, getLast?_ofRows rows⟩, below, rfl, hback, hbelow⟩
  rw [List.append_assoc, lines_ofRows_append hrows, List.count_append, count_feed_ofRows hrows,
    List.count_eq_zero_of_not_mem hfront, Nat.add_zero, List.getD_append_right _ _ _ _ (by simp),
    List.length_map, Nat.sub_self, hline]

def loneReturns : List Char → Nat
  | [] => 0
  | c :: cs => (if c = '\r' ∧ cs.head? ≠ some '\n' then 1 else 0) + loneReturns cs

lemma head?_of_loneReturns {left right : List Char} (h : loneReturns (left ++ '\r' :: right) = 0) :
    right.head? = some '\n' := by
  induction left with
  | nil =>
    rw [List.nil_append, loneReturns] at h
    split at h
    · omega
    · next hpair => simpa using hpair
  | cons c left ih =>
    rw [List.cons_append, loneReturns] at h
    exact ih (by omega)

end Text

namespace Location

open Text

lemma line_step (l : Location) (c : Char) (cs : List Char) :
    (l.step c cs.head?).line =
      l.line + [c].count '\n' + if c = '\r' ∧ cs.head? ≠ some '\n' then 1 else 0 := by
  by_cases hr : c = '\r'
  · subst hr
    by_cases hn : cs.head? = some '\n' <;> simp [step, hn]
  · by_cases hn : c = '\n'
    · subst hn
      simp [step]
    · simp [step, hr, hn]

theorem line_advance (l : Location) (cs : List Char) :
    (l.advance cs).line = l.line + cs.count '\n' + loneReturns cs := by
  induction cs generalizing l with
  | nil => rfl
  | cons c cs ih =>
    have hcount : ([c] ++ cs).count '\n' = [c].count '\n' + cs.count '\n' := List.count_append
    rw [List.singleton_append] at hcount
    rw [advance, ih, line_step, loneReturns, hcount]
    omega

lemma column_advance_feed (l : Location) (cs : List Char) :
    (l.advance (cs ++ ['\n'])).column = 1 := by
  induction cs generalizing l with
  | nil => rfl
  | cons c cs ih => exact ih _

lemma column_advance_row (l : Location) {row : List Char} (hfeed : '\n' ∉ row)
    (hreturn : '\r' ∉ row) : (l.advance row).column = l.column + row.length := by
  induction row generalizing l with
  | nil => rfl
  | cons c row ih =>
    rw [List.mem_cons, not_or] at hfeed hreturn
    rw [advance, ih _ hfeed.2 hreturn.2]
    simp [step, Ne.symm hfeed.1, Ne.symm hreturn.1]
    omega

theorem column_advance {above front : List Char} (habove : ∀ c ∈ above.getLast?, c = '\n')
    (hfront : '\n' ∉ front) (hlone : loneReturns (above ++ front) = 0) :
    (start.advance (above ++ front)).column = front.length + 1 := by
  have hreturn : '\r' ∉ front := by
    intro hmem
    obtain ⟨before, behind, rfl⟩ := List.append_of_mem hmem
    rw [← List.append_assoc] at hlone
    have hhead := List.mem_of_mem_head? (head?_of_loneReturns hlone)
    exact hfront (by simp [hhead])
  have hcut : ¬ CutsPair above front := by
    rintro ⟨hlast, -⟩
    cases habove '\r' hlast
  have hcolumn : (start.advance above).column = 1 := by
    rcases List.eq_nil_or_concat' above with rfl | ⟨rest, c, rfl⟩
    · rfl
    · rw [habove c (by simp)]
      exact column_advance_feed start rest
  rw [advance_append start hcut, column_advance_row _ hfront hreturn, hcolumn, Nat.add_comm]

end Location

end PolarCurve
