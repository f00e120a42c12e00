import PolarCurve.Proofs.Token.Stretch
import Mathlib

/-! Places reckoned from piece to piece are those reckoned from the front, since no piece ends
between a carriage return and its line feed. -/

namespace PolarCurve

open PieceKind Text

namespace Piece

inductive Begins (c : Char) : PieceKind → Prop
  | blank : isSpacing c = true → Begins c .blank
  | number : isSpacing c = false → isNumeral c = true → Begins c .number
  | name : isSpacing c = false → isNumeral c = false → isNameStart c = true → Begins c .name
  | mark (m : Mark) : isSpacing c = false → m.char = c → Begins c (.mark m)
  | stray : isSpacing c = false → isNumeral c = false → isNameStart c = false →
      (∀ m : Mark, m.char ≠ c) → Begins c .stray

lemma Begins.not_isSpacing {c : Char} {kind : PieceKind} (h : Begins c kind)
    (hk : kind ≠ .blank) : isSpacing c = false := by
  cases h with
  | blank => exact (hk rfl).elim
  | number hs => exact hs
  | name hs => exact hs
  | mark _ hs => exact hs
  | stray hs => exact hs

lemma begins (c : Char) : Begins c (PieceKind.ofChar c) := by
  rw [PieceKind.ofChar]
  split
  · next hs => exact .blank hs
  · next hs =>
    have hs := Bool.eq_false_iff.mpr hs
    split
    · next hn => exact .number hs hn
    · next hn =>
      split
      · next ha => exact .name hs (Bool.eq_false_iff.mpr hn) ha
      · next ha =>
        split
        · next m hm => exact .mark m hs (Mark.ofChar?_eq_some_iff.mp hm)
        · next hm =>
          refine .stray hs (Bool.eq_false_iff.mpr hn) (Bool.eq_false_iff.mpr ha) fun m hmc => ?_
          rw [Mark.ofChar?_eq_some_iff.mpr hmc] at hm
          cases hm

lemma not_isSpacing {p : Char → Bool} (hp : ∀ c ∈ [' ', '\t', '\n', '\r', '\x0c'], p c = false)
    {c : Char} (h : p c = true) : isSpacing c = false := by
  rw [Bool.eq_false_iff]
  intro hs
  simp only [isSpacing, Bool.or_eq_true, decide_eq_true_eq, or_assoc] at hs
  have hc : p c = false := hp c (by simpa using hs)
  rw [h] at hc
  cases hc

lemma not_isSpacing_of_isNamePart {c : Char} (h : isNamePart c = true) : isSpacing c = false :=
  not_isSpacing (by simp [isNamePart, isNameStart]) h

lemma not_isSpacing_of_isNumeral {c : Char} (h : isNumeral c = true) : isSpacing c = false :=
  not_isSpacing (by simp [isNumeral]) h

def run (c : Char) (cs : List Char) : List Char := c :: cs.takeWhile (PieceKind.ofChar c).continues

def rest (c : Char) (cs : List Char) : List Char := cs.dropWhile (PieceKind.ofChar c).continues

lemma run_append_rest (c : Char) (cs : List Char) : run c cs ++ rest c cs = c :: cs := by
  rw [run, rest, List.cons_append, List.takeWhile_append_dropWhile]

lemma longest_run {p : Char → Bool} {c : Char} {cs : List Char} (before : List Char)
    (hc : p c = true) (hk : (PieceKind.ofChar c).continues = p) :
    Stretch.Longest p ⟨before, run c cs, rest c cs⟩ := by
  constructor
  · intro d hd
    rcases List.mem_cons.mp hd with rfl | hd
    · exact hc
    · exact hk ▸ List.mem_takeWhile_imp hd
  · intro d hd
    have hstop := List.head?_dropWhile_not (PieceKind.ofChar c).continues cs
    simp only [rest, Option.mem_def] at hd
    rw [hd, hk] at hstop
    exact hstop

lemma split_eq (c : Char) (cs : List Char) :
    split (c :: cs) = ⟨PieceKind.ofChar c, run c cs⟩ :: split (rest c cs) :=
  split_cons c cs

lemma spacing_run {c : Char} {cs : List Char} (hk : PieceKind.ofChar c = .blank) :
    ∀ d ∈ run c cs, isSpacing d = true := by
  have hb := begins c
  rw [hk] at hb
  cases hb with
  | blank hc => exact (longest_run [] hc (by rw [hk]; rfl)).1

lemma not_spacing_run {c : Char} {cs : List Char} (hk : PieceKind.ofChar c ≠ .blank) :
    ∀ d ∈ run c cs, isSpacing d = false := by
  intro d hd
  rcases List.mem_cons.mp hd with rfl | hd
  · exact (begins d).not_isSpacing hk
  · have hd := List.mem_takeWhile_imp hd
    cases hkind : PieceKind.ofChar c with
    | blank => exact (hk hkind).elim
    | number =>
      rw [hkind] at hd
      exact not_isSpacing_of_isNumeral hd
    | name =>
      rw [hkind] at hd
      exact not_isSpacing_of_isNamePart hd
    | mark m =>
      rw [hkind] at hd
      cases hd
    | stray =>
      rw [hkind] at hd
      cases hd

lemma not_cutsPair_run (before : List Char) (c : Char) (cs : List Char) :
    ¬ Location.CutsPair (before ++ run c cs) (rest c cs) := by
  rintro ⟨hr, hn⟩
  have hmem : '\r' ∈ run c cs := by
    rw [List.getLast?_append] at hr
    cases hlast : (run c cs).getLast? with
    | none => simp [run] at hlast
    | some d =>
      simp only [hlast, Option.some_or, Option.some.injEq] at hr
      exact hr ▸ List.mem_of_getLast? hlast
  by_cases hk : PieceKind.ofChar c = .blank
  · have hc : isSpacing c = true := spacing_run hk c (List.mem_cons_self : c ∈ run c cs)
    have hlong : Stretch.Longest isSpacing ⟨before, run c cs, rest c cs⟩ :=
      longest_run before hc (by rw [hk]; rfl)
    have hnext := hlong.2 '\n' hn
    cases hnext
  · have hr := not_spacing_run hk '\r' hmem
    cases hr

lemma holds_readNumber {start : Location} {before text after : List Char}
    (hlong : Stretch.Longest isNumeral ⟨before, text, after⟩) (hne : text ≠ []) :
    Stretch.Holds start ⟨before, text, after⟩
      ((readNumber (start.advance before) text).map fun kind =>
        ⟨kind, String.ofList text, start.advance before⟩) := by
  rw [readNumber]
  cases hsecond : beforeSecondPoint? text with
  | some b =>
    obtain ⟨whole, fraction, more, rfl, hw, hf, htext⟩ := beforeSecondPoint?_eq_some hsecond
    exact .secondPoint whole fraction more hlong htext hw hf
  | none =>
    have hcount := beforeSecondPoint?_eq_none hsecond
    by_cases hdigit : text.any Char.isDigit = true
    · simp only [hdigit, if_true]
      exact .number hlong (List.any_eq_true.mp hdigit) hcount
    · simp only [hdigit]
      rw [List.any_eq_true] at hdigit
      exact .badNumber hlong (eq_point_of_no_digit hne hlong.1 hdigit hcount)

lemma holds_read (start : Location) (before : List Char) (c : Char) (cs : List Char)
    (hk : PieceKind.ofChar c ≠ .blank) :
    ∃ item, read (start.advance before) ⟨PieceKind.ofChar c, run c cs⟩ = some item ∧
      Stretch.Holds start ⟨before, run c cs, rest c cs⟩ item := by
  have hb := begins c
  cases hkind : PieceKind.ofChar c with
  | blank => exact (hk hkind).elim
  | number =>
    rw [hkind] at hb
    cases hb with
    | number _ hn =>
      exact ⟨_, rfl, holds_readNumber (longest_run before hn (by rw [hkind]; rfl)) (by simp [run])⟩
  | name =>
    rw [hkind] at hb
    cases hb with
    | name _ _ ha =>
      have hpart : isNamePart c = true := by simp [isNamePart, ha]
      exact ⟨_, rfl, .name (longest_run before hpart (by rw [hkind]; rfl)) ⟨c, _, rfl, ha⟩⟩
  | mark m =>
    rw [hkind] at hb
    cases hb with
    | mark _ _ hm =>
      have hrun : run c cs = [m.char] := by
        rw [run, hkind, hm]
        cases cs <;> rfl
      exact ⟨_, rfl, .mark m hrun⟩
  | stray =>
    rw [hkind] at hb
    cases hb with
    | stray hs hn ha hm =>
      have hrun : run c cs = [c] := by
        rw [run, hkind]
        cases cs <;> rfl
      exact ⟨_, rfl, .strayChar c hrun hs hn ha hm⟩

end Piece

/-- Stretches of a text, seen from a point where a part of it stands before. -/
structure Tiling (start : Location) (before cs : List Char) (stretches : List Stretch)
    (items : List (Except LexFault Token)) : Prop where
  holds : List.Forall₂ (Stretch.Holds start) stretches items
  whole : ∀ s ∈ stretches, s.whole = before ++ cs
  later : ∀ s ∈ stretches, size before ≤ s.first
  ordered : stretches.Pairwise fun s t => s.last ≤ t.first
  covered : ∀ left c right, cs = left ++ c :: right → isSpacing c = true ∨
    ∃ s ∈ stretches, s.first ≤ size (before ++ left) ∧
      size (before ++ left) + c.utf8Size ≤ s.last

namespace Tiling

variable {start : Location} {before text cs : List Char} {stretches : List Stretch}
variable {items : List (Except LexFault Token)}

lemma nil (start : Location) (before : List Char) : Tiling start before [] [] [] where
  holds := .nil
  whole := by simp
  later := by simp
  ordered := .nil
  covered := by simp

lemma mem_or_mem {left right : List Char} {c : Char} (h : text ++ cs = left ++ c :: right) :
    (∃ right', text = left ++ c :: right') ∨ ∃ left', left = text ++ left' ∧ cs = left' ++ c :: right := by
  rcases List.append_eq_append_iff.mp h with ⟨m, hm, hcs⟩ | ⟨m, htext, hm⟩
  · exact Or.inr ⟨m, hm, hcs⟩
  · cases m with
    | nil => exact Or.inr ⟨[], by simpa using htext.symm, by simpa using hm.symm⟩
    | cons d m =>
      rw [List.cons_append, List.cons.injEq] at hm
      obtain ⟨rfl, -⟩ := hm
      exact Or.inl ⟨m, htext⟩

lemma covered_behind (h : Tiling start (before ++ text) cs stretches items) {left right : List Char}
    {c : Char} (hcs : cs = left ++ c :: right) : isSpacing c = true ∨
    ∃ s ∈ stretches, s.first ≤ size (before ++ (text ++ left)) ∧
      size (before ++ (text ++ left)) + c.utf8Size ≤ s.last := by
  rw [← List.append_assoc]
  exact h.covered left c right hcs

lemma spacing (h : Tiling start (before ++ text) cs stretches items)
    (hs : ∀ c ∈ text, isSpacing c = true) : Tiling start before (text ++ cs) stretches items where
  holds := h.holds
  whole := by simpa using h.whole
  later s hmem := by
    have hlater := h.later s hmem
    rw [size_append] at hlater
    omega
  ordered := h.ordered
  covered left c right heq := by
    rcases mem_or_mem heq with ⟨right', rfl⟩ | ⟨left', rfl, hcs⟩
    · exact Or.inl (hs c (by simp))
    · exact h.covered_behind hcs

lemma cons (h : Tiling start (before ++ text) cs stretches items) {item : Except LexFault Token}
    (hi : Stretch.Holds start ⟨before, text, cs⟩ item) :
    Tiling start before (text ++ cs) (⟨before, text, cs⟩ :: stretches) (item :: items) where
  holds := .cons hi h.holds
  whole s hmem := by
    rcases List.mem_cons.mp hmem with rfl | hmem
    · simp [Stretch.whole]
    · simpa using h.whole s hmem
  later s hmem := by
    rcases List.mem_cons.mp hmem with rfl | hmem
    · exact Nat.le_refl _
    · have hlater := h.later s hmem
      rw [size_append] at hlater
      omega
  ordered := by
    refine List.pairwise_cons.mpr ⟨fun s hmem => ?_, h.ordered⟩
    have hlater := h.later s hmem
    rwa [size_append] at hlater
  covered left c right heq := by
    rcases mem_or_mem heq with ⟨right', rfl⟩ | ⟨left', rfl, hcs⟩
    · refine Or.inr ⟨_, List.mem_cons_self, ?_, ?_⟩ <;>
        simp only [Stretch.first, Stretch.last, size_append, size] <;> omega
    · rcases h.covered_behind hcs with hs | ⟨s, hmem, hin⟩
      · exact Or.inl hs
      · exact Or.inr ⟨s, List.mem_cons_of_mem _ hmem, hin⟩

end Tiling

inductive Walk (start : Location) :
    List Char → List Char → List (Except LexFault Token) → Prop
  | done {before : List Char} : Walk start before [] []
  | skip {before text cs : List Char} {items : List (Except LexFault Token)}
      (spacing : ∀ c ∈ text, isSpacing c = true) (next : Walk start (before ++ text) cs items) :
      Walk start before (text ++ cs) items
  | item {before text cs : List Char} {items : List (Except LexFault Token)}
      {item : Except LexFault Token} (holds : Stretch.Holds start ⟨before, text, cs⟩ item)
      (next : Walk start (before ++ text) cs items) : Walk start before (text ++ cs) (item :: items)

namespace Piece

lemma advance_run (start : Location) {before : List Char} {c : Char} {cs : List Char}
    (hcut : ¬ Location.CutsPair before (c :: cs)) :
    (start.advance before).advance (run c cs) = start.advance (before ++ run c cs) := by
  refine (start.advance_append ?_).symm
  rintro ⟨hr, hn⟩
  exact hcut ⟨hr, by simpa [run] using hn⟩

lemma reach_split (start : Location) (before cs : List Char)
    (hcut : ¬ Location.CutsPair before cs) :
    reach (start.advance before) (split cs) = start.advance (before ++ cs) := by
  induction cs using split.induct generalizing before with
  | case1 => rw [split, reach, List.foldl_nil, List.append_nil]
  | case2 c cs kind ih =>
    have hnext := ih (before ++ run c cs) (not_cutsPair_run before c cs)
    change reach _ (split (rest c cs)) = start.advance (_ ++ rest c cs) at hnext
    rw [split_eq, reach, List.foldl_cons, advance_run start hcut, ← reach, hnext, List.append_assoc,
      run_append_rest]

theorem walk_readAll (start : Location) (before cs : List Char)
    (hcut : ¬ Location.CutsPair before cs) :
    Walk start before cs (readAll (start.advance before) (split cs)) := by
  induction cs using split.induct generalizing before with
  | case1 =>
    rw [split]
    exact .done
  | case2 c cs kind ih =>
    have hstep : readAll (start.advance before) (split (c :: cs)) =
        (read (start.advance before) ⟨PieceKind.ofChar c, run c cs⟩).toList ++
          readAll (start.advance (before ++ run c cs)) (split (rest c cs)) := by
      rw [split_eq, readAll, advance_run start hcut]
    have hnext := ih (before ++ run c cs) (not_cutsPair_run before c cs)
    rw [hstep, ← run_append_rest c cs]
    by_cases hk : PieceKind.ofChar c = .blank
    · have hread : read (start.advance before) ⟨PieceKind.ofChar c, run c cs⟩ = none := by
        simp only [hk, read]
      rw [hread]
      exact .skip (spacing_run hk) hnext
    · obtain ⟨item, hread, hitem⟩ := holds_read start before c cs hk
      rw [hread]
      exact .item hitem hnext

theorem exists_tiling (start : Location) (before cs : List Char)
    (hcut : ¬ Location.CutsPair before cs) :
    ∃ stretches, Tiling start before cs stretches (readAll (start.advance before) (split cs)) := by
  have hwalk := walk_readAll start before cs hcut
  generalize readAll (start.advance before) (split cs) = items at hwalk ⊢
  clear hcut
  induction hwalk with
  | done => exact ⟨[], .nil start _⟩
  | skip hspacing _ ih =>
    obtain ⟨stretches, htiling⟩ := ih
    exact ⟨stretches, htiling.spacing hspacing⟩
  | item hitem _ ih =>
    obtain ⟨stretches, htiling⟩ := ih
    exact ⟨_, htiling.cons hitem⟩

end Piece

namespace Token

lemma mapM_id_map_ok (ts : List Token) :
    (ts.map (fun t => (.ok t : Except LexFault Token))).mapM id = .ok ts := by
  induction ts with
  | nil => rfl
  | cons t ts ih =>
    rw [List.map_cons, List.mapM_cons, ih]
    rfl

lemma eq_map_ok_of_mapM_id {items : List (Except LexFault Token)} {ts : List Token}
    (h : items.mapM id = .ok ts) : items = ts.map .ok := by
  induction items generalizing ts with
  | nil =>
    cases h
    rfl
  | cons item items ih =>
    rw [List.mapM_cons] at h
    cases item with
    | error f => cases h
    | ok t =>
      cases hrest : items.mapM id with
      | error f =>
        rw [hrest] at h
        cases h
      | ok us =>
        rw [hrest] at h
        cases h
        rw [ih hrest, List.map_cons]

lemma lex_eq_ok_iff {start : Location} {source : List Char} {ts : List Token} :
    lex start source = .ok ts ↔ ∃ body, scan start source = body.map .ok ∧
      ts = body ++ [⟨.ending, "", start.advance source⟩] := by
  have hreach : Piece.reach start (Piece.split source) = start.advance source :=
    Piece.reach_split start [] source (by simp [Location.CutsPair])
  rw [lex, hreach]
  constructor
  · intro h
    cases hbody : (scan start source).mapM id with
    | error f =>
      rw [hbody] at h
      cases h
    | ok body =>
      rw [hbody] at h
      cases h
      exact ⟨body, eq_map_ok_of_mapM_id hbody, rfl⟩
  · rintro ⟨body, hbody, rfl⟩
    rw [hbody, mapM_id_map_ok]
    rfl

lemma exists_map_ok {items : List (Except LexFault Token)} (h : ∀ item ∈ items, ∃ t, item = .ok t) :
    ∃ ts : List Token, items = ts.map .ok := by
  induction items with
  | nil => exact ⟨[], rfl⟩
  | cons item items ih =>
    obtain ⟨t, rfl⟩ := h item List.mem_cons_self
    obtain ⟨ts, rfl⟩ := ih fun item hmem => h item (List.mem_cons_of_mem _ hmem)
    exact ⟨t :: ts, rfl⟩

theorem scan_stretches (start : Location) (source : List Char) :
    (∃ stretches,
      List.Forall₂ (Stretch.Holds start) stretches (scan start source) ∧
      (∀ s ∈ stretches, s.whole = source) ∧
      (stretches.Pairwise fun s t => s.last ≤ t.first) ∧
      ∀ left c right, source = left ++ c :: right → isSpacing c = true ∨
        ∃ s ∈ stretches, s.first ≤ size left ∧ size left + c.utf8Size ≤ s.last) ∧
    ((∃ ts, lex start source = .ok ts) ↔ ∀ item ∈ scan start source, ∃ t, item = .ok t) ∧
    ∀ ts, lex start source = .ok ts → ∃ body, scan start source = body.map .ok ∧
      ts = body ++ [⟨.ending, "", start.advance source⟩] := by
  obtain ⟨stretches, htiling⟩ := Piece.exists_tiling start [] source (by simp [Location.CutsPair])
  refine ⟨⟨stretches, htiling.holds, htiling.whole, htiling.ordered, htiling.covered⟩, ?_, ?_⟩
  · constructor
    · rintro ⟨ts, hts⟩ item hmem
      obtain ⟨body, hbody, -⟩ := lex_eq_ok_iff.mp hts
      rw [hbody] at hmem
      obtain ⟨t, -, rfl⟩ := List.mem_map.mp hmem
      exact ⟨t, rfl⟩
    · intro h
      obtain ⟨body, hbody⟩ := exists_map_ok h
      exact ⟨_, lex_eq_ok_iff.mpr ⟨body, hbody, rfl⟩⟩
  · intro ts hts
    exact lex_eq_ok_iff.mp hts

theorem scan_stretches_line_end :
    let source := ['\r', '\n', '+']
    let ts : List Token := [⟨.mark .plus, "+", ⟨2, 1, 2⟩⟩, ⟨.ending, "", ⟨2, 2, 3⟩⟩]
    lex Location.start source = .ok ts ∧ ∃ body, scan Location.start source = body.map .ok ∧
      ts = body ++ [⟨.ending, "", Location.start.advance source⟩] := by
  intro source ts
  have hlex : lex Location.start source = .ok ts := by cbv
  exact ⟨hlex, (scan_stretches Location.start source).2.2 ts hlex⟩

end Token

end PolarCurve
