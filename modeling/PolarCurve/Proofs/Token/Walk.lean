import PolarCurve.Proofs.Token.Scan

namespace PolarCurve

open PieceKind Text

def EndsInDigits (cs : List Char) : Prop :=
  ∃ outer digits, cs = outer ++ digits ∧ (∀ c ∈ digits, isNumeral c = true) ∧ '.' ∉ digits ∧
    ∀ c ∈ outer.getLast?, isNumeral c = false

def Seam (before cs : List Char) : Prop :=
  (∃ c ∈ cs.head?, isNumeral c = true) → EndsInDigits before

lemma endsInDigits_of_last {cs : List Char} (h : ∀ c ∈ cs.getLast?, isNumeral c = false) :
    EndsInDigits cs :=
  ⟨cs, [], by simp, by simp, by simp, h⟩

lemma endsInDigits_append (before : List Char) {c : Char} {cs : List Char}
    (hc : isNumeral c = false) (hpoint : '.' ∉ c :: cs) : EndsInDigits (before ++ c :: cs) := by
  have hne : (c :: cs).rdropWhile isNumeral ≠ [] := by
    intro h
    rw [List.rdropWhile_eq_nil_iff] at h
    simp [h c List.mem_cons_self] at hc
  refine ⟨before ++ (c :: cs).rdropWhile isNumeral, (c :: cs).rtakeWhile isNumeral, ?_, ?_, ?_, ?_⟩
  · rw [List.append_assoc, List.rdropWhile_append_rtakeWhile]
  · exact fun d hd => List.mem_rtakeWhile_imp hd
  · intro hmem
    apply hpoint
    rw [← List.rdropWhile_append_rtakeWhile (p := isNumeral) (l := c :: cs)]
    exact List.mem_append_right _ hmem
  · intro d hd
    rw [List.getLast?_append_of_ne_nil _ hne] at hd
    obtain ⟨hne, rfl⟩ := List.mem_getLast?_eq_getLast hd
    exact Bool.eq_false_iff.mpr (List.rdropWhile_last_not isNumeral _ hne)

lemma not_isNumeral_of_isSpacing {c : Char} (h : isSpacing c = true) : isNumeral c = false := by
  rw [Bool.eq_false_iff]
  intro hn
  rw [Piece.not_isSpacing_of_isNumeral hn] at h
  cases h

lemma not_isNumeral_of_isNameStart {c : Char} (h : isNameStart c = true) : isNumeral c = false := by
  have hletter : (65 ≤ c.toNat ∧ c.toNat ≤ 90 ∨ 97 ≤ c.toNat ∧ c.toNat ≤ 122) ∨ c = '_' := by
    simpa [isNameStart, Char.isAlpha, Char.isUpper, Char.isLower, UInt32.le_iff_toNat_le] using h
  rw [Bool.eq_false_iff]
  intro hn
  rcases hletter with hletter | rfl
  · have hdigit : (48 ≤ c.toNat ∧ c.toNat ≤ 57) ∨ c = '.' := by
      simpa [isNumeral, Char.isDigit, UInt32.le_iff_toNat_le] using hn
    rcases hdigit with hdigit | rfl
    · omega
    · revert hletter
      decide
  · cases hn

lemma Seam.skip {before text cs : List Char} (h : Seam before (text ++ cs))
    (hs : ∀ c ∈ text, isSpacing c = true) : Seam (before ++ text) cs := by
  cases text with
  | nil => simpa using h
  | cons c text =>
    intro _
    apply endsInDigits_append before (not_isNumeral_of_isSpacing (hs c List.mem_cons_self))
    intro hpoint
    cases hs '.' hpoint

namespace Stretch

variable {start : Location} {s : Stretch}

lemma Holds.numerals_or {item : Except LexFault Token} (h : s.Holds start item) :
    s.Longest isNumeral ∨ ∃ c cs, s.text = c :: cs ∧ isNumeral c = false ∧ '.' ∉ s.text := by
  cases h with
  | number hlong => exact Or.inl hlong
  | secondPoint _ _ _ hlong => exact Or.inl hlong
  | badNumber hlong => exact Or.inl hlong
  | name hlong hstart =>
    obtain ⟨c, cs, htext, hc⟩ := hstart
    refine Or.inr ⟨c, cs, htext, not_isNumeral_of_isNameStart hc, fun hpoint => ?_⟩
    cases hlong.1 '.' hpoint
  | mark m htext =>
    refine Or.inr ⟨m.char, [], htext, ?_, ?_⟩
    · cases m <;> rfl
    · rw [htext]
      cases m <;> decide
  | strayChar c htext _ hc =>
    refine Or.inr ⟨c, [], htext, hc, ?_⟩
    rw [htext, List.mem_singleton]
    rintro rfl
    cases hc

lemma Holds.seam {before text cs : List Char} {item : Except LexFault Token}
    (h : Holds start ⟨before, text, cs⟩ item) : Seam (before ++ text) cs := by
  rcases h.numerals_or with hlong | ⟨c, ds, htext, hc, hpoint⟩
  · rintro ⟨c, hhead, hc⟩
    rw [hlong.2 c hhead] at hc
    cases hc
  · intro _
    change text = _ at htext
    subst htext
    exact endsInDigits_append before hc hpoint

lemma Holds.token {t : Token} (h : s.Holds start (.ok t)) :
    t.lexeme.toList = s.text ∧ t.location = start.advance s.before ∧ t.kind ≠ .ending ∧
      (∀ m, t.kind = .mark m → s.text = [m.char]) ∧
      ∀ name, t.kind = .name name → t.lexeme = name := by
  cases h with
  | number => exact ⟨String.toList_ofList, rfl, by simp, by simp, by simp⟩
  | name => exact ⟨String.toList_ofList, rfl, by simp, by simp, by simp⟩
  | mark m htext => exact ⟨String.toList_ofList, rfl, by simp, by simp [htext], by simp⟩

end Stretch

lemma Walk.seek {start : Location} {before cs : List Char} {us items : List (Except LexFault Token)}
    {item : Except LexFault Token} (h : Walk start before cs (us ++ item :: items))
    (hp : Seam before cs) :
    ∃ left text rest, cs = left ++ (text ++ rest) ∧
      Stretch.Holds start ⟨before ++ left, text, rest⟩ item ∧
      Seam (before ++ left) (text ++ rest) ∧ Walk start (before ++ left ++ text) rest items ∧
      (us = [] → ∀ c ∈ left, isSpacing c = true) := by
  generalize hall : us ++ item :: items = all at h
  induction h generalizing us with
  | done => simp at hall
  | @skip before text cs all hs _ ih =>
    obtain ⟨left, text', rest, rfl, hitem, hseam, hwalk, hspacing⟩ := ih (hp.skip hs) hall
    refine ⟨text ++ left, text', rest, by simp, by simpa using hitem, by simpa using hseam,
      by simpa using hwalk, ?_⟩
    intro hus c hc
    exact (List.mem_append.mp hc).elim (hs c) (hspacing hus c)
  | @item before text cs all item' hitem' hnext ih =>
    cases us with
    | nil =>
      cases hall
      exact ⟨[], text, cs, rfl, by simpa using hitem', by simpa using hp, by simpa using hnext,
        by simp⟩
    | cons u us =>
      cases hall
      obtain ⟨left, text', rest, rfl, hitem, hseam, hwalk, -⟩ := ih hitem'.seam rfl
      exact ⟨text ++ left, text', rest, by simp, by simpa using hitem, by simpa using hseam,
        by simpa using hwalk, by simp⟩

namespace Token

lemma mem_of_mapM_id {items : List (Except LexFault Token)} {fault : LexFault}
    (h : items.mapM id = .error fault) : .error fault ∈ items := by
  induction items with
  | nil => cases h
  | cons item items ih =>
    rw [List.mapM_cons] at h
    cases item with
    | error f =>
      cases h
      exact List.mem_cons_self
    | ok t =>
      cases hrest : items.mapM id with
      | error f =>
        rw [hrest] at h
        cases h
        exact List.mem_cons_of_mem _ (ih hrest)
      | ok ts =>
        rw [hrest] at h
        cases h

lemma mem_scan_of_lex {start : Location} {cs : List Char} {fault : LexFault}
    (h : lex start cs = .error fault) : .error fault ∈ scan start cs := by
  rw [lex] at h
  cases hscan : (scan start cs).mapM id with
  | error f =>
    rw [hscan] at h
    cases h
    exact mem_of_mapM_id hscan
  | ok ts =>
    rw [hscan] at h
    cases h

end Token

end PolarCurve
