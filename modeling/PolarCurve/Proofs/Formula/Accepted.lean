import PolarCurve.Proofs.Formula.Place

namespace PolarCurve

open PieceKind (isSpacing isNumeral isNameStart isNamePart)
open Grammar Text

namespace Grammar.Derivation

def Known (name : String) : Prop :=
  name = "theta" ∨ name = "pi" ∨ ∃ f : Builtin, name = f.name

lemma known_of_mem_row {p : Phrase} (d : Derivation p) {name : String} (h : .name name ∈ d.row) :
    Known name := by
  induction d with
  | whole _ ih => exact ih h
  | first _ _ ih => exact ih h
  | next left op _ right ihl ihr =>
    simp only [row, List.mem_append, List.mem_cons, reduceCtorEq, false_or] at h
    exact h.elim ihl ihr
  | signed _ _ ih =>
    simp only [row, List.mem_cons, reduceCtorEq, false_or] at h
    exact ih h
  | unsigned _ ih => exact ih h
  | plain _ ih => exact ih h
  | raised _ _ ihb ihe =>
    simp only [row, List.mem_append, List.mem_cons, reduceCtorEq, false_or] at h
    exact h.elim ihb ihe
  | number => simp [row] at h
  | theta =>
    simp only [row, List.mem_singleton, TokenKind.name.injEq] at h
    exact Or.inl h
  | pi =>
    simp only [row, List.mem_singleton, TokenKind.name.injEq] at h
    exact Or.inr (Or.inl h)
  | call function _ ih =>
    simp only [row, List.mem_cons, List.mem_append, TokenKind.name.injEq, reduceCtorEq,
      List.not_mem_nil, or_false, false_or] at h
    exact h.elim (fun heq => Or.inr (Or.inr ⟨function, heq⟩)) ih
  | bracketed _ ih =>
    simp only [row, List.mem_cons, List.mem_append, reduceCtorEq, List.not_mem_nil, or_false,
      false_or] at h
    exact ih h

end Grammar.Derivation

lemma Stretch.Holds.not_stray {start : Location} {s : Stretch} {t : Token}
    (h : s.Holds start (.ok t)) : ∀ c ∈ s.text, PieceKind.ofChar c ≠ .stray := by
  intro c hc
  have hspacing := h.not_isSpacing c hc
  rw [PieceKind.ofChar, hspacing]
  cases h with
  | number hlong => simp [hlong.1 c hc]
  | name hlong =>
    have hpart := hlong.1 c hc
    rw [isNamePart, Bool.or_eq_true] at hpart
    rcases hpart with hstart | hdigit
    · cases isNumeral c <;> simp [hstart]
    · simp [isNumeral, hdigit]
  | mark m htext =>
    rw [htext, List.mem_singleton] at hc
    rw [Mark.ofChar?_eq_some_iff.mpr hc.symm]
    cases m <;> subst hc <;> decide

lemma Walk.not_stray {start : Location} {before cs : List Char} {tokens : List Token}
    (h : Walk start before cs (tokens.map .ok)) : ∀ c ∈ cs, PieceKind.ofChar c ≠ .stray := by
  generalize hitems : tokens.map Except.ok = items at h
  induction h generalizing tokens with
  | done => simp
  | skip spacing _ ih =>
    intro c hc
    rcases List.mem_append.mp hc with hc | hc
    · simp [PieceKind.ofChar, spacing c hc]
    · exact ih hitems c hc
  | item holds _ ih =>
    cases tokens with
    | nil => cases hitems
    | cons t tokens =>
      obtain ⟨rfl, hrest⟩ := List.cons.inj hitems
      intro c hc
      rcases List.mem_append.mp hc with hc | hc
      · exact holds.not_stray c hc
      · exact ih hrest c hc

namespace Formula

lemma exists_walk_of_compile {source : String} {f : Formula} (h : compile source = .ok f) :
    ∃ (before body : List Char) (tokens : List Token), Framed source.toList before body ∧
      Walk Location.start before body (tokens.map .ok) ∧
      ∃ d : Derivation .expression, tokens.map Token.kind = d.row ∧ d.tree = f.tree := by
  have hframed := framed_unframe source.toList
  have hwalk := hframed.walk
  obtain ⟨ts, hlex, hts, -⟩ := tokens_of_compile h
  obtain ⟨tokens, hscan, rfl⟩ := Token.lex_eq_ok_iff.mp hlex
  obtain ⟨d, us, spent, hsplit, hspent, hus, htree, -⟩ := exists_derivation_of_ofTokens hts
  have hsize (place : Location) : Row.size [(⟨.ending, "", place⟩ : Token)] = 0 :=
    size_eq_zero_iff.mpr (Or.inr ⟨_, rfl, rfl⟩)
  obtain rfl := eq_of_append_spent (fun t ht => (Token.plain_of_scan_eq hscan ht).kind)
    (hsize _) hspent hus hsplit
  rw [hscan] at hwalk
  exact ⟨_, _, us, hframed, hwalk, d, hus, htree⟩

theorem colon_not_mem_of_compile {source : String} {f : Formula} (h : compile source = .ok f) :
    ':' ∉ source.toList := by
  obtain ⟨before, body, tokens, hframed, hwalk, -⟩ := exists_walk_of_compile h
  obtain ⟨after, hwhole, hafter⟩ := hframed.whole
  obtain ⟨blanks, mark, rfl, hblanks, hmark⟩ := hframed.front
  have hnone : ∀ {cs : List Char}, Blanks cs → ':' ∉ cs := fun h hmem => by cases h ':' hmem
  have hbefore : ':' ∉ mark := by
    cases hmark with
    | none => simp
    | close h => simp [hnone h]
    | apart h => simp [hnone h]
  have hbody : ':' ∉ body := fun hmem => hwalk.not_stray ':' hmem (by decide)
  simp [hwhole, hnone hblanks, hnone hafter, hbefore, hbody]

lemma not_known_r : ¬ Derivation.Known "r" := by
  rintro (h | h | ⟨f, h⟩)
  · exact absurd h (by decide)
  · exact absurd h (by decide)
  · cases f <;> exact absurd h (by decide)

lemma kind_of_holds {before text rest cs : List Char} {t : Token}
    (h : Stretch.Holds Location.start ⟨before, text, rest⟩ (.ok t))
    (htext : text ++ rest = 'r' :: '(' :: cs) : t.kind = .name "r" := by
  obtain ⟨c, ds, rfl⟩ : ∃ c ds, text = c :: ds := h.exists_head
  obtain ⟨rfl, hrest⟩ := List.cons.inj htext
  cases h with
  | number hlong => cases hlong.1 'r' List.mem_cons_self
  | name hlong =>
    cases ds with
    | nil => rfl
    | cons d ds =>
      obtain ⟨rfl, -⟩ := List.cons.inj hrest
      cases hlong.1 '(' (by simp)
  | mark m htext =>
    have hchar : 'r' = m.char := (List.cons.inj htext).1
    cases m <;> exact absurd hchar (by decide)

theorem not_prefix_of_compile {source : String} {f : Formula} (h : compile source = .ok f) :
    ¬ ['r', '('] <+: source.toList := by
  obtain ⟨before, body, tokens, hframed, hwalk, d, hrow, -⟩ := exists_walk_of_compile h
  obtain ⟨after, hwhole, hafter⟩ := hframed.whole
  obtain ⟨blanks, mark, rfl, hblanks, hmark⟩ := hframed.front
  rintro ⟨more, hmore⟩
  rw [hwhole] at hmore
  obtain ⟨rfl, rfl⟩ : blanks = [] ∧ mark = [] := by
    cases blanks with
    | cons c blanks =>
      obtain ⟨rfl, -⟩ := List.cons.inj hmore
      cases hblanks 'r' List.mem_cons_self
    | nil => cases hmark <;> simp_all
  obtain ⟨cs, rfl⟩ : ∃ cs, body = 'r' :: '(' :: cs := by
    cases body with
    | nil =>
      obtain rfl : 'r' :: '(' :: more = after := hmore
      cases hafter 'r' List.mem_cons_self
    | cons c body =>
      obtain ⟨rfl, hnext⟩ := List.cons.inj hmore
      cases body with
      | nil =>
        obtain rfl : '(' :: more = after := hnext
        cases hafter '(' List.mem_cons_self
      | cons c cs =>
        obtain ⟨rfl, -⟩ := List.cons.inj hnext
        exact ⟨cs, rfl⟩
  obtain ⟨k, ks, hhead, -⟩ := d.row_eq_cons
  obtain ⟨t, ts, rfl⟩ : ∃ t ts, tokens = t :: ts := by
    apply List.exists_cons_of_ne_nil
    rintro rfl
    rw [hhead] at hrow
    cases hrow
  have hfirst : Walk Location.start ([] ++ []) ('r' :: '(' :: cs) ([] ++ .ok t :: ts.map .ok) := hwalk
  obtain ⟨left, text, rest, htext, hholds, -, -, hspacing⟩ := hfirst.seek hframed.seam
  cases left with
  | cons c left =>
    obtain ⟨rfl, -⟩ := List.cons.inj htext
    cases hspacing rfl 'r' List.mem_cons_self
  | nil =>
    have hmem : .name "r" ∈ d.row := by
      rw [← hrow, ← kind_of_holds hholds htext.symm]
      exact List.mem_cons_self
    exact not_known_r (d.known_of_mem_row hmem)

end Formula

end PolarCurve
