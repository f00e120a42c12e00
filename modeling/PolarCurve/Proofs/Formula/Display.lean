import PolarCurve.Proofs.Expr.Printed
import PolarCurve.Proofs.Grammar.Acceptance

namespace PolarCurve

open Grammar

namespace Formula

lemma compile_of_spells {source : String} {d : Derivation .expression}
    (htrimmed : Trimmed source.toList) (hspells : Spells source.toList d.row) :
    (d.cost ≤ maxNesting → compile source = .ok ⟨source, d.tree⟩) ∧
      (maxNesting < d.cost →
        ∃ position, compile source = .error (.parse ⟨.tooDeep, position⟩)) := by
  obtain ⟨ts, hts, hlex⟩ := Token.lex_of_spells hspells Location.start
  have hrest : Row.size [(⟨.ending, "", Location.start.advance source.toList⟩ : Token)] = 0 :=
    size_eq_zero_iff.mpr (Or.inr ⟨_, rfl, rfl⟩)
  constructor
  · intro hc
    exact compile_eq_ok htrimmed hlex (ofTokens_of_cost_le d hc hts hrest)
  · intro hc
    obtain ⟨position, hdeep⟩ := ofTokens_of_lt_cost d hc hts hrest
    exact ⟨position, compile_eq_error htrimmed hlex hdeep⟩

lemma compile_of_printed {e : Expr} {d : Derivation .primary} (h : e.Printed d) :
    (d.cost ≤ maxNesting → compile e.display = .ok ⟨e.display, e⟩) ∧
      (maxNesting < d.cost →
        ∃ position, compile e.display = .error (.parse ⟨.tooDeep, position⟩)) := by
  have hcompile := compile_of_spells (d := .ofUnary (.ofPrimary d)) h.trimmed h.spells
  simp only [Derivation.tree, Derivation.cost, h.tree] at hcompile
  exact hcompile

end Formula

namespace Grammar.Derivation

lemma validate_tree {p : Phrase} (d : Derivation p) : d.tree.validate = .ok () := by
  induction d with
  | whole _ ih => exact ih
  | first _ _ ih => exact ih
  | next _ _ _ _ ihl ihr =>
    rw [tree, Expr.validate, ihl, ihr]
    rfl
  | signed _ _ ih =>
    rw [tree, Expr.validate, ih]
  | unsigned _ ih => exact ih
  | plain _ ih => exact ih
  | raised _ _ ihb ihe =>
    rw [tree, Expr.validate, ihb, ihe]
    rfl
  | number => rw [tree, Expr.validate]
  | theta => rw [tree, Expr.validate]
  | pi => rw [tree, Expr.validate]
  | call function _ ih =>
    rw [tree, Expr.validate, Builtin.ofName?_name]
    simp [Builtin.arity, Expr.validateAll, ih]
    rfl
  | bracketed _ ih => exact ih

lemma mem_infix {P : Prop} {j k : TokenKind} {ks ls : List TokenKind}
    (h : (P ∨ j ∈ ks) ∨ P ∨ j ∈ ls) : P ∨ j ∈ ks ++ k :: ls := by
  rw [List.mem_append, List.mem_cons]
  rcases h with (hp | hks) | hp | hls
  · exact Or.inl hp
  · exact Or.inr (Or.inl hks)
  · exact Or.inl hp
  · exact Or.inr (Or.inr (Or.inr hls))

lemma mem_literals_tree {p : Phrase} (d : Derivation p) {v : Float} (hv : v ∈ d.tree.literals) :
    v = Double.pi ∨ .number v ∈ d.row := by
  induction d with
  | whole _ ih => exact ih hv
  | first _ _ ih => exact ih hv
  | next _ _ _ _ ihl ihr =>
    rw [tree, Expr.literals, List.mem_append] at hv
    exact mem_infix (hv.imp ihl ihr)
  | signed _ _ ih =>
    rw [tree, Expr.literals] at hv
    exact (ih hv).imp_right (List.mem_cons_of_mem _)
  | unsigned _ ih => exact ih hv
  | plain _ ih => exact ih hv
  | raised _ _ ihb ihe =>
    rw [tree, Expr.literals, List.mem_append] at hv
    exact mem_infix (hv.imp ihb ihe)
  | number value =>
    rw [tree, Expr.literals, List.mem_singleton] at hv
    exact Or.inr (by simp [row, hv])
  | theta => simp [tree, Expr.literals] at hv
  | pi =>
    rw [tree, Expr.literals, List.mem_singleton] at hv
    exact Or.inl hv
  | call _ _ ih =>
    rw [tree, Expr.literals, Expr.literalsAll, Expr.literalsAll, List.append_nil] at hv
    exact (ih hv).imp_right fun h => by simp [row, h]
  | bracketed _ ih =>
    exact (ih hv).imp_right fun h => by simp [row, h]

end Grammar.Derivation

namespace Piece

lemma readNumber_eq_ok {place : Location} {cs : List Char} {k : TokenKind}
    (h : readNumber place cs = .ok k) : k = .number (Decimal.ofNumeral cs).toFloat := by
  rw [readNumber] at h
  split at h
  · cases h
  · split at h
    · cases h
      rfl
    · cases h

lemma exists_numeral_of_read {place : Location} {p : Piece} {t : Token} {v : Float}
    (h : read place p = some (.ok t)) (hk : t.kind = .number v) :
    ∃ cs, v = (Decimal.ofNumeral cs).toFloat := by
  obtain ⟨kind, cs⟩ := p
  cases kind with
  | number =>
    cases hnumber : readNumber place cs with
    | error fault => simp [read, hnumber, Except.map] at h
    | ok k =>
      simp only [read, hnumber, Except.map, Option.some.injEq, Except.ok.injEq] at h
      have hk' : k = .number v := by rw [← hk, ← h]
      exact ⟨cs, TokenKind.number.inj (hk'.symm.trans (readNumber_eq_ok hnumber))⟩
  | blank => simp [read] at h
  | name =>
    simp only [read, Option.some.injEq, Except.ok.injEq] at h
    rw [← h] at hk
    cases hk
  | mark m =>
    simp only [read, Option.some.injEq, Except.ok.injEq] at h
    rw [← h] at hk
    cases hk
  | stray => simp [read] at h

lemma exists_numeral_of_mem {place : Location} {ps : List Piece} {t : Token} {v : Float}
    (h : .ok t ∈ readAll place ps) (hk : t.kind = .number v) :
    ∃ cs, v = (Decimal.ofNumeral cs).toFloat := by
  induction ps generalizing place with
  | nil => cases h
  | cons p ps ih =>
    rw [readAll, List.mem_append] at h
    rcases h with h | h
    · exact exists_numeral_of_read (Option.mem_toList.mp h) hk
    · exact ih h

end Piece

lemma Token.exists_numeral_of_lex {start : Location} {cs : List Char} {ts : List Token} {t : Token}
    {v : Float} (h : Token.lex start cs = .ok ts) (ht : t ∈ ts) (hk : t.kind = .number v) :
    ∃ ds, v = (Decimal.ofNumeral ds).toFloat := by
  obtain ⟨body, hbody, rfl⟩ := lex_eq_ok_iff.mp h
  rcases List.mem_append.mp ht with ht | ht
  · have hmem : .ok t ∈ Token.scan start cs := by
      rw [hbody]
      exact List.mem_map_of_mem ht
    exact Piece.exists_numeral_of_mem hmem hk
  · rw [List.mem_singleton.mp ht] at hk
    cases hk

namespace Formula

lemma exists_code_of_compile {source : String} {f : Formula} (h : compile source = .ok f) :
    ∀ v ∈ f.tree.literals, ∃ n ≤ Double.infinity, v = Double.ofCode false n := by
  obtain ⟨ts, hlex, hts, -⟩ := tokens_of_compile h
  obtain ⟨d, us, rest, rfl, -, hus, htree, -⟩ := exists_derivation_of_ofTokens hts
  intro v hv
  rw [← htree] at hv
  rcases d.mem_literals_tree hv with rfl | hrow
  · exact ⟨0x400921fb54442d18, by decide, rfl⟩
  · rw [← hus] at hrow
    obtain ⟨t, ht, hk⟩ := List.mem_map.mp hrow
    obtain ⟨ds, rfl⟩ := Token.exists_numeral_of_lex hlex (List.mem_append_left _ ht) hk
    exact ⟨_, Decimal.code_le_infinity _, rfl⟩

lemma isNegative_of_compile {source : String} {f : Formula} (h : compile source = .ok f) :
    ∀ v ∈ f.tree.literals, Double.isNegative v = false := by
  intro v hv
  obtain ⟨n, hn, rfl⟩ := exists_code_of_compile h v hv
  exact Double.isNegative_ofCode hn

lemma validate_of_compile {source : String} {f : Formula} (h : compile source = .ok f) :
    f.tree.validate = .ok () := by
  obtain ⟨_, -, hts, -⟩ := tokens_of_compile h
  obtain ⟨d, _, _, -, -, -, htree, -⟩ := exists_derivation_of_ofTokens hts
  rw [← htree]
  exact d.validate_tree

theorem compile_display :
    (∀ e : Expr, e.validate = .ok () →
      (∀ v ∈ e.literals, Double.code v < Double.infinity ∧ Double.isNegative v = false) →
      (compile e.display = .ok ⟨e.display, e⟩ ∨
        ∃ position, compile e.display = .error (.parse ⟨.tooDeep, position⟩)) ∧
      ((Counter.fresh.visit e).deepest ≤ 129 → compile e.display = .ok ⟨e.display, e⟩)) ∧
    ∀ source f, compile source = .ok f →
      f.tree.validate = .ok () ∧ ∀ v ∈ f.tree.literals, Double.isNegative v = false := by
  refine ⟨fun e hvalid hliterals => ?_, fun source f h => ?_⟩
  · obtain ⟨d, hd⟩ := (Expr.printable_of_validate e hvalid hliterals).exists_printed
    obtain ⟨hfit, hdeep⟩ := compile_of_printed hd
    constructor
    · rcases Nat.lt_or_ge maxNesting d.cost with hcost | hcost
      · exact Or.inr (hdeep hcost)
      · exact Or.inl (hfit hcost)
    · intro hlevels
      have hcost := hd.cost
      rw [Counter.deepest_visit_fresh] at hlevels
      apply hfit
      rw [maxNesting]
      omega
  · exact ⟨validate_of_compile h, isNegative_of_compile h⟩

theorem compile_display_product :
    let two : Float := Double.ofCode false 0x4000000000000000
    let e : Expr := .binary .mul (.literal two) (.call "sin" [.theta])
    e.validate = .ok () ∧
      (∀ v ∈ e.literals, Double.code v < Double.infinity ∧ Double.isNegative v = false) ∧
      (Counter.fresh.visit e).deepest ≤ 129 ∧ compile e.display = .ok ⟨e.display, e⟩ := by
  intro two e
  have hvalid : e.validate = .ok () := rfl
  have hliterals : ∀ v ∈ e.literals,
      Double.code v < Double.infinity ∧ Double.isNegative v = false := by
    intro v hv
    have hv : v = two := by simpa [e, Expr.literals, Expr.literalsAll] using hv
    have hle : 0x4000000000000000 ≤ Double.infinity := by decide
    rw [hv, Double.code_ofCode hle, Double.isNegative_ofCode hle]
    exact ⟨by decide, rfl⟩
  have hdeepest : (Counter.fresh.visit e).deepest ≤ 129 := by
    rw [Counter.deepest_visit_fresh]
    decide
  exact ⟨hvalid, hliterals, hdeepest, (compile_display.1 e hvalid hliterals).2 hdeepest⟩

end Formula

end PolarCurve
