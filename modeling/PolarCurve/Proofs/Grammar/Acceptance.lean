import PolarCurve.Proofs.Grammar.Soundness

/-! A row of tokens is an expression exactly when the grammar derives it within the nesting budget,
and no row has two trees. -/

namespace PolarCurve.Grammar

lemma read_expression (ts : List Token) :
    Production.expression.read 0 ts = Phrase.expression.read maxNesting ts :=
  rfl

lemma size_eq_zero_iff {ts : List Token} :
    Row.size ts = 0 ↔ ts = [] ∨ ∃ t, t.kind = .ending ∧ ts = [t] := by
  match ts with
  | [] => simp [Row.size]
  | [t] => by_cases ht : t.kind = .ending <;> simp [Row.size, Token.isEnding, ht]
  | t :: u :: us =>
    have hsize : Row.size (t :: u :: us) ≠ 0 := by
      rw [Row.size, List.getLast?_cons_cons]
      split
      · simp_all
      · split <;> simp
    simp [hsize]

lemma ofTokens_eq_ok_iff {ts : List Token} {e : Expr} :
    Expr.ofTokens ts = .ok e ↔
      ∃ rest, Phrase.expression.read maxNesting ts = .ok (e, rest) ∧ Row.size rest = 0 := by
  rw [Expr.ofTokens, read_expression]
  cases Phrase.expression.read maxNesting ts with
  | error r => simp
  | ok x =>
    obtain ⟨e', rest⟩ := x
    by_cases h : Row.size rest = 0
    · simp only [h, ne_eq, not_true_eq_false, if_false, Except.ok.injEq, Prod.mk.injEq]
      constructor
      · rintro rfl
        exact ⟨rest, ⟨rfl, rfl⟩, h⟩
      · rintro ⟨_, ⟨rfl, -⟩, -⟩
        rfl
    · simp [h]

lemma ofTokens_of_tooDeep {ts : List Token}
    (h : TooDeep (Phrase.expression.read maxNesting ts)) :
    ∃ position, Expr.ofTokens ts = .error ⟨.tooDeep, position⟩ := by
  obtain ⟨position, h⟩ := h
  exact ⟨position, by rw [Expr.ofTokens, read_expression, h]⟩

lemma exists_derivation_of_ofTokens {ts : List Token} {e : Expr} (h : Expr.ofTokens ts = .ok e) :
    ∃ d : Derivation .expression, ∃ us rest, ts = us ++ rest ∧ Row.size rest = 0 ∧
      us.map Token.kind = d.row ∧ d.tree = e ∧ d.cost ≤ maxNesting := by
  obtain ⟨rest, hread, hsize⟩ := ofTokens_eq_ok_iff.mp h
  obtain ⟨d, ⟨us, hts, hus, htree⟩, hcost⟩ := (sound maxNesting).2 _ _ _ hread
  exact ⟨d, us, rest, hts, hsize, hus, htree, hcost⟩

lemma stops_of_spent {p : Phrase} {rest : List Token} (h : Row.size rest = 0) : p.Stops rest := by
  intro m _
  obtain rfl | ⟨t, ht, rfl⟩ := size_eq_zero_iff.mp h
  · simp [Row.peek?]
  · simp [Row.peek?, ht]

lemma ofTokens_of_cost_le (d : Derivation .expression) (hc : d.cost ≤ maxNesting)
    {ts rest : List Token} (hts : ts.map Token.kind = d.row) (hrest : Row.size rest = 0) :
    Expr.ofTokens (ts ++ rest) = .ok d.tree := by
  obtain ⟨hfit, -⟩ := d.readable maxNesting ts rest hts (stops_of_spent hrest)
  exact ofTokens_eq_ok_iff.mpr ⟨rest, hfit hc, hrest⟩

lemma ofTokens_of_lt_cost (d : Derivation .expression) (hc : maxNesting < d.cost)
    {ts rest : List Token} (hts : ts.map Token.kind = d.row) (hrest : Row.size rest = 0) :
    ∃ position, Expr.ofTokens (ts ++ rest) = .error ⟨.tooDeep, position⟩ := by
  obtain ⟨-, hdeep⟩ := d.readable maxNesting ts rest hts (stops_of_spent hrest)
  exact ofTokens_of_tooDeep (hdeep hc)

lemma cost_le_of_row_eq {d d' : Derivation .expression} {ts : List Token}
    (h : ts.map Token.kind = d.row) (h' : ts.map Token.kind = d'.row) : d'.cost ≤ d.cost := by
  apply Nat.le_of_not_lt
  intro hlt
  obtain ⟨hfit, -⟩ := d.readable d.cost ts [] h (stops_of_spent rfl)
  obtain ⟨-, hdeep⟩ := d'.readable d.cost ts [] h' (stops_of_spent rfl)
  obtain ⟨position, hdeep⟩ := hdeep hlt
  rw [hfit (Nat.le_refl _)] at hdeep
  cases hdeep

lemma tree_eq_of_row_eq {d d' : Derivation .expression} {ts : List Token}
    (h : ts.map Token.kind = d.row) (h' : ts.map Token.kind = d'.row) : d.tree = d'.tree := by
  obtain ⟨hfit, -⟩ := d.readable d.cost ts [] h (stops_of_spent rfl)
  obtain ⟨hfit', -⟩ := d'.readable d.cost ts [] h' (stops_of_spent rfl)
  have heq := (hfit (Nat.le_refl _)).symm.trans (hfit' (cost_le_of_row_eq h h'))
  simpa [Phrase.resume] using heq

lemma eq_of_append_spent {d : Derivation .expression} {ts us rest spent : List Token}
    (hts : ∀ t ∈ ts, t.kind ≠ .ending) (hrest : Row.size rest = 0) (hspent : Row.size spent = 0)
    (hus : us.map Token.kind = d.row) (h : ts ++ rest = us ++ spent) : us = ts := by
  have husend : ∀ t ∈ us, t.kind ≠ .ending := by
    intro t ht hk
    exact d.ending_not_mem_row (hus ▸ hk ▸ List.mem_map_of_mem ht)
  obtain rfl | ⟨t, ht, rfl⟩ := size_eq_zero_iff.mp hrest <;>
    obtain rfl | ⟨u, hu, rfl⟩ := size_eq_zero_iff.mp hspent
  · simpa using h.symm
  · rw [List.append_nil] at h
    exact (hts u (h ▸ by simp) hu).elim
  · rw [List.append_nil] at h
    exact (husend t (h ▸ by simp) ht).elim
  · exact (List.append_inj_left' h rfl).symm

theorem ofTokens_iff_derivation (ts rest : List Token) (hts : ∀ t ∈ ts, t.kind ≠ .ending)
    (hrest : rest = [] ∨ ∃ t, t.kind = .ending ∧ rest = [t]) :
    (∀ e, Expr.ofTokens (ts ++ rest) = .ok e ↔
      ∃ d : Derivation .expression, d.row = ts.map Token.kind ∧ d.tree = e ∧
        d.cost ≤ maxNesting) ∧
      (∀ d : Derivation .expression, d.row = ts.map Token.kind → maxNesting < d.cost →
        ∃ position, Expr.ofTokens (ts ++ rest) = .error ⟨.tooDeep, position⟩) ∧
      (∀ d d' : Derivation .expression, d.row = ts.map Token.kind → d'.row = ts.map Token.kind →
        d.tree = d'.tree ∧ d.cost = d'.cost) := by
  have hsize : Row.size rest = 0 := size_eq_zero_iff.mpr hrest
  refine ⟨fun e => ⟨fun h => ?_, ?_⟩, ?_, ?_⟩
  · obtain ⟨d, us, spent, heq, hspent, hus, htree, hcost⟩ := exists_derivation_of_ofTokens h
    obtain rfl := eq_of_append_spent hts hsize hspent hus heq
    exact ⟨d, hus.symm, htree, hcost⟩
  · rintro ⟨d, hrow, rfl, hcost⟩
    exact ofTokens_of_cost_le d hcost hrow.symm hsize
  · intro d hrow hcost
    exact ofTokens_of_lt_cost d hcost hrow.symm hsize
  · intro d d' h h'
    exact ⟨tree_eq_of_row_eq h.symm h'.symm,
      Nat.le_antisymm (cost_le_of_row_eq h'.symm h.symm) (cost_le_of_row_eq h.symm h'.symm)⟩

theorem ofTokens_signed_call :
    let token (kind : TokenKind) : Token := ⟨kind, "", Location.start⟩
    let ts := [.mark .minus, .name "sin", .mark .left, .name "theta", .mark .right].map token
    (∀ t ∈ ts, t.kind ≠ .ending) ∧
      Expr.ofTokens (ts ++ [token .ending]) = .ok (.unary .minus (.call "sin" [.theta])) := by
  intro token ts
  have hts : ∀ t ∈ ts, t.kind ≠ .ending := by simp [ts, token]
  let d : Derivation .expression :=
    .ofUnary (.signed .minus (.ofPrimary (.call .sin (.ofUnary (.ofPrimary .theta)))))
  refine ⟨hts, ?_⟩
  exact ((ofTokens_iff_derivation ts [token .ending] hts (Or.inr ⟨_, rfl, rfl⟩)).1 _).mpr
    ⟨d, rfl, rfl, by decide⟩

end PolarCurve.Grammar
