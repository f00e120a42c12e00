import PolarCurve.Proofs.Expr.Recursion
import PolarCurve.Proofs.Formula.Compile
import PolarCurve.Proofs.Grammar.Acceptance

/-! The cost of a derivation charges an operand of a chain for the operators before it, while its
tree holds the operand below those after it. So trees may be quadratically deep. -/

namespace PolarCurve.Grammar

namespace Derivation

def depth {p : Phrase} : Derivation p → Nat
  | whole all => all.depth
  | first _ operand => operand.depth
  | next left _ _ right => 1 + max left.depth right.depth
  | signed _ argument => 1 + argument.depth
  | unsigned power => power.depth
  | plain base => base.depth
  | raised base exponent => 1 + max base.depth exponent.depth
  | number _ => 0
  | theta => 0
  | pi => 0
  | call _ argument => 1 + argument.depth
  | bracketed inner => inner.depth

lemma levels_tree {p : Phrase} (d : Derivation p) : d.tree.levels = d.depth + 1 := by
  induction d with
  | whole _ ih => exact ih
  | first _ _ ih => exact ih
  | next _ _ _ _ ihl ihr =>
    simp only [tree, depth, Expr.levels, ihl, ihr]
    omega
  | signed _ _ ih =>
    simp only [tree, depth, Expr.levels, ih]
    omega
  | unsigned _ ih => exact ih
  | plain _ ih => exact ih
  | raised _ _ ihb ihe =>
    simp only [tree, depth, Expr.levels, ihb, ihe]
    omega
  | number => rfl
  | theta => rfl
  | pi => rfl
  | call _ _ ih =>
    simp only [tree, depth, Expr.levels, Expr.levelsAll, ih]
    omega
  | bracketed _ ih => exact ih

end Derivation

def Phrase.deepest (cost : Nat) : Phrase → Nat
  | chain .sums n => cost * cost + 2 * cost + n
  | chain .products n => cost * cost + cost + n
  | whole .sums => cost * cost + 3 * cost
  | whole .products => cost * cost + 2 * cost
  | unary | power => cost * cost + cost
  | primary => cost * cost + cost - 1

lemma deepest_operand (kind : ChainKind) (n cost : Nat) :
    (Phrase.chain kind n).deepest cost = kind.operand.deepest cost + n := by
  cases kind <;> rfl

lemma deepest_whole (kind : ChainKind) (cost : Nat) :
    (Phrase.whole kind).deepest cost = (Phrase.chain kind cost).deepest cost := by
  cases kind <;> simp only [Phrase.deepest] <;> omega

lemma deepest_mono (p : Phrase) {c c' : Nat} (h : c ≤ c') : p.deepest c ≤ p.deepest c' := by
  have hmul := Nat.mul_le_mul h h
  cases p with
  | chain kind n => cases kind <;> simp only [Phrase.deepest] <;> omega
  | whole kind => cases kind <;> simp only [Phrase.deepest] <;> omega
  | unary => simp only [Phrase.deepest]; omega
  | power => simp only [Phrase.deepest]; omega
  | primary => simp only [Phrase.deepest]; omega

lemma deepest_primary_succ (c : Nat) :
    Phrase.primary.deepest (1 + c) = 1 + Phrase.expression.deepest c := by
  simp only [Phrase.deepest, Nat.add_mul, Nat.mul_add]
  omega

lemma deepest_unary_succ (c : Nat) :
    1 + Phrase.unary.deepest c ≤ Phrase.unary.deepest (1 + c) := by
  simp only [Phrase.deepest, Nat.add_mul, Nat.mul_add]
  omega

namespace Derivation

lemma operators_le_cost {kind : ChainKind} {n : Nat} (d : Derivation (.chain kind n)) :
    n ≤ d.cost := by
  cases d with
  | first => exact Nat.zero_le _
  | next left _ _ right =>
    rw [cost]
    omega

lemma depth_le_deepest {p : Phrase} (d : Derivation p) : d.depth ≤ p.deepest d.cost := by
  induction d with
  | @whole kind n all ih =>
    have hn := all.operators_le_cost
    rw [deepest_operand] at ih
    rw [deepest_whole, deepest_operand, cost, depth]
    omega
  | first kind operand ih =>
    rw [deepest_operand]
    exact ih
  | @next kind n left op links right ihl ihr =>
    -- The operand on the right has been charged for all the operators that stand above the chain.
    have hleft := deepest_mono (.chain kind n)
      (Nat.le_max_left left.cost (n + 1 + right.cost))
    have hright := deepest_mono kind.operand
      (Nat.le_trans (Nat.le_add_left right.cost (n + 1))
        (Nat.le_max_right left.cost (n + 1 + right.cost)))
    simp only [deepest_operand] at ihl hleft ⊢
    simp only [depth, cost]
    omega
  | signed op argument ih =>
    have hsucc := deepest_unary_succ argument.cost
    simp only [depth, cost]
    omega
  | unsigned power ih => exact ih
  | plain base ih =>
    simp only [depth, cost, Phrase.deepest] at ih ⊢
    omega
  | raised base exponent ihb ihe =>
    have hbase := deepest_mono .primary
      (Nat.le_max_left base.cost (1 + exponent.cost))
    have hexponent := deepest_mono .unary
      (Nat.le_max_right base.cost (1 + exponent.cost))
    have hsucc := deepest_unary_succ exponent.cost
    have hpos : 1 ≤ max base.cost (1 + exponent.cost) := by omega
    simp only [depth, cost, Phrase.deepest] at *
    omega
  | number => exact Nat.zero_le _
  | theta => exact Nat.zero_le _
  | pi => exact Nat.zero_le _
  | call function argument ih =>
    rw [cost, depth, deepest_primary_succ]
    omega
  | bracketed inner ih =>
    rw [cost, depth, deepest_primary_succ]
    omega

def extend (kind : ChainKind) (start : Derivation kind.operand) (op : BinaryOp)
    (links : kind.Links op) (operand : Derivation kind.operand) :
    (n : Nat) → Derivation (.chain kind n)
  | 0 => .first kind start
  | n + 1 => .next (extend kind start op links operand n) op links operand

section Extend

variable {kind : ChainKind} {start operand : Derivation kind.operand} {op : BinaryOp}
  {links : kind.Links op}

lemma row_extend (n : Nat) :
    (extend kind start op links operand n).row =
      start.row ++ (List.replicate n (.mark op.mark :: operand.row)).flatten := by
  induction n with
  | zero => simp [extend, row]
  | succ n ih =>
    rw [extend, row, ih, List.replicate_succ', List.flatten_append, List.append_assoc]
    simp

lemma cost_extend (hcost : operand.cost = 0) (n : Nat) :
    (extend kind start op links operand n).cost = max start.cost n := by
  induction n with
  | zero => rw [extend, cost, Nat.max_zero]
  | succ n ih =>
    rw [extend, cost, ih, hcost]
    omega

lemma depth_extend (hdepth : operand.depth = 0) (n : Nat) :
    (extend kind start op links operand n).depth = start.depth + n := by
  induction n with
  | zero => rfl
  | succ n ih =>
    rw [extend, depth, ih, hdepth]
    omega

end Extend

def leaf : Derivation .unary := ofPrimary .theta

def product (factor : Derivation .unary) (n : Nat) : Derivation .term :=
  .whole (extend .products factor .mul (Or.inl rfl) leaf n)

def sum (summand : Derivation .term) (n : Nat) : Derivation .expression :=
  .whole (extend .sums summand .add (Or.inl rfl) (ofFactor leaf) n)

lemma cost_product (factor : Derivation .unary) (n : Nat) :
    (product factor n).cost = max factor.cost n :=
  cost_extend rfl n

lemma depth_product (factor : Derivation .unary) (n : Nat) :
    (product factor n).depth = factor.depth + n :=
  depth_extend rfl n

lemma cost_sum (summand : Derivation .term) (n : Nat) :
    (sum summand n).cost = max summand.cost n :=
  cost_extend rfl n

lemma depth_sum (summand : Derivation .term) (n : Nat) :
    (sum summand n).depth = summand.depth + n :=
  depth_extend rfl n

lemma row_sum (factor : Derivation .unary) (n : Nat) :
    (sum (ofFactor factor) n).row =
      factor.row ++ (List.replicate n [.mark .plus, .name "theta"]).flatten :=
  row_extend n

def steepest : Nat → Derivation .expression
  | 0 => ofUnary leaf
  | c + 1 =>
    let power : Derivation .unary := .unsigned (.raised (.call .sin (steepest c)) leaf)
    sum (product power (c + 1)) (c + 1)

lemma cost_steepest (c : Nat) : (steepest c).cost = c := by
  induction c with
  | zero => rfl
  | succ c ih =>
    simp only [steepest, cost_sum, cost_product, cost, ih, leaf]
    omega

lemma depth_steepest (c : Nat) : (steepest c).depth = Phrase.expression.deepest c := by
  induction c with
  | zero => rfl
  | succ c ih =>
    simp only [steepest, depth_sum, depth_product, depth, ih, leaf, Phrase.deepest, Nat.add_mul,
      Nat.mul_add]
    omega

lemma deepest_tree {p : Phrase} (d : Derivation p) :
    (Counter.fresh.visit d.tree).deepest = d.depth + 1 := by
  rw [Counter.deepest_visit_fresh, levels_tree]

end Derivation

def bare (kind : TokenKind) : Token := ⟨kind, "", Location.start⟩

lemma map_kind_bare (ks : List TokenKind) : (ks.map bare).map Token.kind = ks := by
  induction ks with
  | nil => rfl
  | cons k ks ih => rw [List.map_cons, List.map_cons, ih, bare]

lemma recursesWithin_iff_deepest {n : Nat} {e : Expr} :
    Expr.RecursesWithin n e ↔ (Counter.fresh.visit e).deepest ≤ n := by
  rw [Expr.recursesWithin_iff, Counter.deepest_visit_fresh]

lemma deepest_le_of_ofTokens {ts : List Token} {e : Expr} (h : Expr.ofTokens ts = .ok e) :
    (Counter.fresh.visit e).deepest ≤ maxNesting * maxNesting + 3 * maxNesting + 1 := by
  obtain ⟨d, _, _, -, -, -, rfl, hcost⟩ := exists_derivation_of_ofTokens h
  rw [d.deepest_tree]
  exact Nat.succ_le_succ (Nat.le_trans d.depth_le_deepest (deepest_mono .expression hcost))

lemma exists_ofTokens_deepest_eq : ∃ ts e, Expr.ofTokens ts = .ok e ∧
    (Counter.fresh.visit e).deepest = maxNesting * maxNesting + 3 * maxNesting + 1 := by
  let d := Derivation.steepest maxNesting
  have hcost : d.cost ≤ maxNesting := Nat.le_of_eq (Derivation.cost_steepest maxNesting)
  refine ⟨d.row.map bare ++ [], d.tree, ofTokens_of_cost_le d hcost (map_kind_bare _) rfl, ?_⟩
  rw [d.deepest_tree, Derivation.depth_steepest]
  rfl

theorem recursesWithin_of_compile {source : String} {f : Formula}
    (h : Formula.compile source = .ok f) :
    Expr.RecursesWithin (maxNesting * maxNesting + 3 * maxNesting + 1) f.tree := by
  obtain ⟨ts, -, hts, -⟩ := Formula.tokens_of_compile h
  exact recursesWithin_iff_deepest.mpr (deepest_le_of_ofTokens hts)

/-- The budget alone bounds the levels of a tree where its derivation is no deeper than the budget,
and only there. Everywhere it bounds them quadratically, and that bound is attained. -/
theorem deepest_of_ofTokens (ts : List Token) (e : Expr) (h : Expr.ofTokens ts = .ok e) :
    (∃ d : Derivation .expression, ∃ us rest, ts = us ++ rest ∧ Row.size rest = 0 ∧
      us.map Token.kind = d.row ∧ d.tree = e ∧ d.cost ≤ maxNesting ∧
      ((Counter.fresh.visit e).deepest ≤ maxNesting + 1 ↔ d.depth ≤ maxNesting)) ∧
    (∀ n, Expr.RecursesWithin n e ↔ (Counter.fresh.visit e).deepest ≤ n) ∧
    (Counter.fresh.visit e).deepest ≤ maxNesting * maxNesting + 3 * maxNesting + 1 ∧
    ∃ ts' e', Expr.ofTokens ts' = .ok e' ∧
      (Counter.fresh.visit e').deepest = maxNesting * maxNesting + 3 * maxNesting + 1 := by
  refine ⟨?_, fun n => recursesWithin_iff_deepest, deepest_le_of_ofTokens h,
    exists_ofTokens_deepest_eq⟩
  obtain ⟨d, us, rest, hts, hrest, hus, rfl, hcost⟩ := exists_derivation_of_ofTokens h
  refine ⟨d, us, rest, hts, hrest, hus, rfl, hcost, ?_⟩
  rw [d.deepest_tree]
  omega

theorem deepest_of_ofTokens_signed_sum :
    let e : Expr := .binary .add (.unary .minus .theta) .theta
    Expr.ofTokens ([.mark .minus, .name "theta", .mark .plus, .name "theta"].map bare) = .ok e ∧
      (Expr.RecursesWithin 2 e ↔ (Counter.fresh.visit e).deepest ≤ 2) := by
  intro e
  have h : Expr.ofTokens
      ([.mark .minus, .name "theta", .mark .plus, .name "theta"].map bare) = .ok e :=
    ofTokens_eq_ok_iff.mpr ⟨[], rfl, rfl⟩
  exact ⟨h, (deepest_of_ofTokens _ e h).2.1 2⟩

theorem deepest_signed_sum :
    let signed : List TokenKind := [.mark .minus, .name "theta"]
    let summand : List TokenKind := [.mark .plus, .name "theta"]
    ∃ e, Expr.ofTokens ((signed ++ (List.replicate maxNesting summand).flatten).map bare) = .ok e ∧
      maxNesting + 1 < (Counter.fresh.visit e).deepest := by
  intro signed summand
  let factor : Derivation .unary := .signed .minus .leaf
  have hrow : (Derivation.sum (.ofFactor factor) maxNesting).row =
      signed ++ (List.replicate maxNesting summand).flatten :=
    Derivation.row_sum factor maxNesting
  have hcost : (Derivation.sum (.ofFactor factor) maxNesting).cost ≤ maxNesting := by
    rw [Derivation.cost_sum]
    decide
  refine ⟨(Derivation.sum (.ofFactor factor) maxNesting).tree, ?_, ?_⟩
  · rw [← hrow, ← List.append_nil (List.map bare _)]
    exact ofTokens_of_cost_le _ hcost (map_kind_bare _) rfl
  · rw [Derivation.deepest_tree, Derivation.depth_sum]
    decide

end PolarCurve.Grammar
