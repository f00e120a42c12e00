import PolarCurve.Proofs.Formula.Value

/-! A signed literal reads back as the negation of its magnitude, but the sign before the base of a
power as the negation of the power. -/

namespace PolarCurve

open Grammar Text

namespace Double

def magnitude (x : Float) : Float := ofCode false (code x)

lemma neg_magnitude {x : Float} (hsign : isNegative x = true) (hfinite : code x < infinity) :
    -magnitude x = x :=
  neg_ofCode_code hsign (Nat.le_of_lt hfinite)

end Double

namespace Expr

def behindSign (value : Float) (around : Expr → Expr) : Expr :=
  if Double.isNegative value then unary .minus (around (literal (Double.magnitude value)))
  else around (literal value)

mutual

/-- The expression that an expression reads back as from what it prints as. -/
def reread : Expr → Expr
  | literal value => behindSign value id
  | theta => theta
  | unary op argument => unary op (reread argument)
  | binary op left right =>
    match op, left with
    | .pow, literal value => behindSign value fun base => binary .pow base (reread right)
    | _, _ => binary op (reread left) (reread right)
  | call callee arguments => call callee (rereadAll arguments)

def rereadAll : List Expr → List Expr
  | [] => []
  | e :: es => reread e :: rereadAll es

end

def SignedLiteral (e : Expr) : Prop := ∃ value, e = literal value ∧ Double.isNegative value = true

lemma reread_literal {value : Float} (h : Double.isNegative value = false) :
    (literal value).reread = literal value := by
  rw [reread, behindSign, if_neg (by simp [h])]
  rfl

lemma reread_signed {value : Float} (h : Double.isNegative value = true) :
    (literal value).reread = unary .minus (literal (Double.magnitude value)) := by
  rw [reread, behindSign, if_pos h]
  rfl

lemma reread_power {value : Float} (h : Double.isNegative value = true) (exponent : Expr) :
    (binary .pow (literal value) exponent).reread =
      unary .minus (binary .pow (literal (Double.magnitude value)) exponent.reread) := by
  rw [reread, behindSign, if_pos h]

lemma reread_binary {op : BinaryOp} {left : Expr} (h : op = .pow → ¬ left.SignedLiteral)
    (right : Expr) : (binary op left right).reread = binary op left.reread right.reread := by
  cases left with
  | literal value =>
    cases op with
    | pow =>
      have hsign : Double.isNegative value = false := by
        rw [Bool.eq_false_iff]
        exact fun hsign => h rfl ⟨value, rfl, hsign⟩
      rw [reread_literal hsign, reread, behindSign, if_neg (by simp [hsign])]
    | _ => rfl
  | _ => cases op <;> rfl

inductive Base : Expr → Derivation .unary → Prop
  | primary {e : Expr} (p : Derivation .primary) (h : ¬ e.SignedLiteral) : Base e (.ofPrimary p)
  | signed {value : Float} (h : Double.isNegative value = true) :
      Base (literal value) (.signed .minus (.ofPrimary (.number (Double.magnitude value))))

structure Rereads (e : Expr) (d : Derivation .unary) : Prop where
  base : Base e d
  tree : d.tree = e.reread
  cost : d.cost + 2 ≤ 3 * e.levels
  spells : Spells e.display.toList d.row
  trimmed : Trimmed e.display.toList

lemma rereads_signed {value : Float} (hfinite : Double.code value < Double.infinity)
    (hsign : Double.isNegative value = true) :
    Rereads (literal value) (.signed .minus (.ofPrimary (.number (Double.magnitude value)))) := by
  have hw := Double.writes_magnitudeText hfinite
  have htext : (literal value).display.toList =
      '-' :: Style.plain.magnitudeText (Double.code value) := by
    have hnot : ¬ Double.infinity < Double.code value := by omega
    simp [display, Double.text, Style.text, hsign, hnot]
  have hnumerals : Trimmed (Style.plain.magnitudeText (Double.code value)) := by
    apply Trimmed.of_numerals
    · obtain ⟨c, hc, -⟩ := hw.digit
      exact List.ne_nil_of_mem hc
    · exact fun c hc => isNumeral_iff.mpr (hw.numeral c hc)
  obtain ⟨cs, c, hlast, hblank⟩ := hnumerals.last
  refine ⟨.signed hsign, (reread_signed hsign).symm, Nat.le_refl 3, ?_, ?_⟩
  · rw [htext]
    exact .mark_cons .minus (Spells.numeral hw)
  · rw [htext]
    exact ⟨⟨'-', _, rfl, rfl, by decide⟩, '-' :: cs, c, by rw [hlast]; rfl, hblank⟩

lemma rereads_unsigned {e : Expr} {d : Derivation .primary} (h : Printed e d)
    (he : e.reread = e) (hsign : ¬ e.SignedLiteral) : Rereads e (.ofPrimary d) where
  base := .primary d hsign
  tree := h.tree.trans he.symm
  cost := by
    have hcost := h.cost
    simp only [Derivation.cost]
    omega
  spells := h.spells
  trimmed := h.trimmed

section Operators

variable {argument left right : Expr} {d l r : Derivation .unary}

lemma rereads_unary (op : UnaryOp) (h : Rereads argument d) :
    Rereads (unary op argument) (.ofPrimary (.bracketed (.ofUnary (.signed op d)))) := by
  have hcost := h.cost
  refine ⟨.primary _ (by simp [SignedLiteral]), ?_, ?_, spells_unary op h.spells, trimmed_unary op _⟩
  · simp only [Derivation.tree, h.tree, reread]
  · simp only [Derivation.cost, levels]
    omega

lemma exists_joined (op : BinaryOp) (hl : Rereads left l) (hr : Rereads right r) :
    ∃ d : Derivation .expression, d.row = l.row ++ .mark op.mark :: r.row ∧
      d.tree = (binary op left right).reread ∧ d.cost + 3 ≤ 3 * (binary op left right).levels := by
  have hlc := hl.cost
  have hrc := hr.cost
  have hplain (h : op = .pow → ¬ left.SignedLiteral) :
      (binary op left right).reread = .binary op l.tree r.tree := by
    rw [reread_binary h, hl.tree, hr.tree]
  let sum (links : ChainKind.sums.Links op) : Derivation .expression :=
    .whole (.next (.first .sums (.ofFactor l)) op links (.ofFactor r))
  let product (links : ChainKind.products.Links op) : Derivation .expression :=
    .whole (.first .sums (.whole (.next (.first .products l) op links r)))
  have hcost : max l.cost (1 + r.cost) + 3 ≤ 3 * (binary op left right).levels := by
    rw [levels]
    omega
  cases op with
  | add => exact ⟨sum (Or.inl rfl), rfl, (hplain (by simp)).symm, hcost⟩
  | sub => exact ⟨sum (Or.inr rfl), rfl, (hplain (by simp)).symm, hcost⟩
  | mul => exact ⟨product (Or.inl rfl), rfl, (hplain (by simp)).symm, hcost⟩
  | div => exact ⟨product (Or.inr rfl), rfl, (hplain (by simp)).symm, hcost⟩
  | pow =>
    cases hl.base with
    | primary p hsign =>
      exact ⟨.ofUnary (.unsigned (.raised p r)), rfl, (hplain fun _ => hsign).symm, hcost⟩
    | @signed value hsign =>
      refine ⟨.ofUnary (.signed .minus (.unsigned (.raised (.number (Double.magnitude value)) r))),
        rfl, ?_, ?_⟩
      · rw [reread_power hsign, ← hr.tree]
        rfl
      · simp only [Derivation.cost, levels]
        omega

lemma rereads_binary (op : BinaryOp) (hl : Rereads left l) (hr : Rereads right r) :
    ∃ d, Rereads (binary op left right) d := by
  obtain ⟨d, hrow, htree, hcost⟩ := exists_joined op hl hr
  refine ⟨.ofPrimary (.bracketed d), .primary _ (by simp [SignedLiteral]), htree, ?_, ?_,
    trimmed_binary op _ _⟩
  · simp only [Derivation.cost]
    omega
  · simp only [Derivation.row, hrow]
    exact spells_binary op hl.spells hr.spells hr.trimmed

lemma rereads_call (f : Builtin) (h : Rereads argument d) :
    Rereads (call f.name [argument]) (.ofPrimary (.call f (.ofUnary d))) := by
  have hcost := h.cost
  refine ⟨.primary _ (by simp [SignedLiteral]), ?_, ?_, spells_call f h.spells, trimmed_call f _⟩
  · change call f.name [d.tree] = _
    rw [h.tree, reread, rereadAll, rereadAll]
  · change 1 + d.cost + 2 ≤ _
    simp only [levels, levelsAll]
    omega

end Operators

lemma exists_rereads : (e : Expr) → e.validate = .ok () →
    (∀ v ∈ e.literals, Double.code v < Double.infinity) → ∃ d, Rereads e d
  | .literal value, _, hl => by
    have hfinite := hl value (by simp [literals])
    by_cases hsign : Double.isNegative value = true
    · exact ⟨_, rereads_signed hfinite hsign⟩
    · rw [Bool.not_eq_true] at hsign
      refine ⟨_, rereads_unsigned (printed_literal hfinite hsign) (reread_literal hsign) ?_⟩
      rintro ⟨v, hv, hnegative⟩
      cases hv
      rw [hsign] at hnegative
      cases hnegative
  | .theta, _, _ => ⟨_, rereads_unsigned printed_theta rfl (by simp [SignedLiteral])⟩
  | .unary op argument, hv, hl => by
    rw [validate] at hv
    rw [literals] at hl
    obtain ⟨d, hd⟩ := exists_rereads argument hv hl
    exact ⟨_, rereads_unary op hd⟩
  | .binary op left right, hv, hl => by
    obtain ⟨hleft, hright⟩ := validate_of_binary hv
    rw [literals] at hl
    obtain ⟨l, hl'⟩ := exists_rereads left hleft fun v hmem => hl v (List.mem_append_left _ hmem)
    obtain ⟨r, hr'⟩ := exists_rereads right hright fun v hmem => hl v (List.mem_append_right _ hmem)
    exact rereads_binary op hl' hr'
  | .call callee arguments, hv, hl => by
    obtain ⟨f, argument, rfl, rfl, hargument⟩ := exists_call_of_validate hv
    rw [literals, literalsAll, literalsAll, List.append_nil] at hl
    obtain ⟨d, hd⟩ := exists_rereads argument hargument hl
    exact ⟨_, rereads_call f hd⟩

def UnsignedBases (e : Expr) : Prop :=
  ∀ base exponent, e.Node (.binary .pow base exponent) → ¬ base.SignedLiteral

lemma UnsignedBases.of_child {e child : Expr} (h : e.UnsignedBases) (among : child ∈ e.children) :
    child.UnsignedBases :=
  fun base exponent hnode => h base exponent (hnode.of_child among)

lemma evaluate_reread (angle : Float) : (e : Expr) → e.validate = .ok () →
    (∀ v ∈ e.literals, Double.code v < Double.infinity) → e.UnsignedBases →
    e.reread.evaluate angle = e.evaluate angle
  | .literal value, _, hl, _ => by
    have hfinite := hl value (by simp [literals])
    by_cases hsign : Double.isNegative value = true
    · rw [reread_signed hsign, evaluate, evaluate, evaluate]
      exact congrArg Except.ok (Double.neg_magnitude hsign hfinite)
    · rw [Bool.not_eq_true] at hsign
      rw [reread_literal hsign]
  | .theta, _, _, _ => rfl
  | .unary op argument, hv, hl, hb => by
    rw [validate] at hv
    rw [literals] at hl
    have ih := evaluate_reread angle argument hv hl (hb.of_child (by simp [children]))
    rw [reread, evaluate, evaluate, ih]
  | .binary op left right, hv, hl, hb => by
    obtain ⟨hleft, hright⟩ := validate_of_binary hv
    rw [literals] at hl
    have ihl := evaluate_reread angle left hleft (fun v hmem => hl v (List.mem_append_left _ hmem))
      (hb.of_child (by simp [children]))
    have ihr := evaluate_reread angle right hright
      (fun v hmem => hl v (List.mem_append_right _ hmem)) (hb.of_child (by simp [children]))
    have hplain : op = .pow → ¬ left.SignedLiteral := by
      rintro rfl
      exact hb left right .root
    rw [reread_binary hplain, evaluate, evaluate, ihl, ihr]
  | .call callee arguments, hv, hl, hb => by
    obtain ⟨f, argument, rfl, rfl, hargument⟩ := exists_call_of_validate hv
    rw [literals, literalsAll, literalsAll, List.append_nil] at hl
    have ih := evaluate_reread angle argument hargument hl (hb.of_child (by simp [children]))
    rw [reread, rereadAll, rereadAll, evaluate, evaluate, Builtin.ofName?_name]
    dsimp only
    rw [ih]

end Expr

namespace Formula

lemma compile_of_rereads {e : Expr} {d : Derivation .unary} (h : e.Rereads d) :
    (d.cost ≤ maxNesting → compile e.display = .ok ⟨e.display, e.reread⟩) ∧
      (maxNesting < d.cost →
        ∃ position, compile e.display = .error (.parse ⟨.tooDeep, position⟩)) := by
  have hcompile := compile_of_spells (d := .ofUnary d) h.trimmed h.spells
  have htree : (Derivation.ofUnary d).tree = e.reread := h.tree
  rwa [htree] at hcompile

theorem evaluate_compile_display (e : Expr) (hvalid : e.validate = .ok ())
    (hfinite : ∀ v ∈ e.literals, Double.code v < Double.infinity) :
    (compile e.display = .ok ⟨e.display, e.reread⟩ ∨
      ∃ position, compile e.display = .error (.parse ⟨.tooDeep, position⟩)) ∧
    ((Counter.fresh.visit e).deepest ≤ 86 → compile e.display = .ok ⟨e.display, e.reread⟩) ∧
    (e.UnsignedBases → ∀ f angle, compile e.display = .ok f →
      f.tree.evaluate angle = e.evaluate angle) := by
  obtain ⟨d, hd⟩ := e.exists_rereads hvalid hfinite
  obtain ⟨hfit, hdeep⟩ := compile_of_rereads hd
  refine ⟨?_, fun hlevels => ?_, fun hbases f angle hf => ?_⟩
  · rcases Nat.lt_or_ge maxNesting d.cost with hcost | hcost
    · exact Or.inr (hdeep hcost)
    · exact Or.inl (hfit hcost)
  · have hcost := hd.cost
    rw [Counter.deepest_visit_fresh] at hlevels
    apply hfit
    rw [maxNesting]
    omega
  · rcases Nat.lt_or_ge maxNesting d.cost with hcost | hcost
    · obtain ⟨position, herror⟩ := hdeep hcost
      rw [hf] at herror
      cases herror
    · rw [hfit hcost] at hf
      cases hf
      exact e.evaluate_reread angle hvalid hfinite hbases

theorem evaluate_compile_display_power :
    let two : Float := Float.ofBits 0xC000000000000000
    let e : Expr := .binary .pow .theta (.literal two)
    e.validate = .ok () ∧ (∀ v ∈ e.literals, Double.code v < Double.infinity) ∧
      Double.isNegative two = true ∧ e.UnsignedBases ∧
      ∃ f, compile e.display = .ok f ∧ ∀ angle, f.tree.evaluate angle = e.evaluate angle := by
  intro two e
  have hvalid : e.validate = .ok () := rfl
  have hfinite : ∀ v ∈ e.literals, Double.code v < Double.infinity := by
    intro v hv
    obtain rfl : v = two := by simpa [e, Expr.literals] using hv
    decide +kernel
  have hnodes : ∀ n, e.Node n → n = e ∨ n = .theta ∨ n = .literal two := by
    intro n hnode
    induction hnode with
    | root => exact Or.inl rfl
    | child _ among ih =>
      rcases ih with rfl | rfl | rfl
      · exact Or.inr (by simpa [e, Expr.children] using among)
      · cases among
      · cases among
  have hbases : e.UnsignedBases := by
    rintro base exponent hnode ⟨v, rfl, -⟩
    simpa [e] using hnodes _ hnode
  have hlevels : (Counter.fresh.visit e).deepest ≤ 86 := by
    rw [Counter.deepest_visit_fresh]
    decide
  obtain ⟨-, hfit, hvalue⟩ := evaluate_compile_display e hvalid hfinite
  have hcompile := hfit hlevels
  exact ⟨hvalid, hfinite, by decide +kernel, hbases, _, hcompile,
    fun angle => hvalue hbases _ angle hcompile⟩

theorem compile_display_signed_base :
    let two : Float := Float.ofBits 0xC000000000000000
    let e : Expr := .binary .pow (.literal two) (.literal 0)
    e.validate = .ok () ∧ (∀ v ∈ e.literals, Double.code v < Double.infinity) ∧
      e.display = "(-2 ^ 0)" ∧ e.evaluate 0 = .ok 1 ∧
      ∃ f, compile e.display = .ok f ∧ f.tree.evaluate 0 = .ok (-1) ∧ (-1 : Float) ≠ 1 := by
  intro two e
  have hfinite : ∀ v ∈ e.literals, Double.code v < Double.infinity := by
    intro v hv
    obtain rfl | rfl : v = two ∨ v = 0 := by simpa [e, Expr.literals] using hv
    · decide +kernel
    · decide +kernel
  have hsign : Double.isNegative two = true := by decide +kernel
  obtain ⟨d, hd⟩ := e.exists_rereads rfl hfinite
  have hcost : d.cost ≤ maxNesting := by
    have hbound := hd.cost
    have hlevels : e.levels = 2 := by decide
    rw [maxNesting]
    omega
  have hpow (x : Float) : Double.pow x 0 = 1 := by
    rw [Double.pow, if_pos (by decide +kernel)]
  refine ⟨rfl, hfinite, by decide +kernel, congrArg Except.ok (hpow two), _,
    (compile_of_rereads hd).1 hcost, ?_, by decide +kernel⟩
  change e.reread.evaluate 0 = _
  rw [Expr.reread_power hsign, Expr.reread_literal (by decide +kernel)]
  exact congrArg (fun x : Float => Except.ok (-x)) (hpow _)

end Formula

end PolarCurve
