import PolarCurve.Proofs.Formula.Display
import PolarCurve.Proofs.Formula.Frame
import PolarCurve.Proofs.Token.Embedding

/-! In parentheses a formula stands for its own tree in any larger formula that has room for it. -/

namespace PolarCurve

open Grammar

namespace Formula

def ReadableAt (depth : Nat) (source : String) : Prop :=
  ∃ ts e rest, Token.lex Location.start source.toList = .ok ts ∧
    Production.expression.read depth ts = .ok (e, rest)

def CompilesIf (condition : Prop) (source : String) (tree : Expr) : Prop :=
  (condition → compile source = .ok ⟨source, tree⟩) ∧
    (¬ condition → ∃ position, compile source = .error (.parse ⟨.tooDeep, position⟩))

structure Derived (source : String) (d : Derivation .expression) : Prop where
  spells : Spells source.toList d.row
  readableAt : ∀ depth ≤ maxNesting, ReadableAt depth source ↔ depth + d.cost ≤ maxNesting

lemma read_eq {depth : Nat} (h : depth ≤ maxNesting) :
    Production.expression.read depth = Phrase.expression.read (maxNesting - depth) := by
  have hroom : maxNesting + 1 - depth = maxNesting - depth + 1 := Nat.succ_sub h
  rw [Production.read, hroom]
  rfl

lemma not_isSpacing_getLast? {cs : List Char} (h : Bare cs) :
    ∀ c ∈ cs.getLast?, PieceKind.isSpacing c = false := by
  intro c hc
  rw [Bool.eq_false_iff]
  intro hspacing
  have hblank := h.last c hc
  rw [isBlank_of_isSpacing hspacing] at hblank
  cases hblank

lemma readableAt_iff {source : String} {body : List Token} {spent : Token}
    {d : Derivation .expression} (hlex : Token.lex Location.start source.toList = .ok (body ++ [spent]))
    (hspent : spent.kind = .ending) (hbody : body.map Token.kind = d.row) {depth : Nat}
    (hdepth : depth ≤ maxNesting) :
    ReadableAt depth source ↔ depth + d.cost ≤ maxNesting := by
  have hsize : Row.size [spent] = 0 := size_eq_zero_iff.mpr (Or.inr ⟨_, hspent, rfl⟩)
  obtain ⟨hfit, hdeep⟩ := d.readable (maxNesting - depth) body [spent] hbody (stops_of_spent hsize)
  rw [← read_eq hdepth] at hfit hdeep
  constructor
  · rintro ⟨ts, e, rest, hts, hread⟩
    obtain rfl := Except.ok.inj (hlex.symm.trans hts)
    apply Nat.le_of_not_lt
    intro hlt
    obtain ⟨position, hdeep⟩ := hdeep (by omega)
    rw [hread] at hdeep
    cases hdeep
  · intro hcost
    exact ⟨_, _, _, hlex, hfit (by omega)⟩

lemma exists_derived {source : String} {f : Formula}
    (hbody : unframe source.toList = ([], source.toList)) (h : compile source = .ok f) :
    ∃ d, Derived source d ∧ d.tree = f.tree := by
  have hframe := framed_unframe source.toList
  rw [hbody] at hframe
  simp only [compile, hbody] at h
  split at h
  · cases h
  · next ts hlex =>
    split at h
    · cases h
    · next tree htree =>
      cases h
      obtain ⟨items, hscan, rfl⟩ := Token.lex_eq_ok_iff.mp hlex
      obtain ⟨d, us, spent, hsplit, hspent, hus, rfl, -⟩ := exists_derivation_of_ofTokens htree
      have hitems : items.map Token.kind = d.row := by
        obtain rfl | ⟨t, ht, rfl⟩ := size_eq_zero_iff.mp hspent
        · rw [List.append_nil] at hsplit
          have hmem : TokenKind.ending ∈ d.row := by
            rw [← hus, ← hsplit]
            simp
          exact (d.ending_not_mem_row hmem).elim
        · rw [(List.append_inj' hsplit rfl).1, hus]
      have hspells := Spells.of_scan (not_isSpacing_getLast? hframe.bare) hscan
      rw [hitems] at hspells
      exact ⟨d, ⟨hspells, fun depth hdepth => readableAt_iff hlex rfl hitems hdepth⟩, rfl⟩

lemma compilesIf_of_spells {condition : Prop} {source : String} {d : Derivation .expression}
    (htrimmed : Trimmed source.toList) (hspells : Spells source.toList d.row)
    (hcondition : condition ↔ d.cost ≤ maxNesting) : CompilesIf condition source d.tree := by
  obtain ⟨hfit, hdeep⟩ := compile_of_spells htrimmed hspells
  exact ⟨fun h => hfit (hcondition.mp h), fun h => hdeep (Nat.lt_of_not_le (mt hcondition.mpr h))⟩

section Parts

variable {a b : String} {d e : Derivation .expression}

lemma Derived.spells_bracketed (h : Derived a d) :
    Spells ('(' :: (a.toList ++ [')'])) (Derivation.bracketed d).row :=
  .mark_cons .left h.spells.closed

lemma compilesIf_bracketed (h : Derived a d) :
    CompilesIf (ReadableAt 1 a) ("(" ++ a ++ ")") d.tree := by
  have htext : ("(" ++ a ++ ")").toList = '(' :: (a.toList ++ [')']) := by simp
  apply compilesIf_of_spells (d := .ofUnary (.ofPrimary (.bracketed d)))
  · rw [htext]
    exact .of_closed rfl (by decide) _
  · rw [htext]
    exact h.spells_bracketed
  · exact h.readableAt 1 (by decide)

lemma compilesIf_signed (h : Derived a d) (op : UnaryOp) :
    CompilesIf (ReadableAt 2 a) (op.symbol ++ "(" ++ a ++ ")") (.unary op d.tree) := by
  have htext : (op.symbol ++ "(" ++ a ++ ")").toList = op.mark.char :: ('(' :: a.toList ++ [')']) := by
    cases op <;> simp [UnaryOp.symbol, UnaryOp.mark, Mark.char]
  apply compilesIf_of_spells (d := .ofUnary (.signed op (.ofPrimary (.bracketed d))))
  · rw [htext]
    cases op <;> exact .of_closed rfl (by decide) _
  · rw [htext]
    exact .mark_cons op.mark h.spells_bracketed
  · rw [h.readableAt 2 (by decide)]
    simp only [Derivation.cost]
    omega

lemma compilesIf_call (h : Derived a d) (f : Builtin) :
    CompilesIf (ReadableAt 1 a) (f.name ++ "(" ++ a ++ ")") (.call f.name [d.tree]) := by
  obtain ⟨c, cs, hname, -, -, hblank, hr⟩ := f.exists_toList_name
  have htext : (f.name ++ "(" ++ a ++ ")").toList = f.name.toList ++ '(' :: (a.toList ++ [')']) := by
    simp
  apply compilesIf_of_spells (d := .ofUnary (.ofPrimary (.call f d)))
  · have htrimmed := Trimmed.of_closed hblank hr (cs ++ '(' :: a.toList)
    rw [List.append_assoc] at htrimmed
    rw [htext, hname]
    exact htrimmed
  · rw [htext]
    exact f.spells_name.append (.mark_cons .left h.spells.closed) fun rest => parted_mark .left _
  · exact h.readableAt 1 (by decide)

lemma compilesIf_binary (ha : Derived a d) (hb : Derived b e) (op : BinaryOp) :
    CompilesIf (ReadableAt 1 a ∧ ReadableAt 2 b) ("(" ++ a ++ ")" ++ op.symbol ++ "(" ++ b ++ ")")
      (.binary op d.tree e.tree) := by
  obtain ⟨whole, hrow, htree, hcost⟩ := Derivation.exists_binary op (.bracketed d) (.bracketed e)
  have htext : ("(" ++ a ++ ")" ++ op.symbol ++ "(" ++ b ++ ")").toList =
      '(' :: (a.toList ++ [')']) ++ op.mark.char :: '(' :: (b.toList ++ [')']) := by
    cases op <;> simp [BinaryOp.symbol, BinaryOp.mark, Mark.char]
  have htree' : whole.tree = .binary op d.tree e.tree := htree
  rw [← htree']
  apply compilesIf_of_spells
  · rw [htext]
    have htrimmed := Trimmed.of_closed (rfl : Text.isBlank '(' = false) (by decide)
      (a.toList ++ [')'] ++ op.mark.char :: '(' :: b.toList)
    simpa using htrimmed
  · rw [htext, hrow]
    exact ha.spells_bracketed.append (.mark_cons op.mark hb.spells_bracketed)
      fun rest => parted_mark op.mark _
  · rw [ha.readableAt 1 (by decide), hb.readableAt 2 (by decide), hcost]
    simp only [Derivation.cost]
    omega

end Parts

theorem compile_composed {a b : String} {f g : Formula}
    (ha : unframe a.toList = ([], a.toList)) (hb : unframe b.toList = ([], b.toList))
    (hf : compile a = .ok f) (hg : compile b = .ok g) :
    CompilesIf (ReadableAt 1 a) ("(" ++ a ++ ")") f.tree ∧
      (∀ op : BinaryOp, CompilesIf (ReadableAt 1 a ∧ ReadableAt 2 b)
        ("(" ++ a ++ ")" ++ op.symbol ++ "(" ++ b ++ ")") (.binary op f.tree g.tree)) ∧
      (∀ sign : UnaryOp, CompilesIf (ReadableAt 2 a) (sign.symbol ++ "(" ++ a ++ ")")
        (.unary sign f.tree)) ∧
      ∀ function : Builtin, CompilesIf (ReadableAt 1 a) (function.name ++ "(" ++ a ++ ")")
        (.call function.name [f.tree]) := by
  obtain ⟨d, hd, hdtree⟩ := exists_derived ha hf
  obtain ⟨e, he, hetree⟩ := exists_derived hb hg
  rw [← hdtree, ← hetree]
  exact ⟨compilesIf_bracketed hd, compilesIf_binary hd he, compilesIf_signed hd, compilesIf_call hd⟩

theorem compile_composed_power :
    let left : Expr := .binary .sub (.literal Double.pi) .theta
    unframe "pi-theta".toList = ([], "pi-theta".toList) ∧
      unframe "theta".toList = ([], "theta".toList) ∧
      compile "pi-theta" = .ok ⟨"pi-theta", left⟩ ∧ compile "theta" = .ok ⟨"theta", .theta⟩ ∧
      compile "(pi-theta)^(theta)" = .ok ⟨"(pi-theta)^(theta)", .binary .pow left .theta⟩ := by
  intro left
  have hf : unframe "pi-theta".toList = ([], "pi-theta".toList) := trimmed_difference.unframe_eq
  have hg : unframe "theta".toList = ([], "theta".toList) := trimmed_theta.unframe_eq
  have hreadable : ReadableAt 1 "pi-theta" ∧ ReadableAt 2 "theta" :=
    ⟨⟨_, _, _, lex_difference, rfl⟩, ⟨_, _, _, lex_theta, rfl⟩⟩
  have hcomposed := compile_composed hf hg compile_difference compile_theta
  exact ⟨hf, hg, compile_difference, compile_theta, (hcomposed.2.1 .pow).1 hreadable⟩

end Formula

end PolarCurve
