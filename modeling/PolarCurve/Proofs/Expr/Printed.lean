import PolarCurve.Proofs.Expr.Levels
import PolarCurve.Proofs.Formula.Compile
import PolarCurve.Proofs.Grammar.Derivation
import PolarCurve.Proofs.Token.Spelling

namespace PolarCurve

open PieceKind Text

lemma not_isBlank_of_isNumeral {c : Char} (h : isNumeral c = true) : isBlank c = false := by
  rcases isNumeral_iff.mp h with h | rfl
  · have hlow : 48 ≤ c.toNat ∧ c.toNat ≤ 57 := by
      simpa [Char.isDigit, UInt32.le_iff_toNat_le] using h
    simp [isBlank, blankRanges]
    omega
  · rfl

lemma isBlank_of_isSpacing {c : Char} (h : isSpacing c = true) : isBlank c = true := by
  simp only [isSpacing, Bool.or_eq_true, decide_eq_true_eq] at h
  rcases h with (((rfl | rfl) | rfl) | rfl) | rfl <;> decide

namespace Trimmed

lemma of_numerals {cs : List Char} (hne : cs ≠ []) (h : ∀ c ∈ cs, isNumeral c = true) :
    Trimmed cs where
  first := by
    obtain ⟨c, ds, rfl⟩ := List.exists_cons_of_ne_nil hne
    have hc := h c List.mem_cons_self
    refine ⟨c, ds, rfl, not_isBlank_of_isNumeral hc, ?_⟩
    rintro rfl
    cases hc
  last := by
    rcases List.eq_nil_or_concat cs with rfl | ⟨ds, c, hcs⟩
    · exact (hne rfl).elim
    · rw [List.concat_eq_append] at hcs
      exact ⟨ds, c, hcs, not_isBlank_of_isNumeral (h c (by simp [hcs]))⟩

lemma of_closed {c : Char} (hb : isBlank c = false) (hr : c ≠ 'r') (cs : List Char) :
    Trimmed (c :: (cs ++ [')'])) where
  first := ⟨c, _, rfl, hb, hr⟩
  last := ⟨c :: cs, ')', rfl, rfl⟩

end Trimmed

namespace Expr

mutual

def literals : Expr → List Float
  | literal value => [value]
  | theta => []
  | unary _ argument => literals argument
  | binary _ left right => literals left ++ literals right
  | call _ arguments => literalsAll arguments

def literalsAll : List Expr → List Float
  | [] => []
  | e :: es => literals e ++ literalsAll es

end

inductive Printable : Expr → Prop
  | literal {value : Float} : Double.code value < Double.infinity →
      Double.isNegative value = false → Printable (.literal value)
  | theta : Printable .theta
  | unary (op : UnaryOp) {argument : Expr} : Printable argument → Printable (.unary op argument)
  | binary (op : BinaryOp) {left right : Expr} : Printable left → Printable right →
      Printable (.binary op left right)
  | call (function : Builtin) {argument : Expr} : Printable argument →
      Printable (.call function.name [argument])

lemma exists_call_of_validate {callee : String} {arguments : List Expr}
    (h : (call callee arguments).validate = .ok ()) :
    ∃ (f : Builtin) (argument : Expr), callee = f.name ∧ arguments = [argument] ∧
      argument.validate = .ok () := by
  rw [validate] at h
  split at h
  · cases h
  · next f hf =>
    split at h
    · cases h
    · next hlen =>
      obtain ⟨argument, rfl⟩ : ∃ argument, arguments = [argument] := by
        apply List.length_eq_one_iff.mp
        simpa [Builtin.arity] using hlen
      refine ⟨f, argument, (Builtin.name_of_ofName? hf).symm, rfl, ?_⟩
      rw [validateAll, validateAll] at h
      cases hv : argument.validate with
      | error fault =>
        rw [hv] at h
        cases h
      | ok _ => rfl

lemma validate_of_binary {op : BinaryOp} {left right : Expr}
    (h : (binary op left right).validate = .ok ()) :
    left.validate = .ok () ∧ right.validate = .ok () := by
  rw [validate] at h
  cases hl : left.validate with
  | error fault =>
    rw [hl] at h
    cases h
  | ok _ =>
    rw [hl] at h
    exact ⟨rfl, h⟩

lemma printable_of_validate : (e : Expr) → e.validate = .ok () →
    (∀ v ∈ e.literals, Double.code v < Double.infinity ∧ Double.isNegative v = false) →
    Printable e
  | .literal value, _, hl => by
    obtain ⟨hfinite, hsign⟩ := hl value (by simp [literals])
    exact .literal hfinite hsign
  | .theta, _, _ => .theta
  | .unary op argument, hv, hl => by
    rw [validate] at hv
    rw [literals] at hl
    exact .unary op (printable_of_validate argument hv hl)
  | .binary op left right, hv, hl => by
    obtain ⟨hleft, hright⟩ := validate_of_binary hv
    rw [literals] at hl
    exact .binary op
      (printable_of_validate left hleft fun v hmem => hl v (List.mem_append_left _ hmem))
      (printable_of_validate right hright fun v hmem => hl v (List.mem_append_right _ hmem))
  | .call callee arguments, hv, hl => by
    obtain ⟨f, argument, rfl, rfl, hargument⟩ := exists_call_of_validate hv
    rw [literals, literalsAll, literalsAll, List.append_nil] at hl
    exact .call f (printable_of_validate argument hargument hl)

end Expr

namespace Grammar.Derivation

lemma exists_binary (op : BinaryOp) (left right : Derivation .primary) :
    ∃ d : Derivation .expression, d.row = left.row ++ .mark op.mark :: right.row ∧
      d.tree = .binary op left.tree right.tree ∧ d.cost = max left.cost (1 + right.cost) := by
  let sum (links : ChainKind.sums.Links op) : Derivation .expression :=
    .whole (.next (.first .sums (ofFactor (ofPrimary left))) op links (ofFactor (ofPrimary right)))
  let product (links : ChainKind.products.Links op) : Derivation .expression :=
    .whole (.first .sums
      (.whole (.next (.first .products (ofPrimary left)) op links (ofPrimary right))))
  cases op with
  | add => exact ⟨sum (Or.inl rfl), rfl, rfl, rfl⟩
  | sub => exact ⟨sum (Or.inr rfl), rfl, rfl, rfl⟩
  | mul => exact ⟨product (Or.inl rfl), rfl, rfl, rfl⟩
  | div => exact ⟨product (Or.inr rfl), rfl, rfl, rfl⟩
  | pow => exact ⟨ofUnary (.unsigned (.raised left (ofPrimary right))), rfl, rfl, rfl⟩

end Grammar.Derivation

namespace Expr

lemma toList_display_unary (op : UnaryOp) (argument : Expr) :
    (unary op argument).display.toList =
      '(' :: (op.mark.char :: argument.display.toList ++ [')']) := by
  cases op <;> simp [display, UnaryOp.symbol, UnaryOp.mark, Mark.char]

lemma toList_display_binary (op : BinaryOp) (left right : Expr) :
    (binary op left right).display.toList =
      '(' :: (left.display.toList ++ ' ' :: op.mark.char :: ' ' :: right.display.toList ++ [')']) := by
  cases op <;> simp [display, BinaryOp.symbol, BinaryOp.mark, Mark.char]

lemma toList_display_call (callee : String) (argument : Expr) :
    (call callee [argument]).display.toList =
      callee.toList ++ '(' :: (argument.display.toList ++ [')']) := by
  simp [display, displayAll]

end Expr

lemma Builtin.exists_toList_name (f : Builtin) : ∃ c cs, f.name.toList = c :: cs ∧
    PieceKind.ofChar c = .name ∧ cs.all isNamePart = true ∧ isBlank c = false ∧ c ≠ 'r' := by
  cases f <;> exact ⟨_, _, rfl, rfl, rfl, rfl, by decide⟩

lemma Builtin.spells_name (f : Builtin) : Spells f.name.toList [.name f.name] := by
  obtain ⟨c, cs, hname, hkind, hcs, -⟩ := f.exists_toList_name
  have h := Spells.name hkind hcs
  rw [← hname, String.ofList_toList] at h
  exact h

lemma Spells.closed {cs : List Char} {ks : List TokenKind} (h : Spells cs ks) :
    Spells (cs ++ [')']) (ks ++ [.mark .right]) :=
  h.append (.mark_cons .right .nil) fun rest => parted_mark .right rest

lemma Spells.spaced {cs : List Char} {ks : List TokenKind} (h : Spells cs ks)
    (hcs : Trimmed cs) : Spells (' ' :: cs) ks := by
  obtain ⟨c, ds, rfl, hblank, -⟩ := hcs.first
  apply h.space_cons
  rw [Bool.eq_false_iff]
  intro hspacing
  rw [isBlank_of_isSpacing hspacing] at hblank
  cases hblank

namespace Expr

open Grammar

structure Printed (e : Expr) (d : Derivation .primary) : Prop where
  tree : d.tree = e
  cost : d.cost + 2 ≤ 2 * e.levels
  spells : Spells e.display.toList d.row
  trimmed : Trimmed e.display.toList

lemma printed_literal {value : Float} (hfinite : Double.code value < Double.infinity)
    (hsign : Double.isNegative value = false) : Printed (literal value) (.number value) := by
  have hw := Double.writes_text hfinite hsign
  have htext : (literal value).display.toList = Style.plain.text value := by
    simp [display, Double.text]
  have hspells := Spells.numeral hw
  rw [Double.ofCode_code hsign] at hspells
  refine ⟨rfl, Nat.le_refl _, htext ▸ hspells, ?_⟩
  rw [htext]
  apply Trimmed.of_numerals
  · obtain ⟨c, hc, -⟩ := hw.digit
    exact List.ne_nil_of_mem hc
  · exact fun c hc => isNumeral_iff.mpr (hw.numeral c hc)

lemma printed_theta : Printed theta .theta := by
  have htext : theta.display.toList = ['t', 'h', 'e', 't', 'a'] := by simp [display]
  have hspells : Spells ['t', 'h', 'e', 't', 'a'] [.name "theta"] := Spells.name rfl rfl
  refine ⟨rfl, Nat.le_refl _, htext ▸ hspells, ?_⟩
  rw [htext]
  exact ⟨⟨_, _, rfl, rfl, by decide⟩, ⟨['t', 'h', 'e', 't'], 'a', rfl, rfl⟩⟩

variable {argument left right : Expr}

section Spelling

variable {ks ls : List TokenKind}

lemma spells_unary (op : UnaryOp) (h : Spells argument.display.toList ks) :
    Spells (unary op argument).display.toList
      (.mark .left :: (.mark op.mark :: ks ++ [.mark .right])) := by
  rw [toList_display_unary]
  exact .mark_cons .left (.closed (.mark_cons op.mark h))

lemma spells_binary (op : BinaryOp) (hl : Spells left.display.toList ks)
    (hr : Spells right.display.toList ls) (htrimmed : Trimmed right.display.toList) :
    Spells (binary op left right).display.toList
      (.mark .left :: (ks ++ .mark op.mark :: ls ++ [.mark .right])) := by
  have hspells := hl.append
    (.space_cons (.mark_cons op.mark (hr.spaced htrimmed)) (by cases op <;> rfl))
    fun rest => parted_space _
  rw [toList_display_binary]
  exact .mark_cons .left (.closed hspells)

lemma spells_call (f : Builtin) (h : Spells argument.display.toList ks) :
    Spells (call f.name [argument]).display.toList
      (.name f.name :: .mark .left :: (ks ++ [.mark .right])) := by
  rw [toList_display_call]
  exact f.spells_name.append (.mark_cons .left h.closed) fun rest => parted_mark .left _

end Spelling

lemma trimmed_unary (op : UnaryOp) (argument : Expr) :
    Trimmed (unary op argument).display.toList := by
  rw [toList_display_unary]
  exact .of_closed rfl (by decide) _

lemma trimmed_binary (op : BinaryOp) (left right : Expr) :
    Trimmed (binary op left right).display.toList := by
  rw [toList_display_binary]
  exact .of_closed rfl (by decide) _

lemma trimmed_call (f : Builtin) (argument : Expr) :
    Trimmed (call f.name [argument]).display.toList := by
  obtain ⟨c, cs, hname, -, -, hblank, hr⟩ := f.exists_toList_name
  rw [toList_display_call, hname]
  have htrimmed := Trimmed.of_closed hblank hr (cs ++ '(' :: argument.display.toList)
  rw [List.append_assoc] at htrimmed
  exact htrimmed

lemma printed_unary (op : UnaryOp) {d : Derivation .primary} (h : Printed argument d) :
    Printed (unary op argument) (.bracketed (.ofUnary (.signed op (.ofPrimary d)))) := by
  have hcost := h.cost
  refine ⟨by simp only [Derivation.tree, h.tree], ?_, spells_unary op h.spells, trimmed_unary op _⟩
  simp only [Derivation.cost, levels]
  omega

lemma printed_binary (op : BinaryOp) {l r : Derivation .primary} (hl : Printed left l)
    (hr : Printed right r) : ∃ d, Printed (binary op left right) d := by
  obtain ⟨d, hrow, htree, hcost⟩ := Derivation.exists_binary op l r
  have hlc := hl.cost
  have hrc := hr.cost
  refine ⟨.bracketed d, ?_, ?_, ?_, trimmed_binary op _ _⟩
  · rw [Derivation.tree, htree, hl.tree, hr.tree]
  · simp only [Derivation.cost, levels, hcost]
    omega
  · rw [Derivation.row, hrow]
    exact spells_binary op hl.spells hr.spells hr.trimmed

lemma printed_call (f : Builtin) {d : Derivation .primary} (h : Printed argument d) :
    Printed (call f.name [argument]) (.call f (.ofUnary (.ofPrimary d))) := by
  have hcost := h.cost
  refine ⟨by simp only [Derivation.tree, h.tree], ?_, spells_call f h.spells, trimmed_call f _⟩
  simp only [Derivation.cost, levels, levelsAll]
  omega

theorem Printable.exists_printed {e : Expr} (h : Printable e) : ∃ d, Printed e d := by
  induction h with
  | literal hfinite hsign => exact ⟨_, printed_literal hfinite hsign⟩
  | theta => exact ⟨_, printed_theta⟩
  | unary op _ ih =>
    obtain ⟨d, hd⟩ := ih
    exact ⟨_, printed_unary op hd⟩
  | binary op _ _ ihl ihr =>
    obtain ⟨l, hl⟩ := ihl
    obtain ⟨r, hr⟩ := ihr
    exact printed_binary op hl hr
  | call f _ ih =>
    obtain ⟨d, hd⟩ := ih
    exact ⟨_, printed_call f hd⟩

end Expr

end PolarCurve
