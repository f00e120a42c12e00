import PolarCurve.Proofs.Expr.Node
import PolarCurve.Proofs.Formula.Display

namespace PolarCurve

namespace Expr

lemma validate_of_child {parent child : Expr} (h : parent.validate = .ok ())
    (among : child ∈ parent.children) : child.validate = .ok () := by
  cases parent with
  | literal => cases among
  | theta => cases among
  | unary op argument =>
    rw [validate] at h
    rwa [List.mem_singleton.mp among]
  | binary op left right =>
    obtain ⟨hleft, hright⟩ := validate_of_binary h
    rcases List.mem_cons.mp among with rfl | among
    · exact hleft
    · rwa [List.mem_singleton.mp among]
  | call callee arguments =>
    obtain ⟨f, argument, -, rfl, hargument⟩ := exists_call_of_validate h
    rwa [List.mem_singleton.mp among]

lemma Node.validate {e n : Expr} (hnode : Node e n) (h : e.validate = .ok ()) :
    n.validate = .ok () :=
  hnode.descends (fun _ _ among hparent => validate_of_child hparent among) h

lemma mem_literalsAll {v : Float} {e : Expr} {es : List Expr} (he : e ∈ es) (hv : v ∈ e.literals) :
    v ∈ literalsAll es := by
  induction es with
  | nil => cases he
  | cons d es ih =>
    rw [literalsAll, List.mem_append]
    rcases List.mem_cons.mp he with rfl | he
    · exact Or.inl hv
    · exact Or.inr (ih he)

lemma mem_literals_of_child {v : Float} {parent child : Expr} (among : child ∈ parent.children)
    (hv : v ∈ child.literals) : v ∈ parent.literals := by
  cases parent with
  | literal => cases among
  | theta => cases among
  | unary op argument =>
    rw [literals]
    rwa [List.mem_singleton.mp among] at hv
  | binary op left right =>
    rw [literals, List.mem_append]
    rcases List.mem_cons.mp among with rfl | among
    · exact Or.inl hv
    · rw [List.mem_singleton.mp among] at hv
      exact Or.inr hv
  | call callee arguments =>
    rw [literals]
    exact mem_literalsAll among hv

lemma Node.mem_literals {e n : Expr} {v : Float} (hnode : Node e n) (hv : v ∈ n.literals) :
    v ∈ e.literals :=
  hnode.ascends (fun _ _ among hchild => mem_literals_of_child among hchild) hv

lemma exists_evaluate_of_validate (angle : Float) : (e : Expr) → e.validate = .ok () →
    ∃ x, e.evaluate angle = .ok x
  | .literal value, _ => ⟨value, by rw [evaluate]⟩
  | .theta, _ => ⟨angle, by rw [evaluate]⟩
  | .unary op argument, h => by
    rw [validate] at h
    obtain ⟨x, hx⟩ := exists_evaluate_of_validate angle argument h
    exact ⟨op.apply x, by rw [evaluate, hx]; rfl⟩
  | .binary op left right, h => by
    obtain ⟨hleft, hright⟩ := validate_of_binary h
    obtain ⟨x, hx⟩ := exists_evaluate_of_validate angle left hleft
    obtain ⟨y, hy⟩ := exists_evaluate_of_validate angle right hright
    exact ⟨op.apply x y, by rw [evaluate, hx, hy]; rfl⟩
  | .call callee arguments, h => by
    obtain ⟨f, argument, rfl, rfl, hargument⟩ := exists_call_of_validate h
    obtain ⟨x, hx⟩ := exists_evaluate_of_validate angle argument hargument
    refine ⟨f.apply x, ?_⟩
    rw [evaluate, Builtin.ofName?_name]
    dsimp only
    rw [hx]
    rfl

end Expr

namespace Formula

/-- The formulas that there are: those made by one of the three makers, and copies of formulas. -/
inductive Obtained : Formula → Prop
  | compile {source : String} {f : Formula} (h : Formula.compile source = .ok f) : Obtained f
  | constant (value : Float) : Obtained (.constant value)
  | ofTree {source : String} {tree : Expr} {f : Formula} (h : Formula.ofTree source tree = .ok f) :
      Obtained f
  | copy {f : Formula} (h : Obtained f) : Obtained ⟨f.source, f.tree⟩

lemma validate_of_ofTree {source : String} {tree : Expr} {f : Formula}
    (h : ofTree source tree = .ok f) : f.tree.validate = .ok () := by
  rw [ofTree] at h
  split at h
  · cases h
  · next hvalid =>
    cases h
    exact hvalid

lemma Obtained.validate {f : Formula} (h : Obtained f) : f.tree.validate = .ok () := by
  induction h with
  | compile h => exact validate_of_compile h
  | constant value => rw [Formula.constant, Expr.validate]
  | ofTree h => exact validate_of_ofTree h
  | copy _ ih => exact ih

theorem value_of_obtained :
    (∀ f, Obtained f → f.tree.validate = .ok () ∧
      ∀ angle, ∃ x, f.value? angle = .ok x ∧ f.value angle = x ∧ f.function angle = x) ∧
    ∀ source f, compile source = .ok f →
      (∀ callee arguments, f.tree.Node (.call callee arguments) →
        ∃ (function : Builtin) (argument : Expr), callee = function.name ∧ arguments = [argument]) ∧
      ∀ v, f.tree.Node (.literal v) → v.isNaN = false ∧ Double.isNegative v = false := by
  refine ⟨fun f hf => ⟨hf.validate, fun angle => ?_⟩, fun source f hf => ⟨?_, ?_⟩⟩
  · obtain ⟨x, hx⟩ := Expr.exists_evaluate_of_validate angle f.tree hf.validate
    have hvalue : f.value? angle = .ok x := hx
    refine ⟨x, hvalue, ?_, ?_⟩
    · rw [value, hvalue]
    · rw [function]
      dsimp only
      rw [hx]
  · intro callee arguments hnode
    obtain ⟨function, argument, hcallee, harguments, -⟩ :=
      Expr.exists_call_of_validate (hnode.validate (validate_of_compile hf))
    exact ⟨function, argument, hcallee, harguments⟩
  · intro v hnode
    have hv : v ∈ f.tree.literals := hnode.mem_literals (by simp [Expr.literals])
    obtain ⟨n, hn, rfl⟩ := exists_code_of_compile hf v hv
    exact ⟨Double.isNaN_ofCode hn, Double.isNegative_ofCode hn⟩

theorem value_of_obtained_signed_call :
    let f : Formula := ⟨"-sin(theta)", .unary .minus (.call "sin" [.theta])⟩
    compile "-sin(theta)" = .ok f ∧
      (∀ angle, ∃ x, f.value? angle = .ok x ∧ f.value angle = x ∧ f.function angle = x) ∧
      f.tree.Node (.call "sin" [.theta]) ∧
      ∃ (function : Builtin) (argument : Expr), "sin" = function.name ∧ [.theta] = [argument] := by
  intro f
  have htrimmed : Trimmed "-sin(theta)".toList :=
    ⟨⟨'-', _, rfl, by decide, by decide⟩, "-sin(theta".toList, ')', rfl, by decide⟩
  have hlex : Token.lex Location.start "-sin(theta)".toList =
      .ok [⟨.mark .minus, "-", ⟨1, 1, 0⟩⟩, ⟨.name "sin", "sin", ⟨1, 2, 1⟩⟩,
        ⟨.mark .left, "(", ⟨1, 5, 4⟩⟩, ⟨.name "theta", "theta", ⟨1, 6, 5⟩⟩,
        ⟨.mark .right, ")", ⟨1, 11, 10⟩⟩, ⟨.ending, "", ⟨1, 12, 11⟩⟩] := by cbv
  have h : compile "-sin(theta)" = .ok f := compile_eq_ok htrimmed hlex rfl
  have hnode : f.tree.Node (.call "sin" [.theta]) := .child .root (List.mem_singleton_self _)
  refine ⟨h, (value_of_obtained.1 f (.compile h)).2, hnode, ?_⟩
  exact (value_of_obtained.2 _ f h).1 _ _ hnode

end Formula

end PolarCurve
