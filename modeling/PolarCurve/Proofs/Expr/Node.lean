import PolarCurve.Expr
import Mathlib.Tactic.Lemma

namespace PolarCurve.Expr

inductive Node (e : Expr) : Expr → Prop
  | root : Node e e
  | child {parent child : Expr} (h : Node e parent) (among : child ∈ parent.children) : Node e child

namespace Node

variable {e n : Expr} {P : Expr → Prop}

lemma of_child {child : Expr} (h : Node child n) (among : child ∈ e.children) : Node e n := by
  induction h with
  | root => exact .child .root among
  | child _ among' ih => exact .child ih among'

lemma descends (h : Node e n) (hstep : ∀ parent, ∀ child ∈ parent.children, P parent → P child)
    (he : P e) : P n := by
  induction h with
  | root => exact he
  | child _ among ih => exact hstep _ _ among ih

lemma ascends (h : Node e n) (hstep : ∀ parent, ∀ child ∈ parent.children, P child → P parent)
    (hn : P n) : P e := by
  induction h with
  | root => exact hn
  | child _ among ih => exact ih (hstep _ _ among hn)

end Node

mutual

theorem of_children {P : Expr → Prop} (hstep : ∀ e, (∀ child ∈ e.children, P child) → P e) :
    (e : Expr) → P e
  | .literal value => hstep _ (by simp [children])
  | .theta => hstep _ (by simp [children])
  | .unary op argument => hstep _ (by simpa [children] using of_children hstep argument)
  | .binary op left right =>
    hstep _ (by simpa [children] using ⟨of_children hstep left, of_children hstep right⟩)
  | .call callee arguments => hstep _ (forall_of_children hstep arguments)

theorem forall_of_children {P : Expr → Prop}
    (hstep : ∀ e, (∀ child ∈ e.children, P child) → P e) : (es : List Expr) → ∀ e ∈ es, P e
  | [] => by simp
  | e :: es => List.forall_mem_cons.mpr ⟨of_children hstep e, forall_of_children hstep es⟩

end

end PolarCurve.Expr
