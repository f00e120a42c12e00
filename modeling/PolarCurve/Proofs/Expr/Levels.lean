import PolarCurve.Expr.Census
import PolarCurve.Expr.Document
import PolarCurve.Expr.Outline
import PolarCurve.Expr.Value
import Mathlib.Tactic.Lemma

/-! The levels of an expression are the nested steps that a fold over it takes. -/

namespace PolarCurve.Expr

mutual

def levels : Expr → Nat
  | literal _ => 1
  | theta => 1
  | unary _ argument => levels argument + 1
  | binary _ left right => max (levels left) (levels right) + 1
  | call _ arguments => levelsAll arguments + 1

def levelsAll : List Expr → Nat
  | [] => 0
  | e :: es => max (levels e) (levelsAll es)

end

lemma levels_eq (e : Expr) : e.levels = levelsAll e.children + 1 := by
  cases e <;> simp [levels, levelsAll, children]

end PolarCurve.Expr

namespace PolarCurve.Counter

mutual

lemma visit_levels (c : Counter) : (e : Expr) →
    (c.visit e).deepest = max c.deepest (c.depth + e.levels) ∧ (c.visit e).depth = c.depth
  | .literal _ => by simp [visit, enter, leave, Expr.levels]
  | .theta => by simp [visit, enter, leave, Expr.levels]
  | .unary _ argument => by
    obtain ⟨hdeep, hdepth⟩ := visit_levels c.enter argument
    simp only [visit, leave, Expr.levels, hdeep, hdepth]
    simp only [enter]
    omega
  | .binary _ left right => by
    obtain ⟨hdeep, hdepth⟩ := visit_levels c.enter left
    obtain ⟨hdeep', hdepth'⟩ := visit_levels (c.enter.visit left) right
    simp only [visit, leave, Expr.levels, hdeep, hdepth, hdeep', hdepth']
    simp only [enter]
    omega
  | .call _ arguments => by
    have henter : c.enter.depth ≤ c.enter.deepest := by simp only [enter]; omega
    obtain ⟨hdeep, hdepth⟩ := visitAll_levels c.enter henter arguments
    simp only [visit, leave, Expr.levels, hdeep, hdepth]
    simp only [enter]
    omega

lemma visitAll_levels (c : Counter) (hc : c.depth ≤ c.deepest) : (es : List Expr) →
    (c.visitAll es).deepest = max c.deepest (c.depth + Expr.levelsAll es) ∧
      (c.visitAll es).depth = c.depth
  | [] => by
    simp only [visitAll, Expr.levelsAll, and_true]
    omega
  | e :: es => by
    obtain ⟨hdeep, hdepth⟩ := visit_levels c e
    obtain ⟨hdeep', hdepth'⟩ := visitAll_levels (c.visit e) (by omega) es
    simp only [visitAll, Expr.levelsAll, hdeep, hdepth, hdeep', hdepth', and_true]
    omega

end

lemma deepest_visit_fresh (e : Expr) : (fresh.visit e).deepest = e.levels := by
  rw [(visit_levels fresh e).1]
  simp [fresh]

end PolarCurve.Counter

namespace PolarCurve.Expr

inductive Head
  | literal (value : Float)
  | theta
  | unary (op : UnaryOp)
  | binary (op : BinaryOp)
  | call (callee : String)

def head : Expr → Head
  | literal value => .literal value
  | theta => .theta
  | unary op _ => .unary op
  | binary op _ _ => .binary op
  | call callee _ => .call callee

section Folds

variable {α : Type}

/-- Folds an expression when its steps nest no deeper than a bound. -/
def foldWithin (step : Head → List α → α) : Nat → Expr → Option α
  | 0, _ => none
  | n + 1, e => (e.children.mapM (foldWithin step n)).map (step e.head)

def IsFold (f : Expr → α) (step : Head → List α → α) : Prop :=
  ∀ e, f e = step e.head (e.children.map f)

lemma mapM_eq_of_forall {β : Type} {f : β → Option α} {g : β → α} {es : List β}
    (h : ∀ e ∈ es, f e = some (g e)) : es.mapM f = some (es.map g) := by
  induction es with
  | nil => rfl
  | cons e es ih =>
    rw [List.mapM_cons, h e List.mem_cons_self,
      ih fun e he => h e (List.mem_cons_of_mem _ he)]
    rfl

lemma levels_le_levelsAll {e : Expr} {es : List Expr} (h : e ∈ es) :
    e.levels ≤ levelsAll es := by
  induction es with
  | nil => cases h
  | cons d es ih =>
    rw [levelsAll]
    rcases List.mem_cons.mp h with rfl | h
    · exact Nat.le_max_left _ _
    · exact Nat.le_trans (ih h) (Nat.le_max_right _ _)

lemma exists_levels_eq {es : List Expr} (h : es ≠ []) : ∃ e ∈ es, e.levels = levelsAll es := by
  induction es with
  | nil => exact (h rfl).elim
  | cons e es ih =>
    rw [levelsAll]
    by_cases hes : es = []
    · exact ⟨e, List.mem_cons_self, by simp [hes, levelsAll]⟩
    · obtain ⟨d, hd, hlevels⟩ := ih hes
      rcases Nat.le_total e.levels (levelsAll es) with hle | hle
      · exact ⟨d, List.mem_cons_of_mem _ hd, by omega⟩
      · exact ⟨e, List.mem_cons_self, by omega⟩

lemma mapM_eq_none {β : Type} {f : β → Option α} {es : List β} {e : β} (he : e ∈ es)
    (h : f e = none) : es.mapM f = none := by
  induction es with
  | nil => cases he
  | cons d es ih =>
    rw [List.mapM_cons]
    rcases List.mem_cons.mp he with rfl | he
    · rw [h]
      rfl
    · rw [ih he]
      cases f d <;> rfl

variable {f : Expr → α} {step : Head → List α → α}

theorem foldWithin_eq (hf : IsFold f step) (n : Nat) (e : Expr) :
    foldWithin step n e = if e.levels ≤ n then some (f e) else none := by
  induction n generalizing e with
  | zero =>
    have hpos : ¬ e.levels ≤ 0 := by rw [levels_eq]; omega
    rw [if_neg hpos, foldWithin]
  | succ n ih =>
    rw [foldWithin]
    by_cases hn : e.levels ≤ n + 1
    · have hchildren : e.children.mapM (foldWithin step n) = some (e.children.map f) := by
        apply mapM_eq_of_forall
        intro d hd
        have hle := levels_le_levelsAll hd
        rw [levels_eq] at hn
        rw [ih, if_pos (by omega)]
      rw [if_pos hn, hchildren, Option.map_some, ← hf e]
    · rw [levels_eq] at hn
      have hne : e.children ≠ [] := by
        rintro h
        rw [h, levelsAll] at hn
        omega
      obtain ⟨d, hd, hlevels⟩ := exists_levels_eq hne
      have hnone : e.children.mapM (foldWithin step n) = none := by
        apply mapM_eq_none hd
        rw [ih, if_neg (by omega)]
      rw [levels_eq, if_neg hn, hnone, Option.map_none]

end Folds

end PolarCurve.Expr
