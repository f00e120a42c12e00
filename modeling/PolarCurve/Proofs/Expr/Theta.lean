import PolarCurve.Proofs.Expr.Node
import PolarCurve.Proofs.Expr.Recursion

namespace PolarCurve.Expr

lemma mentionsTheta_of_child {parent child : Expr} (among : child ∈ parent.children)
    (h : child.mentionsTheta = true) : parent.mentionsTheta = true := by
  have hfound : (parent.children.map mentionsTheta).any id = true :=
    List.any_eq_true.mpr ⟨_, List.mem_map_of_mem among, h⟩
  rw [isFold_theta parent]
  cases parent with
  | theta => rfl
  | literal => exact hfound
  | unary => exact hfound
  | binary => exact hfound
  | call => exact hfound

lemma Node.mentionsTheta {e n : Expr} (hnode : Node e n) (h : n.mentionsTheta = true) :
    e.mentionsTheta = true :=
  hnode.ascends (fun _ _ among hchild => mentionsTheta_of_child among hchild) h

mutual

lemma node_of_mentionsTheta : (e : Expr) → e.mentionsTheta = true → e.Node .theta
  | .literal value, h => by simp [mentionsTheta] at h
  | .theta, _ => .root
  | .unary op argument, h => by
    rw [mentionsTheta] at h
    exact (node_of_mentionsTheta argument h).of_child (by simp [children])
  | .binary op left right, h => by
    rw [mentionsTheta, Bool.or_eq_true] at h
    rcases h with h | h
    · exact (node_of_mentionsTheta left h).of_child (by simp [children])
    · exact (node_of_mentionsTheta right h).of_child (by simp [children])
  | .call callee arguments, h => by
    rw [mentionsTheta] at h
    obtain ⟨argument, hmem, hnode⟩ := exists_node_of_anyMentionsTheta arguments h
    exact hnode.of_child hmem

lemma exists_node_of_anyMentionsTheta : (es : List Expr) → anyMentionsTheta es = true →
    ∃ e ∈ es, e.Node .theta
  | [], h => by simp [anyMentionsTheta] at h
  | e :: es, h => by
    rw [anyMentionsTheta, Bool.or_eq_true] at h
    rcases h with h | h
    · exact ⟨e, List.mem_cons_self, node_of_mentionsTheta e h⟩
    · obtain ⟨d, hmem, hnode⟩ := exists_node_of_anyMentionsTheta es h
      exact ⟨d, List.mem_cons_of_mem _ hmem, hnode⟩

end

lemma mentionsTheta_iff_node {e : Expr} : e.mentionsTheta = true ↔ e.Node .theta :=
  ⟨node_of_mentionsTheta e, fun hnode => hnode.mentionsTheta (by rw [Expr.mentionsTheta])⟩

lemma mentionsTheta_child {parent child : Expr} (among : child ∈ parent.children)
    (h : parent.mentionsTheta = false) : child.mentionsTheta = false := by
  rw [Bool.eq_false_iff] at h ⊢
  exact fun hchild => h (mentionsTheta_of_child among hchild)

lemma evaluate_congr (angle angle' : Float) : (e : Expr) → e.mentionsTheta = false →
    e.evaluate angle = e.evaluate angle'
  | .literal value, _ => by rw [evaluate, evaluate]
  | .theta, h => by simp [mentionsTheta] at h
  | .unary op argument, h => by
    have hargument : argument.mentionsTheta = false := mentionsTheta_child (by simp [children]) h
    rw [evaluate, evaluate, evaluate_congr angle angle' argument hargument]
  | .binary op left right, h => by
    have hleft : left.mentionsTheta = false := mentionsTheta_child (by simp [children]) h
    have hright : right.mentionsTheta = false := mentionsTheta_child (by simp [children]) h
    rw [evaluate, evaluate, evaluate_congr angle angle' left hleft,
      evaluate_congr angle angle' right hright]
  | .call callee arguments, h => by
    rw [evaluate, evaluate]
    -- The arguments of a call at fault are not looked at, so only the sound call has a smaller case.
    cases Builtin.ofName? callee with
    | none => rfl
    | some f =>
      rcases arguments with - | ⟨argument, - | ⟨_, _⟩⟩
      · rfl
      · have hargument : argument.mentionsTheta = false :=
          mentionsTheta_child (by simp [children]) h
        dsimp only
        rw [evaluate_congr angle angle' argument hargument]
      · rfl

theorem evaluate_of_not_mentionsTheta (e : Expr) :
    (e.mentionsTheta = true ↔ e.Node .theta) ∧
      (e.mentionsTheta = false → ∀ angle angle', e.evaluate angle = e.evaluate angle') :=
  ⟨mentionsTheta_iff_node, fun h angle angle' => evaluate_congr angle angle' e h⟩

theorem evaluate_of_not_mentionsTheta_bad_call :
    let e : Expr := .binary .add (.call "sin" [.literal 1]) (.call "cosh" [.literal 1, .literal 0])
    e.mentionsTheta = false ∧ ¬ e.Node .theta ∧
      e.evaluate Double.notANumber = .error (.unknownFunction "cosh") ∧
      ∀ angle, e.evaluate angle = e.evaluate Double.notANumber := by
  intro e
  have hnone : e.mentionsTheta = false := rfl
  obtain ⟨hnode, hvalue⟩ := evaluate_of_not_mentionsTheta e
  refine ⟨hnone, ?_, rfl, fun angle => hvalue hnone angle _⟩
  rw [← hnode, hnone]
  exact Bool.false_ne_true

end PolarCurve.Expr
