import PolarCurve.Proofs.Expr.Levels
import PolarCurve.Proofs.Expr.Node

/-! The nodes of an expression in a row, each with its depth, tell where each of them belongs. -/

namespace PolarCurve.Expr

mutual

def preorder (depth : Nat) : Expr → List (Nat × Expr)
  | literal value => [(depth, literal value)]
  | theta => [(depth, theta)]
  | unary op argument => (depth, unary op argument) :: preorder (depth + 1) argument
  | binary op left right =>
    (depth, binary op left right) :: (preorder (depth + 1) left ++ preorder (depth + 1) right)
  | call callee arguments => (depth, call callee arguments) :: preorderAll (depth + 1) arguments

def preorderAll (depth : Nat) : List Expr → List (Nat × Expr)
  | [] => []
  | e :: es => preorder depth e ++ preorderAll depth es

end

mutual

def size : Expr → Nat
  | literal _ => 1
  | theta => 1
  | unary _ argument => size argument + 1
  | binary _ left right => size left + size right + 1
  | call _ arguments => sizeAll arguments + 1

def sizeAll : List Expr → Nat
  | [] => 0
  | e :: es => size e + sizeAll es

end

lemma preorder_eq (depth : Nat) (e : Expr) :
    e.preorder depth = (depth, e) :: preorderAll (depth + 1) e.children := by
  cases e <;> simp [preorder, preorderAll, children]

lemma size_eq (e : Expr) : e.size = sizeAll e.children + 1 := by
  cases e <;> simp [size, sizeAll, children]

lemma length_preorderAll {depth : Nat} {es : List Expr}
    (h : ∀ e ∈ es, (e.preorder depth).length = e.size) :
    (preorderAll depth es).length = sizeAll es := by
  induction es with
  | nil => rfl
  | cons e es ih =>
    obtain ⟨he, hes⟩ := List.forall_mem_cons.mp h
    rw [preorderAll, sizeAll, List.length_append, he, ih hes]

lemma length_preorder (e : Expr) (depth : Nat) : (e.preorder depth).length = e.size := by
  induction e using of_children generalizing depth with
  | hstep e ih =>
    rw [preorder_eq, size_eq, List.length_cons,
      length_preorderAll fun child among => ih child among (depth + 1)]

lemma mem_preorderAll {depth : Nat} {es : List Expr} {p : Nat × Expr} :
    p ∈ preorderAll depth es ↔ ∃ e ∈ es, p ∈ e.preorder depth := by
  induction es with
  | nil => simp [preorderAll]
  | cons e es ih => simp [preorderAll, ih]

lemma node_of_mem_preorder {e n : Expr} {depth k : Nat} (h : (k, n) ∈ e.preorder depth) :
    e.Node n := by
  induction e using of_children generalizing depth with
  | hstep e ih =>
    rw [preorder_eq, List.mem_cons, mem_preorderAll] at h
    rcases h with heq | ⟨child, among, h⟩
    · cases heq
      exact .root
    · exact (ih child among h).of_child among

lemma le_of_mem_preorder {e n : Expr} {depth k : Nat} (h : (k, n) ∈ e.preorder depth) :
    depth ≤ k := by
  induction e using of_children generalizing depth with
  | hstep e ih =>
    rw [preorder_eq, List.mem_cons, mem_preorderAll] at h
    rcases h with heq | ⟨child, among, h⟩
    · cases heq
      exact Nat.le_refl k
    · exact Nat.le_of_succ_le (ih child among h)

lemma mem_preorder_self (e : Expr) (depth : Nat) : (depth, e) ∈ e.preorder depth := by
  rw [preorder_eq]
  exact List.mem_cons_self

lemma mem_preorder_child {e parent child : Expr} {depth k : Nat}
    (h : (k, parent) ∈ e.preorder depth) (among : child ∈ parent.children) :
    (k + 1, child) ∈ e.preorder depth := by
  induction e using of_children generalizing depth with
  | hstep e ih =>
    rw [preorder_eq, List.mem_cons, mem_preorderAll] at h ⊢
    right
    rcases h with heq | ⟨d, hd, h⟩
    · cases heq
      exact ⟨child, among, mem_preorder_self child (k + 1)⟩
    · exact ⟨d, hd, ih d hd h⟩

lemma exists_mem_preorder_iff {e n : Expr} {depth : Nat} :
    (∃ k, (k, n) ∈ e.preorder depth) ↔ e.Node n := by
  constructor
  · rintro ⟨k, h⟩
    exact node_of_mem_preorder h
  · intro h
    induction h with
    | root => exact ⟨depth, mem_preorder_self e depth⟩
    | child _ among ih =>
      obtain ⟨k, hk⟩ := ih
      exact ⟨k + 1, mem_preorder_child hk among⟩

def mark (p : Nat × Expr) : Nat × Head := (p.1, p.2.head)

def ComesUp (depth : Nat) (rest : List (Nat × Head)) : Prop := ∀ p ∈ rest.head?, p.1 < depth

def Marked (e : Expr) : Prop :=
  ∀ (d : Expr) (depth : Nat) (rest rest' : List (Nat × Head)), ComesUp (depth + 1) rest →
    ComesUp (depth + 1) rest' →
    (e.preorder depth).map mark ++ rest = (d.preorder depth).map mark ++ rest' → e = d ∧ rest = rest'

lemma eq_of_head {e d : Expr} (hhead : e.head = d.head) (hchildren : e.children = d.children) :
    e = d := by
  cases e <;> cases d <;> cases hhead <;> cases hchildren <;> rfl

lemma comesUp_preorderAll {depth : Nat} {rest : List (Nat × Head)} (h : ComesUp depth rest)
    (es : List Expr) : ComesUp (depth + 1) ((preorderAll depth es).map mark ++ rest) := by
  cases es with
  | nil => exact fun p hp => Nat.lt_succ_of_lt (h p hp)
  | cons e es =>
    rw [preorderAll, preorder_eq]
    rintro p hp
    cases hp
    exact Nat.lt_succ_self depth

lemma eq_of_marks_all {es : List Expr} (h : ∀ e ∈ es, e.Marked) (ds : List Expr) {depth : Nat}
    {rest rest' : List (Nat × Head)} (hrest : ComesUp depth rest) (hrest' : ComesUp depth rest')
    (heq : (preorderAll depth es).map mark ++ rest = (preorderAll depth ds).map mark ++ rest') :
    es = ds ∧ rest = rest' := by
  induction es generalizing ds with
  | nil =>
    cases ds with
    | nil => exact ⟨rfl, heq⟩
    | cons d ds =>
      rw [preorderAll, preorderAll, preorder_eq, List.map_nil, List.nil_append] at heq
      subst heq
      exact (Nat.lt_irrefl depth (hrest _ rfl)).elim
  | cons e es ih =>
    cases ds with
    | nil =>
      rw [preorderAll, preorderAll, preorder_eq, List.map_nil, List.nil_append] at heq
      subst heq
      exact (Nat.lt_irrefl depth (hrest' _ rfl)).elim
    | cons d ds =>
      obtain ⟨he, hes⟩ := List.forall_mem_cons.mp h
      simp only [preorderAll, List.map_append, List.append_assoc] at heq
      obtain ⟨rfl, hmore⟩ := he d depth _ _ (comesUp_preorderAll hrest es)
        (comesUp_preorderAll hrest' ds) heq
      obtain ⟨rfl, hrests⟩ := ih hes ds hmore
      exact ⟨rfl, hrests⟩

theorem marked (e : Expr) : e.Marked := by
  induction e using of_children with
  | hstep e ih =>
    intro d depth rest rest' hrest hrest' heq
    rw [preorder_eq, preorder_eq, List.map_cons, List.map_cons, List.cons_append, List.cons_append,
      List.cons.injEq] at heq
    obtain ⟨hmark, heq⟩ := heq
    obtain ⟨hchildren, hrests⟩ := eq_of_marks_all ih d.children hrest hrest' heq
    exact ⟨eq_of_head (Prod.mk.inj hmark).2 hchildren, hrests⟩

end PolarCurve.Expr
