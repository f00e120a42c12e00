import PolarCurve.Proofs.Expr.Preorder
import PolarCurve.Proofs.Text.Bytes

namespace PolarCurve.Counter

lemma visit_eq_visitNode (c : Counter) (e : Expr) : c.visit e = c.visitNode e := by
  cases e <;> simp [visit, visitNode, visitAll, Expr.children]

lemma nodes_visitAll {es : List Expr}
    (h : ∀ e ∈ es, ∀ c : Counter, (c.visit e).nodes = c.nodes + e.size) (c : Counter) :
    (c.visitAll es).nodes = c.nodes + Expr.sizeAll es := by
  induction es generalizing c with
  | nil => rfl
  | cons e es ih =>
    obtain ⟨he, hes⟩ := List.forall_mem_cons.mp h
    rw [visitAll, ih hes, he, Expr.sizeAll, Nat.add_assoc]

lemma nodes_visit (c : Counter) (e : Expr) : (c.visit e).nodes = c.nodes + e.size := by
  induction e using Expr.of_children generalizing c with
  | hstep e ih =>
    calc
      (c.visit e).nodes = (c.enter.visitAll e.children).nodes := by rw [visit_eq_visitNode]; rfl
      _ = c.enter.nodes + Expr.sizeAll e.children :=
        nodes_visitAll (fun child among c => ih child among c) c.enter
      _ = c.nodes + e.size := by rw [Expr.size_eq]; simp only [enter]; omega

lemma visit_eq (c : Counter) (e : Expr) :
    c.visit e = ⟨c.nodes + e.size, max c.deepest (c.depth + e.levels), c.depth⟩ := by
  obtain ⟨hdeepest, hdepth⟩ := visit_levels c e
  rw [← nodes_visit, ← hdeepest, ← hdepth]

end PolarCurve.Counter

namespace PolarCurve.Expr

def Ascending (names : List String) : Prop := names.Pairwise (· < ·)

def Calls (e : Expr) (name : String) : Prop := ∃ arguments, e.Node (call name arguments)

lemma mem_insertName {name s : String} {names : List String} :
    s ∈ insertName name names ↔ s = name ∨ s ∈ names := by
  induction names with
  | nil => simp [insertName]
  | cons first rest ih =>
    rw [insertName]
    split_ifs with heq hlt
    · subst heq
      simp
    · simp
    · rw [List.mem_cons, ih, List.mem_cons, or_left_comm]

lemma ascending_insertName {names : List String} (name : String) (h : Ascending names) :
    Ascending (insertName name names) := by
  induction names with
  | nil => exact List.pairwise_singleton _ name
  | cons first rest ih =>
    obtain ⟨hfirst, hrest⟩ := List.pairwise_cons.mp h
    rw [insertName]
    split_ifs with heq hlt
    · exact h
    · refine List.pairwise_cons.mpr ⟨fun s hs => ?_, h⟩
      rcases List.mem_cons.mp hs with rfl | hs
      · exact hlt
      · exact lt_trans hlt (hfirst s hs)
    · have hname : first < name := lt_of_le_of_ne (not_lt.mp hlt) (Ne.symm heq)
      refine List.pairwise_cons.mpr ⟨fun s hs => ?_, ih hrest⟩
      rcases mem_insertName.mp hs with rfl | hs
      · exact hname
      · exact hfirst s hs

def namesWith (names : List String) : Expr → List String
  | call callee _ => insertName callee names
  | literal _ | theta | unary .. | binary .. => names

lemma collectNames_eq (names : List String) (e : Expr) :
    collectNames names e = collectNamesAll (namesWith names e) e.children := by
  cases e <;> simp [collectNames, collectNamesAll, namesWith, children]

lemma calls_iff {e : Expr} {name : String} :
    e.Calls name ↔
      (∃ arguments, e = call name arguments) ∨ ∃ child ∈ e.children, child.Calls name := by
  constructor
  · rintro ⟨arguments, h⟩
    obtain ⟨k, hk⟩ : ∃ k, (k, call name arguments) ∈ e.preorder 0 := exists_mem_preorder_iff.mpr h
    rw [preorder_eq, List.mem_cons, mem_preorderAll] at hk
    rcases hk with heq | ⟨child, among, hk⟩
    · exact .inl ⟨arguments, (Prod.mk.inj heq).2.symm⟩
    · exact .inr ⟨child, among, arguments, node_of_mem_preorder hk⟩
  · rintro (⟨arguments, rfl⟩ | ⟨child, among, arguments, h⟩)
    · exact ⟨arguments, .root⟩
    · exact ⟨arguments, h.of_child among⟩

lemma mem_namesWith {names : List String} {e : Expr} {s : String} :
    s ∈ namesWith names e ↔ s ∈ names ∨ ∃ arguments, e = call s arguments := by
  cases e with
  | call callee arguments => simp [namesWith, mem_insertName, or_comm, eq_comm]
  | literal value => simp [namesWith]
  | theta => simp [namesWith]
  | unary op argument => simp [namesWith]
  | binary op left right => simp [namesWith]

lemma mem_collectNamesAll {es : List Expr} {s : String}
    (h : ∀ e ∈ es, ∀ names, s ∈ collectNames names e ↔ s ∈ names ∨ e.Calls s)
    (names : List String) :
    s ∈ collectNamesAll names es ↔ s ∈ names ∨ ∃ e ∈ es, e.Calls s := by
  induction es generalizing names with
  | nil => simp [collectNamesAll]
  | cons e es ih =>
    obtain ⟨he, hes⟩ := List.forall_mem_cons.mp h
    rw [collectNamesAll, ih hes, he, List.exists_mem_cons_iff, or_assoc]

lemma mem_collectNames (names : List String) (e : Expr) (s : String) :
    s ∈ collectNames names e ↔ s ∈ names ∨ e.Calls s := by
  induction e using of_children generalizing names with
  | hstep e ih =>
    rw [collectNames_eq, mem_collectNamesAll ih, mem_namesWith, calls_iff, or_assoc]

lemma ascending_namesWith {names : List String} (e : Expr) (h : Ascending names) :
    Ascending (namesWith names e) := by
  cases e with
  | call callee arguments => exact ascending_insertName callee h
  | literal | theta | unary | binary => exact h

lemma ascending_collectNamesAll {es : List Expr}
    (h : ∀ e ∈ es, ∀ names, Ascending names → Ascending (collectNames names e))
    {names : List String} (hnames : Ascending names) : Ascending (collectNamesAll names es) := by
  induction es generalizing names with
  | nil => exact hnames
  | cons e es ih =>
    obtain ⟨he, hes⟩ := List.forall_mem_cons.mp h
    exact ih hes (he names hnames)

lemma ascending_collectNames {names : List String} (e : Expr) (h : Ascending names) :
    Ascending (collectNames names e) := by
  induction e using of_children generalizing names with
  | hstep e ih =>
    rw [collectNames_eq]
    exact ascending_collectNamesAll (fun child among names => ih child among)
      (ascending_namesWith e h)

theorem census (c : Counter) (e : Expr) :
    c.visit e =
        { nodes := c.nodes + e.size
          deepest := max c.deepest (c.depth + e.levels)
          depth := c.depth } ∧
      c.visitNode e = c.visit e ∧
      e.functions.Pairwise (fun s t => bytes s < bytes t) ∧
      ∀ name, name ∈ e.functions ↔ ∃ arguments, e.Node (call name arguments) := by
  have hascending : Ascending e.functions := ascending_collectNames e List.Pairwise.nil
  refine ⟨Counter.visit_eq c e, (Counter.visit_eq_visitNode c e).symm,
    hascending.imp bytes_lt_iff.mpr, fun name => ?_⟩
  rw [functions, mem_collectNames]
  exact or_iff_right List.not_mem_nil

end PolarCurve.Expr
