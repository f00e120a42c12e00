import PolarCurve.Proofs.Expr.Preorder
import PolarCurve.Proofs.Formula.Message
import PolarCurve.Proofs.Formula.Value
import PolarCurve.Proofs.Text.Lines

namespace PolarCurve

open Text

lemma oneLine_text (x : Float) : OneLine (Double.text x) := by
  have hmagnitude : '\n' ∉ Style.plain.magnitudeText (Double.code x) ∨
      Double.infinity < Double.code x := by
    rcases Nat.lt_trichotomy (Double.code x) Double.infinity with hlt | heq | hgt
    · refine Or.inl fun hmem => ?_
      rcases (Double.writes_magnitudeText hlt).numeral '\n' hmem with hdigit | hpoint
      · cases hdigit
      · exact absurd hpoint (by decide)
    · left
      rw [heq, Double.magnitudeText_infinity]
      decide
    · exact Or.inr hgt
  rw [OneLine, Double.text, String.toList_ofList, Style.text]
  split
  · decide
  · next hnot =>
    have hsign : '\n' ∉ if Double.isNegative x = true then ['-'] else [] := by
      split <;> decide
    rw [List.mem_append, not_or]
    exact ⟨hsign, hmagnitude.resolve_right hnot⟩

namespace Expr

structure Labels (label : String) : Prop where
  oneLine : OneLine label
  head : ∀ c ∈ label.toList.head?, c.isUpper = true

lemma labels_literal (value : Float) : Labels (label (.literal value)) where
  oneLine := oneLine_append.mpr ⟨by simp [OneLine], oneLine_text value⟩
  head := by simp [label, Char.isUpper]

lemma labels_label {n : Expr} (h : n.validate = .ok ()) : Labels n.label := by
  cases n with
  | literal value => exact labels_literal value
  | theta => constructor <;> simp [label, OneLine, Char.isUpper]
  | unary op argument =>
    constructor <;> cases op <;> simp [label, OneLine, Char.isUpper, UnaryOp.symbol]
  | binary op left right =>
    constructor <;> cases op <;> simp [label, OneLine, Char.isUpper, BinaryOp.symbol]
  | call callee arguments =>
    obtain ⟨f, argument, rfl, rfl, -⟩ := exists_call_of_validate h
    constructor <;> cases f <;> simp [label, OneLine, Char.isUpper, Builtin.name]

lemma label_inj {n m : Expr} (hn : ∀ x, n = .literal x → x.isNaN = false)
    (hm : ∀ x, m = .literal x → x.isNaN = false) (h : n.label = m.label) : n.head = m.head := by
  -- Constructors have labels with different first letters.
  have hfirst := congrArg (fun s => s.toList.head?) h
  cases n <;> cases m <;> simp [label] at hfirst h
  case literal.literal x y => rw [Double.text_inj (hn x rfl) (hm y rfl) h]
  case theta.theta => rfl
  case unary.unary op _ op' _ => cases op <;> cases op' <;> first | rfl | exact absurd h (by decide)
  case binary.binary op _ _ op' _ _ =>
    cases op <;> cases op' <;> first | rfl | exact absurd h (by decide)
  case call.call => rw [head, head, h]

lemma entries_eq_cons (level : Nat) (e : Expr) :
    e.entries level = (level, e.label) :: entriesAll (level + 1) e.children := by
  cases e <;> simp [entries, entriesAll, children]

lemma entriesAll_eq_preorderAll {level : Nat} {es : List Expr}
    (h : ∀ e ∈ es, e.entries level = (e.preorder (level + 1)).map fun p => (p.1 - 1, p.2.label)) :
    entriesAll level es = (preorderAll (level + 1) es).map fun p => (p.1 - 1, p.2.label) := by
  induction es with
  | nil => rfl
  | cons e es ih =>
    obtain ⟨he, hes⟩ := List.forall_mem_cons.mp h
    rw [entriesAll, preorderAll, List.map_append, he, ih hes]

lemma entries_eq_preorder (e : Expr) (level : Nat) :
    e.entries level = (e.preorder (level + 1)).map fun p => (p.1 - 1, p.2.label) := by
  induction e using of_children generalizing level with
  | hstep e ih =>
    rw [entries_eq_cons, preorder_eq, List.map_cons,
      entriesAll_eq_preorderAll fun child among => ih child among (level + 1)]
    rfl

lemma labels_entries (level : Nat) (e : Expr) (h : e.validate = .ok ()) :
    ∀ entry ∈ e.entries level, Labels entry.2 := by
  intro entry hentry
  rw [entries_eq_preorder] at hentry
  obtain ⟨⟨depth, n⟩, hmem, rfl⟩ := List.mem_map.mp hentry
  exact labels_label ((node_of_mem_preorder hmem).validate h)

def outlineRow : Nat × String → List Char
  | (level, label) => List.replicate (2 * level) ' ' ++ label.toList

lemma toList_outline (e : Expr) : e.outline.toList = ofRows ((e.entries 0).map outlineRow) := by
  rw [Expr.outline, String.toList_join, ofRows, List.flatMap_map, List.flatMap_map]
  apply List.flatMap_congr
  rintro ⟨level, label⟩ -
  simp [Expr.line, outlineRow]

lemma feed_not_mem_outlineRow {entry : Nat × String} (h : Labels entry.2) :
    '\n' ∉ outlineRow entry := by
  obtain ⟨level, label⟩ := entry
  rw [outlineRow, List.mem_append, not_or]
  constructor
  · intro hmem
    cases List.eq_of_mem_replicate hmem
  · exact h.oneLine

lemma indent_outlineRow {entry : Nat × String} (h : Labels entry.2) :
    (outlineRow entry).takeWhile (· = ' ') = List.replicate (2 * entry.1) ' ' ∧
      (outlineRow entry).dropWhile (· = ' ') = entry.2.toList := by
  obtain ⟨level, label⟩ := entry
  have hspaces : ∀ c ∈ List.replicate (2 * level) ' ', decide (c = ' ') = true :=
    fun c hc => decide_eq_true (List.eq_of_mem_replicate hc)
  rw [outlineRow, List.takeWhile_append_of_pos hspaces, List.dropWhile_append_of_pos hspaces]
  have hhead := h.head
  cases hlabel : label.toList with
  | nil => simp
  | cons c cs =>
    have hc : c ≠ ' ' := by
      rintro rfl
      rw [hlabel] at hhead
      cases hhead ' ' rfl
    simp [hc]

lemma outlineRow_inj {entry entry' : Nat × String} (h : Labels entry.2) (h' : Labels entry'.2)
    (heq : outlineRow entry = outlineRow entry') : entry = entry' := by
  obtain ⟨hindent, hlabel⟩ := indent_outlineRow h
  obtain ⟨hindent', hlabel'⟩ := indent_outlineRow h'
  rw [heq] at hindent hlabel
  apply Prod.ext
  · have hlength := congrArg List.length (hindent.symm.trans hindent')
    rw [List.length_replicate, List.length_replicate] at hlength
    omega
  · exact String.toList_inj.mp (hlabel.symm.trans hlabel')

def nodeRow (p : Nat × Expr) : List Char := outlineRow (p.1 - 1, p.2.label)

lemma toList_outline_preorder (e : Expr) :
    e.outline.toList = ofRows ((e.preorder 1).map nodeRow) := by
  rw [toList_outline, entries_eq_preorder, List.map_map]
  rfl

structure Legible (n : Expr) : Prop where
  labels : Labels n.label
  number : ∀ x, n = .literal x → x.isNaN = false

lemma mark_eq_of_nodeRow {p q : Nat × Expr} (hp : 0 < p.1) (hq : 0 < q.1) (hlp : Legible p.2)
    (hlq : Legible q.2) (h : nodeRow p = nodeRow q) : mark p = mark q := by
  obtain ⟨hdepth, hlabel⟩ := Prod.mk.inj (outlineRow_inj hlp.labels hlq.labels h)
  apply Prod.ext
  · change p.1 = q.1
    omega
  · exact label_inj hlp.number hlq.number hlabel

lemma map_eq_map_of_map_eq {α β γ : Type} {f : α → β} {g : α → γ} {as bs : List α}
    (h : ∀ a ∈ as, ∀ b ∈ bs, f a = f b → g a = g b) (heq : as.map f = bs.map f) :
    as.map g = bs.map g := by
  induction as generalizing bs with
  | nil => rw [List.map_eq_nil_iff.mp heq.symm]
  | cons a as ih =>
    obtain ⟨b, bs, rfl, hb, hbs⟩ := List.map_eq_cons_iff.mp heq.symm
    have htail := ih (fun c hc d hd => h c (List.mem_cons_of_mem _ hc) d (List.mem_cons_of_mem _ hd))
      hbs.symm
    rw [List.map_cons, List.map_cons, htail, h a List.mem_cons_self b List.mem_cons_self hb.symm]

lemma feed_not_mem_nodeRows {e : Expr} (h : ∀ p ∈ e.preorder 1, Labels p.2.label) :
    ∀ row ∈ (e.preorder 1).map nodeRow, '\n' ∉ row := by
  intro row hrow
  obtain ⟨p, hp, rfl⟩ := List.mem_map.mp hrow
  exact feed_not_mem_outlineRow (h p hp)

lemma eq_of_outline_eq {e d : Expr} (he : ∀ p ∈ e.preorder 1, Legible p.2)
    (hd : ∀ p ∈ d.preorder 1, Legible p.2) (h : e.outline = d.outline) : e = d := by
  have hlists := congrArg String.toList h
  rw [toList_outline_preorder, toList_outline_preorder] at hlists
  have hrows := ofRows_inj (feed_not_mem_nodeRows fun p hp => (he p hp).labels)
    (feed_not_mem_nodeRows fun p hp => (hd p hp).labels) hlists
  have hmarks : (e.preorder 1).map mark = (d.preorder 1).map mark := by
    apply map_eq_map_of_map_eq _ hrows
    intro p hp q hq hpq
    exact mark_eq_of_nodeRow (le_of_mem_preorder hp) (le_of_mem_preorder hq) (he p hp) (hd q hq) hpq
  have hnothing : ComesUp 2 [] := by simp [ComesUp]
  exact (marked e d 1 [] [] hnothing hnothing (by simpa using hmarks)).1

lemma labels_of_mem_preorder {e : Expr} (h : e.validate = .ok ()) :
    ∀ p ∈ e.preorder 1, Labels p.2.label :=
  fun _ hp => labels_label ((node_of_mem_preorder hp).validate h)

lemma legible_of_mem_preorder {e : Expr} (h : e.validate = .ok ())
    (hnumbers : ∀ x ∈ e.literals, x.isNaN = false) : ∀ p ∈ e.preorder 1, Legible p.2 := by
  intro p hp
  refine ⟨labels_of_mem_preorder h p hp, fun x hx => hnumbers x ?_⟩
  apply (node_of_mem_preorder hp).mem_literals
  rw [hx, literals]
  exact List.mem_singleton_self x

theorem outline_of_validate (e : Expr) (hvalid : e.validate = .ok ()) :
    e.outline.toList = ofRows ((e.preorder 1).map nodeRow) ∧
      (e.preorder 1).length = e.size ∧
      (∀ n, (∃ depth, (depth, n) ∈ e.preorder 1) ↔ e.Node n) ∧
      (∀ p ∈ e.preorder 1, '\n' ∉ nodeRow p ∧
        (nodeRow p).takeWhile (· = ' ') = List.replicate (2 * (p.1 - 1)) ' ') ∧
      ∀ d : Expr, d.validate = .ok () → (∀ x ∈ e.literals, x.isNaN = false) →
        (∀ x ∈ d.literals, x.isNaN = false) → e.outline = d.outline → e = d := by
  refine ⟨toList_outline_preorder e, length_preorder e 1, fun n => exists_mem_preorder_iff,
    fun p hp => ?_, fun d hd he hnumbers h => ?_⟩
  · have hlabels := labels_of_mem_preorder hvalid p hp
    exact ⟨feed_not_mem_outlineRow hlabels, (indent_outlineRow hlabels).1⟩
  · exact eq_of_outline_eq (legible_of_mem_preorder hvalid he) (legible_of_mem_preorder hd hnumbers) h

theorem outline_of_validate_zeros :
    let e : Expr := .call "sin" [.unary .minus (.literal (Float.ofBits 0))]
    let d : Expr := .call "sin" [.unary .minus (.literal (Float.ofBits 0x8000000000000000))]
    e.validate = .ok () ∧ d.validate = .ok () ∧ (∀ x ∈ e.literals, x.isNaN = false) ∧
      (∀ x ∈ d.literals, x.isNaN = false) ∧
      e.outline.toList = ofRows ((e.preorder 1).map nodeRow) ∧ (e.preorder 1).length = 3 ∧
      e.outline ≠ d.outline := by
  intro e d
  have he : e.validate = .ok () := by decide +kernel
  have hd : d.validate = .ok () := by decide +kernel
  have hne : ∀ x ∈ e.literals, x.isNaN = false := by decide +kernel
  have hnd : ∀ x ∈ d.literals, x.isNaN = false := by decide +kernel
  obtain ⟨hlines, hlength, -, -, hunique⟩ := outline_of_validate e he
  refine ⟨he, hd, hne, hnd, hlines, hlength, fun h => ?_⟩
  have hequal := congrArg literals (hunique d hd hne hnd h)
  exact absurd hequal (by decide +kernel)

end Expr

end PolarCurve
