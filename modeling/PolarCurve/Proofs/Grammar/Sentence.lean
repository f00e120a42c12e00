import PolarCurve.Proofs.Grammar.Derivation
import Mathlib.Data.List.Basic

/-! The language without a bound on nesting, beside a machine that keeps the open brackets and
whether an operand or an operator is due. -/

namespace PolarCurve.Grammar

inductive Sentence : Phrase → List TokenKind → Prop
  | whole {kind : ChainKind} {n : Nat} {ks : List TokenKind} (all : Sentence (.chain kind n) ks) :
      Sentence (.whole kind) ks
  | first {kind : ChainKind} {ks : List TokenKind} (operand : Sentence kind.operand ks) :
      Sentence (.chain kind 0) ks
  | next {kind : ChainKind} {n : Nat} {op : BinaryOp} {ks ls : List TokenKind}
      (left : Sentence (.chain kind n) ks) (links : kind.Links op)
      (right : Sentence kind.operand ls) :
      Sentence (.chain kind (n + 1)) (ks ++ .mark op.mark :: ls)
  | signed (op : UnaryOp) {ks : List TokenKind} (argument : Sentence .unary ks) :
      Sentence .unary (.mark op.mark :: ks)
  | unsigned {ks : List TokenKind} (power : Sentence .power ks) : Sentence .unary ks
  | plain {ks : List TokenKind} (base : Sentence .primary ks) : Sentence .power ks
  | raised {ks ls : List TokenKind} (base : Sentence .primary ks) (exponent : Sentence .unary ls) :
      Sentence .power (ks ++ .mark .caret :: ls)
  | number (value : Float) : Sentence .primary [.number value]
  | theta : Sentence .primary [.name "theta"]
  | pi : Sentence .primary [.name "pi"]
  | call (function : Builtin) {arguments : List (List TokenKind)}
      (all : ∀ ks ∈ arguments, Sentence .expression ks) :
      Sentence .primary (.name function.name :: .mark .left ::
        ([.mark .comma].intercalate arguments ++ [.mark .right]))
  | bracketed {ks : List TokenKind} (inner : Sentence .expression ks) :
      Sentence .primary (.mark .left :: (ks ++ [.mark .right]))

def listed (rows : List (List TokenKind)) : List TokenKind := rows.flatMap (· ++ [.mark .comma])

lemma listed_cons (ks : List TokenKind) (rows : List (List TokenKind)) :
    listed (ks :: rows) = ks ++ .mark .comma :: listed rows := by
  simp [listed]

lemma intercalate_concat (rows : List (List TokenKind)) (last : List TokenKind) :
    [TokenKind.mark .comma].intercalate (rows ++ [last]) = listed rows ++ last := by
  induction rows with
  | nil => simp [listed]
  | cons ks rows ih =>
    have hne : rows ++ [last] ≠ [] := by simp
    rw [List.cons_append, List.intercalate_cons_of_ne_nil hne, ih, listed_cons]
    simp

lemma Derivation.sentence {p : Phrase} (d : Derivation p) : Sentence p d.row := by
  induction d with
  | whole _ ih => exact .whole ih
  | first _ _ ih => exact .first ih
  | next _ _ links _ ihl ihr => exact .next ihl links ihr
  | signed op _ ih => exact .signed op ih
  | unsigned _ ih => exact .unsigned ih
  | plain _ ih => exact .plain ih
  | raised _ _ ihb ihe => exact .raised ihb ihe
  | number value => exact .number value
  | theta => exact .theta
  | pi => exact .pi
  | call function argument ih =>
    have h := @Sentence.call function [argument.row] (by simpa using ih)
    simpa [row] using h
  | bracketed _ ih => exact .bracketed ih

lemma Sentence.call_concat (function : Builtin) {rows : List (List TokenKind)}
    {last : List TokenKind} (hrows : ∀ ks ∈ rows, Sentence .expression ks)
    (hlast : Sentence .expression last) :
    Sentence .primary (.name function.name :: .mark .left ::
      (listed rows ++ last ++ [.mark .right])) := by
  have h : ∀ ks ∈ rows ++ [last], Sentence .expression ks := by
    intro ks hks
    rcases List.mem_append.mp hks with hks | hks
    · exact hrows ks hks
    · exact List.mem_singleton.mp hks ▸ hlast
  rw [← intercalate_concat]
  exact .call function h

inductive Due
  | operand
  | opening
  | argument
  | operator
  | nothing
deriving DecidableEq

inductive Bracket
  | group
  | call
deriving DecidableEq

structure Outlook where
  due : Due
  brackets : List Bracket

namespace Outlook

def begin (brackets : List Bracket) : TokenKind → Option Outlook
  | .number _ => some ⟨.operator, brackets⟩
  | .name name =>
    if name = "theta" ∨ name = "pi" then some ⟨.operator, brackets⟩
    else if (Builtin.ofName? name).isSome then some ⟨.opening, brackets⟩
    else none
  | .mark .plus | .mark .minus => some ⟨.operand, brackets⟩
  | .mark .left => some ⟨.operand, .group :: brackets⟩
  | .mark _ => none
  | .ending => none

def close : List Bracket → Option Outlook
  | [] => none
  | _ :: brackets => some ⟨.operator, brackets⟩

def proceed (brackets : List Bracket) : TokenKind → Option Outlook
  | .mark .right => close brackets
  | .mark .comma => if brackets.head? = some .call then some ⟨.operand, brackets⟩ else none
  | .mark .left => none
  | .mark _ => some ⟨.operand, brackets⟩
  | .ending => if brackets = [] then some ⟨.nothing, []⟩ else none
  | .number _ | .name _ => none

def step : Outlook → TokenKind → Option Outlook
  | ⟨.operand, brackets⟩, k => begin brackets k
  | ⟨.opening, brackets⟩, k => if k = .mark .left then some ⟨.argument, .call :: brackets⟩ else none
  | ⟨.argument, brackets⟩, k => if k = .mark .right then close brackets else begin brackets k
  | ⟨.operator, brackets⟩, k => proceed brackets k
  | ⟨.nothing, _⟩, _ => none

def run (o : Outlook) (ks : List TokenKind) : Option Outlook := ks.foldlM step o

lemma run_cons (o : Outlook) (k : TokenKind) (ks : List TokenKind) :
    o.run (k :: ks) = (o.step k).bind fun o' => o'.run ks := by
  rw [run, List.foldlM_cons]
  rfl

lemma run_append (o : Outlook) (ks ls : List TokenKind) :
    o.run (ks ++ ls) = (o.run ks).bind fun o' => o'.run ls := by
  rw [run, List.foldlM_append]
  rfl

lemma run_eq_none_of_prefix {o : Outlook} {ks ls : List TokenKind} (h : ks <+: ls)
    (hks : o.run ks = none) : o.run ls = none := by
  obtain ⟨ms, rfl⟩ := h
  rw [run_append, hks]
  rfl

variable {brackets : List Bracket}

lemma begin_builtin (f : Builtin) : begin brackets (.name f.name) = some ⟨.opening, brackets⟩ := by
  have hne : ¬ (f.name = "theta" ∨ f.name = "pi") := by cases f <;> decide
  rw [begin, if_neg hne, Builtin.ofName?_name]
  rfl

lemma proceed_operator (op : BinaryOp) :
    proceed brackets (.mark op.mark) = some ⟨.operand, brackets⟩ := by
  cases op <;> rfl

lemma step_argument {k : TokenKind} (hk : k ≠ .mark .right) :
    step ⟨.argument, brackets⟩ k = step ⟨.operand, brackets⟩ k := by
  simp only [step, if_neg hk]

lemma run_argument {k : TokenKind} (hk : k ≠ .mark .right) (ks : List TokenKind) :
    run ⟨.argument, brackets⟩ (k :: ks) = run ⟨.operand, brackets⟩ (k :: ks) := by
  rw [run_cons, run_cons, step_argument hk]

lemma run_call (f : Builtin) (ks : List TokenKind) :
    run ⟨.operand, brackets⟩ (.name f.name :: .mark .left :: ks) =
      run ⟨.argument, .call :: brackets⟩ ks := by
  rw [run_cons, step, begin_builtin]
  rfl

def Spans (ks : List TokenKind) : Prop :=
  ∀ due brackets, due = .operand ∨ due = .argument →
    run ⟨due, brackets⟩ ks = some ⟨.operator, brackets⟩

lemma Spans.run_operand {ks : List TokenKind} (h : Spans ks) (ls : List TokenKind) :
    run ⟨.operand, brackets⟩ (ks ++ ls) = run ⟨.operator, brackets⟩ ls := by
  rw [run_append, h _ _ (Or.inl rfl)]
  rfl

lemma Spans.run_argument {ks : List TokenKind} (h : Spans ks) (ls : List TokenKind) :
    run ⟨.argument, brackets⟩ (ks ++ ls) = run ⟨.operator, brackets⟩ ls := by
  rw [run_append, h _ _ (Or.inr rfl)]
  rfl

lemma run_listed {rows : List (List TokenKind)} (h : ∀ ks ∈ rows, Spans ks) (ls : List TokenKind) :
    run ⟨.operand, .call :: brackets⟩ (listed rows ++ ls) =
      run ⟨.operand, .call :: brackets⟩ ls := by
  induction rows with
  | nil => rfl
  | cons ks rows ih =>
    have hks : Spans ks := h ks List.mem_cons_self
    have hrows : ∀ ms ∈ rows, Spans ms := fun ms hms => h ms (List.mem_cons_of_mem _ hms)
    rw [listed_cons, List.append_assoc, hks.run_operand, List.cons_append, run_cons]
    exact ih hrows

lemma run_listed_argument {ks : List TokenKind} {rows : List (List TokenKind)}
    (h : ∀ ms ∈ ks :: rows, Spans ms) (ls : List TokenKind) :
    run ⟨.argument, .call :: brackets⟩ (listed (ks :: rows) ++ ls) =
      run ⟨.operand, .call :: brackets⟩ ls := by
  have hks : Spans ks := h ks List.mem_cons_self
  have hrows : ∀ ms ∈ rows, Spans ms := fun ms hms => h ms (List.mem_cons_of_mem _ hms)
  rw [listed_cons, List.append_assoc, hks.run_argument, List.cons_append, run_cons]
  exact run_listed hrows ls

lemma run_arguments {rows : List (List TokenKind)} {last : List TokenKind}
    (hrows : ∀ ks ∈ rows, Spans ks) (hlast : Spans last) (ls : List TokenKind) :
    run ⟨.argument, .call :: brackets⟩ (listed rows ++ last ++ ls) =
      run ⟨.operator, .call :: brackets⟩ ls := by
  rw [List.append_assoc]
  cases rows with
  | nil => exact hlast.run_argument ls
  | cons ks rows => rw [run_listed_argument hrows, hlast.run_operand]

lemma spans_call (f : Builtin) {rows : List (List TokenKind)} (h : ∀ ks ∈ rows, Spans ks) :
    Spans (.name f.name :: .mark .left ::
      ([.mark .comma].intercalate rows ++ [.mark .right])) := by
  intro due brackets hdue
  have hbegin : run ⟨due, brackets⟩ (.name f.name :: .mark .left ::
      ([.mark .comma].intercalate rows ++ [.mark .right])) =
        run ⟨.argument, .call :: brackets⟩
          ([.mark .comma].intercalate rows ++ [.mark .right]) := by
    rcases hdue with rfl | rfl
    · exact run_call f _
    · rw [Outlook.run_argument (by simp)]
      exact run_call f _
  rw [hbegin]
  rcases List.eq_nil_or_concat rows with rfl | ⟨rows, last, rfl⟩
  · rfl
  · rw [List.concat_eq_append] at h ⊢
    rw [intercalate_concat, run_arguments (fun ks hks => h ks (by simp [hks])) (h last (by simp))]
    rfl

end Outlook

open Outlook

theorem Sentence.spans {p : Phrase} {ks : List TokenKind} (h : Sentence p ks) : Spans ks := by
  induction h with
  | whole _ ih => exact ih
  | first _ ih => exact ih
  | next _ _ _ ihl ihr =>
    intro due brackets hdue
    rw [run_append, ihl _ _ hdue, Option.bind_some, run_cons, step, proceed_operator]
    exact ihr _ _ (Or.inl rfl)
  | signed op _ ih =>
    intro due brackets hdue
    have hstep : step ⟨due, brackets⟩ (.mark op.mark) = some ⟨.operand, brackets⟩ := by
      rcases hdue with rfl | rfl <;> cases op <;> rfl
    rw [run_cons, hstep]
    exact ih _ _ (Or.inl rfl)
  | unsigned _ ih => exact ih
  | plain _ ih => exact ih
  | raised _ _ ihb ihe =>
    intro due brackets hdue
    rw [run_append, ihb _ _ hdue, Option.bind_some, run_cons]
    exact ihe _ _ (Or.inl rfl)
  | number => rintro due brackets (rfl | rfl) <;> rfl
  | theta => rintro due brackets (rfl | rfl) <;> rfl
  | pi => rintro due brackets (rfl | rfl) <;> rfl
  | call function _ ih => exact spans_call function ih
  | bracketed _ ih =>
    intro due brackets hdue
    have hstep : step ⟨due, brackets⟩ (.mark .left) = some ⟨.operand, .group :: brackets⟩ := by
      rcases hdue with rfl | rfl <;> rfl
    rw [run_cons, hstep, Option.bind_some, ih.run_operand]
    rfl

/-- A row begins some formula that has its ending behind it. -/
def Viable (ks : List TokenKind) : Prop :=
  ∃ ls, Sentence .expression ls ∧ ks <+: ls ++ [.ending]

lemma Viable.run_ne_none {ks : List TokenKind} (h : Viable ks) : run ⟨.operand, []⟩ ks ≠ none := by
  obtain ⟨ls, hls, hprefix⟩ := h
  intro hnone
  have hrun := run_eq_none_of_prefix hprefix hnone
  rw [hls.spans.run_operand] at hrun
  cases hrun

end PolarCurve.Grammar
