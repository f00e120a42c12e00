import PolarCurve.Grammar.Production
import Mathlib.Tactic.Lemma

/-! Derivations as data. A chain knows the number of its operators, and so the place of the operand
that comes next. -/

namespace PolarCurve

def UnaryOp.mark : UnaryOp → Mark
  | plus => .plus
  | minus => .minus

def BinaryOp.mark : BinaryOp → Mark
  | add => .plus
  | sub => .minus
  | mul => .star
  | div => .slash
  | pow => .caret

namespace Grammar

inductive ChainKind
  | sums
  | products
deriving DecidableEq

def ChainKind.Links : ChainKind → BinaryOp → Prop
  | sums, op => op = .add ∨ op = .sub
  | products, op => op = .mul ∨ op = .div

/-- A chain has its first operators only, a whole one has them all. -/
inductive Phrase
  | chain (kind : ChainKind) (operators : Nat)
  | whole (kind : ChainKind)
  | unary
  | power
  | primary
deriving DecidableEq

abbrev Phrase.expression : Phrase := whole .sums

abbrev Phrase.term : Phrase := whole .products

def ChainKind.operand : ChainKind → Phrase
  | sums => .term
  | products => .unary

inductive Derivation : Phrase → Type
  | whole {kind : ChainKind} {n : Nat} (all : Derivation (.chain kind n)) : Derivation (.whole kind)
  | first (kind : ChainKind) (operand : Derivation kind.operand) : Derivation (.chain kind 0)
  | next {kind : ChainKind} {n : Nat} (left : Derivation (.chain kind n)) (op : BinaryOp)
      (links : kind.Links op) (right : Derivation kind.operand) : Derivation (.chain kind (n + 1))
  | signed (op : UnaryOp) (argument : Derivation .unary) : Derivation .unary
  | unsigned (power : Derivation .power) : Derivation .unary
  | plain (base : Derivation .primary) : Derivation .power
  | raised (base : Derivation .primary) (exponent : Derivation .unary) : Derivation .power
  | number (value : Float) : Derivation .primary
  | theta : Derivation .primary
  | pi : Derivation .primary
  | call (function : Builtin) (argument : Derivation .expression) : Derivation .primary
  | bracketed (inner : Derivation .expression) : Derivation .primary

namespace Derivation

abbrev ofPrimary (d : Derivation .primary) : Derivation .unary := .unsigned (.plain d)

abbrev ofFactor (d : Derivation .unary) : Derivation .term := .whole (.first .products d)

abbrev ofUnary (d : Derivation .unary) : Derivation .expression := .whole (.first .sums (ofFactor d))

def row {p : Phrase} : Derivation p → List TokenKind
  | whole all => all.row
  | first _ operand => operand.row
  | next left op _ right => left.row ++ .mark op.mark :: right.row
  | signed op argument => .mark op.mark :: argument.row
  | unsigned power => power.row
  | plain base => base.row
  | raised base exponent => base.row ++ .mark .caret :: exponent.row
  | number value => [.number value]
  | theta => [.name "theta"]
  | pi => [.name "pi"]
  | call function argument =>
    .name function.name :: .mark .left :: (argument.row ++ [.mark .right])
  | bracketed inner => .mark .left :: (inner.row ++ [.mark .right])

def tree {p : Phrase} : Derivation p → Expr
  | whole all => all.tree
  | first _ operand => operand.tree
  | next left op _ right => .binary op left.tree right.tree
  | signed op argument => .unary op argument.tree
  | unsigned power => power.tree
  | plain base => base.tree
  | raised base exponent => .binary .pow base.tree exponent.tree
  | number value => .literal value
  | theta => .theta
  | pi => .literal Double.pi
  | call function argument => .call function.name [argument.tree]
  | bracketed inner => inner.tree

/-- The levels that reading takes. Operands of a chain are charged for their place in it. -/
def cost {p : Phrase} : Derivation p → Nat
  | whole all => all.cost
  | first _ operand => operand.cost
  | @next _ n left _ _ right => max left.cost (n + 1 + right.cost)
  | signed _ argument => 1 + argument.cost
  | unsigned power => power.cost
  | plain base => base.cost
  | raised base exponent => max base.cost (1 + exponent.cost)
  | number _ => 0
  | theta => 0
  | pi => 0
  | call _ argument => 1 + argument.cost
  | bracketed inner => 1 + inner.cost

lemma ending_not_mem_row {p : Phrase} (d : Derivation p) : TokenKind.ending ∉ d.row := by
  induction d <;> simp_all [row]

lemma row_eq_cons {p : Phrase} (d : Derivation p) :
    ∃ k ks, d.row = k :: ks ∧ k ≠ .mark .right := by
  induction d with
  | whole _ ih => exact ih
  | first _ _ ih => exact ih
  | next _ _ _ _ ih =>
    obtain ⟨k, ks, hk, hne⟩ := ih
    exact ⟨k, _, by rw [row, hk, List.cons_append], hne⟩
  | signed op => exact ⟨_, _, rfl, by cases op <;> simp [UnaryOp.mark]⟩
  | unsigned _ ih => exact ih
  | plain _ ih => exact ih
  | raised _ _ ih =>
    obtain ⟨k, ks, hk, hne⟩ := ih
    exact ⟨k, _, by rw [row, hk, List.cons_append], hne⟩
  | number => exact ⟨_, _, rfl, by simp⟩
  | theta => exact ⟨_, _, rfl, by simp⟩
  | pi => exact ⟨_, _, rfl, by simp⟩
  | call => exact ⟨_, _, rfl, by simp⟩
  | bracketed => exact ⟨_, _, rfl, by simp⟩

end Derivation

end Grammar

end PolarCurve
