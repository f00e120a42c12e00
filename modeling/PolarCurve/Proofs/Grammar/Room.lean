import PolarCurve.Proofs.Grammar.Completeness

/-! Where fewer levels are left a reader gives up as nested too deeply, or takes the same steps to
the same end. -/

namespace PolarCurve.Grammar

variable {α β : Type}

def Approximates (x y : Except Rejection α) : Prop := TooDeep x ∨ x = y

namespace Approximates

lemma refl (x : Except Rejection α) : Approximates x x := .inr rfl

lemma bind {x y : Except Rejection α} {f g : α → Except Rejection β} (h : Approximates x y)
    (hfg : ∀ a, Approximates (f a) (g a)) : Approximates (x >>= f) (y >>= g) := by
  rcases h with hdeep | rfl
  · exact .inl (hdeep.bind f)
  · cases x with
    | error r => exact refl _
    | ok a => exact hfg a

lemma confirm {x y : Except Rejection α} (h : Approximates x y) :
    Approximates (Rejection.confirm x) (Rejection.confirm y) := by
  rcases h with hdeep | rfl
  · exact .inl hdeep.confirm
  · exact refl _

end Approximates

structure Level.Approximates (l m : Level) : Prop where
  room : l.room ≠ 0 → m.room ≠ 0
  expression : ∀ ts, Grammar.Approximates (l.expression ts) (m.expression ts)
  term : ∀ ts, Grammar.Approximates (l.term ts) (m.term ts)
  unary : ∀ ts, Grammar.Approximates (l.unary ts) (m.unary ts)
  moreTerms : ∀ op left ts, Grammar.Approximates (l.moreTerms op left ts) (m.moreTerms op left ts)
  moreFactors : ∀ op left ts,
    Grammar.Approximates (l.moreFactors op left ts) (m.moreFactors op left ts)

section Below

variable {l m : Level} (h : l.Approximates m)

include h

end Below

end PolarCurve.Grammar
