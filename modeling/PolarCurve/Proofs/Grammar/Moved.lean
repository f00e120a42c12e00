import PolarCurve.Proofs.Grammar.Alignment

namespace PolarCurve

def ParseError.move (distance : Nat) (e : ParseError) : ParseError :=
  ⟨e.fault, e.position + distance⟩

namespace Grammar

structure RowMoved (distance : Nat) (ts us : List Token) : Prop where
  tokens : List.Forall₂ (Token.Moved distance) ts us
  ended : Ended ts

lemma RowMoved.aligned {distance : Nat} {ts us : List Token} (h : RowMoved distance ts us) :
    RowAligned (fun p q => q = p + distance) ts us :=
  ⟨h.tokens.imp fun _ _ htu => ⟨htu.kind, htu.lexeme, htu.position⟩, h.ended⟩

end Grammar

namespace Expr

theorem ofTokens_moved {distance : Nat} {ts us : List Token} (h : Grammar.RowMoved distance ts us) :
    Alike (fun e f => f = e.move distance) (· = ·) (ofTokens ts) (ofTokens us) := by
  have haligned := ofTokens_aligned h.aligned
  generalize ofTokens ts = x, ofTokens us = y at haligned ⊢
  cases haligned with
  | ok htree => exact .ok htree
  | @error e f herror =>
    obtain ⟨fault, position⟩ := f
    obtain ⟨hfault, hplace⟩ := herror
    apply Alike.error
    rw [ParseError.move, ← hfault, ← hplace]

end Expr

end PolarCurve
