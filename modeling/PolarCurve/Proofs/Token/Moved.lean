import PolarCurve.Proofs.Location
import PolarCurve.Token.Lexing
import Mathlib.Data.List.Forall2

namespace PolarCurve

inductive Alike {ε α : Type} (errors : ε → ε → Prop) (values : α → α → Prop) :
    Except ε α → Except ε α → Prop
  | ok {a b : α} (h : values a b) : Alike errors values (.ok a) (.ok b)
  | error {e f : ε} (h : errors e f) : Alike errors values (.error e) (.error f)

namespace Alike

variable {ε α β : Type} {errors : ε → ε → Prop} {values : α → α → Prop} {others : β → β → Prop}

lemma bind {x y : Except ε α} (h : Alike errors values x y) {f g : α → Except ε β}
    (hfg : ∀ a b, values a b → Alike errors others (f a) (g b)) :
    Alike errors others (x >>= f) (y >>= g) := by
  cases h with
  | ok h => exact hfg _ _ h
  | error h => exact .error h

lemma map {x y : Except ε α} (h : Alike errors values x y) {f g : α → β}
    (hfg : ∀ a b, values a b → others (f a) (g b)) :
    Alike errors others (x.map f) (y.map g) := by
  cases h with
  | ok h => exact .ok (hfg _ _ h)
  | error h => exact .error h

lemma mapError {δ : Type} {faults : δ → δ → Prop} {x y : Except ε α} (h : Alike errors values x y)
    {f g : ε → δ} (hfg : ∀ d e, errors d e → faults (f d) (g e)) :
    Alike faults values (x.mapError f) (y.mapError g) := by
  cases h with
  | ok h => exact .ok h
  | error h => exact .error (hfg _ _ h)

lemma mapM {xs ys : List (Except ε α)} (h : List.Forall₂ (Alike errors values) xs ys) :
    Alike errors (List.Forall₂ values) (xs.mapM id) (ys.mapM id) := by
  induction h with
  | nil => exact .ok .nil
  | cons hxy _ ih =>
    rw [List.mapM_cons, List.mapM_cons]
    refine hxy.bind fun a b hab => ih.bind fun as bs habs => ?_
    exact .ok (.cons hab habs)

end Alike

structure Token.Moved (distance : Nat) (t u : Token) : Prop where
  kind : u.kind = t.kind
  lexeme : u.lexeme = t.lexeme
  position : u.position = t.position + distance

namespace LexFault

def move (distance : Nat) : LexFault → LexFault
  | secondPoint position => secondPoint (position + distance)
  | badNumber literal position => badNumber literal (position + distance)
  | strayChar char position => strayChar char (position + distance)

lemma position_move (distance : Nat) (f : LexFault) :
    (f.move distance).position = f.position + distance := by
  cases f <;> rfl

end LexFault

variable {distance : Nat}

abbrev Item.Moved (distance : Nat) : Except LexFault Token → Except LexFault Token → Prop :=
  Alike (fun f g => g = f.move distance) (Token.Moved distance)

section Place

variable {place place' : Location} (h : place'.offset = place.offset + distance)

include h

lemma Location.advance_moved (cs : List Char) :
    (place'.advance cs).offset = (place.advance cs).offset + distance := by
  rw [advance_offset, advance_offset]
  omega

namespace Piece

lemma readNumber_moved (cs : List Char) :
    Alike (fun f g => g = f.move distance) (· = ·) (readNumber place cs) (readNumber place' cs) := by
  rw [readNumber, readNumber]
  split
  · apply Alike.error
    simp only [LexFault.move, LexFault.secondPoint.injEq]
    omega
  · split
    · exact .ok rfl
    · apply Alike.error
      simp only [LexFault.move, h]

lemma read_moved (p : Piece) :
    List.Forall₂ (Item.Moved distance) (p.read place).toList (p.read place').toList := by
  have htoken : ∀ kind lexeme, Token.Moved distance ⟨kind, lexeme, place⟩ ⟨kind, lexeme, place'⟩ :=
    fun kind lexeme => ⟨rfl, rfl, h⟩
  obtain ⟨kind, cs⟩ := p
  cases kind with
  | blank => exact .nil
  | number =>
    refine .cons ((readNumber_moved h cs).map ?_) .nil
    rintro kind _ rfl
    exact htoken _ _
  | name => exact .cons (.ok (htoken _ _)) .nil
  | mark m => exact .cons (.ok (htoken _ _)) .nil
  | stray =>
    refine .cons (.error ?_) .nil
    simp only [LexFault.move, h]

lemma readAll_moved (ps : List Piece) :
    List.Forall₂ (Item.Moved distance) (readAll place ps) (readAll place' ps) := by
  induction ps generalizing place place' with
  | nil => exact .nil
  | cons p ps ih =>
    rw [readAll, readAll]
    exact List.rel_append (read_moved h p) (ih (Location.advance_moved h p.text))

lemma reach_moved (ps : List Piece) :
    (reach place' ps).offset = (reach place ps).offset + distance := by
  induction ps generalizing place place' with
  | nil => exact h
  | cons p ps ih => exact ih (Location.advance_moved h p.text)

end Piece

namespace Token

theorem lex_moved (cs : List Char) :
    Alike (fun f g => g = f.move distance) (List.Forall₂ (Token.Moved distance))
      (lex place cs) (lex place' cs) := by
  have hscan := Alike.mapM (Piece.readAll_moved h (Piece.split cs))
  refine hscan.bind fun ts us hts => .ok (List.rel_append hts (.cons ?_ .nil))
  exact ⟨rfl, rfl, Piece.reach_moved h (Piece.split cs)⟩

end Token

end Place

end PolarCurve
