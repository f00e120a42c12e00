import PolarCurve.Token
import PolarCurve.Text.Bytes

/-! Maximal runs of blanks, of digits and points, and of name characters, and single characters of
any other kind. -/

namespace PolarCurve

inductive PieceKind
  | blank
  | number
  | name
  | mark (mark : Mark)
  | stray
deriving DecidableEq, Repr

namespace PieceKind

def isSpacing (c : Char) : Bool := c = ' ' || c = '\t' || c = '\n' || c = '\r' || c = '\x0c'

def isNumeral (c : Char) : Bool := c.isDigit || c = '.'

def isNameStart (c : Char) : Bool := c.isAlpha || c = '_'

def isNamePart (c : Char) : Bool := isNameStart c || c.isDigit

def ofChar (c : Char) : PieceKind :=
  if isSpacing c then blank
  else if isNumeral c then number
  else if isNameStart c then name
  else
    match Mark.ofChar? c with
    | some m => mark m
    | none => stray

def continues : PieceKind → Char → Bool
  | blank, c => isSpacing c
  | number, c => isNumeral c
  | name, c => isNamePart c
  | mark _, _ => false
  | stray, _ => false

end PieceKind

structure Piece where
  kind : PieceKind
  text : List Char
deriving DecidableEq, Repr

namespace Piece

theorem length_dropWhile_le (p : Char → Bool) (cs : List Char) :
    (cs.dropWhile p).length ≤ cs.length := by
  induction cs with
  | nil => simp
  | cons c cs ih =>
    rw [List.dropWhile_cons]
    split
    · exact Nat.le_succ_of_le ih
    · exact Nat.le_refl _

def split : List Char → List Piece
  | [] => []
  | c :: cs =>
    let kind := PieceKind.ofChar c
    ⟨kind, c :: cs.takeWhile kind.continues⟩ :: split (cs.dropWhile kind.continues)
termination_by cs => cs.length
decreasing_by exact Nat.lt_succ_of_le (length_dropWhile_le _ _)

theorem split_cons (c : Char) (cs : List Char) :
    split (c :: cs) =
      ⟨PieceKind.ofChar c, c :: cs.takeWhile (PieceKind.ofChar c).continues⟩ ::
        split (cs.dropWhile (PieceKind.ofChar c).continues) := by
  rw [split]

end Piece

end PolarCurve
