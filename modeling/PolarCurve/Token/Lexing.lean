import PolarCurve.Token.Piece

/-! Every piece of a text but the blanks is a token or a fault. The pieces after a fault are read
all the same. -/

namespace PolarCurve

inductive LexFault
  | secondPoint (position : Nat)
  | badNumber (literal : String) (position : Nat)
  | strayChar (char : Char) (position : Nat)
deriving DecidableEq

namespace LexFault

def position : LexFault → Nat
  | secondPoint position | badNumber _ position | strayChar _ position => position

def message : LexFault → String
  | secondPoint position =>
    "invalid number literal with multiple dots at position " ++ toString position
  | badNumber literal position =>
    "invalid number literal \"" ++ literal ++ "\" at position " ++ toString position
  | strayChar char position =>
    "unexpected character \"" ++ String.singleton char ++ "\" at position " ++ toString position

end LexFault

namespace Piece

def beforeSecondPoint? (cs : List Char) : Option (List Char) :=
  let whole := cs.takeWhile (· ≠ '.')
  match cs.dropWhile (· ≠ '.') with
  | [] => none
  | point :: rest =>
    if '.' ∈ rest then some (whole ++ point :: rest.takeWhile (· ≠ '.')) else none

def readNumber (place : Location) (cs : List Char) : Except LexFault TokenKind :=
  match beforeSecondPoint? cs with
  | some before => .error (.secondPoint (place.offset + Text.size before))
  | none =>
    if cs.any Char.isDigit then .ok (.number (Decimal.ofNumeral cs).toFloat)
    else .error (.badNumber (String.ofList cs) place.offset)

def read (place : Location) (p : Piece) : Option (Except LexFault Token) :=
  let token (kind : TokenKind) : Token := ⟨kind, String.ofList p.text, place⟩
  match p.kind with
  | .blank => none
  | .number => some ((readNumber place p.text).map token)
  | .name => some (.ok (token (.name (String.ofList p.text))))
  | .mark m => some (.ok (token (.mark m)))
  | .stray => some (.error (.strayChar (p.text.headD ' ') place.offset))

def readAll (place : Location) : List Piece → List (Except LexFault Token)
  | [] => []
  | p :: ps => (p.read place).toList ++ readAll (place.advance p.text) ps

def reach (place : Location) (ps : List Piece) : Location :=
  ps.foldl (fun place p => place.advance p.text) place

end Piece

namespace Token

def scan (start : Location) (source : List Char) : List (Except LexFault Token) :=
  Piece.readAll start (Piece.split source)

def lex (start : Location) (source : List Char) : Except LexFault (List Token) := do
  let tokens ← (scan start source).mapM id
  return tokens ++ [⟨.ending, "", Piece.reach start (Piece.split source)⟩]

end Token

end PolarCurve
