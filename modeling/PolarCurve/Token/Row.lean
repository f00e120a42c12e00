import PolarCurve.Token

/-! Rows of tokens, seen from their front. An ending is never stepped over. -/

namespace PolarCurve.Row

def peek? (ts : List Token) : Option TokenKind := ts.head?.map Token.kind

def advance : List Token → List Token
  | [] => []
  | t :: ts => if t.isEnding then t :: ts else ts

def position : List Token → Nat
  | [] => 0
  | t :: _ => t.position

def describeNext : List Token → String
  | [] => TokenKind.ending.describe
  | t :: _ => if t.isEnding then TokenKind.ending.describe else t.lexeme

def isAtEnd : List Token → Bool
  | [] => true
  | t :: _ => t.isEnding

/-- The number of tokens, an ending at the very end left out. -/
def size (ts : List Token) : Nat :=
  match ts.getLast? with
  | none => 0
  | some t => if t.isEnding then ts.length - 1 else ts.length

end PolarCurve.Row
