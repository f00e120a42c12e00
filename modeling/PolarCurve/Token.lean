import PolarCurve.Location
import PolarCurve.Number.Style
import PolarCurve.Text.Quoted

namespace PolarCurve

inductive Mark
  | plus
  | minus
  | star
  | slash
  | caret
  | left
  | right
  | comma
deriving DecidableEq, Repr

namespace Mark

def all : List Mark := [plus, minus, star, slash, caret, left, right, comma]

def char : Mark → Char
  | plus => '+'
  | minus => '-'
  | star => '*'
  | slash => '/'
  | caret => '^'
  | left => '('
  | right => ')'
  | comma => ','

def ofChar? (c : Char) : Option Mark := all.find? fun m => m.char = c

theorem ofChar?_eq_some_iff {c : Char} {m : Mark} : ofChar? c = some m ↔ m.char = c := by
  constructor
  · intro h
    simpa using List.find?_some h
  · rintro rfl
    cases m <;> decide

def label : Mark → String
  | plus => "Plus"
  | minus => "Minus"
  | star => "Star"
  | slash => "Slash"
  | caret => "Caret"
  | left => "LeftParen"
  | right => "RightParen"
  | comma => "Comma"

end Mark

inductive TokenKind
  | number (value : Float)
  | name (text : String)
  | mark (mark : Mark)
  | ending
deriving DecidableEq

namespace TokenKind

def describe : TokenKind → String
  | number value => Double.text value
  | name text => text
  | mark m => String.singleton m.char
  | ending => "EOF"

def detail : TokenKind → String
  | number value => "Number(" ++ String.ofList (Style.detailed.text value) ++ ")"
  | name text => "Identifier(" ++ Text.quote text ++ ")"
  | mark m => m.label
  | ending => "Eof"

end TokenKind

structure Token where
  kind : TokenKind
  lexeme : String
  location : Location
deriving DecidableEq

namespace Token

def isEnding (t : Token) : Bool := t.kind = .ending

def position (t : Token) : Nat := t.location.offset

def render (t : Token) : String := t.kind.detail ++ "@" ++ t.location.render

end Token

end PolarCurve
