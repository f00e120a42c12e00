import PolarCurve.Formula
import PolarCurve.Text.Lines

/-! A message with the span it is about, and the picture of the line with carets under the span. -/

namespace PolarCurve

structure Span where
  first : Nat
  last : Nat
  line : Nat
  column : Nat
deriving DecidableEq, Repr

/-- The span of the character at a byte offset. An offset inside a character or past the end stands
for the end of the text, where the span is empty. Lines and columns are kept in 32 bits. -/
def Span.at (source : List Char) (position : Nat) : Span :=
  let (before, behind) := (Text.cut position source).getD (source, [])
  let place := Location.start.advance before
  let width :=
    match behind with
    | [] => 0
    | c :: _ => c.utf8Size
  ⟨Text.size before, Text.size before + width, place.line % 2 ^ 32, place.column % 2 ^ 32⟩

structure Diagnostic where
  message : String
  span : Span
  help : Option String
deriving DecidableEq, Repr

namespace Diagnostic

def atPosition (source : String) (position : Nat) (message : String) : Diagnostic :=
  ⟨message, Span.at source.toList position, none⟩

def withHelp (d : Diagnostic) (help : String) : Diagnostic := { d with help := some help }

def lexHelp : LexFault → String
  | .secondPoint _ => "a number may contain at most one '.'"
  | .badNumber .. => "a number needs at least one digit"
  | .strayChar .. =>
    "formulas are built from numbers, theta, pi, function calls and + - * / ^ ( ) ,"

def parseHelp? : ParseFault → Option String
  | .unexpected text =>
    if text = "*" then some "'**' is not an operator; use '^' for powers"
    else if text = "EOF" then some "the formula ended where a value was expected"
    else none
  | .unknownName _ => some "the only variable is 'theta' and the only constant is 'pi'"
  | .call (.unknownFunction _) => some ("available functions: " ++ Builtin.names)
  | .call (.wrongArity ..) => some "every function takes exactly one argument"
  | .unclosed => some "Did you forget a matching ')'?"
  | .trailing => some "Did you forget an operator between two values?"
  | .tooDeep => some "remove redundant parentheses or split the formula"

def ofError (error : CompileError) (source : String) : Diagnostic :=
  let d := atPosition source error.position error.message
  match error with
  | .lex fault => d.withHelp (lexHelp fault)
  | .parse error =>
    match parseHelp? error.fault with
    | some help => d.withHelp help
    | none => d

def spaces (n : Nat) : String := String.ofList (List.replicate n ' ')

def caretCount (source : List Char) (span : Span) : Nat :=
  match Text.cut span.last source with
  | none => 1
  | some (upTo, _) =>
    match Text.cut span.first upTo with
    | none => 1
    | some (_, covered) => max covered.length 1

def render (d : Diagnostic) (source : String) : String :=
  let number := max d.span.line 1
  let column := max d.span.column 1
  let line := (Text.lines source.toList).getD (number - 1) []
  let gutter := spaces (toString number).length
  let carets := String.ofList (List.replicate (caretCount source.toList d.span) '^')
  let picture :=
    "error: " ++ d.message ++ "\n" ++
    gutter ++ "--> " ++ toString d.span.line ++ ":" ++ toString d.span.column ++ "\n" ++
    gutter ++ " |\n" ++
    toString number ++ " | " ++ String.ofList line ++ "\n" ++
    gutter ++ " | " ++ spaces (column - 1) ++ carets ++ "\n"
  match d.help with
  | none => picture
  | some help => picture ++ gutter ++ " = help: " ++ help ++ "\n"

end Diagnostic

end PolarCurve
