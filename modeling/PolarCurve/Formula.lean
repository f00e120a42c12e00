import PolarCurve.Expr.Value
import PolarCurve.Grammar.Production
import PolarCurve.Text.Blank
import PolarCurve.Token.Lexing

/-! An expression together with its text, which may stand between blanks and begin with `r =`;
places in faults count from the beginning of the whole text. -/

namespace PolarCurve

inductive CompileError
  | lex (fault : LexFault)
  | parse (error : ParseError)
deriving DecidableEq

namespace CompileError

def message : CompileError → String
  | lex fault => fault.message
  | parse error => error.message

def position : CompileError → Nat
  | lex fault => fault.position
  | parse error => error.position

end CompileError

structure Formula where
  source : String
  tree : Expr
deriving BEq

namespace Formula

def dropRadius : List Char → List Char
  | 'r' :: ' ' :: '=' :: cs => Text.trimStart cs
  | 'r' :: '=' :: cs => Text.trimStart cs
  | cs => cs

/-- Splits a text into what stands before its expression, and the expression without what
follows. -/
def unframe (source : List Char) : List Char × List Char :=
  let trimmed := Text.trim source
  let body := dropRadius trimmed
  (source.takeWhile Text.isBlank ++ trimmed.take (trimmed.length - body.length), body)

def compile (source : String) : Except CompileError Formula :=
  let (before, body) := unframe source.toList
  match Token.lex (Location.start.advance before) body with
  | .error fault => .error (.lex fault)
  | .ok tokens =>
    match Expr.ofTokens tokens with
    | .error error => .error (.parse error)
    | .ok tree => .ok ⟨source, tree⟩

def constant (value : Float) : Formula := ⟨Double.text value, .literal value⟩

def ofTree (source : String) (tree : Expr) : Except CallFault Formula :=
  match tree.validate with
  | .error fault => .error fault
  | .ok () => .ok ⟨source, tree⟩

def value? (f : Formula) (angle : Float) : Except CallFault Float := f.tree.evaluate angle

def value (f : Formula) (angle : Float) : Float :=
  match f.value? angle with
  | .ok x => x
  | .error _ => Double.notANumber

def function (f : Formula) : Float → Float :=
  let tree := f.tree
  fun angle =>
    match tree.evaluate angle with
    | .ok x => x
    | .error _ => Double.notANumber

def display (f : Formula) : String := f.tree.display

end Formula

end PolarCurve
