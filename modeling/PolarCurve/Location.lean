/-! Lines and columns count from 1, columns in characters; offsets count UTF-8 bytes from 0. A line
feed, a carriage return and the pair of both each end one line. -/

namespace PolarCurve

structure Location where
  line : Nat
  column : Nat
  offset : Nat
deriving DecidableEq, Repr

namespace Location

def start : Location := ⟨1, 1, 0⟩

/-- Moves past one character. A carriage return that a line feed follows leaves the line end to
it. -/
def step (l : Location) (c : Char) (next : Option Char) : Location :=
  if c = '\r' ∧ next = some '\n' then { l with offset := l.offset + 1 }
  else if c = '\n' ∨ c = '\r' then ⟨l.line + 1, 1, l.offset + 1⟩
  else ⟨l.line, l.column + 1, l.offset + c.utf8Size⟩

def advance (l : Location) : List Char → Location
  | [] => l
  | c :: cs => (l.step c cs.head?).advance cs

def render (l : Location) : String :=
  toString l.line ++ ":" ++ toString l.column ++ ":" ++ toString l.offset

end Location

end PolarCurve
