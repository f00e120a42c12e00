import PolarCurve.Builtin
import PolarCurve.Token.Row

/-! A firm rejection stands wherever it arises; a loose one only says that no expression begins at
its place. -/

namespace PolarCurve

inductive ParseFault
  | unexpected (text : String)
  | unknownName (name : String)
  | call (fault : CallFault)
  | unclosed
  | trailing
  | tooDeep
deriving DecidableEq

def ParseFault.message : ParseFault → String
  | unexpected text => "unexpected token \"" ++ text ++ "\""
  | unknownName name => "unknown identifier \"" ++ name ++ "\""
  | call fault => fault.message
  | unclosed => "missing closing parenthesis \")\""
  | trailing => "unexpected extra input after valid expression"
  | tooDeep => "expression nested too deeply"

structure ParseError where
  fault : ParseFault
  position : Nat
deriving DecidableEq

def ParseError.message (e : ParseError) : String :=
  e.fault.message ++ " at position " ++ toString e.position

structure Rejection where
  firm : Bool
  error : ParseError
deriving DecidableEq

namespace Rejection

def unexpected {α : Type} (ts : List Token) : Except Rejection α :=
  .error ⟨false, .unexpected (Row.describeNext ts), Row.position ts⟩

def raise {α : Type} (fault : ParseFault) (position : Nat) : Except Rejection α :=
  .error ⟨true, fault, position⟩

def tooDeep {α : Type} (ts : List Token) : Except Rejection α :=
  raise .tooDeep (Row.position ts)

def confirm {α : Type} : Except Rejection α → Except Rejection α
  | .ok a => .ok a
  | .error r => .error { r with firm := true }

end Rejection

end PolarCurve
