namespace PolarCurve

inductive Builtin
  | sin
  | cos
  | tan
  | asin
  | acos
  | atan
  | log
  | exp
  | sqrt
  | abs
deriving DecidableEq, Repr

namespace Builtin

def all : List Builtin := [sin, cos, tan, asin, acos, atan, log, exp, sqrt, abs]

def name : Builtin → String
  | sin => "sin"
  | cos => "cos"
  | tan => "tan"
  | asin => "asin"
  | acos => "acos"
  | atan => "atan"
  | log => "log"
  | exp => "exp"
  | sqrt => "sqrt"
  | abs => "abs"

def ofName? (name : String) : Option Builtin := all.find? fun f => f.name = name

def arity (_ : Builtin) : Nat := 1

def apply : Builtin → Float → Float
  | sin => Float.sin
  | cos => Float.cos
  | tan => Float.tan
  | asin => Float.asin
  | acos => Float.acos
  | atan => Float.atan
  | log => Float.log
  | exp => Float.exp
  | sqrt => Float.sqrt
  | abs => Float.abs

def names : String := ", ".intercalate (all.map name)

theorem ofName?_name (f : Builtin) : ofName? f.name = some f := by
  cases f <;> decide

theorem name_of_ofName? {name : String} {f : Builtin} (h : ofName? name = some f) :
    f.name = name := by
  simpa using List.find?_some h

end Builtin

inductive CallFault
  | unknownFunction (name : String)
  | wrongArity (function : String) (expected found : Nat)
deriving DecidableEq

def CallFault.message : CallFault → String
  | unknownFunction name => "unknown function \"" ++ name ++ "\""
  | wrongArity function expected found =>
    "arity mismatch: function \"" ++ function ++ "\" expects " ++ toString expected ++
      " argument, got " ++ toString found

end PolarCurve
