import PolarCurve.Number.Style

namespace PolarCurve

inductive UnaryOp
  | plus
  | minus
deriving DecidableEq, Repr

inductive BinaryOp
  | add
  | sub
  | mul
  | div
  | pow
deriving DecidableEq, Repr

def UnaryOp.symbol : UnaryOp → String
  | plus => "+"
  | minus => "-"

def BinaryOp.symbol : BinaryOp → String
  | add => "+"
  | sub => "-"
  | mul => "*"
  | div => "/"
  | pow => "^"

inductive Expr
  | literal (value : Float)
  | theta
  | unary (op : UnaryOp) (argument : Expr)
  | binary (op : BinaryOp) (left right : Expr)
  | call (callee : String) (arguments : List Expr)
deriving BEq

namespace Expr

def children : Expr → List Expr
  | literal _ | theta => []
  | unary _ argument => [argument]
  | binary _ left right => [left, right]
  | call _ arguments => arguments

def isLeaf : Expr → Bool
  | literal _ | theta => true
  | unary .. | binary .. | call .. => false

mutual

def display : Expr → String
  | literal value => Double.text value
  | theta => "theta"
  | unary op argument => "(" ++ op.symbol ++ display argument ++ ")"
  | binary op left right => "(" ++ display left ++ " " ++ op.symbol ++ " " ++ display right ++ ")"
  | call callee arguments => callee ++ "(" ++ displayAll arguments ++ ")"

def displayAll : List Expr → String
  | [] => ""
  | [e] => display e
  | e :: es => display e ++ ", " ++ displayAll es

end

end Expr

end PolarCurve
