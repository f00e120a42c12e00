import PolarCurve.Expr
import PolarCurve.Builtin

namespace PolarCurve

def UnaryOp.apply : UnaryOp → Float → Float
  | plus, x => x
  | minus, x => -x

def BinaryOp.apply : BinaryOp → Float → Float → Float
  | add, x, y => x + y
  | sub, x, y => x - y
  | mul, x, y => x * y
  | div, x, y => x / y
  | pow, x, y => Double.pow x y

namespace Expr

def evaluate (angle : Float) : Expr → Except CallFault Float
  | literal value => .ok value
  | theta => .ok angle
  | unary op argument => do
    let x ← evaluate angle argument
    return op.apply x
  | binary op left right => do
    let x ← evaluate angle left
    let y ← evaluate angle right
    return op.apply x y
  | call callee arguments =>
    match Builtin.ofName? callee with
    | none => .error (.unknownFunction callee)
    | some f =>
      match arguments with
      | [argument] => do
        let x ← evaluate angle argument
        return f.apply x
      | _ => .error (.wrongArity f.name f.arity arguments.length)

mutual

def validate : Expr → Except CallFault Unit
  | literal _ => .ok ()
  | theta => .ok ()
  | unary _ argument => validate argument
  | binary _ left right => do
    validate left
    validate right
  | call callee arguments =>
    match Builtin.ofName? callee with
    | none => .error (.unknownFunction callee)
    | some f =>
      if arguments.length ≠ f.arity then .error (.wrongArity f.name f.arity arguments.length)
      else validateAll arguments

def validateAll : List Expr → Except CallFault Unit
  | [] => .ok ()
  | e :: es => do
    validate e
    validateAll es

end

end Expr

end PolarCurve
