import PolarCurve.Expr

namespace PolarCurve.Expr

def label : Expr → String
  | literal value => "Number " ++ Double.text value
  | theta => "Variable theta"
  | unary op _ => "Unary " ++ op.symbol
  | binary op _ _ => "Binary " ++ op.symbol
  | call callee _ => "Call " ++ callee

mutual

def entries (level : Nat) : Expr → List (Nat × String)
  | literal value => [(level, label (literal value))]
  | theta => [(level, label theta)]
  | unary op argument => (level, label (unary op argument)) :: entries (level + 1) argument
  | binary op left right =>
    (level, label (binary op left right)) ::
      (entries (level + 1) left ++ entries (level + 1) right)
  | call callee arguments =>
    (level, label (call callee arguments)) :: entriesAll (level + 1) arguments

def entriesAll (level : Nat) : List Expr → List (Nat × String)
  | [] => []
  | e :: es => entries level e ++ entriesAll level es

end

def line : Nat × String → String
  | (level, label) => String.ofList (List.replicate (2 * level) ' ') ++ label ++ "\n"

def outline (e : Expr) : String := String.join ((entries 0 e).map line)

end PolarCurve.Expr
