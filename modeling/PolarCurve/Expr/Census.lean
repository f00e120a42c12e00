import PolarCurve.Expr

namespace PolarCurve

structure Counter where
  nodes : Nat
  deepest : Nat
  depth : Nat
deriving DecidableEq, Repr

namespace Counter

def fresh : Counter := ⟨0, 0, 0⟩

def enter (c : Counter) : Counter := ⟨c.nodes + 1, max c.deepest (c.depth + 1), c.depth + 1⟩

def leave (c : Counter) : Counter := { c with depth := c.depth - 1 }

mutual

def visit (c : Counter) : Expr → Counter
  | .literal _ => c.enter.leave
  | .theta => c.enter.leave
  | .unary _ argument => (c.enter.visit argument).leave
  | .binary _ left right => ((c.enter.visit left).visit right).leave
  | .call _ arguments => (c.enter.visitAll arguments).leave

def visitAll (c : Counter) : List Expr → Counter
  | [] => c
  | e :: es => (c.visit e).visitAll es

end

def visitNode (c : Counter) (e : Expr) : Counter := (c.enter.visitAll e.children).leave

end Counter

namespace Expr

def insertName (name : String) : List String → List String
  | [] => [name]
  | first :: rest =>
    if name = first then first :: rest
    else if name < first then name :: first :: rest
    else first :: insertName name rest

mutual

def collectNames (names : List String) : Expr → List String
  | literal _ => names
  | theta => names
  | unary _ argument => collectNames names argument
  | binary _ left right => collectNames (collectNames names left) right
  | call callee arguments => collectNamesAll (insertName callee names) arguments

def collectNamesAll (names : List String) : List Expr → List String
  | [] => names
  | e :: es => collectNamesAll (collectNames names e) es

end

def functions (e : Expr) : List String := collectNames [] e

mutual

def mentionsTheta : Expr → Bool
  | literal _ => false
  | theta => true
  | unary _ argument => mentionsTheta argument
  | binary _ left right => mentionsTheta left || mentionsTheta right
  | call _ arguments => anyMentionsTheta arguments

def anyMentionsTheta : List Expr → Bool
  | [] => false
  | e :: es => mentionsTheta e || anyMentionsTheta es

end

end Expr

end PolarCurve
