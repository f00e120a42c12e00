import PolarCurve.Expr
import PolarCurve.Grammar.Rejection

/-!
The grammar of expressions as a reader of token rows.

    expression := term (('+' | '-') term)*
    term       := unary (('*' | '/') unary)*
    unary      := ('+' | '-') unary | power
    power      := primary ('^' unary)?
    primary    := number | 'theta' | 'pi' | call | '(' expression ')'
    call       := name '(' (expression (',' expression)*)? ')'

Reading is bounded by the levels of nesting that are left. Below the last level everything is
refused.
-/

namespace PolarCurve.Grammar

abbrev Reader : Type := List Token → Except Rejection (Expr × List Token)

/-- What can be read with some levels left. `moreTerms` and `moreFactors` go on from the operator of
a chain whose left side is known. -/
structure Level where
  room : Nat
  expression : Reader
  term : Reader
  unary : Reader
  moreTerms : BinaryOp → Expr → Reader
  moreFactors : BinaryOp → Expr → Reader

def sumOp? : TokenKind → Option BinaryOp
  | .mark .plus => some .add
  | .mark .minus => some .sub
  | _ => none

def productOp? : TokenKind → Option BinaryOp
  | .mark .star => some .mul
  | .mark .slash => some .div
  | _ => none

def signOp? : TokenKind → Option UnaryOp
  | .mark .plus => some .plus
  | .mark .minus => some .minus
  | _ => none

def chain (op? : TokenKind → Option BinaryOp) (more : BinaryOp → Expr → Reader) (left : Expr) :
    Reader
  | [] => .ok (left, [])
  | t :: ts =>
    match op? t.kind with
    | some op => more op left (t :: ts)
    | none => .ok (left, t :: ts)

def closing : List Token → Except Rejection (List Token)
  | [] => Rejection.raise .unclosed 0
  | t :: ts => if t.kind = .mark .right then .ok ts else Rejection.raise .unclosed t.position

def opening : List Token → Except Rejection (List Token)
  | [] => Rejection.unexpected []
  | t :: ts => if t.kind = .mark .left then .ok ts else Rejection.unexpected (t :: ts)

def opensNext : List Token → Bool
  | [] => false
  | t :: _ => t.kind = .mark .left

def separated (item : Reader) : Nat → List Token → Except Rejection (List Expr × List Token)
  | 0, ts => Rejection.unexpected ts
  | bound + 1, ts => do
    let (e, rest) ← Rejection.confirm (item ts)
    match rest with
    | [] => return ([e], [])
    | t :: rest =>
      if t.kind = .mark .comma then
        let (es, rest) ← separated item bound rest
        return (e :: es, rest)
      else return ([e], t :: rest)

/-- A row has no more expressions between commas than tokens, so the bound is not met. -/
def arguments (below : Level) (ts : List Token) : Except Rejection (List Expr × List Token) :=
  if below.room = 0 then Rejection.tooDeep ts
  else if Row.peek? ts = some (.mark .right) then .ok ([], ts)
  else separated below.expression (ts.length + 1) ts

def call (below : Level) : Reader
  | [] => Rejection.unexpected []
  | t :: ts =>
    match t.kind with
    | .name name =>
      match Builtin.ofName? name with
      | none => Rejection.raise (.call (.unknownFunction name)) t.position
      | some f => do
        let ts ← opening ts
        let (args, rest) ← arguments below ts
        let rest ← closing rest
        if args.length ≠ f.arity then
          Rejection.raise (.call (.wrongArity f.name f.arity args.length)) t.position
        else return (.call f.name args, rest)
    | _ => Rejection.unexpected (t :: ts)

def primary (below : Level) : Reader
  | [] => Rejection.unexpected []
  | t :: ts =>
    match t.kind with
    | .number value => .ok (.literal value, ts)
    | .name name =>
      if opensNext ts then call below (t :: ts)
      else if name = "theta" then .ok (.theta, ts)
      else if name = "pi" then .ok (.literal Double.pi, ts)
      else Rejection.raise (.unknownName name) t.position
    | .mark .left => do
      let (e, rest) ← below.expression ts
      let rest ← closing rest
      return (e, rest)
    | _ => Rejection.unexpected (t :: ts)

def power (below : Level) (ts : List Token) : Except Rejection (Expr × List Token) := do
  let (base, rest) ← primary below ts
  match rest with
  | [] => return (base, [])
  | t :: rest =>
    if t.kind = .mark .caret then
      let (exponent, rest) ← below.unary rest
      return (.binary .pow base exponent, rest)
    else return (base, t :: rest)

def unary (below : Level) : Reader
  | [] => power below []
  | t :: ts =>
    match signOp? t.kind with
    | some op => do
      let (e, rest) ← below.unary ts
      return (.unary op e, rest)
    | none => power below (t :: ts)

def term (below : Level) (ts : List Token) : Except Rejection (Expr × List Token) := do
  let (e, rest) ← unary below ts
  chain productOp? below.moreFactors e rest

def expression (below : Level) (ts : List Token) : Except Rejection (Expr × List Token) := do
  let (e, rest) ← term below ts
  chain sumOp? below.moreTerms e rest

def moreFactors (below : Level) (op : BinaryOp) (left : Expr) (ts : List Token) :
    Except Rejection (Expr × List Token) := do
  let (right, rest) ← unary below ts.tail
  chain productOp? below.moreFactors (.binary op left right) rest

def moreTerms (below : Level) (op : BinaryOp) (left : Expr) (ts : List Token) :
    Except Rejection (Expr × List Token) := do
  let (right, rest) ← term below ts.tail
  chain sumOp? below.moreTerms (.binary op left right) rest

def level : Nat → Level
  | 0 =>
    { room := 0
      expression := Rejection.tooDeep
      term := Rejection.tooDeep
      unary := Rejection.tooDeep
      moreTerms := fun _ _ => Rejection.tooDeep
      moreFactors := fun _ _ => Rejection.tooDeep }
  | room + 1 =>
    let below := level room
    { room := room + 1
      expression := expression below
      term := term below
      unary := unary below
      moreTerms := moreTerms below
      moreFactors := moreFactors below }

def maxNesting : Nat := 256

inductive Production
  | expression
  | term
  | unary
  | power
  | primary
  | call
deriving DecidableEq, Repr

def Production.read (p : Production) (depth : Nat) : Reader :=
  let here := level (maxNesting + 1 - depth)
  let below := level (maxNesting - depth)
  match p with
  | .expression => here.expression
  | .term => here.term
  | .unary => here.unary
  | .power => Grammar.power below
  | .primary => Grammar.primary below
  | .call => Grammar.call below

end PolarCurve.Grammar

namespace PolarCurve.Expr

def ofTokens (ts : List Token) : Except ParseError Expr :=
  match Grammar.Production.expression.read 0 ts with
  | .error r => .error r.error
  | .ok (e, rest) =>
    if Row.size rest ≠ 0 then .error ⟨.trailing, Row.position rest⟩ else .ok e

end PolarCurve.Expr
