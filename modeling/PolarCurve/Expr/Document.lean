import PolarCurve.Expr
import PolarCurve.Json.Printer
import PolarCurve.Json.Reader
import PolarCurve.Json.Shape

namespace PolarCurve

def UnaryOp.title : UnaryOp → String
  | plus => "Plus"
  | minus => "Minus"

def UnaryOp.ofTitle? : String → Option UnaryOp
  | "Plus" => some plus
  | "Minus" => some minus
  | _ => none

def BinaryOp.title : BinaryOp → String
  | add => "Add"
  | sub => "Sub"
  | mul => "Mul"
  | div => "Div"
  | pow => "Pow"

def BinaryOp.ofTitle? : String → Option BinaryOp
  | "Add" => some add
  | "Sub" => some sub
  | "Mul" => some mul
  | "Div" => some div
  | "Pow" => some pow
  | _ => none

namespace Expr

def node (kind : String) (value : Json) : Json := .object [(kind.toList, value)]

mutual

def toJson : Expr → Json
  | literal value => node "NumberLiteral" (Json.ofFloat value)
  | theta => Json.ofString "Variable"
  | unary op argument =>
    node "Unary" (.object
      [("operator".toList, Json.ofString op.title), ("argument".toList, toJson argument)])
  | binary op left right =>
    node "Binary" (.object
      [("left".toList, toJson left), ("operator".toList, Json.ofString op.title),
        ("right".toList, toJson right)])
  | call callee arguments =>
    node "Call" (.object
      [("callee".toList, Json.ofString callee), ("arguments".toList, .array (toJsonAll arguments))])

def toJsonAll : List Expr → List Json
  | [] => []
  | e :: es => toJson e :: toJsonAll es

end

def ofJson? : Nat → Json → Option Expr
  | 0, j => if j.text? = some "Variable" then some theta else none
  | room + 1, j =>
    match j.choice? with
    | none => if j.text? = some "Variable" then some theta else none
    | some (kind, value) =>
      if kind = "Variable" then if value matches .null then some theta else none
      else if kind = "NumberLiteral" then value.float?.map literal
      else if kind = "Unary" then
        match room with
        | 0 => none
        | room + 1 => do
          let fields ← value.fields? ["operator", "argument"]
          let [some op, some argument] := fields | none
          let op ← UnaryOp.ofTitle? (← op.name? room)
          return unary op (← ofJson? room argument)
      else if kind = "Binary" then
        match room with
        | 0 => none
        | room + 1 => do
          let fields ← value.fields? ["left", "operator", "right"]
          let [some left, some op, some right] := fields | none
          let op ← BinaryOp.ofTitle? (← op.name? room)
          return binary op (← ofJson? room left) (← ofJson? room right)
      else if kind = "Call" then
        match room with
        | room + 2 => do
          let fields ← value.fields? ["callee", "arguments"]
          let [some callee, some arguments] := fields | none
          return call (← callee.text?) (← (← arguments.items?).mapM fun a => ofJson? room a)
        | _ => none
      else none

def document (e : Expr) : String := e.toJson.text

def ofDocument? (s : String) : Option Expr := do
  ofJson? Json.maxDepth (← Json.ofText? s.toList)

end Expr

end PolarCurve
