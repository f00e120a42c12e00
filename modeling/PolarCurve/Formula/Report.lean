import PolarCurve.Expr.Document
import PolarCurve.Formula

namespace PolarCurve

structure Report where
  ok : Bool
  error : Option String
  position : Option Nat
  tree : Option Expr
deriving BEq

namespace Report

def ofResult : Except CompileError Formula → Report
  | .ok f => ⟨true, none, none, some f.tree⟩
  | .error e => ⟨false, some e.message, some e.position, none⟩

def compile (source : String) : Report := ofResult (Formula.compile source)

def toJson (r : Report) : Json :=
  .object
    ([("ok".toList, .bool r.ok)] ++
      (r.error.map fun e => ("error".toList, Json.ofString e)).toList ++
      (r.position.map fun p => ("position".toList, Json.ofNat p)).toList ++
      (r.tree.map fun e => ("ast".toList, e.toJson)).toList)

def ofJson? (room : Nat) (j : Json) : Option Report :=
  match room with
  | 0 => none
  | room + 1 => do
    let fields ← j.fields? ["ok", "error", "position", "ast"]
    let [some ok, error, position, tree] := fields | none
    return ⟨← ok.bool?, ← Json.orElse? none (Json.nullable? Json.text?) error,
      ← Json.orElse? none (Json.nullable? Json.nat?) position,
      ← Json.orElse? none (Json.nullable? (Expr.ofJson? room)) tree⟩

def document (r : Report) : String := r.toJson.text

def ofDocument? (s : String) : Option Report := do
  ofJson? Json.maxDepth (← Json.ofText? s.toList)

end Report

end PolarCurve
