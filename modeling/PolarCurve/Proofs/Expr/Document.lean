import PolarCurve.Proofs.Expr.Printed
import PolarCurve.Proofs.Expr.Recursion
import PolarCurve.Proofs.Json.Shape

namespace PolarCurve.Expr

mutual

/-- The number of brackets around the innermost part of a document. -/
def nest : Expr → Nat
  | literal _ => 1
  | theta => 0
  | unary _ argument => 2 + nest argument
  | binary _ left right => 2 + max (nest left) (nest right)
  | call _ arguments => 3 + nestAll arguments

def nestAll : List Expr → Nat
  | [] => 0
  | e :: es => max (nest e) (nestAll es)

end

mutual

def mapLiterals? (f : Float → Option Float) : Expr → Option Expr
  | literal value => (f value).map literal
  | theta => some theta
  | unary op argument => (mapLiterals? f argument).map (unary op)
  | binary op left right => do return binary op (← mapLiterals? f left) (← mapLiterals? f right)
  | call callee arguments => (mapLiteralsAll? f arguments).map (call callee)

def mapLiteralsAll? (f : Float → Option Float) : List Expr → Option (List Expr)
  | [] => some []
  | e :: es => do return (← mapLiterals? f e) :: (← mapLiteralsAll? f es)

end

lemma isSome_both {α β γ : Type} (f : α → β → γ) (x : Option α) (y : Option β) :
    (do return f (← x) (← y) : Option γ).isSome ↔ x.isSome ∧ y.isSome := by
  cases x <;> cases y <;> simp

section Literals

variable {f : Float → Option Float}

mutual

lemma mapLiterals?_isSome : (e : Expr) →
    ((e.mapLiterals? f).isSome ↔ ∀ x ∈ e.literals, (f x).isSome)
  | .literal value => by simp [mapLiterals?, literals]
  | .theta => by simp [mapLiterals?, literals]
  | .unary op argument => by
    rw [mapLiterals?, Option.isSome_map, mapLiterals?_isSome argument, literals]
  | .binary op left right => by
    rw [mapLiterals?, isSome_both, mapLiterals?_isSome left, mapLiterals?_isSome right, literals,
      List.forall_mem_append]
  | .call callee arguments => by
    rw [mapLiterals?, Option.isSome_map, mapLiteralsAll?_isSome arguments, literals]

lemma mapLiteralsAll?_isSome : (es : List Expr) →
    ((mapLiteralsAll? f es).isSome ↔ ∀ x ∈ literalsAll es, (f x).isSome)
  | [] => by simp [mapLiteralsAll?, literalsAll]
  | e :: es => by
    rw [mapLiteralsAll?, isSome_both, mapLiterals?_isSome e, mapLiteralsAll?_isSome es, literalsAll,
      List.forall_mem_append]

end

mutual

lemma mapLiterals?_self : (e : Expr) → (∀ x ∈ e.literals, f x = some x) →
    e.mapLiterals? f = some e
  | .literal value, h => by
    rw [mapLiterals?, h value (by simp [literals])]
    rfl
  | .theta, _ => by rw [mapLiterals?]
  | .unary op argument, h => by
    rw [literals] at h
    rw [mapLiterals?, mapLiterals?_self argument h]
    rfl
  | .binary op left right, h => by
    rw [literals] at h
    rw [mapLiterals?, mapLiterals?_self left fun x hx => h x (List.mem_append_left _ hx),
      mapLiterals?_self right fun x hx => h x (List.mem_append_right _ hx)]
    rfl
  | .call callee arguments, h => by
    rw [literals] at h
    rw [mapLiterals?, mapLiteralsAll?_self arguments h]
    rfl

lemma mapLiteralsAll?_self : (es : List Expr) → (∀ x ∈ literalsAll es, f x = some x) →
    mapLiteralsAll? f es = some es
  | [], _ => by rw [mapLiteralsAll?]
  | e :: es, h => by
    rw [literalsAll] at h
    rw [mapLiteralsAll?, mapLiterals?_self e fun x hx => h x (List.mem_append_left _ hx),
      mapLiteralsAll?_self es fun x hx => h x (List.mem_append_right _ hx)]
    rfl

end

end Literals

lemma unaryKeys : Json.PlainKeys ["operator", "argument"] := by decide

lemma binaryKeys : Json.PlainKeys ["left", "operator", "right"] := by decide

lemma callKeys : Json.PlainKeys ["callee", "arguments"] := by decide

lemma spelt_node {kind : String} (hkind : Json.PlainKey kind) {value : Json} (h : Json.Spelt value) :
    Json.Spelt (node kind value) :=
  .object (by simpa using hkind.stringSpelling) (by simpa using h)

mutual

lemma spelt_toJson : (e : Expr) → Json.Spelt e.toJson
  | .literal value => by
    rw [toJson]
    exact spelt_node (by decide) (Json.spelt_ofFloat value)
  | .theta => by
    rw [toJson]
    exact Json.spelt_ofString _
  | .unary op argument => by
    rw [toJson]
    refine spelt_node (by decide) (Json.spelt_object [("operator", _), ("argument", _)]
      unaryKeys ?_)
    simp [Json.spelt_ofString, spelt_toJson argument]
  | .binary op left right => by
    rw [toJson]
    refine spelt_node (by decide) (Json.spelt_object [("left", _), ("operator", _), ("right", _)]
      binaryKeys ?_)
    simp [Json.spelt_ofString, spelt_toJson left, spelt_toJson right]
  | .call callee arguments => by
    rw [toJson]
    refine spelt_node (by decide) (Json.spelt_object [("callee", _), ("arguments", _)] callKeys ?_)
    simp [Json.spelt_ofString, Json.Spelt.array (spelt_toJsonAll arguments)]

lemma spelt_toJsonAll : (es : List Expr) → ∀ j ∈ toJsonAll es, Json.Spelt j
  | [] => by simp [toJsonAll]
  | e :: es => by
    rw [toJsonAll]
    exact List.forall_mem_cons.mpr ⟨spelt_toJson e, spelt_toJsonAll es⟩

end

lemma toJson_ne_null (e : Expr) : e.toJson ≠ .null := by
  cases e <;> rw [toJson] <;> nofun

lemma choice?_node {kind : String} (h : Json.PlainKey kind) (value : Json) :
    (node kind value).choice? = some (kind, value) := by
  rw [node, Json.choice?, h.unescape?]
  simp

lemma ofJson?_node_zero (kind : String) (value : Json) : ofJson? 0 (node kind value) = none := by
  rw [ofJson?]
  rfl

lemma ofJson?_node_one {kind : String} (h : Json.PlainKey kind) (hvariable : kind ≠ "Variable")
    (hliteral : kind ≠ "NumberLiteral") (value : Json) : ofJson? 1 (node kind value) = none := by
  rw [ofJson?, choice?_node h]
  dsimp only
  rw [if_neg hvariable, if_neg hliteral]
  repeat' split
  all_goals rfl

lemma name?_ofString (s : String) (room : Nat) : (Json.ofString s).name? room = some s := by
  rw [Json.name?.eq_def, Json.text?_ofString]

lemma ofTitle?_unary (op : UnaryOp) : UnaryOp.ofTitle? op.title = some op := by
  cases op <;> rfl

lemma ofTitle?_binary (op : BinaryOp) : BinaryOp.ofTitle? op.title = some op := by
  cases op <;> rfl

lemma ofJson?_theta (room : Nat) : ofJson? room theta.toJson = some theta := by
  rw [toJson]
  cases room <;>
  · rw [ofJson?, Json.text?_ofString]
    exact if_pos rfl

lemma ofJson?_literal (room : Nat) (value : Float) :
    ofJson? (room + 1) (literal value).toJson = (Json.reread? value).map literal := by
  rw [toJson, ofJson?, choice?_node (by decide)]
  simp [Json.reread?]

lemma ofJson?_unary (room : Nat) (op : UnaryOp) (argument : Expr) :
    ofJson? (room + 2) (unary op argument).toJson =
      (ofJson? room argument.toJson).map (unary op) := by
  have hfields := @Json.fields?_record ["operator", "argument"]
    [("operator", Json.ofString op.title), ("argument", argument.toJson)] rfl unaryKeys
  simp only [List.map_cons, List.map_nil] at hfields
  rw [toJson, ofJson?, choice?_node (by decide)]
  dsimp only
  rw [if_neg (by decide), if_neg (by decide), if_pos rfl, hfields]
  simp only [Option.bind_eq_bind, Option.bind_some, name?_ofString, ofTitle?_unary]
  cases ofJson? room argument.toJson <;> rfl

lemma ofJson?_binary (room : Nat) (op : BinaryOp) (left right : Expr) :
    ofJson? (room + 2) (binary op left right).toJson =
      (do return binary op (← ofJson? room left.toJson) (← ofJson? room right.toJson)) := by
  have hfields := @Json.fields?_record ["left", "operator", "right"] [("left", left.toJson),
    ("operator", Json.ofString op.title), ("right", right.toJson)] rfl binaryKeys
  simp only [List.map_cons, List.map_nil] at hfields
  rw [toJson, ofJson?, choice?_node (by decide)]
  dsimp only
  rw [if_neg (by decide), if_neg (by decide), if_neg (by decide), if_pos rfl, hfields]
  simp only [Option.bind_eq_bind, Option.bind_some, name?_ofString, ofTitle?_binary]

lemma ofJson?_call (room : Nat) (callee : String) (arguments : List Expr) :
    ofJson? (room + 3) (call callee arguments).toJson =
      ((arguments.map toJson).mapM (ofJson? room)).map (call callee) := by
  have hfields := @Json.fields?_record ["callee", "arguments"] [("callee", Json.ofString callee),
    ("arguments", .array (toJsonAll arguments))] rfl callKeys
  simp only [List.map_cons, List.map_nil] at hfields
  rw [toJson, ofJson?, choice?_node (by decide)]
  dsimp only
  rw [if_neg (by decide), if_neg (by decide), if_neg (by decide), if_neg (by decide), if_pos rfl,
    hfields]
  simp only [Option.bind_eq_bind, Option.bind_some, Json.text?_ofString, Json.items?, toJsonAll_eq]
  cases (arguments.map toJson).mapM (ofJson? room) <;> rfl

lemma both_within {α β γ : Type} (f : α → β → γ) (x : Option α) (y : Option β) (a b room : Nat) :
    ((if a ≤ room then x else none) >>= fun u => (if b ≤ room then y else none) >>= fun v =>
      (pure (f u v) : Option γ)) = if max a b ≤ room then (do return f (← x) (← y)) else none := by
  by_cases ha : a ≤ room
  · by_cases hb : b ≤ room
    · rw [if_pos ha, if_pos hb, if_pos (Nat.max_le.mpr ⟨ha, hb⟩)]
    · rw [if_neg hb, if_neg fun h => hb (Nat.max_le.mp h).2]
      cases if a ≤ room then x else none <;> rfl
  · rw [if_neg ha, if_neg fun h => ha (Nat.max_le.mp h).1]
    rfl

lemma map_within {α β : Type} (f : α → β) (x : Option α) (n k room : Nat) :
    (if n ≤ room then x else none).map f = if k + n ≤ room + k then x.map f else none := by
  by_cases h : n ≤ room
  · rw [if_pos h, if_pos (by omega)]
  · rw [if_neg h, if_neg (by omega)]
    rfl

mutual

theorem ofJson?_toJson (room : Nat) : (e : Expr) →
    ofJson? room e.toJson = if e.nest ≤ room then e.mapLiterals? Json.reread? else none
  | .literal value => by
    cases room with
    | zero => exact ofJson?_node_zero _ _
    | succ room => rw [ofJson?_literal, nest, if_pos (by omega), mapLiterals?]
  | .theta => by rw [ofJson?_theta, nest, if_pos (Nat.zero_le _), mapLiterals?]
  | .unary op argument => by
    match room with
    | 0 => rw [toJson, ofJson?_node_zero, nest, if_neg (by omega)]
    | 1 =>
      rw [toJson, ofJson?_node_one (by decide) (by decide) (by decide), nest, if_neg (by omega)]
    | room + 2 =>
      rw [ofJson?_unary, ofJson?_toJson room argument, nest, mapLiterals?, map_within _ _ _ 2]
  | .binary op left right => by
    match room with
    | 0 => rw [toJson, ofJson?_node_zero, nest, if_neg (by omega)]
    | 1 =>
      rw [toJson, ofJson?_node_one (by decide) (by decide) (by decide), nest, if_neg (by omega)]
    | room + 2 =>
      have hroom : 2 + max left.nest right.nest ≤ room + 2 ↔ max left.nest right.nest ≤ room := by
        omega
      simp only [ofJson?_binary, ofJson?_toJson room left, ofJson?_toJson room right, nest,
        mapLiterals?, both_within, hroom]
  | .call callee arguments => by
    match room with
    | 0 => rw [toJson, ofJson?_node_zero, nest, if_neg (by omega)]
    | 1 =>
      rw [toJson, ofJson?_node_one (by decide) (by decide) (by decide), nest, if_neg (by omega)]
    | 2 =>
      rw [nest, if_neg (by omega), toJson, ofJson?, choice?_node (by decide)]
      rfl
    | room + 3 =>
      rw [ofJson?_call, mapM_ofJson? room arguments, nest, mapLiterals?, map_within _ _ _ 3]

lemma mapM_ofJson? (room : Nat) : (es : List Expr) →
    (es.map toJson).mapM (ofJson? room) =
      if nestAll es ≤ room then mapLiteralsAll? Json.reread? es else none
  | [] => by rw [nestAll, if_pos (Nat.zero_le _), mapLiteralsAll?]; rfl
  | e :: es => by
    rw [List.map_cons, List.mapM_cons, ofJson?_toJson room e, mapM_ofJson? room es, nestAll,
      mapLiteralsAll?]
    exact both_within List.cons _ _ _ _ room

end

end PolarCurve.Expr
