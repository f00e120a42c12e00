import PolarCurve.Proofs.Expr.Levels

namespace PolarCurve.Expr

def evaluateStep (angle : Float) :
    Head → List (Except CallFault Float) → Except CallFault Float
  | .literal value, _ => .ok value
  | .theta, _ => .ok angle
  | .unary op, xs =>
    match xs with
    | [x] => do return op.apply (← x)
    | _ => .ok angle
  | .binary op, xs =>
    match xs with
    | [x, y] => do return op.apply (← x) (← y)
    | _ => .ok angle
  | .call callee, xs =>
    match Builtin.ofName? callee with
    | none => .error (.unknownFunction callee)
    | some f =>
      match xs with
      | [x] => do return f.apply (← x)
      | _ => .error (.wrongArity f.name f.arity xs.length)

def firstFault : List (Except CallFault Unit) → Except CallFault Unit
  | [] => .ok ()
  | x :: xs => do
    x
    firstFault xs

def validateStep : Head → List (Except CallFault Unit) → Except CallFault Unit
  | .call callee, xs =>
    match Builtin.ofName? callee with
    | none => .error (.unknownFunction callee)
    | some f =>
      if xs.length ≠ f.arity then .error (.wrongArity f.name f.arity xs.length) else firstFault xs
  | .literal _, xs | .theta, xs | .unary _, xs | .binary _, xs => firstFault xs

def commas : List String → String
  | [] => ""
  | [s] => s
  | s :: ss => s ++ ", " ++ commas ss

def displayStep : Head → List String → String
  | .literal value, _ => Double.text value
  | .theta, _ => "theta"
  | .unary op, ss => "(" ++ op.symbol ++ commas ss ++ ")"
  | .binary op, ss =>
    match ss with
    | [left, right] => "(" ++ left ++ " " ++ op.symbol ++ " " ++ right ++ ")"
    | _ => ""
  | .call callee, ss => callee ++ "(" ++ commas ss ++ ")"

def countStep (_ : Head) (visits : List (Counter → Counter)) (c : Counter) : Counter :=
  (visits.foldl (fun c visit => visit c) c.enter).leave

def namesStep (head : Head) (collects : List (List String → List String)) (names : List String) :
    List String :=
  let names :=
    match head with
    | .call callee => insertName callee names
    | .literal _ | .theta | .unary _ | .binary _ => names
  collects.foldl (fun names collect => collect names) names

def thetaStep : Head → List Bool → Bool
  | .theta, _ => true
  | .literal _, found | .unary _, found | .binary _, found | .call _, found => found.any id

def outlineStep (head : Head) (rows : List (Nat → List (Nat × String))) (level : Nat) :
    List (Nat × String) :=
  let label :=
    match head with
    | .literal value => "Number " ++ Double.text value
    | .theta => "Variable theta"
    | .unary op => "Unary " ++ op.symbol
    | .binary op => "Binary " ++ op.symbol
    | .call callee => "Call " ++ callee
  (level, label) :: rows.flatMap fun row => row (level + 1)

def documentStep : Head → List Json → Json
  | .literal value, _ => node "NumberLiteral" (Json.ofFloat value)
  | .theta, _ => Json.ofString "Variable"
  | .unary op, js =>
    match js with
    | [argument] =>
      node "Unary" (.object
        [("operator".toList, Json.ofString op.title), ("argument".toList, argument)])
    | _ => .array js
  | .binary op, js =>
    match js with
    | [left, right] =>
      node "Binary" (.object
        [("left".toList, left), ("operator".toList, Json.ofString op.title),
          ("right".toList, right)])
    | _ => .array js
  | .call callee, js =>
    node "Call" (.object
      [("callee".toList, Json.ofString callee), ("arguments".toList, .array js)])

lemma isFold_evaluate (angle : Float) : IsFold (evaluate angle) (evaluateStep angle) := by
  intro e
  cases e with
  | literal value => rw [evaluate]; rfl
  | theta => rw [evaluate]; rfl
  | unary op argument => rw [evaluate]; rfl
  | binary op left right => rw [evaluate]; rfl
  | call callee arguments =>
    rw [evaluate]
    simp only [head, children, evaluateStep]
    cases Builtin.ofName? callee with
    | none => rfl
    | some f =>
      cases arguments with
      | nil => rfl
      | cons argument rest =>
        cases rest with
        | nil => rfl
        | cons _ rest => simp

lemma validateAll_eq (es : List Expr) : validateAll es = firstFault (es.map validate) := by
  induction es with
  | nil => rw [validateAll]; rfl
  | cons e es ih => rw [validateAll, ih]; rfl

lemma isFold_validate : IsFold validate validateStep := by
  intro e
  cases e with
  | literal value => rw [validate]; rfl
  | theta => rw [validate]; rfl
  | unary op argument =>
    rw [validate]
    simp only [head, children, validateStep, List.map_cons, List.map_nil, firstFault]
    cases validate argument <;> rfl
  | binary op left right =>
    rw [validate]
    simp only [head, children, validateStep, List.map_cons, List.map_nil, firstFault]
    cases validate left with
    | error f => rfl
    | ok _ => cases validate right <;> rfl
  | call callee arguments =>
    cases hf : Builtin.ofName? callee with
    | none => simp [validate, head, validateStep, hf]
    | some f => simp [validate, head, children, validateStep, hf, validateAll_eq]

lemma displayAll_eq (es : List Expr) : displayAll es = commas (es.map display) := by
  induction es with
  | nil => rw [displayAll]; rfl
  | cons e es ih =>
    cases es with
    | nil => rw [displayAll]; rfl
    | cons d es =>
      rw [displayAll, ih]
      · rfl
      · simp

lemma isFold_display : IsFold display displayStep := by
  intro e
  cases e with
  | literal value => rw [display]; rfl
  | theta => rw [display]; rfl
  | unary op argument => rw [display]; rfl
  | binary op left right => rw [display]; rfl
  | call callee arguments => rw [display, displayAll_eq]; rfl

lemma visitAll_eq (es : List Expr) (c : Counter) :
    c.visitAll es = (es.map fun e c => Counter.visit c e).foldl (fun c visit => visit c) c := by
  induction es generalizing c with
  | nil => rw [Counter.visitAll]; rfl
  | cons e es ih => rw [Counter.visitAll, ih]; rfl

lemma isFold_count : IsFold (fun e c => Counter.visit c e) countStep := by
  intro e
  funext c
  cases e with
  | literal value => simp only [Counter.visit]; rfl
  | theta => simp only [Counter.visit]; rfl
  | unary op argument => simp only [Counter.visit]; rfl
  | binary op left right => simp only [Counter.visit]; rfl
  | call callee arguments => simp only [Counter.visit, visitAll_eq]; rfl

lemma collectNamesAll_eq (es : List Expr) (names : List String) :
    collectNamesAll names es =
      (es.map fun e names => collectNames names e).foldl (fun names collect => collect names)
        names := by
  induction es generalizing names with
  | nil => rw [collectNamesAll]; rfl
  | cons e es ih => rw [collectNamesAll, ih]; rfl

lemma isFold_names : IsFold (fun e names => collectNames names e) namesStep := by
  intro e
  funext names
  cases e with
  | literal value => simp only [collectNames]; rfl
  | theta => simp only [collectNames]; rfl
  | unary op argument => simp only [collectNames]; rfl
  | binary op left right => simp only [collectNames]; rfl
  | call callee arguments => simp only [collectNames, collectNamesAll_eq]; rfl

lemma anyMentionsTheta_eq (es : List Expr) :
    anyMentionsTheta es = (es.map mentionsTheta).any id := by
  induction es with
  | nil => rw [anyMentionsTheta]; rfl
  | cons e es ih => rw [anyMentionsTheta, ih]; rfl

lemma isFold_theta : IsFold mentionsTheta thetaStep := by
  intro e
  cases e with
  | literal value => rw [mentionsTheta]; rfl
  | theta => rw [mentionsTheta]; rfl
  | unary op argument => simp [mentionsTheta, head, children, thetaStep]
  | binary op left right => simp [mentionsTheta, head, children, thetaStep]
  | call callee arguments => rw [mentionsTheta, anyMentionsTheta_eq]; rfl

lemma entriesAll_eq (es : List Expr) (level : Nat) :
    entriesAll level es = (es.map fun e level => entries level e).flatMap fun row => row level := by
  induction es with
  | nil => rw [entriesAll]; rfl
  | cons e es ih => rw [entriesAll, ih]; rfl

lemma isFold_outline : IsFold (fun e level => entries level e) outlineStep := by
  intro e
  funext level
  cases e with
  | literal value => simp only [entries]; rfl
  | theta => simp only [entries]; rfl
  | unary op argument => simp [entries, head, children, outlineStep, label]
  | binary op left right => simp [entries, head, children, outlineStep, label]
  | call callee arguments => simp only [entries, entriesAll_eq]; rfl

lemma toJsonAll_eq (es : List Expr) : toJsonAll es = es.map toJson := by
  induction es with
  | nil => rw [toJsonAll]; rfl
  | cons e es ih => rw [toJsonAll, ih]; rfl

lemma isFold_document : IsFold toJson documentStep := by
  intro e
  cases e with
  | literal value => rw [toJson]; rfl
  | theta => rw [toJson]; rfl
  | unary op argument => rw [toJson]; rfl
  | binary op left right => rw [toJson]; rfl
  | call callee arguments => rw [toJson, toJsonAll_eq]; rfl

/-- All recursions over an expression finish on it with so many nested steps. -/
structure RecursesWithin (n : Nat) (e : Expr) : Prop where
  evaluate : ∀ angle, foldWithin (evaluateStep angle) n e = some (e.evaluate angle)
  validate : foldWithin validateStep n e = some e.validate
  display : foldWithin displayStep n e = some e.display
  count : foldWithin countStep n e = some fun c => Counter.visit c e
  names : foldWithin namesStep n e = some fun names => collectNames names e
  theta : foldWithin thetaStep n e = some e.mentionsTheta
  outline : foldWithin outlineStep n e = some fun level => entries level e
  document : foldWithin documentStep n e = some e.toJson

theorem recursesWithin_iff {n : Nat} {e : Expr} : RecursesWithin n e ↔ e.levels ≤ n := by
  constructor
  · intro h
    have hdisplay := h.display
    rw [foldWithin_eq isFold_display] at hdisplay
    split at hdisplay
    · next hn => exact hn
    · cases hdisplay
  · intro h
    constructor <;> intros
    · rw [foldWithin_eq (isFold_evaluate _), if_pos h]
    · rw [foldWithin_eq isFold_validate, if_pos h]
    · rw [foldWithin_eq isFold_display, if_pos h]
    · rw [foldWithin_eq isFold_count, if_pos h]
    · rw [foldWithin_eq isFold_names, if_pos h]
    · rw [foldWithin_eq isFold_theta, if_pos h]
    · rw [foldWithin_eq isFold_outline, if_pos h]
    · rw [foldWithin_eq isFold_document, if_pos h]

end PolarCurve.Expr
