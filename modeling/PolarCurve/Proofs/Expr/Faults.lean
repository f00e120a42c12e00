import PolarCurve.Expr.Value
import Mathlib.Tactic.Lemma

namespace PolarCurve.Expr

def callFault? (callee : String) (arguments : List Expr) : Option CallFault :=
  match Builtin.ofName? callee with
  | none => some (.unknownFunction callee)
  | some f =>
    if arguments.length = f.arity then none
    else some (.wrongArity f.name f.arity arguments.length)

mutual

def faults : Expr → List CallFault
  | literal _ => []
  | theta => []
  | unary _ argument => faults argument
  | binary _ left right => faults left ++ faults right
  | call callee arguments => (callFault? callee arguments).toList ++ faultsAll arguments

def faultsAll : List Expr → List CallFault
  | [] => []
  | e :: es => faults e ++ faultsAll es

end

def report : List CallFault → Except CallFault Unit
  | [] => .ok ()
  | fault :: _ => .error fault

lemma report_append (before behind : List CallFault) :
    report (before ++ behind) = (report before >>= fun _ => report behind) := by
  cases before <;> rfl

lemma report_eq_error_iff {reported : List CallFault} {fault : CallFault} :
    report reported = .error fault ↔ reported.head? = some fault := by
  cases reported <;> simp [report]

mutual

lemma validate_report : (e : Expr) → e.validate = report e.faults
  | .literal _ => by rw [validate, faults, report]
  | .theta => by rw [validate, faults, report]
  | .unary _ argument => by rw [validate, faults, validate_report argument]
  | .binary _ left right => by
    rw [validate, faults, report_append, validate_report left, validate_report right]
  | .call callee arguments => by
    rw [validate, faults, report_append, callFault?]
    cases Builtin.ofName? callee with
    | none => rfl
    | some f =>
      dsimp only
      by_cases harity : arguments.length = f.arity
      · rw [if_neg fun hne => hne harity, if_pos harity, validateAll_report arguments]
        rfl
      · rw [if_pos harity, if_neg harity]
        rfl

lemma validateAll_report : (es : List Expr) → validateAll es = report (faultsAll es)
  | [] => by rw [validateAll, faultsAll, report]
  | e :: es => by
    rw [validateAll, faultsAll, report_append, validate_report e, validateAll_report es]

end

lemma evaluate_report (angle : Float) :
    (e : Expr) → (e.evaluate angle).map (fun _ => ()) = report e.faults
  | .literal _ => by rw [evaluate, faults]; rfl
  | .theta => by rw [evaluate, faults]; rfl
  | .unary op argument => by
    rw [evaluate, faults, ← evaluate_report angle argument]
    cases argument.evaluate angle <;> rfl
  | .binary op left right => by
    rw [evaluate, faults, report_append, ← evaluate_report angle left,
      ← evaluate_report angle right]
    cases left.evaluate angle with
    | error fault => rfl
    | ok x => cases right.evaluate angle <;> rfl
  | .call callee arguments => by
    rw [evaluate, faults, report_append, callFault?]
    cases Builtin.ofName? callee with
    | none => rfl
    | some f =>
      match arguments with
      | [] => rfl
      | [argument] =>
        rw [faultsAll, faultsAll, List.append_nil, ← evaluate_report angle argument]
        change (argument.evaluate angle >>= fun x => pure (f.apply x)).map _ = _
        cases argument.evaluate angle <;> rfl
      | _ :: _ :: _ => rfl

lemma evaluate_eq_error_iff {e : Expr} {angle : Float} {fault : CallFault} :
    e.evaluate angle = .error fault ↔ e.faults.head? = some fault := by
  rw [← report_eq_error_iff, ← evaluate_report angle e]
  cases e.evaluate angle <;> simp [Except.map]

lemma validate_eq_error_iff {e : Expr} {fault : CallFault} :
    e.validate = .error fault ↔ e.faults.head? = some fault := by
  rw [← report_eq_error_iff, validate_report]

theorem fault_of_evaluate (e : Expr) (angle : Float) (fault : CallFault) :
    (e.evaluate angle = .error fault ↔ e.validate = .error fault) ∧
    (e.validate = .error fault ↔ e.faults.head? = some fault) ∧
    ∀ angle' : Float, e.evaluate angle' = .error fault ↔ e.evaluate angle = .error fault := by
  refine ⟨?_, validate_eq_error_iff, fun angle' => ?_⟩
  · rw [evaluate_eq_error_iff, validate_eq_error_iff]
  · rw [evaluate_eq_error_iff, evaluate_eq_error_iff]

end PolarCurve.Expr
