import PolarCurve.Emitter
import PolarCurve.Proofs.Formula.Value

/-! What an emitter holds after any actions is said of the actions alone. -/

namespace PolarCurve.Emitter

namespace Action

def handle? : Action → Option Handle
  | setFormula serial source => (Formula.compile source).toOption.map (Handle.mk serial)
  | setHandle handle => some handle
  | applySettings serial settings =>
    (Formula.compile settings.formula).toOption.map (Handle.mk serial)
  | setOrigin .. | setSpeed _ | reset | step | sample _ => none

def speed? : Action → Option Float
  | setSpeed speed => some speed
  | applySettings _ settings => some settings.drawSpeed
  | setFormula .. | setHandle _ | setOrigin .. | reset | step | sample _ => none

def origin? : Action → Option (Float × Float)
  | setOrigin x y => some (x, y)
  | setFormula .. | setHandle _ | setSpeed _ | reset | step | sample _ | applySettings .. => none

def steps : Action → Nat
  | step => 1
  | sample count => count
  | setFormula .. | setHandle _ | setOrigin .. | setSpeed _ | reset | applySettings .. => 0

def resets : Action → Bool
  | reset => true
  | setFormula .. | setHandle _ | setOrigin .. | setSpeed _ | step | sample _ | applySettings .. =>
    false

end Action

def run (e : Emitter) (actions : List Action) : Emitter :=
  actions.foldl (fun e a => (e.perform a).1) e

def latest {α : Type} (set? : Action → Option α) (initial : α) (past : List Action) : α :=
  (past.filterMap set?).getLastD initial

def speedAfter (past : List Action) : Float := latest Action.speed? 0.025 past

/-- The speeds in force at the steps that no reset follows, in the order of the steps. -/
def strides (past : List Action) : List Float :=
  past.zipIdx.flatMap fun (a, i) =>
    if (past.drop (i + 1)).any Action.resets then []
    else List.replicate a.steps (speedAfter (past.take i))

def total (speeds : List Float) : Float := speeds.foldl (· + ·) 0

def ofHistory (serial : Nat) (origin : Float × Float) (past : List Action) : Emitter where
  handle := latest Action.handle? ⟨serial, ⟨"5", .literal 5⟩⟩ past
  theta := total (strides past)
  speed := speedAfter past
  origin := latest Action.origin? origin past
  emissionAngle := if strides past = [] then 0 else -total (strides past)

structure Marks (e : Emitter) (p : PathPoint) : Prop where
  theta : p.theta = e.theta
  radius : e.handle.formula.tree.evaluate e.theta = .ok p.radius
  x : p.x = p.radius * Float.cos e.theta + e.origin.1
  y : p.y = p.radius * Float.sin e.theta + e.origin.2
  emissionAngle : p.emissionAngle = -(e.theta + e.speed)

lemma latest_concat {α : Type} (set? : Action → Option α) (initial : α) (past : List Action)
    (a : Action) :
    latest set? initial (past ++ [a]) = (set? a).getD (latest set? initial past) := by
  rw [latest, List.filterMap_append]
  cases h : set? a with
  | none => simp [latest, h]
  | some value => simp [h]

lemma latest_cases {α : Type} (set? : Action → Option α) (initial : α) (past : List Action) :
    latest set? initial past = initial ∨
      ∃ a ∈ past, set? a = some (latest set? initial past) := by
  induction past using List.reverseRecOn with
  | nil => exact Or.inl rfl
  | append_singleton past a ih =>
    rw [latest_concat]
    cases h : set? a with
    | none => exact ih.imp_right fun ⟨b, hb, hset⟩ => ⟨b, List.mem_append_left _ hb, hset⟩
    | some value => exact Or.inr ⟨a, by simp, h⟩

lemma strides_concat (past : List Action) (a : Action) :
    strides (past ++ [a]) =
      if a.resets then [] else strides past ++ List.replicate a.steps (speedAfter past) := by
  have hbefore : ∀ b i, (b, i) ∈ past.zipIdx →
      (past ++ [a]).drop (i + 1) = past.drop (i + 1) ++ [a] ∧
        (past ++ [a]).take i = past.take i := by
    intro b i hmem
    obtain ⟨-, hi, -⟩ := List.mem_zipIdx hmem
    exact ⟨List.drop_append_of_le_length (by omega), List.take_append_of_le_length (by omega)⟩
  rw [strides, List.zipIdx_append, List.flatMap_append]
  split
  · next hreset =>
    have hsteps : a.steps = 0 := by
      cases a <;> first | rfl | cases hreset
    simp only [List.append_eq_nil_iff, List.flatMap_eq_nil_iff]
    refine ⟨?_, by simp [hsteps]⟩
    rintro ⟨b, i⟩ hmem
    simp [hbefore b i hmem, hreset]
  · next hkeep =>
    congr 1
    · rw [strides, List.flatMap_congr]
      rintro ⟨b, i⟩ hmem
      simp [hbefore b i hmem, hkeep]
    · simp

def advance (theta speed : Float) (n : Nat) : Float :=
  (List.replicate n speed).foldl (· + ·) theta

lemma total_append (speeds : List Float) (speed : Float) (n : Nat) :
    total (speeds ++ List.replicate n speed) = advance (total speeds) speed n :=
  List.foldl_append

lemma sample_fst (e : Emitter) (n : Nat) :
    (e.sample n).1 = { e with
      theta := advance e.theta e.speed n
      emissionAngle := if n = 0 then e.emissionAngle else -advance e.theta e.speed n } := by
  induction n generalizing e with
  | zero => rfl
  | succ n ih =>
    rw [show (e.sample (n + 1)).1 = (e.step.1.sample n).1 from rfl, ih]
    cases n <;> rfl

lemma setFormula_fst (e : Emitter) (serial : Nat) (source : String) :
    (e.setFormula serial source).1 =
      e.setHandle (((Formula.compile source).toOption.map (Handle.mk serial)).getD e.handle) := by
  rw [setFormula]
  cases Formula.compile source <;> rfl

lemma perform_fst (e : Emitter) (a : Action) :
    (e.perform a).1 =
      { handle := a.handle?.getD e.handle
        theta := if a.resets then 0 else advance e.theta e.speed a.steps
        speed := a.speed?.getD e.speed
        origin := a.origin?.getD e.origin
        emissionAngle :=
          if a.resets then 0
          else if a.steps = 0 then e.emissionAngle else -advance e.theta e.speed a.steps } := by
  cases a with
  | setFormula serial source => exact setFormula_fst e serial source
  | setHandle handle => rfl
  | setOrigin x y => rfl
  | setSpeed speed => rfl
  | reset => rfl
  | step => rfl
  | sample count => exact sample_fst e count
  | applySettings serial settings => exact setFormula_fst (e.setSpeed settings.drawSpeed) serial _

lemma points_sample (e : Emitter) (n : Nat) :
    (e.sample n).2.length = n ∧ ∀ k p, (e.sample n).2[k]? = some p →
      p = (run e (List.replicate k .step)).step.2 := by
  induction n generalizing e with
  | zero => exact ⟨rfl, fun k p h => by cases h⟩
  | succ n ih =>
    obtain ⟨hlength, hpoints⟩ := ih e.step.1
    refine ⟨congrArg (· + 1) hlength, fun k p h => ?_⟩
    cases k with
    | zero => exact (Option.some.inj h).symm
    | succ k => exact hpoints k p h

lemma points_perform (e : Emitter) (a : Action) :
    (e.perform a).2.points.length = a.steps ∧ ∀ k p, (e.perform a).2.points[k]? = some p →
      p = (run e (List.replicate k .step)).step.2 := by
  cases a with
  | step => exact points_sample e 1
  | sample count => exact points_sample e count
  | _ => exact ⟨rfl, fun k p h => by cases h⟩

lemma marks_step {e : Emitter} (h : e.handle.formula.Obtained) : Marks e e.step.2 where
  theta := rfl
  radius := by
    obtain ⟨radius, hradius⟩ := Expr.exists_evaluate_of_validate e.theta _ h.validate
    have hvalue : e.step.2.radius = radius := by
      change Formula.value _ _ = _
      rw [Formula.value, Formula.value?, hradius]
    rw [hradius, hvalue]
  x := rfl
  y := rfl
  emissionAngle := rfl

lemma sample_add (e : Emitter) (m n : Nat) :
    e.sample (m + n) =
      (((e.sample m).1.sample n).1, (e.sample m).2 ++ ((e.sample m).1.sample n).2) := by
  induction m generalizing e with
  | zero => rw [Nat.zero_add]; rfl
  | succ m ih =>
    have hsample (k : Nat) :
        e.sample (k + 1) = ((e.step.1.sample k).1, e.step.2 :: (e.step.1.sample k).2) := rfl
    rw [Nat.add_right_comm, hsample, ih, hsample m]
    rfl

section History

variable (serial : Nat) (origin : Float × Float)

lemma constant_five : Formula.constant 5 = ⟨"5", .literal 5⟩ := by
  have htext : Double.text 5 = "5" := by decide +kernel
  rw [Formula.constant, htext]

lemma new_eq : new serial origin = ofHistory serial origin [] :=
  congrArg (fun formula : Formula => ({ new serial origin with handle := ⟨serial, formula⟩ } : Emitter))
    constant_five

lemma perform_ofHistory (past : List Action) (a : Action) :
    ((ofHistory serial origin past).perform a).1 = ofHistory serial origin (past ++ [a]) := by
  rw [perform_fst]
  simp only [ofHistory, speedAfter, latest_concat, strides_concat, mk.injEq, true_and]
  split
  · exact ⟨rfl, rfl⟩
  · rw [total_append]
    refine ⟨rfl, ?_⟩
    cases a.steps <;> simp [advance]

lemma run_ofHistory (past actions : List Action) :
    run (ofHistory serial origin past) actions = ofHistory serial origin (past ++ actions) := by
  induction actions generalizing past with
  | nil => rw [List.append_nil]; rfl
  | cons a actions ih =>
    rw [run, List.foldl_cons, perform_ofHistory]
    have h := ih (past ++ [a])
    rwa [List.append_assoc] at h

def Supplied (past : List Action) : Prop :=
  ∀ handle, .setHandle handle ∈ past → handle.formula.Obtained

lemma obtained_of_compile {n : Nat} {source : String} {handle : Handle}
    (h : (Formula.compile source).toOption.map (Handle.mk n) = some handle) :
    handle.formula.Obtained := by
  cases hsource : Formula.compile source with
  | error error =>
    rw [hsource] at h
    cases h
  | ok formula =>
    rw [hsource] at h
    cases h
    exact .compile hsource

lemma obtained_ofHistory {past : List Action} (h : Supplied past) :
    (ofHistory serial origin past).handle.formula.Obtained := by
  rcases latest_cases Action.handle? ⟨serial, ⟨"5", .literal 5⟩⟩ past with hset | ⟨a, ha, hset⟩
  · rw [ofHistory, hset, ← constant_five]
    exact .constant 5
  · cases a with
    | setFormula n source => exact obtained_of_compile hset
    | setHandle handle =>
      have heq : handle = (ofHistory serial origin past).handle := Option.some.inj hset
      rw [← heq]
      exact h handle ha
    | applySettings n settings => exact obtained_of_compile hset
    | _ => cases hset

lemma Supplied.steps {past : List Action} (h : Supplied past) (k : Nat) :
    Supplied (past ++ List.replicate k .step) := by
  intro handle hmem
  rcases List.mem_append.mp hmem with hmem | hmem
  · exact h handle hmem
  · cases List.eq_of_mem_replicate hmem

theorem run_new {past : List Action} (h : Supplied past) :
    let e := ofHistory serial origin past
    run (new serial origin) past = e ∧
      (∀ n source error, Formula.compile source = .error error →
        e.perform (.setFormula n source) = (e, ⟨[], some error⟩)) ∧
      (∀ n settings error, Formula.compile settings.formula = .error error →
        e.perform (.applySettings n settings) =
          ({ e with speed := settings.drawSpeed }, ⟨[], some error⟩)) ∧
      (∀ a, (e.perform a).2.points.length = a.steps ∧
        ∀ k p, (e.perform a).2.points[k]? = some p →
          Marks (ofHistory serial origin (past ++ List.replicate k .step)) p) ∧
      ∀ m n, e.sample (m + n) =
        (((e.sample m).1.sample n).1, (e.sample m).2 ++ ((e.sample m).1.sample n).2) := by
  intro e
  have hrun : run (new serial origin) past = e := by
    rw [new_eq]
    exact run_ofHistory serial origin [] past
  refine ⟨hrun, ?_, ?_, fun a => ?_, sample_add e⟩
  · intro n source error hsource
    rw [perform, setFormula, hsource]
  · intro n settings error hsource
    rw [perform, applySettings, setFormula, hsource]
    rfl
  · obtain ⟨hlength, hpoints⟩ := points_perform e a
    refine ⟨hlength, fun k p hp => ?_⟩
    rw [hpoints k p hp, run_ofHistory]
    exact marks_step (obtained_ofHistory serial origin (h.steps k))

end History

theorem run_new_refused :
    let e := new 0 (300, 300)
    let settings : Settings := { Settings.default with formula := "theta +", drawSpeed := 0.5 }
    let past : List Action := [.step, .setHandle ⟨7, .constant 2⟩, .setFormula 1 "theta", .sample 2,
      .reset, .applySettings 2 settings, .step]
    Supplied past ∧
      (e.perform .step).2.points =
        [⟨0, 5, 5 * Float.cos 0 + 300, 5 * Float.sin 0 + 300, -0.025⟩] ∧
      run e past = ⟨⟨1, ⟨"theta", .theta⟩⟩, 0.5, 0.5, (300, 300), -0.5⟩ := by
  intro e settings past
  have hsupplied : Supplied past := by
    intro handle hmem
    obtain rfl : handle = ⟨7, .constant 2⟩ := by simpa [past] using hmem
    exact .constant 2
  have hrefused : Formula.compile settings.formula = .error (.parse ⟨.unexpected "EOF", 7⟩) :=
    Formula.compile_open_sum
  have hnone : Supplied [] := by
    intro handle hmem
    cases hmem
  obtain ⟨hnew, -, -, hpoints, -⟩ := run_new 0 (300, 300) hnone
  obtain ⟨hlength, hmarks⟩ := hpoints .step
  rw [← hnew] at hlength hmarks
  refine ⟨hsupplied, ?_, (run_new 0 (300, 300) hsupplied).1.trans ?_⟩
  · obtain ⟨⟨theta, radius, x, y, angle⟩, hp⟩ := List.length_eq_one_iff.mp hlength
    have hmark := hmarks 0 _ (congrArg (·[0]?) hp)
    obtain rfl : theta = 0 := hmark.theta
    obtain rfl : 5 = radius := Except.ok.inj hmark.radius
    obtain rfl : x = 5 * Float.cos 0 + 300 := hmark.x
    obtain rfl : y = 5 * Float.sin 0 + 300 := hmark.y
    obtain rfl : angle = -0.025 := hmark.emissionAngle.trans (by decide +kernel)
    exact hp
  · have hhandle : latest Action.handle? ⟨0, ⟨"5", .literal 5⟩⟩ past =
        ⟨1, ⟨"theta", .theta⟩⟩ := by
      simp [latest, past, List.filterMap_cons, Action.handle?, Formula.compile_theta,
        hrefused, Except.toOption]
    have hstrides : strides past = [0.5] := rfl
    have htotal : total [0.5] = 0.5 := by decide +kernel
    rw [ofHistory, hhandle, hstrides, htotal]
    rfl

end PolarCurve.Emitter
