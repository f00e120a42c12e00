import PolarCurve.Proofs.Session.Printed

/-! What a session holds after any lines is said of the lines alone. -/

namespace PolarCurve.Session

open Text

def formula? (line : String) : Option Formula :=
  match trim line.toList with
  | [] => none
  | c :: cs => if c = ':' then none else (Formula.compile (String.ofList (c :: cs))).toOption

def Refuses (line : String) (error : CompileError) : Prop :=
  ∃ c cs, trim line.toList = c :: cs ∧ c ≠ ':' ∧
    Formula.compile (String.ofList (c :: cs)) = .error error

def name (line : String) : String := String.ofList (splitCommand (trim line.toList)).1

def argument (line : String) : List Char := (splitCommand (trim line.toList)).2

def angle? (line : String) : Option Float :=
  if name line = ":theta" then Double.read? (argument line) else none

def Quits (line : String) : Prop := name line = ":quit" ∨ name line = ":q" ∨ name line = ":exit"

/-- The angle at which a line asks for the value of the formula that it leaves. -/
def asked? (s : Session) (line : String) : Option Float :=
  if (formula? line).isSome then some s.theta
  else if name line = ":theta" then angle? line
  else if name line = ":eval" then
    if argument line = [] then some s.theta else Double.read? (argument line)
  else none

def ofHistory (past : List String) : Session where
  active := (past.filterMap formula?).getLast?
  theta := (past.filterMap angle?).getLastD 0

def after (s : Session) (lines : List String) : Session :=
  lines.foldl (fun s line => (s.handle line).1) s

def Sound (s : Session) : Prop := ∀ f, s.active = some f → Formula.compile f.source = .ok f

structure Answers (s : Session) (line : String) (s' : Session) (reply : Reply) : Prop where
  active : s'.active = (formula? line).or s.active
  theta : s'.theta = (angle? line).getD s.theta
  exit : reply.exit = true ↔ Quits line
  lines : ∀ out ∈ reply.lines, Plain out ∨ ∃ angle, asked? s' line = some angle ∧ out = s'.valueAt angle
  value : ∀ angle, asked? s' line = some angle → reply.lines.getLast? = some (s'.valueAt angle)

lemma plain_noFormula : Plain noFormula := plain_of_head (by simp [noFormula])

lemma plain_help : ∀ out ∈ help, Plain out := by
  intro out hout
  rw [help, List.mem_cons, List.mem_singleton] at hout
  rcases hout with rfl | rfl
  · exact plain_of_head (by simp)
  · exact plain_of_head (by simp)

lemma plain_append {front : String} {c : Char} {cs : List Char} (h : front.toList = c :: cs)
    (hc : c ≠ 'r' ∧ c ≠ 'e') (back : String) : Plain (front ++ back) := by
  apply plain_of_head
  rw [String.toList_append, h]
  rintro d ⟨⟩
  exact hc

lemma plain_theta (angle : Float) : Plain ("theta = " ++ Double.text angle) := by
  have hfront : "theta = ".toList = 't' :: "heta = ".toList := by simp
  exact plain_append hfront (by decide) _

lemma plain_note (source : String) : Plain (note source) := by
  have hfront : "note: keeping previous formula '".toList =
      'n' :: "ote: keeping previous formula '".toList := by simp
  change Plain (_ ++ source ++ _)
  rw [String.append_assoc]
  exact plain_append hfront (by decide) _

section Lines

variable {s : Session} {line : String}

lemma name_ne (h : ∀ cs, trim line.toList ≠ ':' :: cs) {text : String}
    (htext : text.toList.head? = some ':') : name line ≠ text := by
  rintro rfl
  rw [name, splitCommand, String.toList_ofList] at htext
  cases htrim : trim line.toList with
  | nil =>
    rw [htrim] at htext
    cases htext
  | cons c cs =>
    have hc : c ≠ ':' := fun hc => h cs (hc ▸ htrim)
    rw [htrim, List.takeWhile_cons] at htext
    split at htext
    · exact hc (Option.some.inj htext)
    · cases htext

lemma name_ne_commands (h : ∀ cs, trim line.toList ≠ ':' :: cs) :
    name line ≠ ":theta" ∧ name line ≠ ":eval" ∧ ¬ Quits line := by
  refine ⟨name_ne h (by simp), name_ne h (by simp), ?_⟩
  rintro (hname | hname | hname)
  · exact name_ne h (by simp) hname
  · exact name_ne h (by simp) hname
  · exact name_ne h (by simp) hname

lemma answers_of_unasked {reply : Reply} (hformula : formula? line = none)
    (hangle : angle? line = none) (hasked : asked? s line = none)
    (hexit : reply.exit = true ↔ Quits line) (hlines : ∀ out ∈ reply.lines, Plain out) :
    Answers s line s reply := by
  constructor
  · rw [hformula, Option.none_or]
  · rw [hangle, Option.getD_none]
  · exact hexit
  · exact fun out hout => Or.inl (hlines out hout)
  · intro angle h
    rw [hasked] at h
    cases h

lemma answers_of_asked {s' : Session} {angle : Float} (front : List String)
    (hactive : s'.active = (formula? line).or s.active)
    (htheta : s'.theta = (angle? line).getD s.theta) (hquits : ¬ Quits line)
    (hasked : asked? s' line = some angle) (hfront : ∀ out ∈ front, Plain out) :
    Answers s line s' ⟨front ++ [s'.valueAt angle], false⟩ := by
  constructor
  · exact hactive
  · exact htheta
  · simp [hquits]
  · intro out hout
    rcases List.mem_append.mp hout with hout | hout
    · exact Or.inl (hfront out hout)
    · exact Or.inr ⟨angle, hasked, List.mem_singleton.mp hout⟩
  · intro angle' h
    obtain rfl : angle = angle' := Option.some.inj (hasked.symm.trans h)
    exact List.getLast?_concat

lemma answers_of_plain {reply : Reply} (hformula : formula? line = none)
    (htheta : name line ≠ ":theta") (heval : name line ≠ ":eval")
    (hexit : reply.exit = true ↔ Quits line) (hlines : ∀ out ∈ reply.lines, Plain out) :
    Answers s line s reply := by
  apply answers_of_unasked hformula
  · rw [angle?, if_neg htheta]
  · simp [asked?, hformula, htheta, heval]
  · exact hexit
  · exact hlines

lemma answers_theta (hformula : formula? line = none) (hname : name line = ":theta") :
    Answers s line (s.setTheta (argument line)).1 ⟨(s.setTheta (argument line)).2, false⟩ := by
  have hquits : ¬ Quits line := by simp [Quits, hname]
  have hangle : angle? line = Double.read? (argument line) := by rw [angle?, if_pos hname]
  have hasked (s' : Session) : asked? s' line = Double.read? (argument line) := by
    simp [asked?, hformula, hname, hangle]
  cases hread : Double.read? (argument line) with
  | none =>
    simp only [setTheta, hread]
    apply answers_of_unasked hformula (hangle.trans hread) ((hasked s).trans hread)
    · simp [hquits]
    · intro out hout
      rw [List.mem_singleton.mp hout]
      exact plain_usage_theta
  | some angle =>
    simp only [setTheta, hread]
    refine answers_of_asked ["theta = " ++ Double.text angle] ?_ ?_ hquits ((hasked _).trans hread) ?_
    · rw [hformula, Option.none_or]
    · rw [hangle, hread, Option.getD_some]
    · intro out hout
      rw [List.mem_singleton.mp hout]
      exact plain_theta angle

lemma evaluate_cases (hformula : formula? line = none) (hname : name line = ":eval") :
    (∃ angle, asked? s line = some angle ∧ s.evaluate (argument line) = [s.valueAt angle]) ∨
      (asked? s line = none ∧ s.evaluate (argument line) = ["error: usage: :eval [theta]"]) := by
  by_cases hempty : argument line = []
  · left
    exact ⟨s.theta, by simp [asked?, hformula, hname, hempty], by simp [evaluate, hempty]⟩
  · cases hread : Double.read? (argument line) with
    | some angle =>
      left
      exact ⟨angle, by simp [asked?, hformula, hname, hempty, hread],
        by simp [evaluate, hempty, hread]⟩
    | none =>
      right
      exact ⟨by simp [asked?, hformula, hname, hempty, hread],
        by simp [evaluate, hempty, hread]⟩

lemma answers_eval (hformula : formula? line = none) (hname : name line = ":eval") :
    Answers s line s ⟨s.evaluate (argument line), false⟩ := by
  have hquits : ¬ Quits line := by simp [Quits, hname]
  have hangle : angle? line = none := by simp [angle?, hname]
  rcases evaluate_cases (s := s) hformula hname with ⟨angle, hasked, hreply⟩ | ⟨hasked, hreply⟩
  · rw [hreply]
    refine answers_of_asked [] ?_ ?_ hquits hasked (by simp)
    · rw [hformula, Option.none_or]
    · rw [hangle, Option.getD_none]
  · rw [hreply]
    apply answers_of_unasked hformula hangle hasked
    · simp [hquits]
    · intro out hout
      rw [List.mem_singleton.mp hout]
      exact plain_usage_eval

lemma plain_outlines (hs : s.Sound) : ∀ out ∈ s.outline, Plain out := by
  rw [outline]
  split
  · next f hactive => exact plain_outline (Formula.validate_of_compile (hs f hactive))
  · intro out hout
    rw [List.mem_singleton.mp hout]
    exact plain_noFormula

lemma plain_description (hs : s.Sound) : Plain s.describe := by
  rw [describe]
  split
  · next f hactive => exact plain_describe (hs f hactive)
  · exact plain_noFormula

lemma answers_command (hs : s.Sound) {cs : List Char} (h : trim line.toList = ':' :: cs) :
    Answers s line (s.command (trim line.toList)).1 (s.command (trim line.toList)).2 := by
  have hformula : formula? line = none := by
    rw [formula?, h]
    rfl
  simp only [command]
  split
  · next hname =>
    have hname : name line = ":help" ∨ name line = ":h" := hname
    have hnot : name line ≠ ":theta" ∧ name line ≠ ":eval" ∧ ¬ Quits line := by
      rcases hname with hname | hname <;> simp [hname, Quits]
    exact answers_of_plain hformula hnot.1 hnot.2.1 (by simp [hnot.2.2]) plain_help
  · split
    · next hquits =>
      have hquits : Quits line := hquits
      have hnot : name line ≠ ":theta" ∧ name line ≠ ":eval" := by
        rcases hquits with hname | hname | hname <;> simp [hname]
      exact answers_of_plain hformula hnot.1 hnot.2 (by simp [hquits]) (by simp)
    · next hquits =>
      have hquits : ¬ Quits line := hquits
      split
      · next hname =>
        have hanswers := answers_theta (s := s) hformula hname
        rw [argument] at hanswers
        generalize s.setTheta (splitCommand (trim line.toList)).2 = r at hanswers ⊢
        exact hanswers
      · next htheta =>
        split
        · next hname => exact answers_eval hformula hname
        · next heval =>
          split
          · exact answers_of_plain hformula htheta heval (by simp [hquits]) (plain_outlines hs)
          · split
            · apply answers_of_plain hformula htheta heval (by simp [hquits])
              intro out hout
              rw [List.mem_singleton.mp hout]
              exact plain_description hs
            · apply answers_of_plain hformula htheta heval (by simp [hquits])
              intro out hout
              rw [List.mem_singleton.mp hout]
              exact plain_unknown_command _

lemma answers_blank (h : trim line.toList = []) : Answers s line s ⟨[], false⟩ := by
  have hcommand : ∀ cs, trim line.toList ≠ ':' :: cs := by simp [h]
  obtain ⟨htheta, heval, hquits⟩ := name_ne_commands hcommand
  have hformula : formula? line = none := by
    rw [formula?, h]
  exact answers_of_plain hformula htheta heval (by simp [hquits]) (by simp)

lemma answers_accepted {f : Formula} (hformula : formula? line = some f)
    (hcommand : ∀ cs, trim line.toList ≠ ':' :: cs) :
    Answers s line { s with active := some f }
      ⟨[({ s with active := some f } : Session).valueAt s.theta], false⟩ := by
  obtain ⟨htheta, -, hquits⟩ := name_ne_commands hcommand
  have hasked : asked? { s with active := some f } line = some s.theta := by
    simp [asked?, hformula]
  refine answers_of_asked [] ?_ ?_ hquits hasked (by simp)
  · rw [hformula, Option.some_or]
  · rw [angle?, if_neg htheta, Option.getD_none]

lemma submit_error {source : String} {error : CompileError}
    (h : Formula.compile source = .error error) :
    s.submit source = (s, textLines ((Diagnostic.ofError error source).render source) ++
      (s.active.map fun f => note f.source).toList) := by
  rw [submit, h]
  dsimp only
  cases s.active with
  | none => rw [Option.map_none, Option.toList_none, List.append_nil]
  | some f => rfl

lemma plain_picture {source : String} {error : CompileError}
    (h : Formula.compile source = .error error) :
    ∀ out ∈ textLines ((Diagnostic.ofError error source).render source),
      Plain out ∧ ∀ c ∈ out.toList.head?, c ≠ 'n' := by
  obtain ⟨more, hpicture, hmore⟩ := exists_picture h
  rw [hpicture]
  intro out hout
  rcases List.mem_cons.mp hout with rfl | hout
  · refine ⟨plain_of_error (message_ne error), fun c hc => ?_⟩
    rw [String.toList_append] at hc
    obtain rfl : 'e' = c := by simpa using hc
    decide
  · have hletter := hmore out hout
    refine ⟨plain_of_head fun c hc => ⟨?_, ?_⟩, fun c hc => ?_⟩
    all_goals
      rintro rfl
      cases hletter _ hc

lemma formula?_of_refuses {error : CompileError} (h : Refuses line error) : formula? line = none := by
  obtain ⟨c, cs, htrim, hc, herror⟩ := h
  rw [formula?, htrim]
  dsimp only
  rw [if_neg hc, herror]
  rfl

lemma answers_refused {error : CompileError} (h : Refuses line error) :
    Answers s line (s.submit (String.ofList (trim line.toList))).1
      ⟨(s.submit (String.ofList (trim line.toList))).2, false⟩ := by
  have hformula := formula?_of_refuses h
  obtain ⟨c, cs, htrim, hc, herror⟩ := h
  have hcommand : ∀ ds, trim line.toList ≠ ':' :: ds := by
    intro ds h
    rw [htrim] at h
    exact hc (List.cons.inj h).1
  obtain ⟨htheta, heval, hquits⟩ := name_ne_commands hcommand
  rw [htrim, submit_error herror]
  apply answers_of_plain hformula htheta heval (by simp [hquits])
  intro out hout
  rcases List.mem_append.mp hout with hout | hout
  · exact (plain_picture herror out hout).1
  · rw [Option.mem_toList, Option.map_eq_some_iff] at hout
    obtain ⟨f, -, rfl⟩ := hout
    exact plain_note f.source

lemma handle_of_formula {c : Char} {cs : List Char} (h : trim line.toList = c :: cs) (hc : c ≠ ':') :
    s.handle line = ((s.submit (String.ofList (trim line.toList))).1,
      ⟨(s.submit (String.ofList (trim line.toList))).2, false⟩) := by
  rw [handle, h]
  dsimp only
  rw [if_neg hc]

theorem answers_handle (hs : s.Sound) (line : String) :
    Answers s line (s.handle line).1 (s.handle line).2 := by
  cases htrim : trim line.toList with
  | nil =>
    rw [handle, htrim]
    exact answers_blank htrim
  | cons c cs =>
    by_cases hc : c = ':'
    · subst hc
      have hanswers := answers_command hs htrim
      rw [handle, htrim]
      rwa [htrim] at hanswers
    · rw [handle_of_formula htrim hc]
      cases hcompile : Formula.compile (String.ofList (trim line.toList)) with
      | error error =>
        exact answers_refused ⟨c, cs, htrim, hc, htrim ▸ hcompile⟩
      | ok f =>
        have hformula : formula? line = some f := by
          rw [htrim] at hcompile
          rw [formula?, htrim]
          dsimp only
          rw [if_neg hc, hcompile]
          rfl
        rw [submit, hcompile]
        apply answers_accepted hformula
        intro ds h
        rw [htrim] at h
        exact hc (List.cons.inj h).1

lemma compile_of_formula? {f : Formula} (h : formula? line = some f) :
    Formula.compile (String.ofList (trim line.toList)) = .ok f := by
  rw [formula?] at h
  split at h
  · cases h
  · next c cs htrim =>
    split at h
    · cases h
    · cases hcompile : Formula.compile (String.ofList (c :: cs)) with
      | error error =>
        rw [hcompile] at h
        cases h
      | ok g =>
        rw [hcompile] at h
        cases h
        rw [htrim, hcompile]

lemma source_of_formula? {f : Formula} (h : formula? line = some f) :
    f.source = String.ofList (trim line.toList) := by
  obtain ⟨_, -, -, hsource⟩ := Formula.tokens_of_compile (compile_of_formula? h)
  exact hsource

lemma sound_handle (hs : s.Sound) (line : String) : (s.handle line).1.Sound := by
  intro f hf
  rw [(answers_handle hs line).active, Option.or_eq_some_iff] at hf
  rcases hf with hf | ⟨-, hf⟩
  · rw [source_of_formula? hf]
    exact compile_of_formula? hf
  · exact hs f hf

end Lines

lemma ofHistory_concat (past : List String) (line : String) :
    ofHistory (past ++ [line]) =
      ⟨(formula? line).or (ofHistory past).active, (angle? line).getD (ofHistory past).theta⟩ := by
  simp only [ofHistory, List.filterMap_append, mk.injEq]
  constructor
  · cases h : formula? line <;> simp [h]
  · cases h : angle? line <;> simp [h]

lemma after_concat (s : Session) (past : List String) (line : String) :
    s.after (past ++ [line]) = ((s.after past).handle line).1 := by
  rw [after, List.foldl_append]
  rfl

lemma after_new (past : List String) :
    new.after past = ofHistory past ∧ (new.after past).Sound := by
  induction past using List.reverseRecOn with
  | nil =>
    refine ⟨rfl, fun f hf => ?_⟩
    cases hf
  | append_singleton past line ih =>
    obtain ⟨heq, hs⟩ := ih
    rw [after_concat]
    refine ⟨?_, sound_handle hs line⟩
    have hanswers := answers_handle hs line
    rw [ofHistory_concat, ← heq, ← hanswers.active, ← hanswers.theta]

lemma valueAt_cases {s : Session} (hs : s.Sound) (angle : Float) :
    (s.active = none ∧ s.valueAt angle = noFormula) ∨
      ∃ f value, s.active = some f ∧ f.tree.evaluate angle = .ok value ∧
        s.valueAt angle = valueLine angle value := by
  rw [valueAt]
  cases hactive : s.active with
  | none => exact Or.inl ⟨rfl, rfl⟩
  | some f =>
    have hvalid := Formula.validate_of_compile (hs f hactive)
    obtain ⟨value, hvalue⟩ := Expr.exists_evaluate_of_validate angle f.tree hvalid
    refine Or.inr ⟨f, value, rfl, hvalue, ?_⟩
    dsimp only
    rw [Formula.value?, hvalue]
    rfl

lemma fault_ne_valueLine (angle value : Float) (fault : CallFault) :
    "error: " ++ fault.message ≠ valueLine angle value := by
  intro heq
  have hlists := congrArg String.toList heq
  change ("error: " ++ _ : String).toList = ("r(" ++ _ ++ _ ++ _ : String).toList at hlists
  simp only [String.toList_append] at hlists
  cases hlists

lemma note_inj {a b : String} : note a = note b ↔ a = b := by
  refine ⟨fun h => ?_, congrArg note⟩
  have hlists := congrArg String.toList h
  change (_ ++ a ++ _ : String).toList = (_ ++ b ++ _ : String).toList at hlists
  simp only [String.toList_append] at hlists
  exact String.toList_inj.mp (List.append_cancel_left (List.append_cancel_right hlists))

lemma getLast?_submit_error {s : Session} {source text : String} {error : CompileError}
    (h : Formula.compile source = .error error) :
    (s.submit source).2.getLast? = some (note text) ↔ ∃ f, s.active = some f ∧ f.source = text := by
  rw [submit_error h]
  cases s.active with
  | some f =>
    have hlast : (textLines ((Diagnostic.ofError error source).render source) ++
        [note f.source]).getLast? = some (note f.source) := List.getLast?_concat
    simp only [Option.map_some, Option.toList_some, hlast, Option.some.injEq, note_inj,
      exists_eq_left']
  | none =>
    rw [Option.map_none, Option.toList_none, List.append_nil]
    constructor
    · intro hlast
      have hhead := (plain_picture h _ (List.mem_of_getLast? hlast)).2 'n'
      change 'n' ∈ (_ ++ text ++ _ : String).toList.head? → _ at hhead
      simp only [String.toList_append] at hhead
      exact (hhead rfl rfl).elim
    · rintro ⟨f, hf, -⟩
      cases hf

theorem handle_after_new (past : List String) (line : String) :
    let s := new.after past
    let s' := (s.handle line).1
    let reply := (s.handle line).2
    s = ofHistory past ∧ s' = ofHistory (past ++ [line]) ∧
      s'.active = (formula? line).or s.active ∧ s'.theta = (angle? line).getD s.theta ∧
      (∀ f, formula? line = some f → f.source = String.ofList (trim line.toList)) ∧
      (reply.exit = true ↔ Quits line) ∧
      (∀ out ∈ reply.lines, ['r', '('] <+: out.toList → ∃ f angle value, s'.active = some f ∧
        asked? s' line = some angle ∧ f.tree.evaluate angle = .ok value ∧
        out = valueLine angle value) ∧
      (∀ f angle, s'.active = some f → asked? s' line = some angle → ∃ value,
        f.tree.evaluate angle = .ok value ∧
        reply.lines.getLast? = some (valueLine angle value)) ∧
      (∀ fault : CallFault, "error: " ++ fault.message ∉ reply.lines) ∧
      ∀ error, Refuses line error → ∀ text,
        reply.lines.getLast? = some (note text) ↔ ∃ f, s'.active = some f ∧ f.source = text := by
  intro s s' reply
  obtain ⟨heq, hs⟩ := after_new past
  have heq' := (after_new (past ++ [line])).1
  rw [after_concat] at heq'
  have hs' : s'.Sound := sound_handle hs line
  have hanswers : Answers s line s' reply := answers_handle hs line
  refine ⟨heq, heq', hanswers.active, hanswers.theta, fun f => source_of_formula?, hanswers.exit,
    fun out hout hvalue => ?_, fun f angle hactive hasked => ?_, fun fault hout => ?_,
    fun error h text => ?_⟩
  · rcases hanswers.lines out hout with hplain | ⟨angle, hasked, rfl⟩
    · exact (hplain.value hvalue).elim
    · rcases valueAt_cases hs' angle with ⟨-, hnone⟩ | ⟨f, value, hactive, heval, hline⟩
      · rw [hnone] at hvalue
        exact (plain_noFormula.value hvalue).elim
      · exact ⟨f, angle, value, hactive, hasked, heval, hline⟩
  · rcases valueAt_cases hs' angle with ⟨hnone, -⟩ | ⟨g, value, hactive', heval, hline⟩
    · rw [hactive] at hnone
      cases hnone
    · obtain rfl : f = g := Option.some.inj (hactive.symm.trans hactive')
      exact ⟨value, heval, hline ▸ hanswers.value angle hasked⟩
  · rcases hanswers.lines _ hout with hplain | ⟨angle, -, hline⟩
    · exact hplain.fault fault rfl
    · rcases valueAt_cases hs' angle with ⟨-, hnone⟩ | ⟨f, value, -, -, hvalue⟩
      · exact plain_noFormula.fault fault (hnone.symm.trans hline.symm)
      · exact fault_ne_valueLine angle value fault (hline.trans hvalue)
  · obtain ⟨c, cs, htrim, hc, herror⟩ := h
    have hhandle : s.handle line = _ := handle_of_formula htrim hc
    rw [← htrim] at herror
    have hsame : s'.active = s.active := by
      change (s.handle line).1.active = _
      rw [hhandle, submit_error herror]
    change (s.handle line).2.lines.getLast? = _ ↔ _
    rw [hsame, hhandle]
    exact getLast?_submit_error herror

theorem handle_after_new_refused :
    let f : Formula := ⟨"theta", .theta⟩
    let error : CompileError := .parse ⟨.unexpected "EOF", 7⟩
    let s := new.after ["theta", ":theta 1.5"]
    formula? "theta" = some f ∧ angle? ":theta 1.5" = some 1.5 ∧ Refuses "theta +" error ∧
      s = ⟨some f, 1.5⟩ ∧ (s.handle "theta +").1 = ⟨some f, 1.5⟩ ∧
      (s.handle "theta +").2.lines.getLast? = some (note "theta") ∧
      (s.handle ":eval -2.5").1 = ⟨some f, 1.5⟩ ∧
      (s.handle ":eval -2.5").2.lines.getLast? = some "r(-2.5) = -2.5" := by
  intro f error s
  have hf : formula? "theta" = some f := by
    rw [formula?, Formula.trimmed_theta.trim_eq]
    change (Formula.compile "theta").toOption = _
    rw [Formula.compile_theta]
    rfl
  have hrefuses : Refuses "theta +" error :=
    ⟨'t', "heta +".toList, Formula.trimmed_open_sum.trim_eq, by decide, Formula.compile_open_sum⟩
  have hangle : angle? ":theta 1.5" = some 1.5 := by decide +kernel
  have hasked : asked? ⟨some f, 1.5⟩ ":eval -2.5" = some (-2.5) := by decide +kernel
  have hpast : ofHistory ["theta", ":theta 1.5"] = ⟨some f, 1.5⟩ := by
    have hcommand : formula? ":theta 1.5" = none := by decide +kernel
    have hnone : angle? "theta" = none := by decide +kernel
    simp [ofHistory, hf, hangle, hcommand, hnone]
  obtain ⟨heq, hnext, -, -, -, -, -, -, -, hlast⟩ :=
    handle_after_new ["theta", ":theta 1.5"] "theta +"
  obtain ⟨-, hnext', -, -, -, -, -, hvalue, -⟩ :=
    handle_after_new ["theta", ":theta 1.5"] ":eval -2.5"
  have hs : s = ⟨some f, 1.5⟩ := heq.trans hpast
  have hkept : (s.handle "theta +").1 = ⟨some f, 1.5⟩ := by
    have hnone : angle? "theta +" = none := by decide +kernel
    rw [hnext, ofHistory_concat, hpast, formula?_of_refuses hrefuses, hnone]
    rfl
  have hkept' : (s.handle ":eval -2.5").1 = ⟨some f, 1.5⟩ := by
    have hcommand : formula? ":eval -2.5" = none := by decide +kernel
    have hnone : angle? ":eval -2.5" = none := by decide +kernel
    rw [hnext', ofHistory_concat, hpast, hcommand, hnone]
    rfl
  have hnote := (hlast error hrefuses "theta").mpr ⟨f, congrArg active hkept, rfl⟩
  obtain ⟨value, heval, hprinted⟩ := hvalue f (-2.5) (congrArg active hkept') (hkept'.symm ▸ hasked)
  cases heval
  have hline : valueLine (-2.5) (-2.5) = "r(-2.5) = -2.5" := by decide +kernel
  exact ⟨hf, hangle, hrefuses, hs, hkept, hnote, hkept', hprinted.trans (congrArg some hline)⟩

end PolarCurve.Session
