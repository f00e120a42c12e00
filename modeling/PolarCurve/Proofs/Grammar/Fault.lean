import PolarCurve.Proofs.Grammar.Extent
import PolarCurve.Proofs.Grammar.Sentence

/-! The row before the token at fault begins a phrase of the kind that was read, and together with
the token, or with the one behind it too, it begins none. -/

namespace PolarCurve.Grammar

open Outlook

structure Stuck (p : Phrase) (ks tail : List TokenKind) : Prop where
  completed : ∃ ls, Sentence p (ks ++ ls)
  blocked : ∀ brackets, run ⟨.operand, brackets⟩ (ks ++ tail) = none

inductive Blames (stuck : List TokenKind → Prop) (t : Token) (vs : List Token) : ParseFault → Prop
  | unexpected (closed : (∃ m, t.kind = .mark m) ∨ t.kind = .ending) (h : stuck [t.kind]) :
      Blames stuck t vs (.unexpected (Row.describeNext (t :: vs)))
  | unclosed (h : stuck [t.kind]) : Blames stuck t vs .unclosed
  | trailing (more : t.kind ≠ .ending) (h : stuck [t.kind]) : Blames stuck t vs .trailing
  | unknownName {name : String} {u : Token} (names : t.kind = .name name) (next : vs.head? = some u)
      (h : stuck [t.kind, u.kind]) : Blames stuck t vs (.unknownName name)
  | unknownFunction {name : String} {u : Token} (names : t.kind = .name name)
      (next : vs.head? = some u) (h : stuck [t.kind, u.kind]) :
      Blames stuck t vs (.call (.unknownFunction name))
  | wrongArity {function : String} {expected found : Nat} {u : Token}
      (names : t.kind = .name function) (next : vs.head? = some u) (opens : u.kind = .mark .left) :
      Blames stuck t vs (.call (.wrongArity function expected found))
  | tooDeep : Blames stuck t vs .tooDeep

lemma Blames.mono {stuck stuck' : List TokenKind → Prop} {t : Token} {vs : List Token}
    {fault : ParseFault} (h : Blames stuck t vs fault)
    (hmono : ∀ tail, tail ≠ [] → tail <+: (t :: vs).map Token.kind → stuck tail → stuck' tail) :
    Blames stuck' t vs fault := by
  have hone : stuck [t.kind] → stuck' [t.kind] := hmono _ (by simp) (by simp)
  have htwo : ∀ u, vs.head? = some u → stuck [t.kind, u.kind] → stuck' [t.kind, u.kind] := by
    intro u hu
    apply hmono _ (by simp)
    obtain ⟨ws, rfl⟩ := List.head?_eq_some_iff.mp hu
    simp
  cases h with
  | unexpected closed h => exact .unexpected closed (hone h)
  | unclosed h => exact .unclosed (hone h)
  | trailing more h => exact .trailing more (hone h)
  | unknownName names next h => exact .unknownName names next (htwo _ next h)
  | unknownFunction names next h => exact .unknownFunction names next (htwo _ next h)
  | wrongArity names next opens => exact .wrongArity names next opens
  | tooDeep => exact .tooDeep

/-- A fault in a phrase of which a row is already behind the reader. -/
def Explains (p : Phrase) (behind : List TokenKind) (ts : List Token) (error : ParseError) : Prop :=
  ∃ us t vs, ts = us ++ t :: vs ∧ error.position = t.position ∧
    Blames (Stuck p (behind ++ us.map Token.kind)) t vs error.fault

namespace Explains

variable {p q : Phrase} {behind : List TokenKind} {us ts : List Token} {error : ParseError}

lemma step_back {ks : List TokenKind} (hus : us.map Token.kind = ks)
    (h : Explains p (behind ++ ks) ts error) : Explains p behind (us ++ ts) error := by
  obtain ⟨vs, t, ws, rfl, hposition, hblames⟩ := h
  refine ⟨us ++ vs, t, ws, by simp, hposition, ?_⟩
  rwa [List.map_append, hus, ← List.append_assoc]

lemma step_token {t : Token} {k : TokenKind} (ht : t.kind = k)
    (h : Explains p (behind ++ [k]) ts error) : Explains p behind (t :: ts) error := by
  have hus : [t].map Token.kind = [k] := by rw [List.map_singleton, ht]
  exact step_back hus h

lemma within (h : Explains q [] ts error)
    (hsentence : ∀ ls, Sentence q ls → ∃ ms, Sentence p (behind ++ ls ++ ms))
    (hrun : ∀ brackets ms, ms ≠ [] → ms <+: ts.map Token.kind → ∃ brackets',
      run ⟨.operand, brackets⟩ (behind ++ ms) = run ⟨.operand, brackets'⟩ ms) :
    Explains p behind ts error := by
  obtain ⟨us, t, vs, rfl, hposition, hblames⟩ := h
  refine ⟨us, t, vs, rfl, hposition, hblames.mono fun tail hne hprefix hstuck => ?_⟩
  obtain ⟨⟨ls, hls⟩, hblocked⟩ := hstuck
  rw [List.nil_append] at hls hblocked
  constructor
  · obtain ⟨ms, hms⟩ := hsentence _ hls
    exact ⟨ls ++ ms, by simpa using hms⟩
  · intro brackets
    have hprefix : us.map Token.kind ++ tail <+: (us ++ t :: vs).map Token.kind := by
      rw [List.map_append]
      exact (List.prefix_append_right_inj _).mpr hprefix
    obtain ⟨brackets', hrun⟩ := hrun brackets _ (by simp [hne]) hprefix
    rw [List.append_assoc, hrun]
    exact hblocked brackets'

lemma within_operand (h : Explains q [] ts error)
    (hsentence : ∀ ls, Sentence q ls → ∃ ms, Sentence p (behind ++ ls ++ ms))
    (hrun : ∀ brackets, ∃ brackets',
      run ⟨.operand, brackets⟩ behind = some ⟨.operand, brackets'⟩) :
    Explains p behind ts error := by
  apply h.within hsentence
  intro brackets ms _ _
  obtain ⟨brackets', hrun⟩ := hrun brackets
  exact ⟨brackets', by rw [run_append, hrun]; rfl⟩

end Explains

lemma explains_tooDeep {p : Phrase} {behind : List TokenKind} {ts : List Token} (hts : Ended ts) :
    Explains p behind ts ⟨.tooDeep, Row.position ts⟩ := by
  obtain ⟨t, us, rfl⟩ := hts.exists_cons
  exact ⟨[], t, us, rfl, rfl, .tooDeep⟩

lemma bind_eq_error {α β : Type} {x : Except Rejection α} {f : α → Except Rejection β}
    {r : Rejection} (h : (x >>= f) = .error r) :
    x = .error r ∨ ∃ a, x = .ok a ∧ f a = .error r := by
  cases x with
  | error r' =>
    cases h
    exact Or.inl rfl
  | ok a => exact Or.inr ⟨a, rfl, h⟩

def ExplainedAt (p : Phrase) (r : Nat) : Prop :=
  ∀ ts x, Ended ts → p.read r ts = .error x → Explains p [] ts x.error

lemma chain_explained (kind : ChainKind) (r : Nat) (hop : ∀ r' < r, ExplainedAt kind.operand r')
    {n : Nat} {ks : List TokenKind} (hks : Sentence (.chain kind n) ks) (left : Expr)
    {ts : List Token} (hts : Ended ts) {x : Rejection}
    (h : chain kind.op? (kind.more (level r)) left ts = .error x) :
    Explains (.whole kind) ks ts x.error := by
  -- Every operator of the chain uses up a level, and what has been read stays a chain.
  induction r generalizing n ks left ts with
  | zero =>
    rcases chain_cases (kind.more (level 0)) left ts with ⟨heq, -⟩ | ⟨op, t, us, -, -, -, heq⟩
    · rw [heq] at h
      cases h
    · rw [heq] at h
      cases kind <;> cases h <;> exact explains_tooDeep hts
  | succ r ih =>
    rcases chain_cases (kind.more (level (r + 1))) left ts with
      ⟨heq, -⟩ | ⟨op, t, us, rfl, hl, ht, heq⟩
    · rw [heq] at h
      cases h
    · rw [heq, kind.more_succ, List.tail_cons] at h
      have hus : Ended us := hts.tail (by simp [ht])
      rcases bind_eq_error h with hright | ⟨⟨right, more⟩, hright, hmore⟩
      · have hfault := hop r (Nat.lt_succ_self r) _ _ hus hright
        apply Explains.step_token ht
        apply hfault.within_operand
        · intro ls hls
          have hnext := Sentence.next hks hl hls
          exact ⟨[], .whole (by simpa using hnext)⟩
        · intro brackets
          refine ⟨brackets, ?_⟩
          rw [hks.spans.run_operand, run_cons, step, proceed_operator]
          rfl
      · have htakes := takes_operand kind hright
        have hmoreEnded : Ended more := htakes.ended hus
        obtain ⟨d, vs, rfl, hvs, -⟩ := htakes
        have hnext := Sentence.next hks hl d.sentence
        have hfault := ih (fun r' hr' => hop r' (by omega)) hnext _ hmoreEnded hmore
        have hus : (t :: vs).map Token.kind = .mark op.mark :: d.row := by
          rw [List.map_cons, ht, hvs]
        exact Explains.step_back hus hfault

lemma whole_explained (kind : ChainKind) (r : Nat) (hop : ∀ r' ≤ r, ExplainedAt kind.operand r') :
    ExplainedAt (.whole kind) r := by
  intro ts x hts h
  rw [Phrase.read, kind.read_eq] at h
  rcases bind_eq_error h with hfirst | ⟨⟨left, more⟩, hfirst, hmore⟩
  · apply (hop r (Nat.le_refl r) _ _ hts hfirst).within_operand
    · exact fun ls hls => ⟨[], .whole (.first (by simpa using hls))⟩
    · exact fun brackets => ⟨brackets, rfl⟩
  · have htakes := takes_operand kind hfirst
    have hmoreEnded : Ended more := htakes.ended hts
    obtain ⟨d, us, rfl, hus, -⟩ := htakes
    have hfault := chain_explained kind r (fun r' hr' => hop r' (Nat.le_of_lt hr'))
      (.first d.sentence) left hmoreEnded hmore
    exact Explains.step_back hus hfault

lemma signed_explained {op : UnaryOp} {t : Token} {ts : List Token}
    (ht : signOp? t.kind = some op) {error : ParseError} (h : Explains .unary [] ts error) :
    Explains .unary [] (t :: ts) error := by
  apply Explains.step_token (signOp?_eq_some ht)
  apply h.within_operand
  · exact fun ls hls => ⟨[], by simpa using Sentence.signed op hls⟩
  · exact fun brackets => ⟨brackets, by cases op <;> rfl⟩

lemma explained_below {p : Phrase} {r : Nat} (h : ∀ r' < r, ExplainedAt p r') {ts : List Token}
    (hts : Ended ts) {x : Rejection} (hr : p.readBelow r ts = .error x) :
    Explains p [] ts x.error := by
  cases r with
  | zero =>
    cases hr
    exact explains_tooDeep hts
  | succ r => exact h r (Nat.lt_succ_self r) _ _ hts hr

lemma proceed_eq_none {t : Token} {ts : List Token} {brackets : List Bracket}
    (hhalts : Phrase.expression.Halts (t :: ts)) (hright : t.kind ≠ .mark .right)
    (hcomma : t.kind = .mark .comma → brackets.head? ≠ some .call)
    (hending : t.kind = .ending → brackets ≠ []) : proceed brackets t.kind = none := by
  have hmark : ∀ m ∈ Phrase.expression.extenders, m ≠ .left → t.kind ≠ .mark m := by
    intro m hm hne ht
    exact hhalts m hm hne (congrArg some ht)
  rcases hk : t.kind with value | name | m | _
  · rfl
  · rfl
  · rw [hk] at hmark hright
    cases m with
    | comma => exact if_neg (hcomma hk)
    | right => exact (hright rfl).elim
    | left => rfl
    | plus | minus | star | slash | caret =>
      exact (hmark _ (by simp [Phrase.extenders]) (by simp) rfl).elim
  · exact if_neg (hending hk)

lemma closing_explained {p : Phrase} {behind : List TokenKind} {ts : List Token} (hts : Ended ts)
    (hhalts : Phrase.expression.Halts ts) (bracket : Bracket)
    (hcomma : bracket = .call → Row.peek? ts ≠ some (.mark .comma))
    (hsentence : Sentence p (behind ++ [.mark .right]))
    (hrun : ∀ brackets ks, run ⟨.operand, brackets⟩ (behind ++ ks) =
      run ⟨.operator, bracket :: brackets⟩ ks) {x : Rejection} (h : closing ts = .error x) :
    Explains p behind ts x.error := by
  obtain ⟨t, us, rfl⟩ := hts.exists_cons
  rw [closing] at h
  split at h
  · cases h
  · next hright =>
    cases h
    refine ⟨[], t, us, rfl, rfl, .unclosed ⟨⟨[.mark .right], by simpa using hsentence⟩, ?_⟩⟩
    intro brackets
    have hnone : proceed (bracket :: brackets) t.kind = none := by
      apply proceed_eq_none hhalts hright
      · intro ht hcall
        exact hcomma (Option.some.inj hcall) (congrArg some ht)
      · simp
    rw [List.map_nil, List.append_nil, hrun, run_cons, step, hnone]
    rfl

lemma confirm_eq_error {α : Type} {y : Except Rejection α} {x : Rejection}
    (h : Rejection.confirm y = .error x) : ∃ x', y = .error x' ∧ x.error = x'.error := by
  cases y with
  | ok a => cases h
  | error x' =>
    cases h
    exact ⟨x', rfl, rfl⟩

section Separated

variable {item : Reader} (htakes : ∀ ts e rest, item ts = .ok (e, rest) →
  Phrase.expression.Takes ts rest)

include htakes

lemma separated_takes {bound : Nat} {ts : List Token} (hts : Ended ts) {es : List Expr}
    {rest : List Token} (h : separated item bound ts = .ok (es, rest)) :
    ∃ rows last us, (∀ ks ∈ rows, Sentence .expression ks) ∧ Sentence .expression last ∧
      ts = us ++ rest ∧ us.map Token.kind = listed rows ++ last ∧ Ended rest ∧
      Phrase.expression.Halts rest ∧ Row.peek? rest ≠ some (.mark .comma) := by
  induction bound generalizing ts es rest with
  | zero => cases h
  | succ bound ih =>
    rw [separated] at h
    obtain ⟨⟨e, more⟩, he, hnext⟩ := exists_of_bind_eq_ok h
    have hitem := htakes _ _ _ (confirm_eq_ok he)
    have hmore : Ended more := hitem.ended hts
    obtain ⟨d, us, rfl, hus, hhalts⟩ := hitem
    obtain ⟨t, vs, rfl⟩ := hmore.exists_cons
    dsimp only at hnext
    split at hnext
    · next ht =>
      obtain ⟨⟨es', rest'⟩, hes, hnext⟩ := exists_of_bind_eq_ok hnext
      cases hnext
      obtain ⟨rows, last, ws, hrows, hlast, rfl, hws, hend⟩ := ih (hmore.tail (by simp [ht])) hes
      refine ⟨d.row :: rows, last, us ++ t :: ws, ?_, hlast, by simp, ?_, hend⟩
      · exact List.forall_mem_cons.mpr ⟨d.sentence, hrows⟩
      · simp [hus, ht, hws, listed_cons]
    · next ht =>
      cases hnext
      refine ⟨[], d.row, us, by simp, d.sentence, rfl, hus, hmore, hhalts, ?_⟩
      simpa [Row.peek?] using ht

lemma separated_explained (herror : ∀ ts x, Ended ts → item ts = .error x →
      Explains .expression [] ts x.error) {bound : Nat} {ts : List Token}
    (hbound : ts.length < bound) (hts : Ended ts) {x : Rejection}
    (h : separated item bound ts = .error x) :
    ∃ rows us vs, (∀ ks ∈ rows, Sentence .expression ks) ∧ ts = us ++ vs ∧
      us.map Token.kind = listed rows ∧ Explains .expression [] vs x.error := by
  induction bound generalizing ts with
  | zero => exact (Nat.not_lt_zero _ hbound).elim
  | succ bound ih =>
    rw [separated] at h
    rcases bind_eq_error h with he | ⟨⟨e, more⟩, he, hnext⟩
    · obtain ⟨x', hx', heq⟩ := confirm_eq_error he
      exact ⟨[], [], ts, by simp, rfl, rfl, heq ▸ herror _ _ hts hx'⟩
    · have hitem := htakes _ _ _ (confirm_eq_ok he)
      have hmore : Ended more := hitem.ended hts
      obtain ⟨d, us, rfl, hus, -⟩ := hitem
      obtain ⟨t, vs, rfl⟩ := hmore.exists_cons
      dsimp only at hnext
      split at hnext
      · next ht =>
        have hlength : vs.length < bound := by
          simp only [List.length_append, List.length_cons] at hbound
          omega
        rcases bind_eq_error hnext with hes | ⟨⟨es', rest'⟩, -, hnext⟩
        · obtain ⟨rows, ws, ys, hrows, rfl, hws, hfault⟩ :=
            ih hlength (hmore.tail (by simp [ht])) hes
          refine ⟨d.row :: rows, us ++ t :: ws, ys, ?_, by simp, ?_, hfault⟩
          · exact List.forall_mem_cons.mpr ⟨d.sentence, hrows⟩
          · simp [hus, ht, hws, listed_cons]
        · cases hnext
      · cases hnext

end Separated

section Call

variable {r : Nat} {ts : List Token} (hts : Ended ts)

include hts

lemma arguments_explained (f : Builtin) (hexpr : ∀ r' < r, ExplainedAt .expression r')
    {x : Rejection} (h : arguments (level r) ts = .error x) :
    Explains .primary [.name f.name, .mark .left] ts x.error := by
  rw [arguments] at h
  split at h
  · cases h
    exact explains_tooDeep hts
  · split at h
    · cases h
    · next hpeek =>
      obtain ⟨rows, us, vs, hrows, rfl, hus, hfault⟩ := separated_explained
        (fun _ _ _ h => takes_expression_below h)
        (fun _ _ hts h => explained_below hexpr hts (level_expression r ▸ h)) (Nat.lt_succ_self _)
        hts h
      have hspans : ∀ ks ∈ rows, Spans ks := fun ks hks => (hrows ks hks).spans
      apply Explains.step_back hus
      apply hfault.within
      · intro ls hls
        exact ⟨[.mark .right], by simpa using Sentence.call_concat f hrows hls⟩
      · intro brackets ms hne hprefix
        refine ⟨.call :: brackets, ?_⟩
        simp only [List.cons_append, List.nil_append, run_call]
        cases rows with
        | nil =>
          -- An argument list that is not empty does not begin with its closing parenthesis.
          obtain rfl : us = [] := by simpa [listed] using hus
          obtain ⟨k, ks, rfl⟩ := List.exists_cons_of_ne_nil hne
          obtain ⟨ls, hls⟩ := hprefix
          obtain ⟨t, ws, rfl, ht, -⟩ := List.map_eq_cons_iff.mp hls.symm
          apply run_argument
          intro hk
          exact hpeek (congrArg some (ht.trans hk))
        | cons ks rows => exact run_listed_argument hspans ms

lemma arguments_takes {args : List Expr} {rest : List Token}
    (h : arguments (level r) ts = .ok (args, rest)) :
    Ended rest ∧ (Row.peek? rest = some (.mark .right) ∨
      ∃ rows last us, (∀ ks ∈ rows, Sentence .expression ks) ∧ Sentence .expression last ∧
        ts = us ++ rest ∧ us.map Token.kind = listed rows ++ last ∧
        Phrase.expression.Halts rest ∧ Row.peek? rest ≠ some (.mark .comma)) := by
  rw [arguments] at h
  split at h
  · cases h
  · split at h
    · next hpeek =>
      cases h
      exact ⟨hts, Or.inl hpeek⟩
    · obtain ⟨rows, last, us, hrows, hlast, heq, hus, hrest, hhalts, hcomma⟩ :=
        separated_takes (fun _ _ _ h => takes_expression_below h) hts h
      exact ⟨hrest, Or.inr ⟨rows, last, us, hrows, hlast, heq, hus, hhalts, hcomma⟩⟩

end Call

lemma stuck_function {name : String} (h : Builtin.ofName? name = none) :
    Stuck .primary [] [.name name, .mark .left] := by
  refine ⟨⟨[.name "theta"], .theta⟩, fun brackets => ?_⟩
  rw [List.nil_append, run_cons, step, begin, h]
  split
  · rfl
  · rfl

lemma stuck_name {name : String} (htheta : name ≠ "theta") (hpi : name ≠ "pi") {k : TokenKind}
    (hk : k ≠ .mark .left) : Stuck .primary [] [.name name, k] := by
  refine ⟨⟨[.name "theta"], .theta⟩, fun brackets => ?_⟩
  have hne : ¬ (name = "theta" ∨ name = "pi") := not_or.mpr ⟨htheta, hpi⟩
  rw [List.nil_append, run_cons, step, begin, if_neg hne]
  split
  · rw [Option.bind_some, run_cons, step, if_neg hk]
    rfl
  · rfl

lemma call_explained {r : Nat} (hexpr : ∀ r' < r, ExplainedAt .expression r') {t : Token}
    {ts : List Token} (hts : Ended (t :: ts)) {name : String} (ht : t.kind = .name name)
    (hopens : opensNext ts = true) {x : Rejection} (h : call (level r) (t :: ts) = .error x) :
    Explains .primary [] (t :: ts) x.error := by
  obtain ⟨o, us, rfl⟩ := (hts.tail (by simp [ht])).exists_cons
  have ho : o.kind = .mark .left := by simpa [opensNext] using hopens
  have hus : Ended us := (hts.tail (by simp [ht])).tail (by simp [ho])
  simp only [call, ht] at h
  split at h
  · next hfunction =>
    cases h
    have hstuck : Stuck .primary [] [t.kind, o.kind] := by
      rw [ht, ho]
      exact stuck_function hfunction
    exact ⟨[], t, _, rfl, rfl, .unknownFunction ht rfl hstuck⟩
  · next f hfunction =>
    obtain rfl := Builtin.name_of_ofName? hfunction
    have hopening : opening (o :: us) = .ok us := if_pos ho
    rw [hopening] at h
    change (arguments (level r) us >>= _) = _ at h
    rcases bind_eq_error h with harguments | ⟨⟨args, rest⟩, harguments, hbehind⟩
    · apply Explains.step_token ht
      apply Explains.step_token ho
      exact arguments_explained hus f hexpr harguments
    · obtain ⟨hrest, hcase⟩ := arguments_takes hus harguments
      rcases bind_eq_error hbehind with hclose | ⟨more, -, hcount⟩
      · rcases hcase with hpeek | ⟨rows, last, vs, hrows, hlast, rfl, hvs, hhalts, hcomma⟩
        · obtain ⟨c, vs, rfl⟩ := hrest.exists_cons
          rw [closing, if_pos (Option.some.inj hpeek)] at hclose
          cases hclose
        · apply Explains.step_token ht
          apply Explains.step_token ho
          apply Explains.step_back hvs
          apply closing_explained hrest hhalts .call (fun _ => hcomma) _ _ hclose
          · simpa using Sentence.call_concat f hrows hlast
          · intro brackets ks
            have hspans : ∀ ms ∈ rows, Spans ms := fun ms hms => (hrows ms hms).spans
            simp only [List.cons_append, List.nil_append, run_call]
            exact run_arguments hspans hlast.spans ks
      · split at hcount
        · cases hcount
          exact ⟨[], t, _, rfl, rfl, .wrongArity ht rfl ho⟩
        · cases hcount

lemma bracketed_explained {r : Nat} (hexpr : ∀ r' < r, ExplainedAt .expression r') {t : Token}
    {ts : List Token} (hts : Ended ts) (ht : t.kind = .mark .left) {x : Rejection}
    (h : (do
      let (e, rest) ← (level r).expression ts
      let rest ← closing rest
      return (e, rest)) = .error x) : Explains .primary [] (t :: ts) x.error := by
  apply Explains.step_token ht
  rcases bind_eq_error h with hinner | ⟨⟨e, rest⟩, hinner, hbehind⟩
  · rw [level_expression] at hinner
    apply (explained_below hexpr hts hinner).within_operand
    · exact fun ls hls => ⟨[.mark .right], Sentence.bracketed hls⟩
    · exact fun brackets => ⟨.group :: brackets, rfl⟩
  · have htakes := takes_expression_below hinner
    have hrest : Ended rest := htakes.ended hts
    obtain ⟨d, us, rfl, hus, hhalts⟩ := htakes
    rcases bind_eq_error hbehind with hclose | ⟨more, -, hdone⟩
    · apply Explains.step_back hus
      apply closing_explained hrest hhalts .group (by simp) _ _ hclose
      · exact Sentence.bracketed d.sentence
      · intro brackets ks
        rw [List.append_assoc]
        exact d.sentence.spans.run_operand ks
    · cases hdone

lemma name_explained {r : Nat} (hexpr : ∀ r' < r, ExplainedAt .expression r') {t : Token}
    {us : List Token} (hts : Ended (t :: us)) {name : String} (ht : t.kind = .name name)
    {x : Rejection} (h : primary (level r) (t :: us) = .error x) :
    Explains .primary [] (t :: us) x.error := by
  have hus : Ended us := hts.tail (by simp [ht])
  simp only [primary, ht] at h
  split at h
  · next hopens => exact call_explained hexpr hts ht hopens h
  · next hopens =>
    split at h
    · cases h
    · next htheta =>
      split at h
      · cases h
      · next hpi =>
        cases h
        obtain ⟨u, vs, rfl⟩ := hus.exists_cons
        have hu : u.kind ≠ .mark .left := by simpa [opensNext] using hopens
        have hstuck : Stuck .primary [] [t.kind, u.kind] := by
          rw [ht]
          exact stuck_name htheta hpi hu
        exact ⟨[], t, _, rfl, rfl, .unknownName ht rfl hstuck⟩

lemma unexpected_explained {t : Token} {us : List Token} (hsign : signOp? t.kind = none)
    (hleft : t.kind ≠ .mark .left) (hclosed : (∃ m, t.kind = .mark m) ∨ t.kind = .ending)
    {x : Rejection}
    (h : Rejection.unexpected (t :: us) = (.error x : Except Rejection (Expr × List Token))) :
    Explains .primary [] (t :: us) x.error := by
  cases h
  refine ⟨[], t, us, rfl, rfl, .unexpected hclosed ⟨⟨[.name "theta"], .theta⟩, fun brackets => ?_⟩⟩
  rcases hclosed with ⟨m, hm⟩ | hending
  · rw [hm] at hsign hleft ⊢
    cases m with
    -- A sign does not come to a primary: it has been read before.
    | plus | minus => cases hsign
    | left => exact (hleft rfl).elim
    | star | slash | caret | right | comma => rfl
  · rw [hending]
    rfl

section Operand

variable {r : Nat} (hexpr : ∀ r' < r, ExplainedAt .expression r')
  (hunary : ∀ r' < r, ExplainedAt .unary r')

include hexpr

lemma primary_explained {ts : List Token} (hts : Ended ts)
    (hsign : ∀ t ∈ ts.head?, signOp? t.kind = none) {x : Rejection}
    (h : Phrase.primary.read r ts = .error x) : Explains .primary [] ts x.error := by
  obtain ⟨t, us, rfl⟩ := hts.exists_cons
  have hsign : signOp? t.kind = none := hsign t rfl
  rw [Phrase.read, primary] at h
  rcases hk : t.kind with value | name | m | _
  · rw [hk] at h
    cases h
  · exact name_explained hexpr hts hk h
  · by_cases hm : m = .left
    · subst hm
      rw [hk] at h
      exact bracketed_explained hexpr (hts.tail (by simp [hk])) hk h
    · apply unexpected_explained hsign (by simpa [hk] using hm) (Or.inl ⟨m, hk⟩)
      rw [hk] at h
      cases m <;> first | exact h | exact (hm rfl).elim
  · apply unexpected_explained hsign (by simp [hk]) (Or.inr hk)
    rw [hk] at h
    exact h

include hunary

lemma power_explained {ts : List Token} (hts : Ended ts)
    (hsign : ∀ t ∈ ts.head?, signOp? t.kind = none) {x : Rejection}
    (h : Phrase.power.read r ts = .error x) : Explains .power [] ts x.error := by
  rw [Phrase.read, power] at h
  rcases bind_eq_error h with hbase | ⟨⟨base, more⟩, hbase, hbehind⟩
  · apply (primary_explained hexpr hts hsign hbase).within_operand
    · exact fun ls hls => ⟨[], by simpa using Sentence.plain hls⟩
    · exact fun brackets => ⟨brackets, rfl⟩
  · have htakes := takes_primary hbase
    have hmore : Ended more := htakes.ended hts
    obtain ⟨d, us, rfl, hus, -⟩ := htakes
    obtain ⟨t, vs, rfl⟩ := hmore.exists_cons
    dsimp only at hbehind
    split at hbehind
    · next ht =>
      rcases bind_eq_error hbehind with hexponent | ⟨⟨e, rest⟩, -, hdone⟩
      · rw [level_unary] at hexponent
        have hfault := explained_below hunary (hmore.tail (by simp [ht])) hexponent
        apply Explains.step_back hus
        apply Explains.step_token ht
        apply hfault.within_operand
        · intro ls hls
          exact ⟨[], by simpa using Sentence.raised d.sentence hls⟩
        · intro brackets
          refine ⟨brackets, ?_⟩
          rw [List.nil_append, d.sentence.spans.run_operand]
          rfl
      · cases hdone
    · cases hbehind

lemma unary_explained : ExplainedAt .unary r := by
  intro ts x hts h
  obtain ⟨t, us, rfl⟩ := hts.exists_cons
  rw [Phrase.read, unary] at h
  split at h
  · next op hop =>
    have ht : t.kind = .mark op.mark := signOp?_eq_some hop
    rcases bind_eq_error h with hargument | ⟨⟨e, rest⟩, -, h⟩
    · rw [level_unary] at hargument
      exact signed_explained hop (explained_below hunary (hts.tail (by simp [ht])) hargument)
    · cases h
  · next hop =>
    have hsign : ∀ u ∈ (t :: us).head?, signOp? u.kind = none := by simpa using hop
    apply (power_explained hexpr hunary hts hsign h).within_operand
    · exact fun ls hls => ⟨[], by simpa using Sentence.unsigned hls⟩
    · exact fun brackets => ⟨brackets, rfl⟩

end Operand

theorem explained (r : Nat) : ExplainedAt .unary r ∧ ExplainedAt .expression r := by
  induction r using Nat.strongRecOn with
  | _ r ih =>
    have hunary : ∀ r' ≤ r, ExplainedAt .unary r' := by
      intro r' hle
      exact unary_explained (fun r'' h => (ih r'' (by omega)).2) fun r'' h => (ih r'' (by omega)).1
    have hterm : ∀ r' ≤ r, ExplainedAt .term r' := fun r' h =>
      whole_explained .products r' fun r'' h' => hunary r'' (Nat.le_trans h' h)
    exact ⟨hunary r (Nat.le_refl r), whole_explained .sums r hterm⟩

end PolarCurve.Grammar
