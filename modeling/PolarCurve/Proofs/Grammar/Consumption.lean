import PolarCurve.Proofs.Grammar.Extent

/-! A production takes some tokens from the front of a row, never an ending. So a list of arguments
that is read with a guard against standing still never ends by its guard. -/

namespace PolarCurve.Grammar

def Consumed (ts rest : List Token) : Prop :=
  ∃ us, ts = us ++ rest ∧ us ≠ [] ∧ ∀ t ∈ us, t.kind ≠ .ending

lemma Consumed.length_lt {ts rest : List Token} (h : Consumed ts rest) :
    rest.length < ts.length := by
  obtain ⟨us, rfl, hne, -⟩ := h
  have hpos := List.length_pos_iff.mpr hne
  rw [List.length_append]
  omega

lemma Derivation.consumed {p : Phrase} (d : Derivation p) {us : List Token}
    (h : us.map Token.kind = d.row) (rest : List Token) : Consumed (us ++ rest) rest := by
  refine ⟨us, rfl, ?_, fun t ht hk => ?_⟩
  · rintro rfl
    obtain ⟨k, ks, hrow, -⟩ := d.row_eq_cons
    rw [hrow] at h
    cases h
  · exact d.ending_not_mem_row (h ▸ hk ▸ List.mem_map_of_mem ht)

lemma Phrase.Takes.consumed {p : Phrase} {ts rest : List Token} (h : p.Takes ts rest) :
    Consumed ts rest := by
  obtain ⟨d, us, rfl, hus, -⟩ := h
  exact d.consumed hus rest

namespace Production

def phrase : Production → Phrase
  | expression => .expression
  | term => .term
  | unary => .unary
  | power => .power
  | primary | call => .primary

def operators : Production → List Mark
  | expression => [.plus, .minus, .star, .slash, .caret]
  | term => [.star, .slash, .caret]
  | unary | power => [.caret]
  | primary | call => []

lemma mem_extenders_of_mem_operators {p : Production} {m : Mark} (h : m ∈ p.operators) :
    m ∈ p.phrase.extenders ∧ m ≠ .left := by
  revert h
  cases p <;> cases m <;> decide

end Production

section Takes

variable {r : Nat} {ts rest : List Token} {e : Expr}

lemma takes_power (h : Phrase.power.read r ts = .ok (e, rest)) : Phrase.power.Takes ts rest :=
  takes_of_sound (sound_power (fun r' _ => (sound r').2) fun r' _ => (sound r').1)
    (power_halts fun r' _ => halts_unary r') h

lemma takes_call (h : call (level r) ts = .ok (e, rest)) : Phrase.primary.Takes ts rest := by
  obtain ⟨d, ⟨us, hts, hus, -⟩, -⟩ := sound_call (fun r' _ => (sound r').2) h
  exact ⟨d, us, hts, hus, halts_primary rest⟩

end Takes

lemma takes_of_read {p : Production} {depth : Nat} {ts rest : List Token} {e : Expr}
    (h : p.read depth ts = .ok (e, rest)) : p.phrase.Takes ts rest := by
  cases p with
  | expression => exact takes_expression_below h
  | term =>
    rw [Production.read, level_term] at h
    exact takes_below (takes_operand .sums) h
  | unary =>
    rw [Production.read, level_unary] at h
    exact takes_below (takes_operand .products) h
  | power => exact takes_power h
  | primary => exact takes_primary h
  | call => exact takes_call h

inductive ListEnd
  | read (es : List Expr) (rest : List Token)
  | refused (r : Rejection)
  | stalled (rest : List Token)

def ListEnd.result : ListEnd → Except Rejection (List Expr × List Token)
  | read es rest => .ok (es, rest)
  | refused r => .error r
  | stalled rest => Rejection.unexpected rest

inductive Round
  | ended (out : ListEnd)
  | next (es : List Expr) (rest : List Token)

/-- Without another comma the list is read, and so it is before a comma that no expression
follows. -/
def round (item : Reader) (es : List Expr) (ts : List Token) : Round :=
  if Row.peek? ts = some (.mark .comma) then
    if Row.size (Row.advance ts) = Row.size ts then .ended (.stalled (Row.advance ts))
    else
      match item (Row.advance ts) with
      | .ok (e, rest) => .next (es ++ [e]) rest
      | .error r => .ended (if r.firm then .refused r else .read es ts)
  else .ended (.read es ts)

inductive Rounds (item : Reader) : List Expr → List Token → ListEnd → Prop
  | last {es : List Expr} {ts : List Token} {out : ListEnd} (h : round item es ts = .ended out) :
      Rounds item es ts out
  | more {es es' : List Expr} {ts rest : List Token} {out : ListEnd}
      (h : round item es ts = .next es' rest) (hmore : Rounds item es' rest out) :
      Rounds item es ts out

def Lists (item : Reader) (ts : List Token) (out : ListEnd) : Prop :=
  match item ts with
  | .ok (e, rest) => Rounds item [e] rest out
  | .error r => out = .refused r

lemma Rounds.unique {item : Reader} {es : List Expr} {ts : List Token} {out out' : ListEnd}
    (h : Rounds item es ts out) (h' : Rounds item es ts out') : out' = out := by
  induction h with
  | last hround =>
    cases h' with
    | last hround' =>
      cases hround.symm.trans hround'
      rfl
    | more hround' => cases hround.symm.trans hround'
  | more hround _ ih =>
    cases h' with
    | last hround' => cases hround.symm.trans hround'
    | more hround' hmore' =>
      cases hround.symm.trans hround'
      exact ih hmore'

lemma Lists.unique {item : Reader} {ts : List Token} {out out' : ListEnd}
    (h : Lists item ts out) (h' : Lists item ts out') : out' = out := by
  rw [Lists] at h h'
  cases hitem : item ts with
  | ok p =>
    rw [hitem] at h h'
    exact h.unique h'
  | error r =>
    rw [hitem] at h h'
    exact h'.trans h.symm

lemma size_cons {t : Token} (ht : t.kind ≠ .ending) (ts : List Token) :
    Row.size (t :: ts) = Row.size ts + 1 := by
  cases ts with
  | nil => simp [Row.size, Token.isEnding, ht]
  | cons u us =>
    rw [Row.size, Row.size, List.getLast?_cons_cons, List.getLast?_cons]
    dsimp only
    split <;> simp

lemma advance_cons {t : Token} (ht : t.kind ≠ .ending) (ts : List Token) :
    Row.advance (t :: ts) = ts := by
  rw [Row.advance, if_neg (by simpa [Token.isEnding] using ht)]

def separatedMore (item : Reader) (bound : Nat) (ts : List Token) :
    Except Rejection (List Expr × List Token) :=
  match ts with
  | [] => .ok ([], [])
  | t :: ts => if t.kind = .mark .comma then separated item bound ts else .ok ([], t :: ts)

lemma separated_succ (item : Reader) (bound : Nat) (ts : List Token) :
    separated item (bound + 1) ts = (do
      let (e, rest) ← Rejection.confirm (item ts)
      let (es, rest) ← separatedMore item bound rest
      return (e :: es, rest)) := by
  rw [separated]
  congr 1
  funext p
  obtain ⟨e, rest⟩ := p
  cases rest with
  | nil => rfl
  | cons t rest =>
    dsimp only [separatedMore]
    split <;> rfl

def cut (item : Reader) : Reader := fun ts => Rejection.confirm (item ts)

lemma round_cut_of_comma (item : Reader) (es : List Expr) {t : Token} (ht : t.kind = .mark .comma)
    (ts : List Token) :
    round (cut item) es (t :: ts) =
      match item ts with
      | .ok (e, rest) => .next (es ++ [e]) rest
      | .error r => .ended (.refused { r with firm := true }) := by
  have hne : t.kind ≠ .ending := by simp [ht]
  have hpeek : Row.peek? (t :: ts) = some (.mark .comma) := congrArg some ht
  have hsize : Row.size ts ≠ Row.size (t :: ts) := by rw [size_cons hne]; omega
  rw [round, if_pos hpeek, advance_cons hne, if_neg hsize, cut]
  cases item ts with
  | ok p => rfl
  | error r => rfl

def EndsAs (item : Reader) (es : List Expr) (ts : List Token)
    (result : Except Rejection (List Expr × List Token)) : Prop :=
  ∃ out, Rounds item es ts out ∧ (∀ rest, out ≠ .stalled rest) ∧ out.result = result

lemma EndsAs.later {item : Reader} {es es' : List Expr} {ts rest : List Token}
    {result : Except Rejection (List Expr × List Token)} (h : EndsAs item es' rest result)
    (hround : round item es ts = .next es' rest) : EndsAs item es ts result := by
  obtain ⟨out, hrounds, hstall, hresult⟩ := h
  exact ⟨out, .more hround hrounds, hstall, hresult⟩

lemma separatedMore_of_no_comma (item : Reader) (bound : Nat) {ts : List Token}
    (h : Row.peek? ts ≠ some (.mark .comma)) : separatedMore item bound ts = .ok ([], ts) := by
  cases ts with
  | nil => rfl
  | cons t ts => exact if_neg fun ht => h (congrArg some ht)

lemma exists_cons_of_peek? {ts : List Token} {k : TokenKind} (h : Row.peek? ts = some k) :
    ∃ t us, ts = t :: us ∧ t.kind = k := by
  cases ts with
  | nil => cases h
  | cons t us => exact ⟨t, us, rfl, Option.some.inj h⟩

lemma endsAs_of_no_comma (item : Reader) (bound : Nat) (es : List Expr) {ts : List Token}
    (h : Row.peek? ts ≠ some (.mark .comma)) :
    EndsAs (cut item) es ts (do
      let (es', rest) ← separatedMore item bound ts
      return (es ++ es', rest)) := by
  refine ⟨.read es ts, .last (if_neg h), nofun, ?_⟩
  rw [separatedMore_of_no_comma item bound h]
  exact congrArg (fun es => Except.ok (es, ts)) (List.append_nil es).symm

lemma endsAs_separatedMore {item : Reader}
    (hitem : ∀ ts e rest, item ts = .ok (e, rest) → Consumed ts rest) (bound : Nat)
    (es : List Expr) (ts : List Token) (hbound : ts.length ≤ bound) :
    EndsAs (cut item) es ts (do
      let (es', rest) ← separatedMore item bound ts
      return (es ++ es', rest)) := by
  induction bound generalizing es ts with
  | zero =>
    cases List.length_eq_zero_iff.mp (Nat.le_zero.mp hbound)
    exact endsAs_of_no_comma item 0 es nofun
  | succ bound ih =>
    by_cases hcomma : Row.peek? ts = some (.mark .comma)
    · obtain ⟨t, ts, rfl, ht⟩ := exists_cons_of_peek? hcomma
      have hround := round_cut_of_comma item es ht ts
      rw [separatedMore, if_pos ht, separated_succ]
      cases h : item ts with
      | error r =>
        rw [h] at hround
        exact ⟨.refused { r with firm := true }, .last hround, nofun, rfl⟩
      | ok p =>
        obtain ⟨e, rest⟩ := p
        rw [h] at hround
        have hlt := (hitem ts e rest h).length_lt
        rw [List.length_cons] at hbound
        have hmore := (ih (es ++ [e]) rest (by omega)).later hround
        simpa using! hmore
    · exact endsAs_of_no_comma item (bound + 1) es hcomma

lemma lists_separated {item : Reader}
    (hitem : ∀ ts e rest, item ts = .ok (e, rest) → Consumed ts rest) (ts : List Token) :
    ∃ out, Lists (cut item) ts out ∧ (∀ rest, out ≠ .stalled rest) ∧
      out.result = separated item (ts.length + 1) ts := by
  rw [separated_succ]
  simp only [Lists, cut]
  cases h : item ts with
  | error r => exact ⟨.refused { r with firm := true }, rfl, nofun, rfl⟩
  | ok p =>
    obtain ⟨e, rest⟩ := p
    have hlt := (hitem ts e rest h).length_lt
    exact endsAs_separatedMore hitem ts.length [e] rest (Nat.le_of_lt hlt)

lemma room_level (r : Nat) : (level r).room = r := by cases r <;> rfl

theorem consumption (p : Production) (depth : Nat) (ts : List Token) :
    (∀ e rest, p.read depth ts = .ok (e, rest) →
      (∃ us, ts = us ++ rest ∧ us ≠ [] ∧ ∀ t ∈ us, t.kind ≠ .ending) ∧
        ∀ m ∈ p.operators, Row.peek? rest ≠ some (.mark m)) ∧
    ∃ out, (∀ out', Lists (cut (Production.expression.read (depth + 1))) ts out' ↔ out' = out) ∧
      (∀ rest, out ≠ .stalled rest) ∧
      (depth < maxNesting → Row.peek? ts ≠ some (.mark .right) →
        arguments (level (maxNesting - depth)) ts = out.result) := by
  constructor
  · intro e rest h
    have htakes := takes_of_read h
    refine ⟨htakes.consumed, fun m hm => ?_⟩
    obtain ⟨d, us, -, -, hhalts⟩ := htakes
    obtain ⟨hextends, hne⟩ := Production.mem_extenders_of_mem_operators hm
    exact hhalts m hextends hne
  · have hitem : ∀ ts e rest, Production.expression.read (depth + 1) ts = .ok (e, rest) →
        Consumed ts rest :=
      fun ts e rest h => (takes_of_read h).consumed
    obtain ⟨out, hlists, hstall, hresult⟩ := lists_separated hitem ts
    refine ⟨out, fun out' => ⟨fun h => hlists.unique h, ?_⟩, hstall, fun hdepth hright => ?_⟩
    · rintro rfl
      exact hlists
    · have hroom : (level (maxNesting - depth)).room ≠ 0 := by rw [room_level]; omega
      rw [hresult, arguments, if_neg hroom, if_neg hright, Production.read, Nat.add_sub_add_right]

theorem consumption_ending_within :
    let ts : List Token := [⟨.name "theta", "theta", ⟨1, 1, 0⟩⟩, ⟨.ending, "", ⟨1, 6, 5⟩⟩,
      ⟨.mark .caret, "^", ⟨1, 6, 5⟩⟩]
    let us : List Token := [⟨.name "theta", "theta", ⟨1, 1, 0⟩⟩, ⟨.mark .comma, ",", ⟨1, 6, 5⟩⟩,
      ⟨.name "theta", "theta", ⟨1, 7, 6⟩⟩, ⟨.ending, "", ⟨1, 12, 11⟩⟩]
    Production.power.read 255 ts = .ok (.theta, ts.tail) ∧
      (∃ taken, ts = taken ++ ts.tail ∧ taken ≠ [] ∧ ∀ t ∈ taken, t.kind ≠ .ending) ∧
      Row.peek? ts.tail ≠ some (.mark .caret) ∧
      Lists (cut (Production.expression.read 256)) us (.read [.theta, .theta] (us.drop 3)) := by
  intro ts us
  have hread : Production.power.read 255 ts = .ok (.theta, ts.tail) := rfl
  obtain ⟨hconsumed, hstops⟩ := (consumption .power 255 ts).1 _ _ hread
  refine ⟨hread, hconsumed, hstops .caret (by decide), ?_⟩
  have hlist : arguments (level (maxNesting - 255)) us = .ok ([.theta, .theta], us.drop 3) := rfl
  obtain ⟨out, hends, hstall, hresult⟩ := (consumption .call 255 us).2
  have hout : out.result = .ok ([.theta, .theta], us.drop 3) :=
    (hresult (by decide) (by decide)).symm.trans hlist
  cases out with
  | read es rest =>
    cases hout
    exact (hends _).mpr rfl
  | refused r => cases hout
  | stalled rest => exact (hstall rest rfl).elim

end PolarCurve.Grammar
