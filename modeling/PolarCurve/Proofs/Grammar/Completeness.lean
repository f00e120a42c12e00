import PolarCurve.Proofs.Grammar.Derivation

/-! The row of a derivation is read as its tree when the budget covers its cost, and is refused as
nested too deeply otherwise. -/

namespace PolarCurve.Grammar

def TooDeep {α : Type} (x : Except Rejection α) : Prop :=
  ∃ position, x = .error ⟨true, .tooDeep, position⟩

lemma TooDeep.bind {α β : Type} {x : Except Rejection α} (h : TooDeep x)
    (f : α → Except Rejection β) : TooDeep (x >>= f) := by
  obtain ⟨position, rfl⟩ := h
  exact ⟨position, rfl⟩

lemma TooDeep.confirm {α : Type} {x : Except Rejection α} (h : TooDeep x) :
    TooDeep (Rejection.confirm x) := by
  obtain ⟨position, rfl⟩ := h
  exact ⟨position, rfl⟩

lemma tooDeep_tooDeep {α : Type} (ts : List Token) :
    TooDeep (Rejection.tooDeep ts : Except Rejection α) :=
  ⟨_, rfl⟩

namespace ChainKind

def op? : ChainKind → TokenKind → Option BinaryOp
  | sums => sumOp?
  | products => productOp?

def more : ChainKind → Level → BinaryOp → Expr → Reader
  | sums => Level.moreTerms
  | products => Level.moreFactors

def read : ChainKind → Nat → Reader
  | sums, r => expression (level r)
  | products, r => term (level r)

lemma op?_eq_some_iff {kind : ChainKind} {k : TokenKind} {op : BinaryOp} :
    kind.op? k = some op ↔ kind.Links op ∧ k = .mark op.mark := by
  cases kind <;> cases op <;> rcases k with _ | _ | m | _ <;> (try cases m) <;>
    simp [op?, sumOp?, productOp?, Links, BinaryOp.mark]

end ChainKind

namespace Phrase

def read : Phrase → Nat → Reader
  | whole kind, r | chain kind _, r => kind.read r
  | unary, r => Grammar.unary (level r)
  | power, r => Grammar.power (level r)
  | primary, r => Grammar.primary (level r)

def readBelow (p : Phrase) : Nat → Reader
  | 0 => Rejection.tooDeep
  | r + 1 => p.read r

/-- What is left of a reading once a phrase has been read. -/
def resume : Phrase → Nat → Expr → Reader
  | chain kind n, r => Grammar.chain kind.op? (kind.more (level (r - n)))
  | whole _, _ | unary, _ | power, _ | primary, _ => fun e rest => .ok (e, rest)

def extenders : Phrase → List Mark
  | whole .sums => [.left, .caret, .star, .slash, .plus, .minus]
  | whole .products | chain .sums _ => [.left, .caret, .star, .slash]
  | unary | power | chain .products _ => [.left, .caret]
  | primary => [.left]

def Stops (p : Phrase) (rest : List Token) : Prop :=
  ∀ m ∈ p.extenders, Row.peek? rest ≠ some (.mark m)

lemma Stops.mono {p q : Phrase} {rest : List Token} (hs : q.Stops rest)
    (h : p.extenders ⊆ q.extenders) : p.Stops rest :=
  fun m hm => hs m (h hm)

lemma stops_of_mark {p : Phrase} {m : Mark} (h : m ∉ p.extenders) {t : Token}
    (ht : t.kind = .mark m) (ts : List Token) : p.Stops (t :: ts) := by
  rintro m' hm' he
  simp only [Row.peek?, List.head?_cons, Option.map_some, ht, Option.some.injEq,
    TokenKind.mark.injEq] at he
  exact h (he ▸ hm')

end Phrase

lemma level_expression (r : Nat) : (level r).expression = Phrase.expression.readBelow r := by
  cases r <;> rfl

lemma level_term (r : Nat) : (level r).term = Phrase.term.readBelow r := by
  cases r <;> rfl

lemma level_unary (r : Nat) : (level r).unary = Phrase.unary.readBelow r := by
  cases r <;> rfl

lemma ChainKind.more_succ (kind : ChainKind) (r : Nat) (op : BinaryOp) (left : Expr)
    (ts : List Token) :
    kind.more (level (r + 1)) op left ts = (do
      let (right, rest) ← kind.operand.read r ts.tail
      chain kind.op? (kind.more (level r)) (.binary op left right) rest) := by
  cases kind <;> rfl

lemma ChainKind.read_eq (kind : ChainKind) (r : Nat) (ts : List Token) :
    kind.read r ts = (do
      let (e, rest) ← kind.operand.read r ts
      chain kind.op? (kind.more (level r)) e rest) := by
  cases kind <;> rfl

lemma chain_of_link {kind : ChainKind} {op : BinaryOp} (h : kind.Links op)
    (more : BinaryOp → Expr → Reader) (left : Expr) {t : Token} (ht : t.kind = .mark op.mark)
    (ts : List Token) : chain kind.op? more left (t :: ts) = more op left (t :: ts) := by
  have hop : kind.op? t.kind = some op := ChainKind.op?_eq_some_iff.mpr ⟨h, ht⟩
  simp only [chain, hop]

lemma chain_of_stop {kind : ChainKind} {rest : List Token}
    (h : ∀ op, kind.Links op → Row.peek? rest ≠ some (.mark op.mark))
    (more : BinaryOp → Expr → Reader) (e : Expr) :
    chain kind.op? more e rest = .ok (e, rest) := by
  cases rest with
  | nil => rfl
  | cons t ts =>
    have hop : kind.op? t.kind = none := by
      apply Option.eq_none_iff_forall_ne_some.mpr
      intro op hop
      obtain ⟨hl, ht⟩ := ChainKind.op?_eq_some_iff.mp hop
      exact h op hl (congrArg some ht)
    simp only [chain, hop]

namespace Derivation

def Readable {p : Phrase} (d : Derivation p) : Prop :=
  ∀ r ts rest, ts.map Token.kind = d.row → p.Stops rest →
    (d.cost ≤ r → p.read r (ts ++ rest) = p.resume r d.tree rest) ∧
      (r < d.cost → TooDeep (p.read r (ts ++ rest)))

lemma readable_whole {kind : ChainKind} {n : Nat} {all : Derivation (.chain kind n)}
    (h : all.Readable) : (whole all).Readable := by
  intro r ts rest hts hs
  have hsub : (Phrase.chain kind n).extenders ⊆ (Phrase.whole kind).extenders := by
    cases kind <;> simp [Phrase.extenders]
  obtain ⟨hfit, hdeep⟩ := h r ts rest hts (hs.mono hsub)
  refine ⟨fun hc => (hfit hc).trans (chain_of_stop ?_ _ _), hdeep⟩
  intro op hl
  apply hs
  cases kind <;> rcases hl with rfl | rfl <;> simp [Phrase.extenders, BinaryOp.mark]

lemma readable_first {kind : ChainKind} {operand : Derivation kind.operand}
    (h : operand.Readable) : (first kind operand).Readable := by
  intro r ts rest hts hs
  have hsub : kind.operand.extenders ⊆ (Phrase.chain kind 0).extenders := by
    cases kind <;> exact List.Subset.refl _
  obtain ⟨hfit, hdeep⟩ := h r ts rest hts (hs.mono hsub)
  rw [Phrase.read, kind.read_eq]
  refine ⟨fun hc => ?_, fun hc => (hdeep hc).bind _⟩
  rw [hfit hc]
  cases kind <;> rfl

lemma readable_next {kind : ChainKind} {n : Nat} {left : Derivation (.chain kind n)}
    {op : BinaryOp} {links : kind.Links op} {right : Derivation kind.operand}
    (hl : left.Readable) (hr : right.Readable) : (next left op links right).Readable := by
  intro r ts rest hts hs
  obtain ⟨us, _, rfl, hus, htvs⟩ := List.map_eq_append_iff.mp hts
  obtain ⟨t, vs, rfl, ht, hvs⟩ := List.map_eq_cons_iff.mp htvs
  have hstop : (Phrase.chain kind n).Stops (t :: (vs ++ rest)) :=
    Phrase.stops_of_mark (by
      cases kind <;> rcases links with rfl | rfl <;> simp [Phrase.extenders, BinaryOp.mark]) ht _
  have hsub : kind.operand.extenders ⊆ (Phrase.chain kind (n + 1)).extenders := by
    cases kind <;> exact List.Subset.refl _
  obtain ⟨hlfit, hldeep⟩ := hl r us _ hus hstop
  rw [List.append_assoc, List.cons_append]
  by_cases hleft : left.cost ≤ r
  · -- The reader stands before the operator, with as many levels less as operators came before.
    have hread : (Phrase.chain kind (n + 1)).read r (us ++ t :: (vs ++ rest)) =
        kind.more (level (r - n)) op left.tree (t :: (vs ++ rest)) :=
      (hlfit hleft).trans (chain_of_link links _ _ ht _)
    rw [hread]
    rcases hrest : r - n with _ | room
    · refine ⟨fun hc => ?_, fun _ => ?_⟩
      · simp only [cost] at hc
        omega
      · cases kind <;> exact tooDeep_tooDeep _
    · obtain ⟨hrfit, hrdeep⟩ := hr room vs rest hvs (hs.mono hsub)
      have hroom : r - (n + 1) = room := by omega
      rw [kind.more_succ, List.tail_cons]
      refine ⟨fun hc => ?_, fun hc => (hrdeep ?_).bind _⟩
      · simp only [cost] at hc
        rw [hrfit (by omega), Phrase.resume, hroom]
        cases kind <;> rfl
      · simp only [cost] at hc
        omega
  · refine ⟨fun hc => ?_, fun _ => hldeep (by omega)⟩
    simp only [cost] at hc
    omega

lemma Readable.below {p : Phrase} {d : Derivation p} (h : d.Readable) (r : Nat)
    {ts rest : List Token} (hts : ts.map Token.kind = d.row) (hs : p.Stops rest) :
    (1 + d.cost ≤ r → p.readBelow r (ts ++ rest) = p.resume (r - 1) d.tree rest) ∧
      (r < 1 + d.cost → TooDeep (p.readBelow r (ts ++ rest))) := by
  cases r with
  | zero => exact ⟨fun hc => by omega, fun _ => tooDeep_tooDeep _⟩
  | succ r =>
    obtain ⟨hfit, hdeep⟩ := h r ts rest hts hs
    exact ⟨fun hc => hfit (by omega), fun hc => hdeep (by omega)⟩

lemma readable_signed {op : UnaryOp} {argument : Derivation .unary} (h : argument.Readable) :
    (signed op argument).Readable := by
  intro r ts rest hts hs
  obtain ⟨t, us, rfl, ht, hus⟩ := List.map_eq_cons_iff.mp hts
  obtain ⟨hfit, hdeep⟩ := h.below r hus hs
  have hop : signOp? t.kind = some op := by rw [ht]; cases op <;> rfl
  simp only [Phrase.read, Grammar.unary, List.cons_append, hop, level_unary]
  exact ⟨fun hc => by rw [hfit hc]; rfl, fun hc => (hdeep hc).bind _⟩

lemma signOp?_row {t : Token} {ts : List Token} (d : Derivation .primary)
    {ks : List TokenKind} (h : (t :: ts).map Token.kind = d.row ++ ks) : signOp? t.kind = none := by
  cases d <;> simp only [row, List.map_cons, List.cons_append, List.cons.injEq] at h <;>
    rw [h.1] <;> rfl

lemma readable_unsigned {d : Derivation .power} (h : d.Readable) : (unsigned d).Readable := by
  intro r ts rest hts hs
  obtain ⟨hfit, hdeep⟩ := h r ts rest hts hs
  have hread : Phrase.unary.read r (ts ++ rest) = Phrase.power.read r (ts ++ rest) := by
    cases ts with
    | nil =>
      obtain ⟨k, ks, hrow, -⟩ := (unsigned d).row_eq_cons
      simp [hrow] at hts
    | cons t ts =>
      have hop : signOp? t.kind = none := by
        cases d with
        | plain base => exact signOp?_row base (hts.trans (List.append_nil _).symm)
        | raised base exponent => exact signOp?_row base hts
      simp only [Phrase.read, Grammar.unary, List.cons_append, hop]
  rw [hread]
  exact ⟨hfit, hdeep⟩

lemma readable_plain {d : Derivation .primary} (h : d.Readable) : (plain d).Readable := by
  intro r ts rest hts hs
  obtain ⟨hfit, hdeep⟩ := h r ts rest hts (hs.mono (by simp [Phrase.extenders]))
  refine ⟨fun hc => ?_, fun hc => (hdeep hc).bind _⟩
  change (Phrase.primary.read r (ts ++ rest) >>= _) = _
  rw [hfit hc]
  cases rest with
  | nil => rfl
  | cons t rest =>
    have hcaret : t.kind ≠ .mark .caret := fun ht =>
      hs .caret (by simp [Phrase.extenders]) (congrArg some ht)
    change (if t.kind = .mark .caret then _ else _) = _
    rw [if_neg hcaret]
    rfl

lemma readable_raised {base : Derivation .primary} {exponent : Derivation .unary}
    (hb : base.Readable) (he : exponent.Readable) : (raised base exponent).Readable := by
  intro r ts rest hts hs
  obtain ⟨us, _, rfl, hus, htvs⟩ := List.map_eq_append_iff.mp hts
  obtain ⟨t, vs, rfl, ht, hvs⟩ := List.map_eq_cons_iff.mp htvs
  have hstop : Phrase.primary.Stops (t :: (vs ++ rest)) :=
    Phrase.stops_of_mark (by simp [Phrase.extenders]) ht _
  obtain ⟨hbfit, hbdeep⟩ := hb r us _ hus hstop
  obtain ⟨hefit, hedeep⟩ := he.below r hvs hs
  rw [List.append_assoc, List.cons_append]
  by_cases hbase : base.cost ≤ r
  · have hread : Phrase.power.read r (us ++ t :: (vs ++ rest)) = (do
        let (exponent, rest) ← Phrase.unary.readBelow r (vs ++ rest)
        return (.binary .pow base.tree exponent, rest)) := by
      change (Phrase.primary.read r (us ++ t :: (vs ++ rest)) >>= _) = _
      rw [hbfit hbase]
      change (if t.kind = .mark .caret then _ else _) = _
      rw [if_pos ht, level_unary]
    rw [hread]
    refine ⟨fun hc => ?_, fun hc => (hedeep ?_).bind _⟩
    · simp only [cost] at hc
      rw [hefit (by omega)]
      rfl
    · simp only [cost] at hc
      omega
  · refine ⟨fun hc => ?_, fun _ => (hbdeep (by omega)).bind _⟩
    simp only [cost] at hc
    omega

lemma opensNext_of_stops {p : Phrase} {rest : List Token} (hs : p.Stops rest) :
    opensNext rest = false := by
  have hleft : .left ∈ p.extenders := by
    rcases p with ⟨⟨⟩, _⟩ | ⟨⟨⟩⟩ | _ | _ | _ <;> simp [Phrase.extenders]
  cases rest with
  | nil => rfl
  | cons t ts =>
    have ht : t.kind ≠ .mark .left := fun ht => hs .left hleft (congrArg some ht)
    simp [opensNext, ht]

lemma readable_single {d : Derivation .primary} {k : TokenKind} (hrow : d.row = [k])
    (hcost : d.cost = 0) (hread : ∀ below t rest, t.kind = k → opensNext rest = false →
      primary below (t :: rest) = .ok (d.tree, rest)) : d.Readable := by
  intro r ts rest hts hs
  rw [hrow] at hts
  obtain ⟨t, us, rfl, ht, hus⟩ := List.map_eq_cons_iff.mp hts
  obtain rfl := List.map_eq_nil_iff.mp hus
  exact ⟨fun _ => hread _ t rest ht (opensNext_of_stops hs), fun hc => by omega⟩

lemma readable_number (value : Float) : (number value).Readable := by
  apply readable_single rfl rfl
  intro below t rest ht _
  simp only [primary, ht]
  rfl

lemma readable_theta : theta.Readable := by
  apply readable_single rfl rfl
  intro below t rest ht hopens
  simp only [primary, ht, hopens]
  rfl

lemma readable_pi : pi.Readable := by
  apply readable_single rfl rfl
  intro below t rest ht hopens
  simp only [primary, ht, hopens]
  rfl

lemma readable_bracketed {inner : Derivation .expression} (h : inner.Readable) :
    (bracketed inner).Readable := by
  intro r ts rest hts _
  obtain ⟨t, _, rfl, ht, huts⟩ := List.map_eq_cons_iff.mp hts
  obtain ⟨us, _, rfl, hus, hts⟩ := List.map_eq_append_iff.mp huts
  obtain ⟨u, vs, rfl, hu, hvs⟩ := List.map_eq_cons_iff.mp hts
  obtain rfl := List.map_eq_nil_iff.mp hvs
  have hstop : Phrase.expression.Stops (u :: rest) :=
    Phrase.stops_of_mark (by simp [Phrase.extenders]) hu _
  obtain ⟨hfit, hdeep⟩ := h.below r hus hstop
  simp only [Phrase.read, primary, List.cons_append, List.append_assoc, List.nil_append, ht,
    level_expression]
  refine ⟨fun hc => ?_, fun hc => (hdeep hc).bind _⟩
  rw [hfit hc]
  change (closing (u :: rest) >>= _) = _
  rw [closing, if_pos hu]
  rfl

lemma arguments_below {argument : Derivation .expression} (h : argument.Readable) (r : Nat)
    {ts : List Token} (hts : ts.map Token.kind = argument.row) {u : Token}
    (hu : u.kind = .mark .right) (rest : List Token) :
    (1 + argument.cost ≤ r →
        arguments (level r) (ts ++ u :: rest) = .ok ([argument.tree], u :: rest)) ∧
      (r < 1 + argument.cost → TooDeep (arguments (level r) (ts ++ u :: rest))) := by
  cases r with
  | zero => exact ⟨fun hc => by omega, fun _ => tooDeep_tooDeep _⟩
  | succ r =>
    obtain ⟨k, ks, hrow, hk⟩ := argument.row_eq_cons
    obtain ⟨t, us, rfl, ht, hus⟩ := List.map_eq_cons_iff.mp (hts.trans hrow)
    have hstop : Phrase.expression.Stops (u :: rest) :=
      Phrase.stops_of_mark (by simp [Phrase.extenders]) hu _
    obtain ⟨hfit, hdeep⟩ := h.below (r + 1) hts hstop
    have hpeek : Row.peek? (t :: us ++ u :: rest) ≠ some (.mark .right) := by
      simpa [Row.peek?, ht] using hk
    have hroom : (level (r + 1)).room ≠ 0 := Nat.succ_ne_zero r
    rw [arguments, if_neg hroom, if_neg hpeek, separated, level_expression]
    refine ⟨fun hc => ?_, fun hc => (hdeep hc).confirm.bind _⟩
    rw [hfit hc]
    change (if u.kind = .mark .comma then _ else _) = _
    rw [if_neg (by simp [hu])]
    rfl

lemma readable_call {function : Builtin} {argument : Derivation .expression}
    (h : argument.Readable) : (call function argument).Readable := by
  intro r ts rest hts _
  obtain ⟨t, _, rfl, ht, hts⟩ := List.map_eq_cons_iff.mp hts
  obtain ⟨o, _, rfl, ho, hts⟩ := List.map_eq_cons_iff.mp hts
  obtain ⟨us, _, rfl, hus, hts⟩ := List.map_eq_append_iff.mp hts
  obtain ⟨u, vs, rfl, hu, hvs⟩ := List.map_eq_cons_iff.mp hts
  obtain rfl := List.map_eq_nil_iff.mp hvs
  obtain ⟨hfit, hdeep⟩ := arguments_below h r hus hu rest
  have hopens : opensNext (o :: (us ++ u :: rest)) = true := by simp [opensNext, ho]
  have hopening : opening (o :: (us ++ u :: rest)) = .ok (us ++ u :: rest) := by
    rw [opening, if_pos ho]
  simp only [List.cons_append, List.append_assoc, List.nil_append, Phrase.read, primary, ht, hopens,
    if_true, Grammar.call, Builtin.ofName?_name, hopening]
  refine ⟨fun hc => ?_, fun hc => (hdeep hc).bind _⟩
  change (arguments (level r) (us ++ u :: rest) >>= _) = _
  rw [hfit hc]
  change (closing (u :: rest) >>= _) = _
  rw [closing, if_pos hu]
  rfl

theorem readable {p : Phrase} (d : Derivation p) : d.Readable := by
  induction d with
  | whole _ ih => exact readable_whole ih
  | first _ _ ih => exact readable_first ih
  | next _ _ _ _ ihl ihr => exact readable_next ihl ihr
  | signed _ _ ih => exact readable_signed ih
  | unsigned _ ih => exact readable_unsigned ih
  | plain _ ih => exact readable_plain ih
  | raised _ _ ihb ihe => exact readable_raised ihb ihe
  | number value => exact readable_number value
  | theta => exact readable_theta
  | pi => exact readable_pi
  | call _ _ ih => exact readable_call ih
  | bracketed _ ih => exact readable_bracketed ih

end Derivation

end PolarCurve.Grammar
