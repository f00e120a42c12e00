import PolarCurve.Proofs.Grammar.Completeness

/-! Whatever is read from the front of a row has a derivation whose cost the budget covers. -/

namespace PolarCurve.Grammar

lemma exists_of_bind_eq_ok {α β : Type} {x : Except Rejection α} {f : α → Except Rejection β}
    {b : β} (h : (x >>= f) = .ok b) : ∃ a, x = .ok a ∧ f a = .ok b := by
  cases x with
  | error r => cases h
  | ok a => exact ⟨a, rfl, h⟩

lemma confirm_eq_ok {α : Type} {x : Except Rejection α} {a : α}
    (h : Rejection.confirm x = .ok a) : x = .ok a := by
  cases x with
  | error r => cases h
  | ok b => exact h

def Derivation.Reads {p : Phrase} (d : Derivation p) (ts : List Token) (e : Expr)
    (rest : List Token) : Prop :=
  ∃ us, ts = us ++ rest ∧ us.map Token.kind = d.row ∧ d.tree = e

def SoundAt (p : Phrase) (r : Nat) : Prop :=
  ∀ ts e rest, p.read r ts = .ok (e, rest) →
    ∃ d : Derivation p, d.Reads ts e rest ∧ d.cost ≤ r

lemma chain_eq_ok {kind : ChainKind} {more : BinaryOp → Expr → Reader} {left e : Expr}
    {ts rest : List Token} (h : chain kind.op? more left ts = .ok (e, rest)) :
    (e = left ∧ rest = ts) ∨ ∃ op t us, ts = t :: us ∧ kind.Links op ∧ t.kind = .mark op.mark ∧
      more op left (t :: us) = .ok (e, rest) := by
  cases ts with
  | nil =>
    cases h
    exact Or.inl ⟨rfl, rfl⟩
  | cons t us =>
    cases ho : kind.op? t.kind with
    | none =>
      simp only [chain, ho] at h
      cases h
      exact Or.inl ⟨rfl, rfl⟩
    | some op =>
      simp only [chain, ho] at h
      obtain ⟨hl, ht⟩ := ChainKind.op?_eq_some_iff.mp ho
      exact Or.inr ⟨op, t, us, rfl, hl, ht, h⟩

lemma chain_sound (kind : ChainKind) (r : Nat) (hop : ∀ r' < r, SoundAt kind.operand r') {n : Nat}
    (d : Derivation (.chain kind n)) (hd : d.cost ≤ r + n) (ts : List Token) (e : Expr)
    (rest : List Token) (h : chain kind.op? (kind.more (level r)) d.tree ts = .ok (e, rest)) :
    ∃ m, ∃ d' : Derivation (.chain kind m), ∃ us, ts = us ++ rest ∧
      d'.row = d.row ++ us.map Token.kind ∧ d'.tree = e ∧ d'.cost ≤ r + n := by
  -- Each operator spends a level and lengthens the chain, so both budgets together stay the same.
  induction r generalizing n ts with
  | zero =>
    obtain ⟨rfl, rfl⟩ | ⟨op, t, us, rfl, -, -, h⟩ := chain_eq_ok h
    · exact ⟨n, d, [], rfl, by simp, rfl, hd⟩
    · cases kind <;> cases h
  | succ r ih =>
    obtain ⟨rfl, rfl⟩ | ⟨op, t, us, rfl, hl, ht, h⟩ := chain_eq_ok h
    · exact ⟨n, d, [], rfl, by simp, rfl, hd⟩
    · rw [kind.more_succ, List.tail_cons] at h
      obtain ⟨⟨right, more⟩, hright, hmore⟩ := exists_of_bind_eq_ok h
      obtain ⟨dr, ⟨us, rfl, hus, rfl⟩, hcost⟩ := hop r (Nat.lt_succ_self r) _ _ _ hright
      obtain ⟨m, d', vs, rfl, hrow, htree, hd'⟩ :=
        ih (fun r' hr' => hop r' (by omega)) (.next d op hl dr)
          (by simp only [Derivation.cost]; omega) more hmore
      refine ⟨m, d', t :: us ++ vs, by simp, ?_, htree, by omega⟩
      rw [hrow, Derivation.row, ← hus, ← ht]
      simp

lemma sound_whole (kind : ChainKind) (r : Nat) (hop : ∀ r' ≤ r, SoundAt kind.operand r') :
    SoundAt (.whole kind) r := by
  intro ts e rest h
  rw [Phrase.read, kind.read_eq] at h
  obtain ⟨⟨l, more⟩, hfirst, hmore⟩ := exists_of_bind_eq_ok h
  obtain ⟨d, ⟨us, rfl, hus, rfl⟩, hcost⟩ := hop r (Nat.le_refl r) _ _ _ hfirst
  obtain ⟨m, d', vs, rfl, hrow, htree, hd'⟩ :=
    chain_sound kind r (fun r' hr' => hop r' (Nat.le_of_lt hr')) (.first kind d) hcost more e rest
      hmore
  refine ⟨.whole d', ⟨us ++ vs, by simp, ?_, htree⟩, hd'⟩
  rw [Derivation.row, hrow, Derivation.row, ← hus, List.map_append]

lemma sound_below {p : Phrase} {r : Nat} (h : ∀ r' < r, SoundAt p r') {ts : List Token} {e : Expr}
    {rest : List Token} (hr : p.readBelow r ts = .ok (e, rest)) :
    ∃ d : Derivation p, d.Reads ts e rest ∧ 1 + d.cost ≤ r := by
  cases r with
  | zero => cases hr
  | succ r =>
    obtain ⟨d, hd, hc⟩ := h r (Nat.lt_succ_self r) _ _ _ hr
    exact ⟨d, hd, by omega⟩

lemma closing_eq_ok {ts rest : List Token} (h : closing ts = .ok rest) :
    ∃ t, t.kind = .mark .right ∧ ts = t :: rest := by
  cases ts with
  | nil => cases h
  | cons t ts =>
    rw [closing] at h
    split at h
    · next ht =>
      cases h
      exact ⟨t, ht, rfl⟩
    · cases h

lemma opening_eq_ok {ts rest : List Token} (h : opening ts = .ok rest) :
    ∃ t, t.kind = .mark .left ∧ ts = t :: rest := by
  cases ts with
  | nil => cases h
  | cons t ts =>
    rw [opening] at h
    split at h
    · next ht =>
      cases h
      exact ⟨t, ht, rfl⟩
    · cases h

lemma separated_eq_ok {item : Reader} {bound : Nat} {ts : List Token} {es : List Expr}
    {rest : List Token} (h : separated item bound ts = .ok (es, rest)) :
    ∃ e more, item ts = .ok (e, more) ∧
      ((es = [e] ∧ rest = more) ∨ ∃ es', es' ≠ [] ∧ es = e :: es') := by
  induction bound generalizing ts es rest with
  | zero => cases h
  | succ bound ih =>
    rw [separated] at h
    obtain ⟨⟨e, more⟩, he, h⟩ := exists_of_bind_eq_ok h
    refine ⟨e, more, confirm_eq_ok he, ?_⟩
    cases more with
    | nil =>
      cases h
      exact Or.inl ⟨rfl, rfl⟩
    | cons t more =>
      dsimp only at h
      split at h
      · obtain ⟨⟨es', rest'⟩, hes, h⟩ := exists_of_bind_eq_ok h
        cases h
        obtain ⟨e', _, -, ⟨rfl, -⟩ | ⟨_, -, rfl⟩⟩ := ih hes
        · exact Or.inr ⟨[e'], by simp, rfl⟩
        · exact Or.inr ⟨_, by simp, rfl⟩
      · cases h
        exact Or.inl ⟨rfl, rfl⟩

lemma arguments_eq_ok {below : Level} {ts : List Token} {e : Expr} {rest : List Token}
    (h : arguments below ts = .ok ([e], rest)) : below.expression ts = .ok (e, rest) := by
  rw [arguments] at h
  split at h
  · cases h
  · split at h
    · cases h
    · obtain ⟨e', more, he, ⟨hes, rfl⟩ | ⟨es', hne, hes⟩⟩ := separated_eq_ok h
      · cases hes
        exact he
      · cases hes
        exact (hne rfl).elim

lemma sound_call {r : Nat} (hexpr : ∀ r' < r, SoundAt .expression r') {ts : List Token} {e : Expr}
    {rest : List Token} (h : call (level r) ts = .ok (e, rest)) :
    ∃ d : Derivation .primary, d.Reads ts e rest ∧ d.cost ≤ r := by
  cases ts with
  | nil => cases h
  | cons t ts =>
    rw [call] at h
    split at h
    · next name hname =>
      split at h
      · cases h
      · next function hfunction =>
        obtain ⟨ts', hopen, hargs⟩ := exists_of_bind_eq_ok h
        obtain ⟨⟨args, more⟩, hargs, hclose⟩ := exists_of_bind_eq_ok hargs
        obtain ⟨rest', hclose, hcount⟩ := exists_of_bind_eq_ok hclose
        obtain ⟨o, ho, rfl⟩ := opening_eq_ok hopen
        obtain ⟨c, hc, rfl⟩ := closing_eq_ok hclose
        split at hcount
        · cases hcount
        · next harity =>
          cases hcount
          obtain ⟨argument, rfl⟩ := List.length_eq_one_iff.mp (Decidable.of_not_not harity)
          have hargument := arguments_eq_ok hargs
          rw [level_expression] at hargument
          obtain ⟨d, ⟨us, rfl, hus, rfl⟩, hcost⟩ := sound_below hexpr hargument
          refine ⟨.call function d, ⟨t :: o :: (us ++ [c]), by simp, ?_, rfl⟩, hcost⟩
          simp [Derivation.row, hname, ho, hc, hus, Builtin.name_of_ofName? hfunction]
    · cases h

lemma sound_primary {r : Nat} (hexpr : ∀ r' < r, SoundAt .expression r') : SoundAt .primary r := by
  intro ts e rest h
  cases ts with
  | nil => cases h
  | cons t ts =>
    rw [Phrase.read, primary] at h
    split at h
    · next value hk =>
      cases h
      exact ⟨.number value, ⟨[t], rfl, by simp [Derivation.row, hk], rfl⟩, Nat.zero_le r⟩
    · next name hk =>
      split at h
      · exact sound_call hexpr h
      · split at h
        · next hname =>
          cases h
          exact ⟨.theta, ⟨[t], rfl, by simp [Derivation.row, hk, hname], rfl⟩, Nat.zero_le r⟩
        · split at h
          · next hname =>
            cases h
            exact ⟨.pi, ⟨[t], rfl, by simp [Derivation.row, hk, hname], rfl⟩, Nat.zero_le r⟩
          · cases h
    · next hk =>
      obtain ⟨⟨inner, more⟩, hinner, h⟩ := exists_of_bind_eq_ok h
      obtain ⟨rest', hclose, h⟩ := exists_of_bind_eq_ok h
      cases h
      obtain ⟨c, hc, rfl⟩ := closing_eq_ok hclose
      rw [level_expression] at hinner
      obtain ⟨d, ⟨us, rfl, hus, rfl⟩, hcost⟩ := sound_below hexpr hinner
      refine ⟨.bracketed d, ⟨t :: (us ++ [c]), by simp, ?_, rfl⟩, hcost⟩
      simp [Derivation.row, hk, hc, hus]
    · cases h

lemma sound_power {r : Nat} (hexpr : ∀ r' < r, SoundAt .expression r')
    (hunary : ∀ r' < r, SoundAt .unary r') : SoundAt .power r := by
  intro ts e rest h
  rw [Phrase.read, power] at h
  obtain ⟨⟨base, more⟩, hbase, h⟩ := exists_of_bind_eq_ok h
  obtain ⟨d, ⟨us, rfl, hus, rfl⟩, hcost⟩ := sound_primary hexpr _ _ _ hbase
  cases more with
  | nil =>
    cases h
    exact ⟨.plain d, ⟨us, rfl, hus, rfl⟩, hcost⟩
  | cons t more =>
    dsimp only at h
    split at h
    · next ht =>
      obtain ⟨⟨exponent, rest'⟩, hexp, h⟩ := exists_of_bind_eq_ok h
      cases h
      rw [level_unary] at hexp
      obtain ⟨d', ⟨vs, rfl, hvs, rfl⟩, hcost'⟩ := sound_below hunary hexp
      refine ⟨.raised d d', ⟨us ++ t :: vs, by simp, ?_, rfl⟩, Nat.max_le.mpr ⟨hcost, hcost'⟩⟩
      simp [Derivation.row, hus, hvs, ht]
    · cases h
      exact ⟨.plain d, ⟨us, rfl, hus, rfl⟩, hcost⟩

lemma signOp?_eq_some {k : TokenKind} {op : UnaryOp} (h : signOp? k = some op) :
    k = .mark op.mark := by
  rcases k with _ | _ | m | _ <;> (try cases m) <;> cases h <;> rfl

lemma sound_unary {r : Nat} (hexpr : ∀ r' < r, SoundAt .expression r')
    (hunary : ∀ r' < r, SoundAt .unary r') : SoundAt .unary r := by
  intro ts e rest h
  have hpower : Phrase.power.read r ts = .ok (e, rest) →
      ∃ d : Derivation .unary, d.Reads ts e rest ∧ d.cost ≤ r := by
    intro h
    obtain ⟨d, hd, hcost⟩ := sound_power hexpr hunary _ _ _ h
    exact ⟨.unsigned d, hd, hcost⟩
  cases ts with
  | nil => exact hpower h
  | cons t ts =>
    rw [Phrase.read, unary] at h
    split at h
    · next op hop =>
      obtain ⟨⟨argument, rest'⟩, harg, h⟩ := exists_of_bind_eq_ok h
      cases h
      rw [level_unary] at harg
      obtain ⟨d, ⟨us, rfl, hus, rfl⟩, hcost⟩ := sound_below hunary harg
      refine ⟨.signed op d, ⟨t :: us, rfl, ?_, rfl⟩, hcost⟩
      simp [Derivation.row, hus, signOp?_eq_some hop]
    · exact hpower h

theorem sound (r : Nat) : SoundAt .unary r ∧ SoundAt .expression r := by
  -- Signs, exponents, brackets and calls lead to a lower level, operands of a chain to the same one.
  induction r using Nat.strongRecOn with
  | _ r ih =>
    have hexpr : ∀ r' < r, SoundAt .expression r' := fun r' h => (ih r' h).2
    have hunary : ∀ r' ≤ r, SoundAt .unary r' := by
      intro r' h
      rcases Nat.lt_or_eq_of_le h with h | rfl
      · exact (ih r' h).1
      · exact sound_unary hexpr (fun r'' h => (ih r'' h).1)
    have hterm : ∀ r' ≤ r, SoundAt .term r' := fun r' h =>
      sound_whole .products r' (fun r'' h' => hunary r'' (Nat.le_trans h' h))
    exact ⟨hunary r (Nat.le_refl r), sound_whole .sums r hterm⟩

end PolarCurve.Grammar
