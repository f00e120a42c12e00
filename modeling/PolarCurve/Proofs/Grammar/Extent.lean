import PolarCurve.Proofs.Grammar.Soundness

namespace PolarCurve.Grammar

def Ended (ts : List Token) : Prop := ∃ t ∈ ts, t.kind = .ending

lemma Ended.exists_cons {ts : List Token} (h : Ended ts) : ∃ t us, ts = t :: us := by
  obtain ⟨t, ht, -⟩ := h
  exact List.exists_cons_of_ne_nil (List.ne_nil_of_mem ht)

lemma Ended.of_append {us vs : List Token} (h : Ended (us ++ vs))
    (hus : TokenKind.ending ∉ us.map Token.kind) : Ended vs := by
  obtain ⟨t, ht, hk⟩ := h
  rcases List.mem_append.mp ht with ht | ht
  · exact (hus (hk ▸ List.mem_map_of_mem ht)).elim
  · exact ⟨t, ht, hk⟩

lemma Ended.tail {t : Token} {ts : List Token} (h : Ended (t :: ts)) (ht : t.kind ≠ .ending) :
    Ended ts := by
  rw [← List.singleton_append] at h
  apply h.of_append
  simpa using ht.symm

/-- No operator comes next that the phrase goes on with. A parenthesis may come next all the same,
behind a number. -/
def Phrase.Halts (p : Phrase) (rest : List Token) : Prop :=
  ∀ m ∈ p.extenders, m ≠ .left → Row.peek? rest ≠ some (.mark m)

lemma halts_nil (p : Phrase) : p.Halts [] := by
  intro m _ _ h
  cases h

lemma halts_primary (rest : List Token) : Phrase.primary.Halts rest := by
  intro m hm hne
  exact (hne (List.mem_singleton.mp hm)).elim

lemma halts_power {rest : List Token} (h : Row.peek? rest ≠ some (.mark .caret)) :
    Phrase.power.Halts rest := by
  intro m hm hne
  have hm : m = .left ∨ m = .caret := by simpa [Phrase.extenders] using hm
  rcases hm with rfl | rfl
  · exact (hne rfl).elim
  · exact h

lemma halts_whole {kind : ChainKind} {rest : List Token} (hoperand : kind.operand.Halts rest)
    (hlink : ∀ op, kind.Links op → Row.peek? rest ≠ some (.mark op.mark)) :
    (Phrase.whole kind).Halts rest := by
  intro m hm hne
  have hcases : m ∈ kind.operand.extenders ∨ ∃ op, kind.Links op ∧ op.mark = m := by
    cases kind with
    | sums =>
      have hm : m ∈ Phrase.term.extenders ∨ m = .plus ∨ m = .minus := by
        simpa [Phrase.extenders, or_assoc] using hm
      rcases hm with hm | rfl | rfl
      · exact Or.inl hm
      · exact Or.inr ⟨.add, Or.inl rfl, rfl⟩
      · exact Or.inr ⟨.sub, Or.inr rfl, rfl⟩
    | products =>
      have hm : m ∈ Phrase.unary.extenders ∨ m = .star ∨ m = .slash := by
        simpa [Phrase.extenders, or_assoc] using hm
      rcases hm with hm | rfl | rfl
      · exact Or.inl hm
      · exact Or.inr ⟨.mul, Or.inl rfl, rfl⟩
      · exact Or.inr ⟨.div, Or.inr rfl, rfl⟩
  rcases hcases with hm | ⟨op, hl, rfl⟩
  · exact hoperand m hm hne
  · exact hlink op hl

lemma chain_cases {kind : ChainKind} (more : BinaryOp → Expr → Reader) (left : Expr)
    (ts : List Token) :
    (chain kind.op? more left ts = .ok (left, ts) ∧
        ∀ op, kind.Links op → Row.peek? ts ≠ some (.mark op.mark)) ∨
      ∃ op t us, ts = t :: us ∧ kind.Links op ∧ t.kind = .mark op.mark ∧
        chain kind.op? more left ts = more op left ts := by
  by_cases hlink : ∃ op, kind.Links op ∧ Row.peek? ts = some (.mark op.mark)
  · obtain ⟨op, hl, hpeek⟩ := hlink
    cases ts with
    | nil => cases hpeek
    | cons t us =>
      have ht : t.kind = .mark op.mark := by simpa [Row.peek?] using hpeek
      exact Or.inr ⟨op, t, us, rfl, hl, ht, chain_of_link hl more left ht us⟩
  · have hstop : ∀ op, kind.Links op → Row.peek? ts ≠ some (.mark op.mark) :=
      fun op hl hpeek => hlink ⟨op, hl, hpeek⟩
    exact Or.inl ⟨chain_of_stop hstop more left, hstop⟩

def HaltsAt (p : Phrase) (r : Nat) : Prop :=
  ∀ ts e rest, p.read r ts = .ok (e, rest) → p.Halts rest

lemma chain_halts (kind : ChainKind) (r : Nat) (hop : ∀ r' < r, HaltsAt kind.operand r')
    (left : Expr) {ts : List Token} (hts : kind.operand.Halts ts) {e : Expr} {rest : List Token}
    (h : chain kind.op? (kind.more (level r)) left ts = .ok (e, rest)) :
    (Phrase.whole kind).Halts rest := by
  induction r generalizing left ts with
  | zero =>
    rcases chain_cases (kind.more (level 0)) left ts with ⟨heq, hstop⟩ | ⟨op, t, us, -, -, -, heq⟩
    · rw [heq] at h
      cases h
      exact halts_whole hts hstop
    · rw [heq] at h
      cases kind <;> cases h
  | succ r ih =>
    rcases chain_cases (kind.more (level (r + 1))) left ts with
      ⟨heq, hstop⟩ | ⟨op, t, us, rfl, -, -, heq⟩
    · rw [heq] at h
      cases h
      exact halts_whole hts hstop
    · rw [heq, kind.more_succ, List.tail_cons] at h
      obtain ⟨⟨right, more⟩, hright, hmore⟩ := exists_of_bind_eq_ok h
      have hnext : kind.operand.Halts more := hop r (Nat.lt_succ_self r) _ _ _ hright
      exact ih (fun r' hr' => hop r' (by omega)) _ hnext hmore

lemma whole_halts (kind : ChainKind) (r : Nat) (hop : ∀ r' ≤ r, HaltsAt kind.operand r') :
    HaltsAt (.whole kind) r := by
  intro ts e rest h
  rw [Phrase.read, kind.read_eq] at h
  obtain ⟨⟨left, more⟩, hfirst, hmore⟩ := exists_of_bind_eq_ok h
  have hleft : kind.operand.Halts more := hop r (Nat.le_refl r) _ _ _ hfirst
  exact chain_halts kind r (fun r' hr' => hop r' (Nat.le_of_lt hr')) left hleft hmore

lemma halts_below {p : Phrase} {r : Nat} (h : ∀ r' < r, HaltsAt p r') {ts : List Token} {e : Expr}
    {rest : List Token} (hr : p.readBelow r ts = .ok (e, rest)) : p.Halts rest := by
  cases r with
  | zero => cases hr
  | succ r => exact h r (Nat.lt_succ_self r) _ _ _ hr

lemma power_halts {r : Nat} (hunary : ∀ r' < r, HaltsAt .unary r') : HaltsAt .power r := by
  intro ts e rest h
  rw [Phrase.read, power] at h
  obtain ⟨⟨base, more⟩, -, h⟩ := exists_of_bind_eq_ok h
  cases more with
  | nil =>
    cases h
    exact halts_nil _
  | cons t more =>
    dsimp only at h
    split at h
    · obtain ⟨⟨exponent, rest'⟩, hexponent, h⟩ := exists_of_bind_eq_ok h
      cases h
      rw [level_unary] at hexponent
      exact halts_below hunary hexponent
    · next ht =>
      cases h
      apply halts_power
      simpa [Row.peek?] using ht

lemma unary_halts {r : Nat} (hunary : ∀ r' < r, HaltsAt .unary r') : HaltsAt .unary r := by
  intro ts e rest h
  cases ts with
  | nil => exact power_halts hunary _ _ _ h
  | cons t ts =>
    rw [Phrase.read, unary] at h
    split at h
    · obtain ⟨⟨argument, rest'⟩, hargument, h⟩ := exists_of_bind_eq_ok h
      cases h
      rw [level_unary] at hargument
      exact halts_below hunary hargument
    · exact power_halts hunary _ _ _ h

theorem halts_unary (r : Nat) : HaltsAt .unary r := by
  induction r using Nat.strongRecOn with
  | _ r ih => exact unary_halts ih

theorem halts_operand (kind : ChainKind) (r : Nat) : HaltsAt kind.operand r := by
  cases kind with
  | sums => exact whole_halts .products r fun r' _ => halts_unary r'
  | products => exact halts_unary r

theorem sound_operand (kind : ChainKind) (r : Nat) : SoundAt kind.operand r := by
  cases kind with
  | sums => exact sound_whole .products r fun r' _ => (sound r').1
  | products => exact (sound r).1

def Phrase.Takes (p : Phrase) (ts rest : List Token) : Prop :=
  ∃ (d : Derivation p) (us : List Token), ts = us ++ rest ∧ us.map Token.kind = d.row ∧ p.Halts rest

lemma Phrase.Takes.ended {p : Phrase} {ts rest : List Token} (h : p.Takes ts rest)
    (hts : Ended ts) : Ended rest := by
  obtain ⟨d, us, rfl, hus, -⟩ := h
  exact hts.of_append (hus ▸ d.ending_not_mem_row)

lemma takes_of_sound {p : Phrase} {r : Nat} (hs : SoundAt p r) (hh : HaltsAt p r) {ts : List Token}
    {e : Expr} {rest : List Token} (h : p.read r ts = .ok (e, rest)) : p.Takes ts rest := by
  obtain ⟨d, ⟨us, hts, hus, -⟩, -⟩ := hs _ _ _ h
  exact ⟨d, us, hts, hus, hh _ _ _ h⟩

section Takes

variable {r : Nat} {ts rest : List Token} {e : Expr}

lemma takes_operand (kind : ChainKind) (h : kind.operand.read r ts = .ok (e, rest)) :
    kind.operand.Takes ts rest :=
  takes_of_sound (sound_operand kind r) (halts_operand kind r) h

lemma takes_expression (h : Phrase.expression.read r ts = .ok (e, rest)) :
    Phrase.expression.Takes ts rest :=
  takes_of_sound (sound r).2 (whole_halts .sums r fun r' _ => halts_operand .sums r') h

lemma takes_primary (h : Phrase.primary.read r ts = .ok (e, rest)) :
    Phrase.primary.Takes ts rest :=
  takes_of_sound (sound_primary fun r' _ => (sound r').2) (fun _ _ _ _ => halts_primary _) h

lemma takes_below {p : Phrase} (hp : ∀ {r' ts e rest}, p.read r' ts = .ok (e, rest) → p.Takes ts rest)
    (h : p.readBelow r ts = .ok (e, rest)) : p.Takes ts rest := by
  cases r with
  | zero => cases h
  | succ r => exact hp h

lemma takes_expression_below (h : (level r).expression ts = .ok (e, rest)) :
    Phrase.expression.Takes ts rest := by
  rw [level_expression] at h
  exact takes_below takes_expression h

end Takes

end PolarCurve.Grammar
