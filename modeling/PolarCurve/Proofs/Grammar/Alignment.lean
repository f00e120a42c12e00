import PolarCurve.Proofs.Grammar.Acceptance
import PolarCurve.Proofs.Grammar.Extent
import PolarCurve.Proofs.Token.Moved

/-! On rows of the same tokens at other places a reader takes the same steps. -/

namespace PolarCurve

structure Token.Aligned (places : Nat → Nat → Prop) (t u : Token) : Prop where
  kind : u.kind = t.kind
  lexeme : u.lexeme = t.lexeme
  place : places t.position u.position

structure ParseError.Aligned (places : Nat → Nat → Prop) (e f : ParseError) : Prop where
  fault : f.fault = e.fault
  place : places e.position f.position

namespace Grammar

variable {places : Nat → Nat → Prop} {α β : Type}

structure RowAligned (places : Nat → Nat → Prop) (ts us : List Token) : Prop where
  tokens : List.Forall₂ (Token.Aligned places) ts us
  ended : Ended ts

abbrev Outcome (places : Nat → Nat → Prop) (values : α → α → Prop) :
    Except Rejection α → Except Rejection α → Prop :=
  Alike (fun r s => r.error.Aligned places s.error) values

def ReadAligned (places : Nat → Nat → Prop) (x y : α × List Token) : Prop :=
  x.1 = y.1 ∧ RowAligned places x.2 y.2

/-- Positions of tokens that stand at the same index of two rows. -/
def SameToken (ts us : List Token) (p q : Nat) : Prop :=
  ∃ (i : Nat) (t u : Token), ts[i]? = some t ∧ us[i]? = some u ∧ p = t.position ∧ q = u.position

lemma rowAligned_sameToken {ts us : List Token}
    (h : us.map (fun t => (t.kind, t.lexeme)) = ts.map fun t => (t.kind, t.lexeme))
    (hended : Ended ts) : RowAligned (SameToken ts us) ts us := by
  have hlength : us.length = ts.length := by simpa using congrArg List.length h
  refine ⟨List.forall₂_iff_get.mpr ⟨hlength.symm, fun i ht hu => ?_⟩, hended⟩
  have hpair : (us[i].kind, us[i].lexeme) = (ts[i].kind, ts[i].lexeme) := by
    simpa [ht, hu] using congrArg (fun ps => ps[i]?) h
  obtain ⟨hkind, hlexeme⟩ := Prod.mk.inj hpair
  exact ⟨hkind, hlexeme, i, ts[i], us[i], List.getElem?_eq_getElem ht, List.getElem?_eq_getElem hu,
    rfl, rfl⟩

lemma RowAligned.exists_cons {ts us : List Token} (h : RowAligned places ts us) :
    ∃ t ts' u us', ts = t :: ts' ∧ us = u :: us' ∧ Token.Aligned places t u ∧
      (t.kind ≠ .ending → RowAligned places ts' us') := by
  obtain ⟨t, ts', rfl⟩ := h.ended.exists_cons
  cases h.tokens with
  | cons htu hrest => exact ⟨t, ts', _, _, rfl, rfl, htu, fun ht => ⟨hrest, h.ended.tail ht⟩⟩

lemma RowAligned.peek? {ts us : List Token} (h : RowAligned places ts us) :
    Row.peek? us = Row.peek? ts := by
  obtain ⟨t, ts', u, us', rfl, rfl, htu, -⟩ := h.exists_cons
  exact congrArg some htu.kind

lemma RowAligned.opensNext {ts us : List Token} (h : RowAligned places ts us) :
    opensNext us = opensNext ts := by
  obtain ⟨t, ts', u, us', rfl, rfl, htu, -⟩ := h.exists_cons
  rw [Grammar.opensNext, Grammar.opensNext, htu.kind]

lemma RowAligned.spent {ts us : List Token} (h : RowAligned places ts us) :
    Row.size us = 0 ↔ Row.size ts = 0 := by
  rw [size_eq_zero_iff, size_eq_zero_iff]
  cases h.tokens with
  | nil => rfl
  | cons htu hrest =>
    cases hrest with
    | nil => simp [htu.kind]
    | cons => simp

lemma RowAligned.position {ts us : List Token} (h : RowAligned places ts us) :
    places (Row.position ts) (Row.position us) := by
  obtain ⟨t, ts', u, us', rfl, rfl, htu, -⟩ := h.exists_cons
  exact htu.place

lemma outcome_unexpected {values : α → α → Prop} {t u : Token} (h : Token.Aligned places t u)
    (ts us : List Token) :
    Outcome places values (Rejection.unexpected (t :: ts)) (Rejection.unexpected (u :: us)) := by
  have hending : u.isEnding = t.isEnding := by rw [Token.isEnding, Token.isEnding, h.kind]
  refine .error ⟨?_, h.place⟩
  simp only [Row.describeNext, hending, h.lexeme]

lemma outcome_raise {values : α → α → Prop} {t u : Token} (h : Token.Aligned places t u)
    (fault : ParseFault) :
    Outcome places values (Rejection.raise fault t.position)
      (Rejection.raise fault u.position) :=
  .error ⟨rfl, h.place⟩

lemma outcome_tooDeep {values : α → α → Prop} {ts us : List Token} (h : RowAligned places ts us) :
    Outcome places values (Rejection.tooDeep ts) (Rejection.tooDeep us) := by
  obtain ⟨t, ts', u, us', rfl, rfl, htu, -⟩ := h.exists_cons
  exact outcome_raise htu _

lemma outcome_confirm {values : α → α → Prop} {x y : Except Rejection α}
    (h : Outcome places values x y) :
    Outcome places values (Rejection.confirm x) (Rejection.confirm y) := by
  cases h with
  | ok h => exact .ok h
  | error h => exact .error h

lemma read_bind {values : β → β → Prop} {x y : Except Rejection (α × List Token)}
    (h : Outcome places (ReadAligned places) x y) {f g : α × List Token → Except Rejection β}
    (hfg : ∀ a ts us, RowAligned places ts us → Outcome places values (f (a, ts)) (g (a, us))) :
    Outcome places values (x >>= f) (y >>= g) := by
  apply h.bind
  rintro ⟨a, ts⟩ ⟨b, us⟩ ⟨heq, hts⟩
  cases heq
  exact hfg a ts us hts

lemma closing_aligned {ts us : List Token} (h : RowAligned places ts us) :
    Outcome places (RowAligned places) (closing ts) (closing us) := by
  obtain ⟨t, ts', u, us', rfl, rfl, htu, hrest⟩ := h.exists_cons
  rw [closing, closing, htu.kind]
  split
  · next ht => exact .ok (hrest (by simp [ht]))
  · exact outcome_raise htu _

lemma opening_aligned {ts us : List Token} (h : RowAligned places ts us) :
    Outcome places (RowAligned places) (opening ts) (opening us) := by
  obtain ⟨t, ts', u, us', rfl, rfl, htu, hrest⟩ := h.exists_cons
  rw [opening, opening, htu.kind]
  split
  · next ht => exact .ok (hrest (by simp [ht]))
  · exact outcome_unexpected htu _ _

def Steady (places : Nat → Nat → Prop) (read : List Token → Except Rejection (α × List Token)) :
    Prop :=
  ∀ ts us, RowAligned places ts us → Outcome places (ReadAligned places) (read ts) (read us)

def SteadyBefore (places : Nat → Nat → Prop) (more : BinaryOp → Expr → Reader) : Prop :=
  ∀ op left ts us, RowAligned places ts us → (∀ t ∈ ts.head?, t.kind ≠ .ending) →
    Outcome places (ReadAligned places) (more op left ts) (more op left us)

structure Level.Aligns (places : Nat → Nat → Prop) (l : Level) : Prop where
  expression : Steady places l.expression
  term : Steady places l.term
  unary : Steady places l.unary
  moreTerms : SteadyBefore places l.moreTerms
  moreFactors : SteadyBefore places l.moreFactors

lemma steady_chain (kind : ChainKind) {more : BinaryOp → Expr → Reader}
    (hmore : SteadyBefore places more) (left : Expr) :
    Steady places (chain kind.op? more left) := by
  intro ts us h
  obtain ⟨t, ts', u, us', rfl, rfl, htu, -⟩ := h.exists_cons
  rw [chain, chain, htu.kind]
  split
  · next op hop =>
    apply hmore op left _ _ h
    obtain ⟨-, ht⟩ := ChainKind.op?_eq_some_iff.mp hop
    simp [ht]
  · exact .ok ⟨rfl, h⟩

lemma steady_whole (kind : ChainKind) {operand : Reader} (hoperand : Steady places operand)
    {more : BinaryOp → Expr → Reader} (hmore : SteadyBefore places more) :
    Steady places (fun ts => do
      let (left, rest) ← operand ts
      chain kind.op? more left rest) := by
  intro ts us h
  refine read_bind (hoperand ts us h) fun left rest rest' hrest => ?_
  exact steady_chain kind hmore left _ _ hrest

lemma steady_next (kind : ChainKind) {operand : Reader} (hoperand : Steady places operand)
    {more : BinaryOp → Expr → Reader} (hmore : SteadyBefore places more) :
    SteadyBefore places (fun op left ts => do
      let (right, rest) ← operand ts.tail
      chain kind.op? more (.binary op left right) rest) := by
  intro op left ts us h hhead
  obtain ⟨t, ts', u, us', rfl, rfl, -, htail⟩ := h.exists_cons
  refine read_bind (hoperand _ _ (htail (hhead t rfl))) fun right rest rest' hrest => ?_
  exact steady_chain kind hmore _ _ _ hrest

lemma steady_separated {item : Reader} (hitem : Steady places item) (bound : Nat) :
    Steady places (separated item bound) := by
  induction bound with
  | zero =>
    intro ts us h
    obtain ⟨t, ts', u, us', rfl, rfl, htu, -⟩ := h.exists_cons
    exact outcome_unexpected htu _ _
  | succ bound ih =>
    intro ts us h
    rw [separated, separated]
    refine read_bind (outcome_confirm (hitem ts us h)) fun e rest rest' hrest => ?_
    obtain ⟨t, more, u, more', rfl, rfl, htu, hmore⟩ := hrest.exists_cons
    dsimp only
    rw [htu.kind]
    split
    · next ht =>
      refine read_bind (ih more more' (hmore (by simp [ht]))) fun es rest rest' hrest => ?_
      exact .ok ⟨rfl, hrest⟩
    · exact .ok ⟨rfl, hrest⟩

section Below

variable {below : Level} (h : below.Aligns places)

include h

lemma steady_arguments : Steady places (arguments below) := by
  intro ts us hts
  rw [arguments, arguments, hts.peek?, hts.tokens.length_eq]
  split
  · exact outcome_tooDeep hts
  · split
    · exact .ok ⟨rfl, hts⟩
    · exact steady_separated h.expression _ ts us hts

lemma steady_call : Steady places (call below) := by
  intro ts us hts
  obtain ⟨t, ts', u, us', rfl, rfl, htu, hrest⟩ := hts.exists_cons
  rw [call, call, htu.kind]
  split
  · next name ht =>
    split
    · exact outcome_raise htu _
    · refine (opening_aligned (hrest (by simp [ht]))).bind fun ts us hts => ?_
      refine read_bind (steady_arguments h ts us hts) fun args rest rest' hrest => ?_
      refine (closing_aligned hrest).bind fun ts us hts => ?_
      split
      · exact outcome_raise htu _
      · exact .ok ⟨rfl, hts⟩
  · exact outcome_unexpected htu _ _

lemma steady_primary : Steady places (primary below) := by
  intro ts us hts
  obtain ⟨t, ts', u, us', rfl, rfl, htu, hrest⟩ := hts.exists_cons
  rw [primary, primary, htu.kind]
  split
  · next value ht => exact .ok ⟨rfl, hrest (by simp [ht])⟩
  · next name ht =>
    have hrest : RowAligned places ts' us' := hrest (by simp [ht])
    rw [hrest.opensNext]
    split
    · exact steady_call h _ _ hts
    · split
      · exact .ok ⟨rfl, hrest⟩
      · split
        · exact .ok ⟨rfl, hrest⟩
        · exact outcome_raise htu _
  · next ht =>
    refine read_bind (h.expression _ _ (hrest (by simp [ht]))) fun e rest rest' hrest => ?_
    exact (closing_aligned hrest).bind fun ts us hts => .ok ⟨rfl, hts⟩
  · exact outcome_unexpected htu _ _

lemma steady_power : Steady places (power below) := by
  intro ts us hts
  rw [power, power]
  refine read_bind (steady_primary h ts us hts) fun base rest rest' hrest => ?_
  obtain ⟨t, more, u, more', rfl, rfl, htu, hmore⟩ := hrest.exists_cons
  dsimp only
  rw [htu.kind]
  split
  · next ht =>
    refine read_bind (h.unary _ _ (hmore (by simp [ht]))) fun e rest rest' hrest => ?_
    exact .ok ⟨rfl, hrest⟩
  · exact .ok ⟨rfl, hrest⟩

lemma steady_unary : Steady places (unary below) := by
  intro ts us hts
  obtain ⟨t, ts', u, us', rfl, rfl, htu, hrest⟩ := hts.exists_cons
  rw [unary, unary, htu.kind]
  split
  · next op hop =>
    have ht : t.kind = .mark op.mark := signOp?_eq_some hop
    refine read_bind (h.unary _ _ (hrest (by simp [ht]))) fun e rest rest' hrest => ?_
    exact .ok ⟨rfl, hrest⟩
  · exact steady_power h _ _ hts

lemma steady_term : Steady places (term below) :=
  steady_whole .products (steady_unary h) h.moreFactors

end Below

theorem level_aligns (places : Nat → Nat → Prop) (r : Nat) : (level r).Aligns places := by
  induction r with
  | zero =>
    constructor
    · exact fun _ _ h => outcome_tooDeep h
    · exact fun _ _ h => outcome_tooDeep h
    · exact fun _ _ h => outcome_tooDeep h
    · exact fun _ _ _ _ h _ => outcome_tooDeep h
    · exact fun _ _ _ _ h _ => outcome_tooDeep h
  | succ r ih =>
    constructor
    · exact steady_whole .sums (steady_term ih) ih.moreTerms
    · exact steady_term ih
    · exact steady_unary ih
    · exact steady_next .sums (steady_term ih) ih.moreTerms
    · exact steady_next .products (steady_unary ih) ih.moreFactors

end Grammar

namespace Expr

open Grammar

theorem ofTokens_aligned {places : Nat → Nat → Prop} {ts us : List Token}
    (h : RowAligned places ts us) :
    Alike (ParseError.Aligned places) (· = ·) (ofTokens ts) (ofTokens us) := by
  have hread : Outcome places (ReadAligned places) (Production.expression.read 0 ts)
      (Production.expression.read 0 us) :=
    (level_aligns places (maxNesting + 1)).expression ts us h
  rw [ofTokens, ofTokens]
  generalize Production.expression.read 0 ts = x, Production.expression.read 0 us = y at hread ⊢
  cases hread with
  | error hr => exact .error hr
  | @ok x y hxy =>
    obtain ⟨e, rest⟩ := x
    obtain ⟨e', rest'⟩ := y
    obtain ⟨rfl, hrest⟩ := hxy
    dsimp only
    by_cases hspent : Row.size rest = 0
    · rw [if_neg (by simp [hspent]), if_neg (by simp [hrest.spent, hspent])]
      exact .ok rfl
    · rw [if_pos hspent, if_pos (hrest.spent.not.mpr hspent)]
      exact .error ⟨rfl, hrest.position⟩

end Expr

end PolarCurve
