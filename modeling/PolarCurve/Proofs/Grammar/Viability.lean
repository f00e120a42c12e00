import PolarCurve.Proofs.Grammar.Acceptance
import PolarCurve.Proofs.Grammar.Fault

/-! What stands before the token at fault begins some formula, and together with it begins none. -/

namespace PolarCurve.Grammar

open Outlook

lemma viable_of_append {ks ls : List TokenKind} (h : Sentence .expression (ks ++ ls)) :
    Viable ks := by
  refine ⟨ks ++ ls, h, ls ++ [.ending], ?_⟩
  rw [List.append_assoc]

lemma not_viable_of_run {ks : List TokenKind} (h : run ⟨.operand, []⟩ ks = none) : ¬ Viable ks :=
  fun hviable => hviable.run_ne_none h

def BlamedAt (ks tail : List TokenKind) : Prop := Viable ks ∧ ¬ Viable (ks ++ tail)

lemma Stuck.blamedAt {ks tail : List TokenKind} (h : Stuck .expression ks tail) :
    BlamedAt ks tail := by
  obtain ⟨⟨ls, hls⟩, hblocked⟩ := h
  exact ⟨viable_of_append hls, not_viable_of_run (hblocked [])⟩

lemma blamedAt_of_takes {us vs : List Token} {t : Token} (d : Derivation .expression)
    (hus : us.map Token.kind = d.row) (hhalts : Phrase.expression.Halts (t :: vs))
    (ht : t.kind ≠ .ending) : BlamedAt (us.map Token.kind) [t.kind] := by
  have hviable : Viable (us.map Token.kind) := by
    have hsentence : Sentence .expression (us.map Token.kind ++ []) := by
      simpa [hus] using d.sentence
    exact viable_of_append hsentence
  refine ⟨hviable, ?_⟩
  by_cases hright : t.kind = .mark .right
  · apply not_viable_of_run
    rw [hus, d.sentence.spans.run_operand, hright]
    rfl
  · have hnone : proceed [] t.kind = none :=
      proceed_eq_none hhalts hright (by simp) fun hending => (ht hending).elim
    apply not_viable_of_run
    rw [hus, d.sentence.spans.run_operand, run_cons, step, hnone]
    rfl

section Row

variable {body : List Token} {last : Token} (hbody : ∀ t ∈ body, t.kind ≠ .ending)

include hbody

lemma eq_nil_of_ending {us vs : List Token} {t : Token} (h : body ++ [last] = us ++ t :: vs)
    (ht : t.kind = .ending) : vs = [] := by
  rcases List.eq_nil_or_concat vs with rfl | ⟨ws, u, rfl⟩
  · rfl
  · rw [List.concat_eq_append, ← List.cons_append, ← List.append_assoc] at h
    obtain ⟨rfl, -⟩ := List.append_inj' h rfl
    exact (hbody t (by simp) ht).elim

variable (hlast : last.kind = .ending)

include hlast

theorem exists_blames_of_ofTokens {error : ParseError}
    (h : Expr.ofTokens (body ++ [last]) = .error error) :
    ∃ us t vs, body ++ [last] = us ++ t :: vs ∧ error.position = t.position ∧
      Blames (BlamedAt (us.map Token.kind)) t vs error.fault := by
  have hended : Ended (body ++ [last]) := ⟨last, by simp, hlast⟩
  rw [Expr.ofTokens, read_expression] at h
  cases hread : Phrase.expression.read maxNesting (body ++ [last]) with
  | error r =>
    rw [hread] at h
    cases h
    obtain ⟨us, t, vs, heq, hposition, hblames⟩ := (explained maxNesting).2 _ _ hended hread
    exact ⟨us, t, vs, heq, hposition, hblames.mono fun tail _ _ hstuck => hstuck.blamedAt⟩
  | ok x =>
    obtain ⟨e, rest⟩ := x
    simp only [hread] at h
    split at h
    · next hsize =>
      cases h
      have htakes := takes_expression hread
      obtain ⟨t, vs, rfl⟩ := (htakes.ended hended).exists_cons
      obtain ⟨d, us, heq, hus, hhalts⟩ := htakes
      have ht : t.kind ≠ .ending := by
        intro ht
        obtain rfl := eq_nil_of_ending hbody heq ht
        exact hsize (size_eq_zero_iff.mpr (Or.inr ⟨t, ht, rfl⟩))
      exact ⟨us, t, vs, heq, rfl, .trailing ht (blamedAt_of_takes d hus hhalts ht)⟩
    · cases h

theorem first_fault_of_ofTokens {error : ParseError}
    (h : Expr.ofTokens (body ++ [last]) = .error error) :
    let ts := body ++ [last]
    let begins (n : Nat) : Prop := Viable ((ts.take n).map Token.kind)
    ((∃ text, error.fault = .unexpected text) ∨ error.fault = .unclosed ∨
        error.fault = .trailing →
      ∃ i t, ts[i]? = some t ∧ t.position = error.position ∧ begins i ∧ ¬ begins (i + 1)) ∧
    ∀ name, error.fault = .unknownName name ∨ error.fault = .call (.unknownFunction name) →
      ∃ i t, ts[i]? = some t ∧ t.position = error.position ∧ t.kind = .name name ∧
        begins i ∧ ¬ begins (i + 2) := by
  intro ts begins
  obtain ⟨fault, position⟩ := error
  obtain ⟨us, t, vs, heq, hposition, hblames⟩ := exists_blames_of_ofTokens hbody hlast h
  have hget : ts[us.length]? = some t := by simp [ts, heq]
  have hbegins : ∀ n, begins (us.length + n) ↔
      Viable (us.map Token.kind ++ ((t :: vs).take n).map Token.kind) := by
    intro n
    simp only [begins, ts, heq, List.take_length_add_append, List.map_append]
  have hbefore : begins us.length ↔ Viable (us.map Token.kind) := by simpa using hbegins 0
  constructor
  · intro hfault
    have hblamed : BlamedAt (us.map Token.kind) [t.kind] := by
      cases hblames with
      | unexpected _ hblamed => exact hblamed
      | unclosed hblamed => exact hblamed
      | trailing _ hblamed => exact hblamed
      | unknownName | unknownFunction | wrongArity | tooDeep => simp at hfault
    exact ⟨us.length, t, hget, hposition.symm, hbefore.mpr hblamed.1, mt (hbegins 1).mp hblamed.2⟩
  · intro name hfault
    have hblamed : t.kind = .name name ∧
        ∃ u, vs.head? = some u ∧ BlamedAt (us.map Token.kind) [t.kind, u.kind] := by
      cases hblames with
      | unknownName names next hblamed =>
        obtain rfl : _ = name := by simpa using hfault
        exact ⟨names, _, next, hblamed⟩
      | unknownFunction names next hblamed =>
        obtain rfl : _ = name := by simpa using hfault
        exact ⟨names, _, next, hblamed⟩
      | unexpected | unclosed | trailing | wrongArity | tooDeep => simp at hfault
    obtain ⟨hname, u, hu, hblamed⟩ := hblamed
    obtain ⟨ws, rfl⟩ := List.head?_eq_some_iff.mp hu
    exact ⟨us.length, t, hget, hposition.symm, hname, hbefore.mpr hblamed.1,
      mt (hbegins 2).mp hblamed.2⟩

end Row

theorem first_fault_of_open_call :
    let token (kind : TokenKind) (lexeme : String) (offset : Nat) : Token :=
      ⟨kind, lexeme, ⟨1, offset + 1, offset⟩⟩
    let body := [token (.name "sin") "sin" 0, token (.mark .left) "(" 3,
      token (.name "theta") "theta" 4, token (.mark .comma) "," 9, token (.mark .right) ")" 10]
    let ts := body ++ [token .ending "" 11]
    (∀ t ∈ body, t.kind ≠ .ending) ∧ Expr.ofTokens ts = .error ⟨.unexpected ")", 10⟩ ∧
      ∃ i t, ts[i]? = some t ∧ t.position = 10 ∧ Viable ((ts.take i).map Token.kind) ∧
        ¬ Viable ((ts.take (i + 1)).map Token.kind) := by
  intro token body ts
  have hbody : ∀ t ∈ body, t.kind ≠ .ending := by simp [body, token]
  have h : Expr.ofTokens ts = .error ⟨.unexpected ")", 10⟩ := rfl
  exact ⟨hbody, h, (first_fault_of_ofTokens hbody rfl h).1 (Or.inl ⟨_, rfl⟩)⟩

end PolarCurve.Grammar
