import PolarCurve.Proofs.Formula.Moved
import PolarCurve.Proofs.Token.Spacing

namespace PolarCurve

def CompileError.AtSameToken (ts us : List Token) (e f : CompileError) : Prop :=
  ∃ (fault : ParseFault) (i : Nat) (t u : Token), ts[i]? = some t ∧ us[i]? = some u ∧
    e = .parse ⟨fault, t.position⟩ ∧ f = .parse ⟨fault, u.position⟩

namespace Spaced

lemma ended_row (start : Location) (s : Spaced) : Grammar.Ended (s.row start) :=
  ⟨_, List.mem_append_right _ (List.mem_singleton_self _), rfl⟩

lemma kinds_row (start : Location) (s : Spaced) :
    (s.row start).map (fun t => (t.kind, t.lexeme)) =
      s.lexemes.map (fun l => (l.kind, String.ofList l.text)) ++ [(.ending, "")] := by
  rw [row, List.map_append, kinds_tokens, lexemes, List.map_map]
  rfl

lemma rowAligned {s s' : Spaced} (h : s'.lexemes = s.lexemes) (start start' : Location) :
    Grammar.RowAligned (Grammar.SameToken (s.row start) (s'.row start')) (s.row start)
      (s'.row start') := by
  apply Grammar.rowAligned_sameToken _ (s.ended_row start)
  rw [kinds_row, kinds_row, h]

end Spaced

namespace Formula

lemma read_of_lex {place : Location} {body : List Char} {ts : List Token}
    (h : Token.lex place body = .ok ts) : read place body = (Expr.ofTokens ts).mapError .parse := by
  rw [read, h]
  rfl

lemma read_respaced {s s' : Spaced} (start start' : Location) (hs : s.Apart) (hs' : s'.Apart)
    (h : s'.lexemes = s.lexemes) :
    Alike (CompileError.AtSameToken (s.row start) (s'.row start')) (· = ·) (read start s.text)
      (read start' s'.text) := by
  rw [read_of_lex ((Spaced.lex_text_iff start s).mpr hs),
    read_of_lex ((Spaced.lex_text_iff start' s').mpr hs')]
  apply (Expr.ofTokens_aligned (Spaced.rowAligned h start start')).mapError
  rintro ⟨fault, p⟩ ⟨fault', q⟩ ⟨hfault, i, t, u, ht, hu, hp, hq⟩
  dsimp only at hfault hp hq
  subst hfault hp hq
  exact ⟨fault', i, t, u, ht, hu, rfl, rfl⟩

theorem read_spaced (s : Spaced) (start : Location) :
    (Token.lex start s.text = .ok (s.row start) ↔ s.Apart) ∧
      (s.row start).map (fun t => (t.kind, t.lexeme)) =
        s.lexemes.map (fun l => (l.kind, String.ofList l.text)) ++ [(.ending, "")] ∧
      (s.row start).map Token.position = Spaced.offsets start.offset s.last s.parts ∧
      ∀ (s' : Spaced) (start' : Location), s.Apart → s'.Apart → s'.lexemes = s.lexemes →
        Alike (CompileError.AtSameToken (s.row start) (s'.row start')) (· = ·)
          (read start s.text) (read start' s'.text) :=
  ⟨s.lex_text_iff start, s.kinds_row start, s.positions_row start,
    fun _ start' hs hs' h => read_respaced start start' hs hs' h⟩

theorem read_spaced_scientific :
    let one : Lexeme := .number ['1'] (by simp; rfl) (by simp) (by simp)
    let e5 : Lexeme := .name 'e' ['5'] rfl (by simp; rfl)
    let touching : Gap := ⟨[], by simp⟩
    let tight : Spaced := ⟨[(touching, one), (touching, e5)], touching⟩
    let loose : Spaced :=
      ⟨[(touching, one), (⟨" \r\n".toList, by simp; decide⟩, e5)], ⟨['\t'], by simp; rfl⟩⟩
    tight.text = "1e5".toList ∧ loose.text = "1 \r\ne5\t".toList ∧
      tight.Apart ∧ loose.Apart ∧ loose.lexemes = tight.lexemes ∧
      Token.lex Location.start "1e5".toList = .ok (tight.row Location.start) ∧
      read Location.start "1e5".toList = .error (.parse ⟨.trailing, 1⟩) ∧
      ∃ f, read Location.start "1 \r\ne5\t".toList = .error f ∧
        CompileError.AtSameToken (tight.row Location.start) (loose.row Location.start)
          (.parse ⟨.trailing, 1⟩) f := by
  intro one e5 touching tight loose
  have htight : tight.text = "1e5".toList := rfl
  have hloose : loose.text = "1 \r\ne5\t".toList := rfl
  have hapart : tight.Apart := by simp [Spaced.Apart, tight, one, e5, Lexeme.Fuses]
  have hapart' : loose.Apart := by simp [Spaced.Apart, loose, one, e5, Lexeme.Fuses]
  have hlex := (read_spaced tight Location.start).1.mpr hapart
  have hread : read Location.start tight.text = .error (.parse ⟨.trailing, 1⟩) := by
    rw [read_of_lex hlex]
    rfl
  have halike := (read_spaced tight Location.start).2.2.2 loose Location.start hapart hapart' rfl
  rw [hread] at halike
  refine ⟨htight, hloose, hapart, hapart', rfl, hlex, hread, ?_⟩
  rw [← hloose]
  generalize read Location.start loose.text = x at halike ⊢
  cases halike with
  | error h => exact ⟨_, rfl, h⟩

end Formula

end PolarCurve
