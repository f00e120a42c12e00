import PolarCurve.Formula
import Mathlib

namespace PolarCurve

open Text

/-- A text that neither begins with a blank or an `r` nor ends with a blank. -/
structure Trimmed (cs : List Char) : Prop where
  first : ∃ c ds, cs = c :: ds ∧ isBlank c = false ∧ c ≠ 'r'
  last : ∃ ds c, cs = ds ++ [c] ∧ isBlank c = false

namespace Trimmed

variable {cs : List Char}

lemma trim_eq (h : Trimmed cs) : trim cs = cs := by
  obtain ⟨c, ds, hcs, hfirst, -⟩ := h.first
  obtain ⟨es, d, hes, hlast⟩ := h.last
  have hstart : trimStart cs = cs := by
    rw [trimStart, hcs, List.dropWhile_cons_of_neg (by simp [hfirst])]
  rw [trim, hstart, trimEnd, hes, List.reverse_append, List.reverse_singleton,
    List.singleton_append, List.dropWhile_cons_of_neg (by simp [hlast])]
  simp

lemma dropRadius_eq (h : Trimmed cs) : Formula.dropRadius cs = cs := by
  obtain ⟨c, ds, rfl, -, hr⟩ := h.first
  rw [Formula.dropRadius]
  all_goals
    intro es h
    exact hr (List.cons.inj h).1

lemma unframe_eq (h : Trimmed cs) : Formula.unframe cs = ([], cs) := by
  obtain ⟨c, ds, hcs, hfirst, -⟩ := h.first
  have hblanks : cs.takeWhile isBlank = [] := by
    rw [hcs, List.takeWhile_cons_of_neg (by simp [hfirst])]
  simp [Formula.unframe, h.trim_eq, h.dropRadius_eq, hblanks]

end Trimmed

namespace Formula

variable {source : String} {ts : List Token}

lemma compile_eq_ok (h : Trimmed source.toList)
    (hlex : Token.lex Location.start source.toList = .ok ts) {e : Expr}
    (hts : Expr.ofTokens ts = .ok e) : compile source = .ok ⟨source, e⟩ := by
  rw [compile, h.unframe_eq]
  simp only [Location.advance, hlex, hts]

lemma compile_eq_error (h : Trimmed source.toList)
    (hlex : Token.lex Location.start source.toList = .ok ts) {error : ParseError}
    (hts : Expr.ofTokens ts = .error error) : compile source = .error (.parse error) := by
  rw [compile, h.unframe_eq]
  simp only [Location.advance, hlex, hts]

lemma tokens_of_compile {f : Formula} (h : compile source = .ok f) :
    ∃ ts, Token.lex (Location.start.advance (unframe source.toList).1) (unframe source.toList).2 =
        .ok ts ∧
      Expr.ofTokens ts = .ok f.tree ∧ f.source = source := by
  rw [compile] at h
  dsimp only at h
  split at h
  · cases h
  · next ts hlex =>
    split at h
    · cases h
    · next tree htree =>
      cases h
      exact ⟨ts, hlex, htree, rfl⟩

lemma refusal_of_compile {error : CompileError} (h : compile source = .error error) :
    (∃ fault, error = .lex fault ∧
      Token.lex (Location.start.advance (unframe source.toList).1) (unframe source.toList).2 =
        .error fault) ∨
    ∃ ts refusal, error = .parse refusal ∧
      Token.lex (Location.start.advance (unframe source.toList).1) (unframe source.toList).2 =
        .ok ts ∧
      Expr.ofTokens ts = .error refusal := by
  rw [compile] at h
  dsimp only at h
  split at h
  · next fault hlex =>
    cases h
    exact Or.inl ⟨fault, rfl, hlex⟩
  · next ts hlex =>
    split at h
    · next refusal hrefusal =>
      cases h
      exact Or.inr ⟨ts, refusal, rfl, hlex, hrefusal⟩
    · cases h

lemma trimmed_theta : Trimmed "theta".toList :=
  ⟨⟨'t', "heta".toList, rfl, by decide, by decide⟩, "thet".toList, 'a', rfl, by decide⟩

lemma lex_theta : Token.lex Location.start "theta".toList =
    .ok [⟨.name "theta", "theta", ⟨1, 1, 0⟩⟩, ⟨.ending, "", ⟨1, 6, 5⟩⟩] := by cbv

lemma compile_theta : compile "theta" = .ok ⟨"theta", .theta⟩ :=
  compile_eq_ok trimmed_theta lex_theta rfl

lemma trimmed_difference : Trimmed "pi-theta".toList :=
  ⟨⟨'p', "i-theta".toList, rfl, by decide, by decide⟩, "pi-thet".toList, 'a', rfl, by decide⟩

lemma lex_difference : Token.lex Location.start "pi-theta".toList =
    .ok [⟨.name "pi", "pi", ⟨1, 1, 0⟩⟩, ⟨.mark .minus, "-", ⟨1, 3, 2⟩⟩,
      ⟨.name "theta", "theta", ⟨1, 4, 3⟩⟩, ⟨.ending, "", ⟨1, 9, 8⟩⟩] := by cbv

lemma compile_difference :
    compile "pi-theta" = .ok ⟨"pi-theta", .binary .sub (.literal Double.pi) .theta⟩ :=
  compile_eq_ok trimmed_difference lex_difference rfl

lemma trimmed_open_sum : Trimmed "theta +".toList :=
  ⟨⟨'t', "heta +".toList, rfl, by decide, by decide⟩, "theta ".toList, '+', rfl, by decide⟩

lemma compile_open_sum : compile "theta +" = .error (.parse ⟨.unexpected "EOF", 7⟩) := by
  have hlex : Token.lex Location.start "theta +".toList = .ok [⟨.name "theta", "theta", ⟨1, 1, 0⟩⟩,
      ⟨.mark .plus, "+", ⟨1, 7, 6⟩⟩, ⟨.ending, "", ⟨1, 8, 7⟩⟩] := by cbv
  exact compile_eq_error trimmed_open_sum hlex rfl

end Formula

end PolarCurve
