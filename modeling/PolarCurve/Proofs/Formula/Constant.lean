import PolarCurve.Proofs.Formula.Reread

namespace PolarCurve

namespace Double

lemma text_of_notANumber {x : Float} (h : infinity < code x) : text x = "NaN" := by
  rw [text, Style.text]
  simp only [h, if_true]
  exact String.ofList_toList

lemma text_of_infinite {x : Float} (h : code x = infinity) :
    text x = if isNegative x then "-inf" else "inf" := by
  rw [text, Style.text]
  simp only [h, Nat.lt_irrefl, if_false, magnitudeText_infinity]
  cases isNegative x <;> rfl

end Double

namespace Formula

lemma source_constant (x : Float) : (constant x).source = (Expr.literal x).display := by
  rw [constant, Expr.display]

lemma compile_literal {x : Float} (h : Double.code x < Double.infinity) :
    compile (constant x).source = .ok ⟨(constant x).source, (Expr.literal x).reread⟩ := by
  obtain ⟨d, hd⟩ := (Expr.literal x).exists_rereads (by rw [Expr.validate]) (by simpa [Expr.literals])
  have hcost := hd.cost
  rw [Expr.levels] at hcost
  rw [source_constant]
  apply (compile_of_rereads hd).1
  rw [Grammar.maxNesting]
  omega

lemma compile_notANumber : compile "NaN" = .error (.parse ⟨.unknownName "NaN", 0⟩) := by
  have htrimmed : Trimmed "NaN".toList :=
    ⟨⟨'N', _, rfl, by decide, by decide⟩, "Na".toList, 'N', rfl, by decide⟩
  have hlex : Token.lex Location.start "NaN".toList =
      .ok [⟨.name "NaN", "NaN", ⟨1, 1, 0⟩⟩, ⟨.ending, "", ⟨1, 4, 3⟩⟩] := by cbv
  exact compile_eq_error htrimmed hlex rfl

lemma compile_infinite (negative : Bool) : compile (if negative then "-inf" else "inf") =
    .error (.parse ⟨.unknownName "inf", if negative then 1 else 0⟩) := by
  cases negative with
  | false =>
    have htrimmed : Trimmed "inf".toList :=
      ⟨⟨'i', _, rfl, by decide, by decide⟩, "in".toList, 'f', rfl, by decide⟩
    have hlex : Token.lex Location.start "inf".toList =
        .ok [⟨.name "inf", "inf", ⟨1, 1, 0⟩⟩, ⟨.ending, "", ⟨1, 4, 3⟩⟩] := by cbv
    exact compile_eq_error htrimmed hlex rfl
  | true =>
    have htrimmed : Trimmed "-inf".toList :=
      ⟨⟨'-', _, rfl, by decide, by decide⟩, "-in".toList, 'f', rfl, by decide⟩
    have hlex : Token.lex Location.start "-inf".toList =
        .ok [⟨.mark .minus, "-", ⟨1, 1, 0⟩⟩, ⟨.name "inf", "inf", ⟨1, 2, 1⟩⟩,
          ⟨.ending, "", ⟨1, 5, 4⟩⟩] := by cbv
    exact compile_eq_error htrimmed hlex rfl

theorem compile_constant (x : Float) :
    (x.isFinite = true → Double.isNegative x = false →
      compile (constant x).source = .ok (constant x)) ∧
    (x.isFinite = true → Double.isNegative x = true →
      compile (constant x).source = .ok ⟨(constant x).source, .unary .minus (.literal x.abs)⟩ ∧
        ∀ angle, (Expr.unary .minus (.literal x.abs)).evaluate angle = .ok x) ∧
    (x.isNaN = true → compile (constant x).source = .error (.parse ⟨.unknownName "NaN", 0⟩)) ∧
    (x.isInf = true → compile (constant x).source =
      .error (.parse ⟨.unknownName "inf", if Double.isNegative x then 1 else 0⟩)) := by
  refine ⟨fun hfinite hsign => ?_, fun hfinite hsign => ?_, fun hnan => ?_, fun hinf => ?_⟩
  · rw [compile_literal (Double.isFinite_iff.mp hfinite), Expr.reread_literal hsign]
    rfl
  · have hcode := Double.isFinite_iff.mp hfinite
    have habs : x.abs = Double.magnitude x := Double.abs_eq_ofCode (Nat.le_of_lt hcode)
    rw [habs]
    refine ⟨?_, fun angle => ?_⟩
    · rw [compile_literal hcode, Expr.reread_signed hsign]
    · rw [Expr.evaluate, Expr.evaluate]
      exact congrArg Except.ok (Double.neg_magnitude hsign hcode)
  · have hsource : (constant x).source = "NaN" :=
      Double.text_of_notANumber (Double.isNaN_iff.mp hnan)
    rw [hsource, compile_notANumber]
  · have hsource : (constant x).source = if Double.isNegative x then "-inf" else "inf" :=
      Double.text_of_infinite (Double.isInf_iff.mp hinf)
    rw [hsource, compile_infinite]

theorem compile_constant_least_negative :
    let x : Float := Float.ofBits 0x8000000000000001
    x.isFinite = true ∧ Double.isNegative x = true ∧
      compile (constant x).source = .ok ⟨(constant x).source, .unary .minus (.literal x.abs)⟩ ∧
      ∀ angle, (Expr.unary .minus (.literal x.abs)).evaluate angle = .ok x := by
  intro x
  have hfinite : x.isFinite = true := by decide +kernel
  have hsign : Double.isNegative x = true := by decide +kernel
  exact ⟨hfinite, hsign, (compile_constant x).2.1 hfinite hsign⟩

end Formula

end PolarCurve
