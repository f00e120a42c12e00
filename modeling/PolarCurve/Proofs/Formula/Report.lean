import PolarCurve.Formula.Report
import PolarCurve.Proofs.Expr.Document
import PolarCurve.Proofs.Formula.Compile
import PolarCurve.Proofs.Formula.Place

namespace PolarCurve

namespace Formula

lemma position_le_size {source : String} {error : CompileError} (h : compile source = .error error) :
    error.position ≤ Text.size source.toList := by
  obtain ⟨left, right, hsource, hposition, -⟩ := exists_place_of_compile h
  rw [hsource, Text.size_append, hposition]
  exact Nat.le_add_right _ _

end Formula

namespace Report

lemma acceptedKeys : Json.PlainKeys ["ok", "ast"] := by decide

lemma rejectedKeys : Json.PlainKeys ["ok", "error", "position"] := by decide

def accepted (tree : Expr) : Report := ⟨true, none, none, some tree⟩

def rejected (message : String) (position : Nat) : Report := ⟨false, some message, some position, none⟩

lemma spelt_accepted (tree : Expr) : Json.Spelt (accepted tree).toJson := by
  refine Json.spelt_object [("ok", .bool true), ("ast", tree.toJson)] acceptedKeys ?_
  simp [Json.Spelt.bool, Expr.spelt_toJson]

lemma spelt_rejected (message : String) (position : Nat) :
    Json.Spelt (rejected message position).toJson := by
  refine Json.spelt_object [("ok", .bool false), ("error", Json.ofString message),
    ("position", Json.ofNat position)] rejectedKeys ?_
  simp [Json.Spelt.bool, Json.spelt_ofString, Json.spelt_ofNat]

lemma fields?_accepted (tree : Expr) :
    Json.fields? ["ok", "error", "position", "ast"] (accepted tree).toJson =
      some [some (.bool true), none, none, some tree.toJson] := by
  have h := Json.fields?_object [("ok", .bool true), ("ast", tree.toJson)] acceptedKeys
    ["ok", "error", "position", "ast"]
  refine Eq.trans h ?_
  simp

lemma fields?_rejected (message : String) (position : Nat) :
    Json.fields? ["ok", "error", "position", "ast"] (rejected message position).toJson =
      some [some (.bool false), some (Json.ofString message), some (Json.ofNat position), none] := by
  have h := Json.fields?_object [("ok", .bool false), ("error", Json.ofString message),
    ("position", Json.ofNat position)] rejectedKeys ["ok", "error", "position", "ast"]
  refine Eq.trans h ?_
  simp

lemma ofJson?_accepted (room : Nat) (tree : Expr) :
    ofJson? (room + 1) (accepted tree).toJson = (Expr.ofJson? room tree.toJson).map accepted := by
  rw [ofJson?, fields?_accepted]
  simp only [Option.bind_eq_bind, Option.bind_some, Json.bool?, Json.orElse?,
    Json.nullable?_of_ne_null (Expr.toJson_ne_null tree)]
  cases Expr.ofJson? room tree.toJson <;> rfl

lemma ofJson?_rejected (room : Nat) (message : String) {position : Nat} (h : position < 2 ^ 64) :
    ofJson? (room + 1) (rejected message position).toJson = some (rejected message position) := by
  have hmessage : Json.ofString message ≠ .null := nofun
  have hposition : Json.ofNat position ≠ .null := nofun
  rw [ofJson?, fields?_rejected]
  simp only [Option.bind_eq_bind, Option.bind_some, Json.bool?, Json.orElse?,
    Json.nullable?_of_ne_null hmessage, Json.nullable?_of_ne_null hposition, Json.text?_ofString, Json.nat?_ofNat h]
  rfl

lemma ofDocument?_eq {r : Report} (h : Json.Spelt r.toJson) :
    ofDocument? r.document = ofJson? Json.maxDepth r.toJson := by
  rw [ofDocument?, document, Json.ofText?_text h]
  rfl

end Report

lemma Expr.ofDocument?_eq (e : Expr) :
    Expr.ofDocument? e.document = if e.nest ≤ 127 then e.mapLiterals? Json.reread? else none := by
  rw [Expr.ofDocument?, Expr.document, Json.ofText?_text (Expr.spelt_toJson e)]
  exact Expr.ofJson?_toJson 127 e

/-- A document holds an expression that is read back when no more brackets stand around its
innermost part than a reader opens, and every literal reads back. Positions are read as 64-bit
numbers, which the bytes of a text never outgrow. -/
theorem document_reread :
    (∀ e : Expr, Expr.ofDocument? e.document =
      if e.nest ≤ 127 then e.mapLiterals? Json.reread? else none) ∧
    (∀ e : Expr, (Expr.ofDocument? e.document).isSome ↔
      e.nest ≤ 127 ∧ ∀ x ∈ e.literals, (Json.reread? x).isSome) ∧
    (∀ e : Expr, e.nest ≤ 127 → (∀ x ∈ e.literals, Json.reread? x = some x) →
      Expr.ofDocument? e.document = some e) ∧
    (∀ x : Float, Json.reread? x =
      if Double.code x < Double.infinity then Json.spelledFloat? (Style.document.text x)
      else none) ∧
    (∀ source f, Formula.compile source = .ok f →
      Report.ofDocument? (Report.compile source).document =
        if f.tree.nest + 1 ≤ 127 then
          (f.tree.mapLiterals? Json.reread?).map fun tree => ⟨true, none, none, some tree⟩
        else none) ∧
    (∀ source error, Formula.compile source = .error error → Text.size source.toList < 2 ^ 64 →
      Report.ofDocument? (Report.compile source).document = some (Report.compile source)) := by
  refine ⟨Expr.ofDocument?_eq, ?_, ?_, Json.reread?_eq, ?_, ?_⟩
  · intro e
    rw [Expr.ofDocument?_eq]
    split
    · next h => rw [Expr.mapLiterals?_isSome, and_iff_right h]
    · next h => simp [h]
  · intro e hnest hliterals
    rw [Expr.ofDocument?_eq, if_pos hnest, Expr.mapLiterals?_self e hliterals]
  · intro source f h
    have hreport : Report.compile source = Report.accepted f.tree := by
      rw [Report.compile, h]
      rfl
    rw [hreport, Report.ofDocument?_eq (Report.spelt_accepted f.tree)]
    change Report.ofJson? (126 + 1) _ = _
    rw [Report.ofJson?_accepted, Expr.ofJson?_toJson, Expr.map_within _ _ _ 1, Nat.add_comm 1]
    rfl
  · intro source error h hsize
    have hreport : Report.compile source = Report.rejected error.message error.position := by
      rw [Report.compile, h]
      rfl
    have hposition := Formula.position_le_size h
    rw [hreport, Report.ofDocument?_eq (Report.spelt_rejected _ _)]
    exact Report.ofJson?_rejected 126 error.message (by omega)

theorem document_reread_deep_calls :
    let deep := fun n => Nat.repeat (fun e => Expr.call "abs" [e]) n (.literal 0.5)
    let difference : Formula := ⟨"pi-theta", .binary .sub (.literal Double.pi) .theta⟩
    let fault : CompileError := .parse ⟨.unknownName "alpha", 0⟩
    Expr.ofDocument? (deep 42).document = some (deep 42) ∧
      Expr.ofDocument? (deep 43).document = none ∧
      Json.reread? Double.notANumber = none ∧
      Formula.compile "pi-theta" = .ok difference ∧
      Report.ofDocument? (Report.compile "pi-theta").document =
        some ⟨true, none, none, some difference.tree⟩ ∧
      Formula.compile "alpha" = .error fault ∧ Text.size "alpha".toList < 2 ^ 64 ∧
      Report.ofDocument? (Report.compile "alpha").document = some (Report.compile "alpha") := by
  intro deep difference fault
  obtain ⟨hread, -, hexact, hnumber, haccepted, hrejected⟩ := document_reread
  have hdeep : (deep 42).nest ≤ 127 ∧ ∀ x ∈ (deep 42).literals, Json.reread? x = some x := by
    decide +kernel
  have hdeeper : ¬ (deep 43).nest ≤ 127 := by decide +kernel
  have hpi : difference.tree.mapLiterals? Json.reread? = some difference.tree :=
    Expr.mapLiterals?_self _ (by decide +kernel)
  have hdifference : Formula.compile "pi-theta" = .ok difference := Formula.compile_difference
  have halpha : Formula.compile "alpha" = .error fault := by
    have htrimmed : Trimmed "alpha".toList :=
      ⟨⟨'a', "lpha".toList, rfl, by decide, by decide⟩, "alph".toList, 'a', rfl, by decide⟩
    have hlex : Token.lex Location.start "alpha".toList =
        .ok [⟨.name "alpha", "alpha", ⟨1, 1, 0⟩⟩, ⟨.ending, "", ⟨1, 6, 5⟩⟩] := by cbv
    exact Formula.compile_eq_error htrimmed hlex rfl
  have hsize : Text.size "alpha".toList < 2 ^ 64 := by decide
  refine ⟨hexact _ hdeep.1 hdeep.2, ?_, ?_, hdifference, ?_, halpha,
    hsize, hrejected _ _ halpha hsize⟩
  · rw [hread, if_neg hdeeper]
  · rw [hnumber, if_neg (by decide +kernel)]
  · rw [haccepted _ _ hdifference, if_pos (by decide), hpi]
    rfl

end PolarCurve
