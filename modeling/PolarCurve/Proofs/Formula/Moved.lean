import PolarCurve.Proofs.Formula.Compile
import PolarCurve.Proofs.Formula.Frame
import PolarCurve.Proofs.Grammar.Moved
import PolarCurve.Proofs.Token.Scan

/-! The frame of an expression moves the places of faults by its own size and takes no other
part. -/

namespace PolarCurve

namespace CompileError

def move (distance : Nat) : CompileError → CompileError
  | lex fault => lex (fault.move distance)
  | parse error => parse (error.move distance)

lemma position_move (distance : Nat) (e : CompileError) :
    (e.move distance).position = e.position + distance := by
  cases e with
  | lex fault => exact fault.position_move distance
  | parse error => rfl

end CompileError

namespace Formula

def read (place : Location) (body : List Char) : Except CompileError Expr := do
  let tokens ← (Token.lex place body).mapError .lex
  (Expr.ofTokens tokens).mapError .parse

lemma compile_eq_read (source : String) :
    compile source = (read (Location.start.advance (unframe source.toList).1)
      (unframe source.toList).2).map fun tree => ⟨source, tree⟩ := by
  rw [compile, read]
  split
  · next before body hframe =>
    rw [hframe]
    cases Token.lex (Location.start.advance before) body with
    | error fault => rfl
    | ok tokens =>
      dsimp only [Except.mapError, bind, Except.bind]
      cases Expr.ofTokens tokens <;> rfl

lemma rowMoved_of_lex {distance : Nat} {place : Location} {body : List Char} {ts us : List Token}
    (h : Token.lex place body = .ok ts) (htokens : List.Forall₂ (Token.Moved distance) ts us) :
    Grammar.RowMoved distance ts us := by
  obtain ⟨items, -, rfl⟩ := Token.lex_eq_ok_iff.mp h
  exact ⟨htokens, _, List.mem_append_right items (List.mem_singleton_self _), rfl⟩

lemma read_moved {distance : Nat} {place place' : Location}
    (h : place'.offset = place.offset + distance) (body : List Char) :
    Alike (fun e f => f = CompileError.move distance e) (· = ·) (read place body)
      (read place' body) := by
  have hlex := Token.lex_moved h body
  rw [read, read]
  cases hts : Token.lex place body with
  | error fault =>
    rw [hts] at hlex
    generalize Token.lex place' body = y at hlex ⊢
    cases hlex with
    | error hfault => exact .error (congrArg CompileError.lex hfault)
  | ok ts =>
    rw [hts] at hlex
    generalize Token.lex place' body = y at hlex ⊢
    cases hlex with
    | ok htokens =>
      refine (Expr.ofTokens_moved (rowMoved_of_lex hts htokens)).mapError ?_
      rintro e _ rfl
      rfl

lemma compile_moved {source : String} {before body : List Char}
    (h : unframe source.toList = (before, body)) (hbody : unframe body = ([], body)) :
    Alike (fun e e' => e' = e.move (Text.size before)) (fun f g => g.tree = f.tree)
      (compile (String.ofList body)) (compile source) := by
  have hoffset : (Location.start.advance before).offset =
      Location.start.offset + Text.size before := Location.advance_offset _ _
  rw [compile_eq_read, compile_eq_read, String.toList_ofList, h, hbody]
  apply (read_moved hoffset body).map
  rintro tree _ rfl
  rfl

lemma value_of_tree {f g : Formula} (h : g.tree = f.tree) (angle : Float) :
    g.value angle = f.value angle := by
  rw [value, value, value?, value?, h]

theorem compile_framed {source : String} {before body : List Char}
    (h : unframe source.toList = (before, body)) :
    Framed source.toList before body ∧ (unframe body = ([], body) →
      (∀ f, compile (String.ofList body) = .ok f → ∃ g, compile source = .ok g ∧
        g.tree = f.tree ∧ ∀ angle, g.value angle = f.value angle) ∧
      ∀ e, compile (String.ofList body) = .error e →
        compile source = .error (e.move (Text.size before)) ∧
          (e.move (Text.size before)).position = e.position + Text.size before) := by
  have hframed := framed_unframe source.toList
  rw [h] at hframed
  refine ⟨hframed, fun hbody => ⟨fun f hf => ?_, fun e he => ?_⟩⟩
  · have hmoved := compile_moved h hbody
    rw [hf] at hmoved
    generalize compile source = whole at hmoved ⊢
    cases hmoved with
    | ok htree => exact ⟨_, rfl, htree, value_of_tree htree⟩
  · have hmoved := compile_moved h hbody
    rw [he] at hmoved
    generalize compile source = whole at hmoved ⊢
    cases hmoved with
    | error herror => exact ⟨congrArg Except.error herror, e.position_move _⟩

theorem compile_framed_open_sum :
    let source := " r = theta + "
    let error : CompileError := .parse ⟨.unexpected "EOF", 7⟩
    unframe source.toList = (" r = ".toList, "theta +".toList) ∧
      unframe "theta +".toList = ([], "theta +".toList) ∧
      compile "theta +" = .error error ∧
      compile source = .error (.parse ⟨.unexpected "EOF", 12⟩) := by
  intro source error
  have hframe : unframe source.toList = (" r = ".toList, "theta +".toList) := by cbv
  refine ⟨hframe, trimmed_open_sum.unframe_eq, compile_open_sum, ?_⟩
  exact (((compile_framed hframe).2 trimmed_open_sum.unframe_eq).2 error compile_open_sum).1

end Formula

end PolarCurve
