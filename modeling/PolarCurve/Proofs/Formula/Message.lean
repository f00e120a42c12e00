import PolarCurve.Proofs.Formula.Compile
import PolarCurve.Proofs.Grammar.Viability
import PolarCurve.Proofs.Token.Walk

namespace PolarCurve

open PieceKind (isSpacing)

def OneLine (s : String) : Prop := '\n' ∉ s.toList

lemma oneLine_append {s t : String} : OneLine (s ++ t) ↔ OneLine s ∧ OneLine t := by
  rw [OneLine, String.toList_append, List.mem_append, not_or]
  rfl

lemma isDigit_toString {n : Nat} {c : Char} (h : c ∈ (toString n).toList) : c.isDigit = true := by
  apply Nat.isDigit_of_mem_toDigits (b := 10) (n := n) (by decide) (by decide)
  simpa using h

lemma oneLine_toString (n : Nat) : OneLine (toString n) := by
  intro hmem
  cases isDigit_toString hmem

lemma Walk.exists_holds {start : Location} {before cs : List Char}
    {items : List (Except LexFault Token)} (h : Walk start before cs items)
    {item : Except LexFault Token} (hmem : item ∈ items) : ∃ s, Stretch.Holds start s item := by
  induction h with
  | done => cases hmem
  | skip _ _ ih => exact ih hmem
  | item holds _ ih =>
    rcases List.mem_cons.mp hmem with rfl | hmem
    · exact ⟨_, holds⟩
    · exact ih hmem

lemma Token.exists_holds {start : Location} {cs : List Char} {item : Except LexFault Token}
    (h : item ∈ scan start cs) : ∃ s, Stretch.Holds start s item := by
  have hwalk := Piece.walk_readAll start [] cs (by simp [Location.CutsPair])
  exact hwalk.exists_holds h

lemma Stretch.Holds.not_isSpacing {start : Location} {s : Stretch} {t : Token}
    (h : s.Holds start (.ok t)) : ∀ c ∈ s.text, isSpacing c = false := by
  intro c hc
  cases h with
  | number hlong => exact Piece.not_isSpacing_of_isNumeral (hlong.1 c hc)
  | name hlong => exact Piece.not_isSpacing_of_isNamePart (hlong.1 c hc)
  | mark m htext =>
    rw [htext, List.mem_singleton] at hc
    subst hc
    cases m <;> rfl

lemma Stretch.Holds.exists_head {start : Location} {s : Stretch} {t : Token}
    (h : s.Holds start (.ok t)) : ∃ c cs, s.text = c :: cs := by
  cases h with
  | number _ hdigit =>
    obtain ⟨c, hc, -⟩ := hdigit
    exact List.exists_cons_of_ne_nil (List.ne_nil_of_mem hc)
  | name _ hstart =>
    obtain ⟨c, cs, htext, -⟩ := hstart
    exact ⟨c, cs, htext⟩
  | mark m htext => exact ⟨m.char, [], htext⟩

structure Token.Plain (t : Token) : Prop where
  kind : t.kind ≠ .ending
  head : ∃ c cs, t.lexeme.toList = c :: cs
  spacing : ∀ c ∈ t.lexeme.toList, isSpacing c = false
  name : ∀ name, t.kind = .name name → t.lexeme = name

lemma Token.plain_of_scan {start : Location} {cs : List Char} {t : Token}
    (h : .ok t ∈ scan start cs) : t.Plain := by
  obtain ⟨s, hs⟩ := exists_holds h
  obtain ⟨hlexeme, -, hkind, -, hname⟩ := hs.token
  exact ⟨hkind, hlexeme ▸ hs.exists_head, hlexeme ▸ hs.not_isSpacing, hname⟩

lemma Token.Plain.oneLine {t : Token} (h : t.Plain) : OneLine t.lexeme := by
  intro hmem
  cases h.spacing '\n' hmem

lemma Token.plain_of_scan_eq {start : Location} {cs : List Char} {tokens : List Token}
    (h : scan start cs = tokens.map .ok) {t : Token} (ht : t ∈ tokens) : t.Plain := by
  apply plain_of_scan
  rw [h]
  exact List.mem_map_of_mem ht

lemma LexFault.oneLine_of_scan {start : Location} {cs : List Char} {fault : LexFault}
    (h : .error fault ∈ Token.scan start cs) : OneLine fault.message := by
  obtain ⟨s, hs⟩ := Token.exists_holds h
  cases hs with
  | secondPoint =>
    change OneLine (_ ++ toString _)
    rw [oneLine_append]
    exact ⟨by simp [OneLine], oneLine_toString _⟩
  | badNumber _ htext =>
    have hquoted : OneLine (String.ofList s.text) := by simp [OneLine, htext]
    change OneLine (_ ++ _ ++ _ ++ toString _)
    rw [oneLine_append, oneLine_append, oneLine_append]
    exact ⟨⟨⟨by simp [OneLine], hquoted⟩, by simp [OneLine]⟩, oneLine_toString _⟩
  | strayChar c _ hspacing =>
    have hquoted : OneLine (String.singleton c) := by
      rw [OneLine, String.toList_singleton, List.mem_singleton]
      rintro rfl
      cases hspacing
    change OneLine (_ ++ _ ++ _ ++ toString _)
    rw [oneLine_append, oneLine_append, oneLine_append]
    exact ⟨⟨⟨by simp [OneLine], hquoted⟩, by simp [OneLine]⟩, oneLine_toString _⟩

namespace Grammar

lemma Blames.oneLine {stuck : List TokenKind → Prop} {t : Token} {vs : List Token}
    {fault : ParseFault} (h : Blames stuck t vs fault) (ht : t.Plain ∨ t.kind = .ending) :
    OneLine fault.message := by
  have hquote : OneLine "\"" := by simp [OneLine]
  have hname : ∀ name, t.kind = .name name → OneLine name := by
    intro name hkind
    rcases ht with ht | ht
    · exact ht.name name hkind ▸ ht.oneLine
    · rw [ht] at hkind
      cases hkind
  cases h with
  | unexpected =>
    have hnext : OneLine (Row.describeNext (t :: vs)) := by
      rw [Row.describeNext]
      split
      · simp [OneLine, TokenKind.describe]
      · next hnot =>
        refine (ht.resolve_right fun hending => hnot ?_).oneLine
        simp [Token.isEnding, hending]
    change OneLine (_ ++ _ ++ _)
    rw [oneLine_append, oneLine_append]
    exact ⟨⟨by simp [OneLine], hnext⟩, hquote⟩
  | unclosed =>
    change OneLine "missing closing parenthesis \")\""
    simp [OneLine]
  | trailing =>
    change OneLine "unexpected extra input after valid expression"
    simp [OneLine]
  | unknownName hkind =>
    change OneLine (_ ++ _ ++ _)
    rw [oneLine_append, oneLine_append]
    exact ⟨⟨by simp [OneLine], hname _ hkind⟩, hquote⟩
  | unknownFunction hkind =>
    change OneLine (_ ++ _ ++ _)
    rw [oneLine_append, oneLine_append]
    exact ⟨⟨by simp [OneLine], hname _ hkind⟩, hquote⟩
  | wrongArity hkind =>
    change OneLine (_ ++ _ ++ _ ++ toString _ ++ _ ++ toString _)
    rw [oneLine_append, oneLine_append, oneLine_append, oneLine_append, oneLine_append]
    exact ⟨⟨⟨⟨⟨by simp [OneLine], hname _ hkind⟩, by simp [OneLine]⟩, oneLine_toString _⟩,
      by simp [OneLine]⟩, oneLine_toString _⟩
  | tooDeep =>
    change OneLine "expression nested too deeply"
    simp [OneLine]

end Grammar

namespace Formula

lemma exists_blamed {start : Location} {cs : List Char} {ts : List Token} {error : ParseError}
    (hlex : Token.lex start cs = .ok ts) (h : Expr.ofTokens ts = .error error) :
    ∃ stuck t vs, error.position = t.position ∧ Grammar.Blames stuck t vs error.fault ∧
      (.ok t ∈ Token.scan start cs ∨ t = ⟨.ending, "", start.advance cs⟩) := by
  obtain ⟨tokens, hscan, rfl⟩ := Token.lex_eq_ok_iff.mp hlex
  obtain ⟨us, t, vs, heq, hposition, hblames⟩ := Grammar.exists_blames_of_ofTokens
    (fun t ht => (Token.plain_of_scan_eq hscan ht).kind) rfl h
  have ht : t ∈ tokens ++ [_] := heq ▸ List.mem_append_right us List.mem_cons_self
  refine ⟨_, t, vs, hposition, hblames, ?_⟩
  rw [hscan]
  exact (List.mem_append.mp ht).imp List.mem_map_of_mem List.mem_singleton.mp

theorem oneLine_of_compile {source : String} {error : CompileError}
    (h : compile source = .error error) : OneLine error.message := by
  rcases refusal_of_compile h with ⟨fault, rfl, hlex⟩ | ⟨ts, refusal, rfl, hlex, hrefusal⟩
  · exact LexFault.oneLine_of_scan (Token.mem_scan_of_lex hlex)
  · obtain ⟨_, t, _, -, hblames, ht⟩ := exists_blamed hlex hrefusal
    have hcases : t.Plain ∨ t.kind = .ending :=
      ht.imp Token.plain_of_scan (congrArg Token.kind)
    change OneLine (_ ++ _ ++ toString _)
    rw [oneLine_append, oneLine_append]
    exact ⟨⟨hblames.oneLine hcases, by simp [OneLine]⟩, oneLine_toString _⟩

end Formula

lemma CompileError.exists_message (error : CompileError) : ∃ cs,
    error.message.toList = cs ++ " at position ".toList ++ (toString error.position).toList := by
  cases error with
  | parse error =>
    refine ⟨error.fault.message.toList, ?_⟩
    change (_ ++ _ ++ toString _ : String).toList = _
    rw [String.toList_append, String.toList_append]
    rfl
  | lex fault =>
    cases fault with
    | secondPoint position =>
      refine ⟨"invalid number literal with multiple dots".toList, ?_⟩
      change (_ ++ toString _ : String).toList = _
      rw [String.toList_append]
      congr 1
    | badNumber literal position =>
      refine ⟨"invalid number literal \"".toList ++ literal.toList ++ ['"'], ?_⟩
      change (_ ++ _ ++ _ ++ toString _ : String).toList = _
      simp [CompileError.position, LexFault.position]
    | strayChar char position =>
      refine ⟨"unexpected character \"".toList ++ [char] ++ ['"'], ?_⟩
      change (_ ++ _ ++ _ ++ toString _ : String).toList = _
      simp [CompileError.position, LexFault.position]

lemma CompileError.isDigit_last (error : CompileError) :
    ∀ c ∈ error.message.toList.getLast?, c.isDigit = true := by
  obtain ⟨cs, hcs⟩ := error.exists_message
  have hne : (toString error.position).toList ≠ [] := by simp
  rw [hcs, List.getLast?_append_of_ne_nil _ hne]
  exact fun c hc => isDigit_toString (List.mem_of_getLast? hc)

lemma rdropWhile_toString {cs : List Char} (h : ∀ c ∈ cs.getLast?, c.isDigit = false) (n : Nat) :
    (cs ++ (toString n).toList).rdropWhile Char.isDigit = cs := by
  have hdigits : ∀ c ∈ (toString n).toList.reverse, c.isDigit = true :=
    fun c hc => isDigit_toString (List.mem_reverse.mp hc)
  rw [List.rdropWhile, List.reverse_append, List.dropWhile_append_of_pos hdigits]
  rcases List.eq_nil_or_concat' cs with rfl | ⟨cs, c, rfl⟩
  · rfl
  · have hc : c.isDigit = false := h c (by simp)
    simp [hc]

lemma message_ne (error : CompileError) (fault : CallFault) : error.message ≠ fault.message := by
  intro heq
  obtain ⟨cs, hcs⟩ := error.exists_message
  have hstripped : error.message.toList.rdropWhile Char.isDigit = cs ++ " at position ".toList := by
    rw [hcs]
    exact rdropWhile_toString (by simp) _
  cases fault with
  | unknownFunction name =>
    have hlast := error.isDigit_last '"'
    rw [heq] at hlast
    change '"' ∈ (_ ++ "\"" : String).toList.getLast? → _ at hlast
    rw [String.toList_append, List.getLast?_append_of_ne_nil _ (by simp)] at hlast
    cases hlast rfl
  | wrongArity function expected found =>
    let ds := ("arity mismatch: function \"" ++ function ++ "\" expects " ++ toString expected).toList
    have hds : error.message.toList = ds ++ " argument, got ".toList ++ (toString found).toList := by
      rw [heq]
      change (_ ++ _ ++ _ ++ toString _ ++ _ ++ toString _ : String).toList = _
      rw [String.toList_append, String.toList_append]
    rw [hds, rdropWhile_toString (by simp)] at hstripped
    have hlast := congrArg (fun cs => cs.reverse.take 2) hstripped
    simp at hlast

end PolarCurve
