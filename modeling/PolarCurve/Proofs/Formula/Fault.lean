import PolarCurve.Proofs.Expr.Printed
import PolarCurve.Proofs.Formula.Frame
import PolarCurve.Proofs.Grammar.Viability
import PolarCurve.Proofs.Token.Walk

/-! The position of a fault lies within the expression, between two characters of the text, and the
text from there on begins with what the fault names. -/

namespace PolarCurve

open PieceKind (isNumeral isSpacing)
open Text

def SecondPoint (left right : List Char) : Prop :=
  ∃ outer whole fraction more rest, left = outer ++ (whole ++ '.' :: fraction) ∧
    right = '.' :: more ++ rest ∧ '.' ∉ whole ∧ '.' ∉ fraction ∧
    Stretch.Longest isNumeral ⟨outer, whole ++ '.' :: fraction ++ '.' :: more, rest⟩ ∧
    ∀ c ∈ outer.getLast?, isNumeral c = false

def LexFault.Names (left right : List Char) : LexFault → Prop
  | secondPoint _ => SecondPoint left right
  | badNumber literal _ => literal.toList <+: right
  | strayChar char _ => [char] <+: right

/-- What a fault says of the text from its place on, where a token starts or the expression ends. -/
def ParseFault.Names (starts ends : Prop) (right : List Char) : ParseFault → Prop
  | unexpected text => if text = "EOF" then ends else text.toList <+: right
  | unknownName name => name.toList <+: right
  | call (.unknownFunction name) => name.toList <+: right
  | call (.wrongArity function _ _) => ∃ gap, (∀ c ∈ gap, isSpacing c = true) ∧
      function.toList ++ gap ++ ['('] <+: right
  | unclosed => starts ∨ ends
  | trailing => starts
  | tooDeep => starts ∨ ends

structure Token.Stands (t : Token) (vs : List Token) (right : List Char) : Prop where
  kind : t.kind ≠ .ending
  lexeme : t.lexeme.toList <+: right
  mark : ∀ m, t.kind = .mark m → t.lexeme.toList = [m.char]
  name : ∀ name, t.kind = .name name → t.lexeme = name
  opens : ∀ u, vs.head? = some u → u.kind = .mark .left → ∃ gap,
    (∀ c ∈ gap, isSpacing c = true) ∧ t.lexeme.toList ++ gap ++ ['('] <+: right

namespace Formula

def TokenStarts (before body left right : List Char) : Prop :=
  ∃ ts t, Token.lex (Location.start.advance before) body = .ok ts ∧ t ∈ ts ∧ t.kind ≠ .ending ∧
    t.position = size left ∧ t.lexeme.toList <+: right

/-- A position within the expression of a text, and what stands on either side of it. -/
structure Site (source before body left right : List Char) (position : Nat) : Prop where
  whole : source = left ++ right
  size : size left = position
  first : Text.size before ≤ position
  last : position ≤ Text.size before + Text.size body

end Formula

def CompileError.Names (before body left right : List Char) : CompileError → Prop
  | lex fault => fault.Names left right
  | parse error => error.fault.Names (Formula.TokenStarts before body left right)
      (left = before ++ body) right

lemma not_isNumeral_of_isBlank {c : Char} (h : isBlank c = true) : isNumeral c = false := by
  rw [Bool.eq_false_iff]
  intro hn
  rw [not_isBlank_of_isNumeral hn] at h
  cases h

lemma RadiusMark.not_isNumeral {mark : List Char} (h : RadiusMark mark) :
    ∀ c ∈ mark, isNumeral c = false := by
  intro c hc
  cases h with
  | none => cases hc
  | close hblanks =>
    rw [List.mem_cons, List.mem_cons] at hc
    rcases hc with rfl | rfl | hc
    · rfl
    · rfl
    · exact not_isNumeral_of_isBlank (hblanks c hc)
  | apart hblanks =>
    rw [List.mem_cons, List.mem_cons, List.mem_cons] at hc
    rcases hc with rfl | rfl | rfl | hc
    · rfl
    · rfl
    · rfl
    · exact not_isNumeral_of_isBlank (hblanks c hc)

namespace Formula

lemma site_of_split {source before body after left right : List Char}
    (hwhole : source = before ++ body ++ after) (hbody : body = left ++ right) :
    Site source before body (before ++ left) (right ++ after) (size (before ++ left)) := by
  subst hbody
  refine ⟨by simp [hwhole], rfl, ?_, ?_⟩ <;> simp only [size_append] <;> omega

section Frame

variable {source before body : List Char} (h : Framed source before body)

include h

lemma Framed.seam : Seam before body := by
  obtain ⟨blanks, mark, rfl, hblanks, hmark⟩ := h.front
  refine fun _ => endsInDigits_of_last fun c hc => ?_
  rcases List.mem_append.mp (List.mem_of_getLast? hc) with hc | hc
  · exact not_isNumeral_of_isBlank (hblanks c hc)
  · exact hmark.not_isNumeral c hc

lemma Framed.walk :
    Walk Location.start before body (Token.scan (Location.start.advance before) body) := by
  apply Piece.walk_readAll
  rintro ⟨-, hfeed⟩
  cases h.bare.first '\n' hfeed

end Frame

lemma offset_start_advance (cs : List Char) : (Location.start.advance cs).offset = size cs := by
  rw [Location.advance_offset]
  exact Nat.zero_add _

lemma exists_numeral_head {text rest : List Char} {c : Char} (hc : c ∈ text)
    (htext : ∀ c ∈ text, isNumeral c = true) :
    ∃ c ∈ (text ++ rest).head?, isNumeral c = true := by
  obtain ⟨d, ds, rfl⟩ := List.exists_cons_of_ne_nil (List.ne_nil_of_mem hc)
  exact ⟨d, rfl, htext d List.mem_cons_self⟩

lemma names_of_holds {before text rest after : List Char} {fault : LexFault}
    (h : Stretch.Holds Location.start ⟨before, text, rest⟩ (.error fault))
    (hseam : Seam before (text ++ rest)) (hafter : ∀ c ∈ after.head?, isNumeral c = false) :
    ∃ near far, text = near ++ far ∧ fault.position = size (before ++ near) ∧
      fault.Names (before ++ near) (far ++ rest ++ after) := by
  cases h with
  | secondPoint whole fraction more hlong htext hwhole hfraction =>
    dsimp only at htext hlong
    have hhead : ∃ c ∈ (text ++ rest).head?, isNumeral c = true :=
      exists_numeral_head (by simp [htext] : '.' ∈ text) hlong.1
    obtain ⟨outer, digits, rfl, hdigits, hpoint, houter⟩ := hseam hhead
    refine ⟨whole ++ '.' :: fraction, '.' :: more, htext, ?_, outer, digits ++ whole, fraction, more,
      rest ++ after, by simp, by simp, by simp [hpoint, hwhole], hfraction, ⟨?_, ?_⟩, houter⟩
    · rw [size_append (outer ++ digits), ← offset_start_advance (outer ++ digits)]
      rfl
    · intro c hc
      rw [List.append_assoc, List.append_assoc, List.mem_append] at hc
      rcases hc with hc | hc
      · exact hdigits c hc
      · apply hlong.1 c
        rwa [htext, List.append_assoc]
    · cases rest with
      | nil => exact hafter
      | cons d ds => exact hlong.2
  | badNumber hlong htext =>
    refine ⟨[], text, rfl, ?_, ?_⟩
    · simp [LexFault.position, offset_start_advance]
    · simp [LexFault.Names]
  | strayChar c htext =>
    dsimp only at htext
    refine ⟨[], text, rfl, ?_, ?_⟩
    · simp [LexFault.position, offset_start_advance]
    · simp [LexFault.Names, htext]

section Blames

variable {stuck : List TokenKind → Prop} {t : Token} {fault : ParseFault} {starts ends : Prop}
variable {right : List Char}

lemma names_at_end (h : Grammar.Blames stuck t [] fault) (ht : t.kind = .ending) (hends : ends) :
    fault.Names starts ends right := by
  cases h with
  | unexpected =>
    have hdescribe : Row.describeNext [t] = "EOF" := by
      rw [Row.describeNext, Token.isEnding, ht]
      rfl
    rw [hdescribe]
    exact hends
  | unclosed => exact Or.inr hends
  | trailing more => exact (more ht).elim
  | unknownName _ next => cases next
  | unknownFunction _ next => cases next
  | wrongArity _ next => cases next
  | tooDeep => exact Or.inr hends

lemma names_at_token {vs : List Token} {last : Token} (hlast : last.kind = .ending)
    (h : Grammar.Blames stuck t (vs ++ [last]) fault) (ht : t.Stands vs right) (hstarts : starts) :
    fault.Names starts ends right := by
  cases h with
  | unexpected closed =>
    have hdescribe : Row.describeNext (t :: (vs ++ [last])) = t.lexeme := by
      simp [Row.describeNext, Token.isEnding, ht.kind]
    obtain ⟨m, hm⟩ := closed.resolve_right ht.kind
    have hne : t.lexeme ≠ "EOF" := by
      intro heq
      have hlength := congrArg List.length (ht.mark m hm)
      rw [heq] at hlength
      cases hlength
    rw [hdescribe, ParseFault.Names, if_neg hne]
    exact ht.lexeme
  | unclosed => exact Or.inl hstarts
  | trailing => exact hstarts
  | unknownName names => exact ht.name _ names ▸ ht.lexeme
  | unknownFunction names => exact ht.name _ names ▸ ht.lexeme
  | wrongArity names next opens =>
    cases vs with
    | nil =>
      cases next
      rw [hlast] at opens
      cases opens
    | cons u vs =>
      cases next
      exact ht.name _ names ▸ ht.opens _ rfl opens
  | tooDeep => exact Or.inl hstarts

end Blames

section Frame

variable {source before body : List Char} (h : Framed source before body)

include h

lemma names_of_lex {fault : LexFault}
    (hlex : Token.lex (Location.start.advance before) body = .error fault) :
    ∃ left right, Site source before body left right fault.position ∧ fault.Names left right := by
  obtain ⟨us, items, hscan⟩ := List.append_of_mem (Token.mem_scan_of_lex hlex)
  have hwalk := h.walk
  rw [hscan] at hwalk
  obtain ⟨front, text, rest, hbody, hholds, hseam, -⟩ := hwalk.seek h.seam
  obtain ⟨after, hwhole, hafter⟩ := h.whole
  have hblank : ∀ c ∈ after.head?, isNumeral c = false :=
    fun c hc => not_isNumeral_of_isBlank (hafter c (List.mem_of_mem_head? hc))
  obtain ⟨near, far, rfl, hposition, hnames⟩ := names_of_holds hholds hseam hblank
  have hsplit : body = (front ++ near) ++ (far ++ rest) := by simpa using hbody
  refine ⟨_, _, hposition ▸ ?_, hnames⟩
  simpa using site_of_split hwhole hsplit

lemma exists_site {tokens us vs : List Token} {t : Token}
    (hscan : Token.scan (Location.start.advance before) body = tokens.map .ok)
    (htokens : tokens = us ++ t :: vs) :
    ∃ left right, Site source before body left right t.position ∧
      TokenStarts before body left right ∧ t.Stands vs right := by
  subst htokens
  have hwalk := h.walk
  rw [hscan, List.map_append, List.map_cons] at hwalk
  obtain ⟨front, text, rest, hbody, hholds, -, hnext, -⟩ := hwalk.seek h.seam
  obtain ⟨after, hwhole, -⟩ := h.whole
  obtain ⟨hlexeme, hlocation, hkind, hmark, hname⟩ := hholds.token
  dsimp only at hlexeme hlocation hmark
  have hposition : t.position = size (before ++ front) := by
    rw [Token.position, hlocation, offset_start_advance]
  have hprefix : t.lexeme.toList <+: text ++ rest ++ after := by simp [hlexeme]
  have hsite : Site source before body (before ++ front) (text ++ rest ++ after) t.position :=
    hposition ▸ site_of_split hwhole hbody
  have hlex := Token.lex_eq_ok_iff.mpr ⟨_, hscan, rfl⟩
  have hstarts : TokenStarts before body (before ++ front) (text ++ rest ++ after) :=
    ⟨_, t, hlex, by simp, hkind, hposition, hprefix⟩
  refine ⟨_, _, hsite, hstarts, hkind, hprefix, ?_, hname, ?_⟩
  · simpa [hlexeme] using hmark
  · intro u hu hleft
    obtain ⟨ws, rfl⟩ := List.head?_eq_some_iff.mp hu
    have hnext : Walk Location.start (before ++ front ++ text) rest
        ([] ++ .ok u :: ws.map .ok) := hnext
    obtain ⟨gap, text', rest', rfl, hholds', -, -, hgap⟩ := hnext.seek hholds.seam
    obtain ⟨-, -, -, hmark', -⟩ := hholds'.token
    have htext' : text' = ['('] := hmark' .left hleft
    refine ⟨gap, hgap rfl, ?_⟩
    rw [hlexeme, htext']
    simp

lemma names_of_ofTokens {ts : List Token} {error : ParseError}
    (hlex : Token.lex (Location.start.advance before) body = .ok ts)
    (herror : Expr.ofTokens ts = .error error) :
    ∃ left right, Site source before body left right error.position ∧
      error.fault.Names (TokenStarts before body left right) (left = before ++ body) right := by
  obtain ⟨tokens, hscan, rfl⟩ := Token.lex_eq_ok_iff.mp hlex
  have htokens : ∀ t ∈ tokens, t.kind ≠ .ending := by
    intro t ht
    obtain ⟨us, vs, hsplit⟩ := List.append_of_mem ht
    obtain ⟨_, _, -, -, hstands⟩ := exists_site h hscan hsplit
    exact hstands.kind
  obtain ⟨us, t, vs, heq, hposition, hblames⟩ :=
    Grammar.exists_blames_of_ofTokens htokens rfl herror
  rcases List.eq_nil_or_concat' vs with rfl | ⟨ws, u, rfl⟩
  · obtain ⟨rfl, hlast⟩ := List.append_inj' heq rfl
    obtain rfl := List.singleton_inj.mp hlast
    obtain ⟨after, hwhole, -⟩ := h.whole
    have hsite : Site source before body (before ++ body) after (size (before ++ body)) :=
      site_of_split hwhole (List.append_nil body).symm
    have hend : error.position = size (before ++ body) := by
      rw [hposition, Token.position, Location.advance_offset, offset_start_advance, size_append]
    exact ⟨before ++ body, after, hend ▸ hsite, names_at_end hblames rfl rfl⟩
  · rw [← List.cons_append, ← List.append_assoc] at heq
    obtain ⟨hsplit, hend⟩ := List.append_inj' heq rfl
    obtain rfl := List.singleton_inj.mp hend
    obtain ⟨left, right, hsite, hstarts, hstands⟩ := exists_site h hscan hsplit
    exact ⟨left, right, hposition ▸ hsite, names_at_token rfl hblames hstands hstarts⟩

end Frame

theorem fault_of_compile {source : String} {before body : List Char} {error : CompileError}
    (hbody : unframe source.toList = (before, body)) (h : compile source = .error error) :
    ∃ left right, Site source.toList before body left right error.position ∧
      error.Names before body left right := by
  have hframe := framed_unframe source.toList
  rw [hbody] at hframe
  simp only [compile, hbody] at h
  split at h
  · next fault hlex =>
    cases h
    exact names_of_lex hframe hlex
  · next tokens hlex =>
    split at h
    · next error herror =>
      cases h
      exact names_of_ofTokens hframe hlex herror
    · cases h

theorem fault_of_compile_long_call :
    let source := "r = sin (theta, pi)"
    let error : CompileError := .parse ⟨.call (.wrongArity "sin" 1 2), 4⟩
    compile source = .error error ∧ ∃ left right,
      Site source.toList "r = ".toList "sin (theta, pi)".toList left right 4 ∧
      ∃ gap, (∀ c ∈ gap, isSpacing c = true) ∧ "sin".toList ++ gap ++ ['('] <+: right := by
  intro source error
  have hframe : unframe source.toList = ("r = ".toList, "sin (theta, pi)".toList) := by cbv
  have hlex : Token.lex (Location.start.advance "r = ".toList) "sin (theta, pi)".toList =
      .ok [⟨.name "sin", "sin", ⟨1, 5, 4⟩⟩, ⟨.mark .left, "(", ⟨1, 9, 8⟩⟩,
        ⟨.name "theta", "theta", ⟨1, 10, 9⟩⟩, ⟨.mark .comma, ",", ⟨1, 15, 14⟩⟩,
        ⟨.name "pi", "pi", ⟨1, 17, 16⟩⟩, ⟨.mark .right, ")", ⟨1, 19, 18⟩⟩,
        ⟨.ending, "", ⟨1, 20, 19⟩⟩] := by cbv
  have h : compile source = .error error := by
    rw [compile, hframe]
    simp only [hlex]
    rfl
  exact ⟨h, fault_of_compile hframe h⟩

end Formula

end PolarCurve
