import PolarCurve.Proofs.Token.Spelling
import PolarCurve.Proofs.Token.Walk

/-! Lexing spaced lexemes gives them back exactly if no two touch that would run on into each
other. -/

namespace PolarCurve

open PieceKind Text

structure Gap where
  text : List Char
  spacing : ∀ c ∈ text, isSpacing c = true

inductive Lexeme
  | number (text : List Char) (numeral : ∀ c ∈ text, isNumeral c = true)
      (digit : ∃ c ∈ text, c.isDigit = true) (points : text.count '.' ≤ 1)
  | name (first : Char) (more : List Char) (starts : isNameStart first = true)
      (parts : ∀ c ∈ more, isNamePart c = true)
  | mark (mark : Mark)

namespace Lexeme

def text : Lexeme → List Char
  | number text .. => text
  | name first more .. => first :: more
  | mark m => [m.char]

def kind : Lexeme → TokenKind
  | number text .. => .number (Decimal.ofNumeral text).toFloat
  | name first more .. => .name (String.ofList (first :: more))
  | mark m => .mark m

def token (place : Location) (l : Lexeme) : Token := ⟨l.kind, String.ofList l.text, place⟩

def Fuses : Lexeme → Lexeme → Prop
  | number .., number .. => True
  | name .., name .. => True
  | name .., number text .. => ∃ c ∈ text.head?, c.isDigit = true
  | number .., name .. => False
  | number .., mark _ => False
  | name .., mark _ => False
  | mark _, _ => False

def piece : Lexeme → PieceKind
  | number .. => .number
  | name .. => .name
  | mark m => .mark m

lemma ofChar_numeral {c : Char} (h : isNumeral c = true) : PieceKind.ofChar c = .number := by
  rw [PieceKind.ofChar, Piece.not_isSpacing_of_isNumeral h, h]
  rfl

lemma ofChar_nameStart {c : Char} (h : isNameStart c = true) : PieceKind.ofChar c = .name := by
  have hpart : isNamePart c = true := by simp [isNamePart, h]
  rw [PieceKind.ofChar, Piece.not_isSpacing_of_isNamePart hpart, not_isNumeral_of_isNameStart h, h]
  rfl

lemma exists_run (l : Lexeme) : ∃ c cs, l.text = c :: cs ∧ PieceKind.ofChar c = l.piece ∧
    ∀ d ∈ cs, l.piece.continues d = true := by
  cases l with
  | number text numeral digit points =>
    obtain ⟨d, hd, -⟩ := digit
    obtain ⟨c, cs, rfl⟩ := List.exists_cons_of_ne_nil (List.ne_nil_of_mem hd)
    exact ⟨c, cs, rfl, ofChar_numeral (numeral c List.mem_cons_self),
      fun e he => numeral e (List.mem_cons_of_mem _ he)⟩
  | name first more starts parts => exact ⟨first, more, rfl, ofChar_nameStart starts, parts⟩
  | mark m => exact ⟨m.char, [], rfl, by cases m <;> rfl, by simp⟩

lemma not_isSpacing_of_mem {l : Lexeme} {c : Char} (h : c ∈ l.text) : isSpacing c = false := by
  cases l with
  | number text numeral => exact Piece.not_isSpacing_of_isNumeral (numeral c h)
  | name first more starts parts =>
    apply Piece.not_isSpacing_of_isNamePart
    rcases List.mem_cons.mp h with rfl | h
    · simp [isNamePart, starts]
    · exact parts c h
  | mark m =>
    rw [List.mem_singleton.mp h]
    cases m <;> rfl

lemma continues_of_isSpacing (l : Lexeme) {c : Char} (h : isSpacing c = true) :
    l.piece.continues c = false := by
  rw [Bool.eq_false_iff]
  intro hc
  cases l with
  | number =>
    rw [Piece.not_isSpacing_of_isNumeral hc] at h
    cases h
  | name =>
    rw [Piece.not_isSpacing_of_isNamePart hc] at h
    cases h
  | mark => cases hc

lemma isNamePart_of_isNumeral {c : Char} (h : isNumeral c = true) :
    isNamePart c = true ↔ c.isDigit = true := by
  rw [isNamePart, Bool.or_eq_true]
  refine ⟨fun hpart => hpart.resolve_left fun hstart => ?_, Or.inr⟩
  rw [not_isNumeral_of_isNameStart hstart] at h
  cases h

lemma fuses_iff (l l' : Lexeme) :
    l.Fuses l' ↔ ∃ c ∈ l'.text.head?, l.piece.continues c = true := by
  cases l with
  | mark m => simp [Fuses, piece, continues]
  | number =>
    cases l' with
    | number text numeral digit =>
      obtain ⟨d, hd, -⟩ := digit
      obtain ⟨c, cs, rfl⟩ := List.exists_cons_of_ne_nil (List.ne_nil_of_mem hd)
      simp [Fuses, Lexeme.text, piece, continues, numeral c List.mem_cons_self]
    | name first more starts =>
      simp [Fuses, Lexeme.text, piece, continues, not_isNumeral_of_isNameStart starts]
    | mark m => cases m <;> simp [Fuses, Lexeme.text, piece, continues] <;> rfl
  | name =>
    cases l' with
    | number text numeral =>
      simp only [Fuses, Lexeme.text, piece, continues]
      refine exists_congr fun c => and_congr_right fun hc => ?_
      exact (isNamePart_of_isNumeral (numeral c (List.mem_of_mem_head? hc))).symm
    | name first more starts => simp [Fuses, Lexeme.text, piece, continues, isNamePart, starts]
    | mark m => cases m <;> simp [Fuses, Lexeme.text, piece, continues] <;> rfl

end Lexeme

namespace Piece

lemma read_lexeme (l : Lexeme) (place : Location) :
    read place ⟨l.piece, l.text⟩ = some (.ok (l.token place)) := by
  cases l with
  | number text numeral digit points =>
    have hnumber : readNumber place text = .ok (.number (Decimal.ofNumeral text).toFloat) := by
      rw [readNumber, beforeSecondPoint?_of_count points]
      simp only [List.any_eq_true.mpr digit, if_true]
    simp only [Lexeme.piece, Lexeme.text, read, hnumber]
    rfl
  | name => rfl
  | mark m => rfl

lemma readAll_lexeme (l : Lexeme) (place : Location) {rest : List Char}
    (h : ∀ c ∈ rest.head?, l.piece.continues c = false) :
    readAll place (split (l.text ++ rest)) =
      .ok (l.token place) :: readAll (place.advance l.text) (split rest) := by
  obtain ⟨c, cs, htext, hkind, hcs⟩ := l.exists_run
  have hread := read_lexeme l place
  rw [htext] at hread ⊢
  rw [List.cons_append, split_run hkind hcs h, readAll, hread]
  rfl

lemma readAll_gap (gap : Gap) (place : Location) {rest : List Char}
    (h : ∀ c ∈ rest.head?, isSpacing c = false) :
    readAll place (split (gap.text ++ rest)) =
      readAll (place.advance gap.text) (split rest) := by
  obtain ⟨text, spacing⟩ := gap
  cases text with
  | nil => rfl
  | cons c cs =>
    have hkind : PieceKind.ofChar c = .blank := by
      rw [PieceKind.ofChar, if_pos (spacing c List.mem_cons_self)]
    rw [List.cons_append,
      split_run hkind (fun d hd => spacing d (List.mem_cons_of_mem _ hd)) h, readAll]
    rfl

lemma lexeme_of_read {p : Piece} {place : Location} {t : Token} (h : read place p = some (.ok t)) :
    t.lexeme = String.ofList p.text := by
  obtain ⟨kind, cs⟩ := p
  cases kind with
  | blank => cases h
  | stray => cases h
  | name =>
    cases h
    rfl
  | mark =>
    cases h
    rfl
  | number =>
    rw [read] at h
    cases hnumber : readNumber place cs with
    | error fault =>
      rw [hnumber] at h
      cases h
    | ok k =>
      rw [hnumber] at h
      cases h
      rfl

lemma readAll_fused (l : Lexeme) (place : Location) {rest : List Char}
    (h : ∃ c ∈ rest.head?, l.piece.continues c = true) (items : List (Except LexFault Token)) :
    readAll place (split (l.text ++ rest)) ≠ .ok (l.token place) :: items := by
  obtain ⟨c, cs, htext, hkind, hcs⟩ := l.exists_run
  obtain ⟨d, hd, hcontinues⟩ := h
  obtain ⟨ds, rfl⟩ := List.head?_eq_some_iff.mp hd
  obtain ⟨more, hmore⟩ : ∃ more, (c :: (cs ++ d :: ds).takeWhile l.piece.continues) =
      l.text ++ d :: more := by
    rw [List.takeWhile_append_of_pos hcs, List.takeWhile_cons_of_pos hcontinues, htext]
    exact ⟨_, rfl⟩
  intro hread
  rw [htext, List.cons_append, split_cons, hkind, hmore, readAll] at hread
  cases hitem : read place ⟨l.piece, l.text ++ d :: more⟩ with
  | none =>
    cases l with
    | mark => cases hcontinues
    | number => cases hitem
    | name => cases hitem
  | some item =>
    rw [hitem] at hread
    obtain ⟨rfl, -⟩ := List.cons.inj hread
    have hlexeme := congrArg String.toList (lexeme_of_read hitem)
    simp [Lexeme.token] at hlexeme

end Piece

structure Spaced where
  parts : List (Gap × Lexeme)
  last : Gap

namespace Spaced

def text (s : Spaced) : List Char :=
  (s.parts.flatMap fun (gap, l) => gap.text ++ l.text) ++ s.last.text

def lexemes (s : Spaced) : List Lexeme := s.parts.map Prod.snd

def Apart (s : Spaced) : Prop :=
  s.parts.IsChain fun (_, l) (gap, l') => l.Fuses l' → gap.text ≠ []

def tokens (start : Location) (before : List Char) : List (Gap × Lexeme) → List Token
  | [] => []
  | (gap, l) :: parts =>
    l.token (start.advance (before ++ gap.text)) ::
      tokens start (before ++ gap.text ++ l.text) parts

def row (start : Location) (s : Spaced) : List Token :=
  tokens start [] s.parts ++ [⟨.ending, "", start.advance s.text⟩]

def offsets (bytes : Nat) (last : Gap) : List (Gap × Lexeme) → List Nat
  | [] => [bytes + size last.text]
  | (gap, l) :: parts =>
    (bytes + size gap.text) :: offsets (bytes + size gap.text + size l.text) last parts

variable (gap last : Gap) (l : Lexeme) (parts : List (Gap × Lexeme))

lemma text_cons : text ⟨(gap, l) :: parts, last⟩ = gap.text ++ (l.text ++ text ⟨parts, last⟩) := by
  simp [text]

lemma apart_cons : Apart ⟨(gap, l) :: parts, last⟩ ↔
    (∀ part ∈ parts.head?, l.Fuses part.2 → part.1.text ≠ []) ∧ Apart ⟨parts, last⟩ :=
  List.isChain_cons

lemma continues_text_iff : (∀ c ∈ (text ⟨parts, last⟩).head?, l.piece.continues c = false) ↔
    ∀ part ∈ parts.head?, l.Fuses part.2 → part.1.text ≠ [] := by
  have hspaced : ∀ (gap : Gap) (rest : List Char), gap.text ≠ [] →
      ∀ c ∈ (gap.text ++ rest).head?, l.piece.continues c = false := by
    intro gap rest hne c hc
    obtain ⟨d, ds, hgap⟩ := List.exists_cons_of_ne_nil hne
    rw [hgap] at hc
    cases hc
    exact l.continues_of_isSpacing (gap.spacing c (by simp [hgap]))
  cases parts with
  | nil =>
    refine ⟨by simp, fun _ => ?_⟩
    by_cases hlast : last.text = []
    · simp [text, hlast]
    · have htext : text ⟨[], last⟩ = last.text ++ [] := by simp [text]
      rw [htext]
      exact hspaced last [] hlast
  | cons part parts =>
    obtain ⟨gap, l'⟩ := part
    rw [text_cons]
    by_cases hgap : gap.text = []
    · obtain ⟨c, cs, htext, -⟩ := l'.exists_run
      simp [hgap, htext, l.fuses_iff]
    · refine ⟨fun _ => by simpa using fun _ => hgap, fun _ => hspaced gap _ hgap⟩

lemma not_isSpacing_text : ∀ c ∈ (l.text ++ text ⟨parts, last⟩).head?, isSpacing c = false := by
  obtain ⟨c, cs, htext, -⟩ := l.exists_run
  intro d hd
  rw [htext] at hd
  cases hd
  exact Lexeme.not_isSpacing_of_mem (l := l) (by simp [htext])

end Spaced

namespace Location

lemma advance_gap (start : Location) {before : List Char}
    (h : ∀ c ∈ before.getLast?, isSpacing c = false) (cs : List Char) :
    (start.advance before).advance cs = start.advance (before ++ cs) := by
  refine (start.advance_append ?_).symm
  rintro ⟨hreturn, -⟩
  cases h '\r' hreturn

lemma advance_lexeme (start : Location) (before : List Char) (l : Lexeme) :
    (start.advance before).advance l.text = start.advance (before ++ l.text) := by
  refine (start.advance_append ?_).symm
  rintro ⟨-, hfeed⟩
  cases Lexeme.not_isSpacing_of_mem (List.mem_of_mem_head? hfeed)

end Location

namespace Spaced

lemma readAll_text_iff (start : Location) (last : Gap) (parts : List (Gap × Lexeme))
    (before : List Char) (h : ∀ c ∈ before.getLast?, isSpacing c = false) :
    Piece.readAll (start.advance before) (Piece.split (text ⟨parts, last⟩)) =
      (tokens start before parts).map .ok ↔ Apart ⟨parts, last⟩ := by
  induction parts generalizing before with
  | nil =>
    have hend : ∀ c ∈ ([] : List Char).head?, isSpacing c = false := by simp
    have hread := Piece.readAll_gap last (start.advance before) hend
    rw [List.append_nil, Piece.split] at hread
    simp only [text, List.flatMap_nil, List.nil_append, hread]
    exact ⟨fun _ => List.isChain_nil, fun _ => rfl⟩
  | cons part parts ih =>
    obtain ⟨gap, l⟩ := part
    have hlast : ∀ c ∈ (before ++ gap.text ++ l.text).getLast?, isSpacing c = false := by
      obtain ⟨c, cs, htext, -⟩ := l.exists_run
      intro d hd
      rw [List.getLast?_append_of_ne_nil _ (by simp [htext])] at hd
      exact Lexeme.not_isSpacing_of_mem (List.mem_of_getLast? hd)
    rw [text_cons, Piece.readAll_gap gap _ (not_isSpacing_text last l parts),
      start.advance_gap h, tokens, List.map_cons, apart_cons,
      ← continues_text_iff last]
    by_cases hends : ∀ c ∈ (text ⟨parts, last⟩).head?, l.piece.continues c = false
    · rw [Piece.readAll_lexeme l _ hends, List.cons.injEq, start.advance_lexeme, ih _ hlast]
      exact ⟨fun h => ⟨hends, h.2⟩, fun h => ⟨rfl, h.2⟩⟩
    · have hfused : ∃ c ∈ (text ⟨parts, last⟩).head?, l.piece.continues c = true := by
        simpa using hends
      simp only [hends, false_and, iff_false]
      exact Piece.readAll_fused l _ hfused _

lemma lex_text_iff (start : Location) (s : Spaced) :
    Token.lex start s.text = .ok (s.row start) ↔ s.Apart := by
  have hread := readAll_text_iff start s.last s.parts [] (by simp)
  rw [Token.lex_eq_ok_iff, ← hread]
  constructor
  · rintro ⟨body, hscan, hrow⟩
    obtain ⟨rfl, -⟩ := List.append_inj' hrow rfl
    exact hscan
  · exact fun hscan => ⟨_, hscan, rfl⟩

lemma kinds_tokens (start : Location) (before : List Char) (parts : List (Gap × Lexeme)) :
    (tokens start before parts).map (fun t => (t.kind, t.lexeme)) =
      parts.map fun part => (part.2.kind, String.ofList part.2.text) := by
  induction parts generalizing before with
  | nil => rfl
  | cons part parts ih =>
    rw [tokens, List.map_cons, List.map_cons, ih]
    rfl

lemma positions_tokens (start : Location) (last : Gap) (parts : List (Gap × Lexeme))
    (before : List Char) : (tokens start before parts).map Token.position ++
      [start.offset + size (before ++ text ⟨parts, last⟩)] =
      offsets (start.offset + size before) last parts := by
  induction parts generalizing before with
  | nil => simp [tokens, offsets, text, size_append, Nat.add_assoc]
  | cons part parts ih =>
    obtain ⟨gap, l⟩ := part
    have hnext := ih (before ++ gap.text ++ l.text)
    rw [text_cons, tokens, offsets, List.map_cons, List.cons_append]
    simp only [Token.position, Lexeme.token, Location.advance_offset, size_append,
      Nat.add_assoc] at hnext ⊢
    rw [hnext]

lemma positions_row (start : Location) (s : Spaced) :
    (s.row start).map Token.position = offsets start.offset s.last s.parts := by
  have hpositions := positions_tokens start s.last s.parts []
  simp only [List.nil_append, size, Nat.add_zero] at hpositions
  rw [← hpositions, row, List.map_append, List.map_singleton, Token.position,
    Location.advance_offset]

end Spaced

end PolarCurve
