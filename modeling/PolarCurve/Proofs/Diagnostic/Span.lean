import PolarCurve.Proofs.Diagnostic

namespace PolarCurve

open Text

def Span.text? (span : Span) (source : List Char) : Option (List Char) :=
  (cut span.last source).bind fun (upTo, _) => (cut span.first upTo).map Prod.snd

lemma text?_spanAt (left right : List Char) :
    (Span.at (left ++ right) (size left)).text? (left ++ right) = some (right.take 1) := by
  have hfirst : cut (size left) (left ++ right) = some (left, right) := cut_size_append left right
  rw [Span.at, hfirst]
  cases right with
  | nil =>
    have hleft : cut (size left) left = some (left, []) := by simpa using cut_size_append left []
    simp [Span.text?, hleft]
  | cons c cs =>
    have hsize : size left + c.utf8Size = size (left ++ [c]) := by simp [size_append, size]
    have hlast : cut (size (left ++ [c])) (left ++ c :: cs) = some (left ++ [c], cs) := by
      simpa using cut_size_append (left ++ [c]) cs
    simp only [Span.text?, Option.getD_some, hsize, hlast, Option.bind_some, cut_size_append]
    rfl

/-- What stands on either side of the place of a token. -/
structure Token.Placed (t : Token) (source expression left right : List Char) : Prop where
  whole : source = left ++ right
  location : t.location = Location.start.advance left
  lexeme : t.kind ≠ .ending → ∃ c cs, t.lexeme.toList = c :: cs ∧ right.take 1 = [c]
  ending : t.kind = .ending → left = expression

lemma Token.Placed.position {t : Token} {source expression left right : List Char}
    (h : t.Placed source expression left right) : t.position = size left := by
  rw [Token.position, h.location, Formula.offset_start_advance]

namespace Formula

section Frame

variable {source before body : List Char} (h : Framed source before body)

include h

lemma Framed.placed_of_scan {t : Token}
    (ht : .ok t ∈ Token.scan (Location.start.advance before) body) :
    ∃ left right, t.Placed source (before ++ body) left right := by
  obtain ⟨us, items, hscan⟩ := List.append_of_mem ht
  have hwalk := h.walk
  rw [hscan] at hwalk
  obtain ⟨front, text, rest, rfl, hholds, -⟩ := hwalk.seek h.seam
  obtain ⟨after, hwhole, -⟩ := h.whole
  obtain ⟨c, cs, rfl⟩ : ∃ c cs, text = c :: cs := hholds.exists_head
  obtain ⟨hlexeme, hlocation, hkind, -⟩ := hholds.token
  exact ⟨before ++ front, c :: cs ++ rest ++ after, by simp [hwhole], hlocation,
    fun _ => ⟨c, cs, hlexeme, rfl⟩, fun hending => (hkind hending).elim⟩

lemma Framed.placed_ending (lexeme : String) :
    ∃ left right, (⟨.ending, lexeme, (Location.start.advance before).advance body⟩ : Token).Placed
      source (before ++ body) left right := by
  obtain ⟨after, hwhole, -⟩ := h.whole
  have hcut : ¬ Location.CutsPair before body := by
    rintro ⟨-, hfeed⟩
    cases h.bare.first '\n' hfeed
  exact ⟨before ++ body, after, hwhole, (Location.start.advance_append hcut).symm,
    fun hkind => (hkind rfl).elim, fun _ => rfl⟩

lemma Framed.placed_of_lex {ts : List Token} {t : Token}
    (hlex : Token.lex (Location.start.advance before) body = .ok ts) (ht : t ∈ ts) :
    ∃ left right, t.Placed source (before ++ body) left right := by
  obtain ⟨tokens, hscan, rfl⟩ := Token.lex_eq_ok_iff.mp hlex
  rcases List.mem_append.mp ht with ht | ht
  · apply h.placed_of_scan
    rw [hscan]
    exact List.mem_map_of_mem ht
  · rw [List.mem_singleton.mp ht]
    exact h.placed_ending ""

end Frame

end Formula

namespace Diagnostic

theorem span_of_lex {source : String} {before body : List Char} {ts : List Token} {t : Token}
    (hframe : Formula.unframe source.toList = (before, body))
    (hlex : Token.lex (Location.start.advance before) body = .ok ts) (ht : t ∈ ts)
    (message : String) :
    let span := (atPosition source t.position message).span
    span.first = t.position ∧
      (t.location.line < 2 ^ 32 → span.line = t.location.line) ∧
      (t.location.column < 2 ^ 32 → span.column = t.location.column) ∧
      (t.kind ≠ .ending → ∃ c cs, t.lexeme.toList = c :: cs ∧
        span.text? source.toList = some [c]) ∧
      (t.kind = .ending → span.text? source.toList =
        some ((source.toList.drop (before ++ body).length).take 1)) := by
  intro span
  have hframed := Formula.framed_unframe source.toList
  rw [hframe] at hframed
  obtain ⟨left, right, hplaced⟩ := hframed.placed_of_lex hlex ht
  have hspan : span = Span.at (left ++ right) (size left) := by
    rw [← hplaced.whole, ← hplaced.position]
    rfl
  have htext : span.text? source.toList = some (right.take 1) := by
    rw [hspan, hplaced.whole, text?_spanAt]
  obtain ⟨last, hat⟩ := spanAt_append left right
  rw [hat] at hspan
  refine ⟨?_, fun hline => ?_, fun hcolumn => ?_, fun hkind => ?_, fun hkind => ?_⟩
  · rw [hspan, hplaced.position]
  · rw [hplaced.location] at hline ⊢
    rw [hspan, Nat.mod_eq_of_lt hline]
  · rw [hplaced.location] at hcolumn ⊢
    rw [hspan, Nat.mod_eq_of_lt hcolumn]
  · obtain ⟨c, cs, hlexeme, hright⟩ := hplaced.lexeme hkind
    exact ⟨c, cs, hlexeme, by rw [htext, hright]⟩
  · rw [htext, hplaced.whole, ← hplaced.ending hkind, List.drop_left]

theorem span_of_lex_second_line :
    let source := "r =\r\n pi\n"
    let ts : List Token := [⟨.name "pi", "pi", ⟨2, 2, 6⟩⟩, ⟨.ending, "", ⟨2, 4, 8⟩⟩]
    Formula.unframe source.toList = ("r =\r\n ".toList, "pi".toList) ∧
      Token.lex (Location.start.advance "r =\r\n ".toList) "pi".toList = .ok ts ∧
      (atPosition source 6 "").span.text? source.toList = some ['p'] ∧
      (atPosition source 8 "").span.text? source.toList = some ['\n'] ∧
      (atPosition source 8 "").span.line = 2 := by
  intro source ts
  have hframe : Formula.unframe source.toList = ("r =\r\n ".toList, "pi".toList) := by cbv
  have hlex : Token.lex (Location.start.advance "r =\r\n ".toList) "pi".toList = .ok ts := by cbv
  obtain ⟨-, -, -, hname, -⟩ := span_of_lex hframe hlex (t := ts[0]) (by simp [ts]) ""
  obtain ⟨-, hline, -, -, hending⟩ := span_of_lex hframe hlex (t := ts[1]) (by simp [ts]) ""
  obtain ⟨c, cs, hlexeme, htext⟩ := hname (by simp [ts])
  obtain rfl : 'p' = c := by simpa [ts] using congrArg List.head? hlexeme
  exact ⟨hframe, hlex, htext, (hending rfl).trans (by decide), hline (by decide)⟩

end Diagnostic

end PolarCurve
