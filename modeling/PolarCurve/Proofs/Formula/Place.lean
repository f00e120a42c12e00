import PolarCurve.Proofs.Formula.Fault
import PolarCurve.Proofs.Formula.Message

namespace PolarCurve

open PieceKind (isSpacing)
open Text

namespace Stretch.Holds

variable {start : Location} {s : Stretch}

lemma exists_fault {fault : LexFault} (h : s.Holds start (.error fault)) :
    ∃ near c far, s.text = near ++ c :: far ∧ isSpacing c = false ∧
      fault.position = (start.advance s.before).offset + size near := by
  cases h with
  | secondPoint whole fraction more _ htext => exact ⟨_, '.', more, htext, rfl, rfl⟩
  | badNumber _ htext => exact ⟨[], '.', [], htext, rfl, rfl⟩
  | strayChar c htext hspacing => exact ⟨[], c, [], htext, hspacing, rfl⟩

end Stretch.Holds

lemma not_cutsPair_of_head {left right : List Char} {c : Char} (h : isSpacing c = false) :
    ¬ Location.CutsPair left (c :: right) := by
  rintro ⟨-, hhead⟩
  cases hhead
  cases h

namespace Formula

lemma append_unframe (source : List Char) :
    (unframe source).1 ++ (unframe source).2 = source.takeWhile isBlank ++ trim source := by
  obtain ⟨-, mark, -, hsplit⟩ := dropRadius_split (bare_trim source)
  have hlength := congrArg List.length hsplit
  rw [List.length_append] at hlength
  have htake : (trim source).take mark.length = mark := by
    conv_lhs => rw [hsplit]
    exact List.take_left
  simp only [unframe]
  rw [hlength, Nat.add_sub_cancel, htake, List.append_assoc, ← hsplit]

lemma not_cutsPair_unframe {source after : List Char}
    (h : source = (unframe source).1 ++ (unframe source).2 ++ after) :
    ¬ Location.CutsPair ((unframe source).1 ++ (unframe source).2) after := by
  rw [append_unframe] at h ⊢
  rintro ⟨hlast, hhead⟩
  rcases List.eq_nil_or_concat' (trim source) with htrim | ⟨body, c, htrim⟩
  · have hblank : ∀ c ∈ trimStart source, isBlank c = true := by
      obtain ⟨blanks, heq, hblanks⟩ := exists_trimEnd_append (trimStart source)
      rw [show trimEnd (trimStart source) = [] from htrim, List.nil_append] at heq
      rwa [heq]
    have hstart : trimStart source = [] := by
      cases hcs : trimStart source with
      | nil => rfl
      | cons c cs =>
        have hfirst := head?_trimStart source c (by simp [hcs])
        rw [hblank c (by simp [hcs])] at hfirst
        cases hfirst
    have hwhole : source.takeWhile isBlank = source := by
      have hsplit := List.takeWhile_append_dropWhile (p := isBlank) (l := source)
      rwa [← trimStart, hstart, List.append_nil] at hsplit
    rw [htrim, hwhole, List.append_nil] at h
    rw [List.self_eq_append_right.mp h] at hhead
    cases hhead
  · have hfinal := (bare_trim source).last c (by simp [htrim])
    rw [htrim, ← List.append_assoc, List.getLast?_concat] at hlast
    cases hlast
    cases hfinal

section Frame

variable {source before body : List Char} (h : Framed source before body)

include h

lemma exists_place_of_scan {ts : List Token} {t : Token}
    (hlex : Token.lex (Location.start.advance before) body = .ok ts)
    (ht : .ok t ∈ Token.scan (Location.start.advance before) body) :
    ∃ left right, source = left ++ right ∧ size left = t.position ∧
      ¬ Location.CutsPair left right := by
  obtain ⟨tokens, hscan, -⟩ := Token.lex_eq_ok_iff.mp hlex
  have hplain := Token.plain_of_scan ht
  rw [hscan, List.mem_map_of_injective fun _ _ => Except.ok.inj] at ht
  obtain ⟨us, vs, htokens⟩ := List.append_of_mem ht
  obtain ⟨left, right, hsite, -, hstands⟩ := exists_site h hscan htokens
  obtain ⟨c, cs, hlexeme⟩ := hplain.head
  obtain ⟨more, rfl⟩ := hstands.lexeme
  refine ⟨left, _, hsite.whole, hsite.size, ?_⟩
  rw [hlexeme, List.cons_append]
  exact not_cutsPair_of_head (hplain.spacing c (hlexeme ▸ List.mem_cons_self))

lemma exists_place_of_lex {fault : LexFault}
    (hlex : Token.lex (Location.start.advance before) body = .error fault) :
    ∃ left right, source = left ++ right ∧ size left = fault.position ∧
      ¬ Location.CutsPair left right := by
  obtain ⟨after, hwhole, -⟩ := h.whole
  obtain ⟨us, items, hscan⟩ := List.append_of_mem (Token.mem_scan_of_lex hlex)
  have hwalk := h.walk
  rw [hscan] at hwalk
  obtain ⟨front, text, rest, rfl, hholds, -⟩ := hwalk.seek h.seam
  obtain ⟨near, c, far, htext, hspacing, hposition⟩ := hholds.exists_fault
  obtain rfl : text = near ++ c :: far := htext
  refine ⟨before ++ front ++ near, c :: (far ++ rest ++ after), by simp [hwhole], ?_,
    not_cutsPair_of_head hspacing⟩
  rw [hposition, offset_start_advance, size_append]

end Frame

theorem exists_place_of_compile {source : String} {error : CompileError}
    (h : compile source = .error error) :
    ∃ left right, source.toList = left ++ right ∧ size left = error.position ∧
      ¬ Location.CutsPair left right := by
  have hframed := framed_unframe source.toList
  rcases refusal_of_compile h with ⟨fault, rfl, hlex⟩ | ⟨ts, refusal, rfl, hlex, hrefusal⟩
  · exact exists_place_of_lex hframed hlex
  · obtain ⟨_, t, _, hposition, -, ht⟩ := exists_blamed hlex hrefusal
    rw [CompileError.position, hposition]
    rcases ht with ht | rfl
    · exact exists_place_of_scan hframed hlex ht
    · obtain ⟨after, hwhole, -⟩ := hframed.whole
      refine ⟨_, after, hwhole, ?_, not_cutsPair_unframe hwhole⟩
      rw [Token.position, Location.advance_offset, offset_start_advance, size_append]

end Formula

end PolarCurve
