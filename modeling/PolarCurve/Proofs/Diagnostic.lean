import PolarCurve.Diagnostic
import PolarCurve.Proofs.Formula.Compile
import PolarCurve.Proofs.Formula.Place
import PolarCurve.Proofs.Text.Lines

/-! The picture of a fault shows its line, with the first caret under the fault, as long as every
carriage return before it stands in front of a line feed. -/

namespace PolarCurve

open Text

namespace Text

lemma cut_size_append (left right : List Char) :
    cut (size left) (left ++ right) = some (left, right) := by
  induction left with
  | nil => cases right <;> rfl
  | cons c left ih =>
    have hpos := c.utf8Size_pos
    obtain ⟨n, hn⟩ : ∃ n, size (c :: left) = n + 1 := ⟨c.utf8Size + size left - 1, by
      rw [size]
      omega⟩
    have hle : c.utf8Size ≤ n + 1 := by
      rw [← hn, size]
      omega
    have hrest : n + 1 - c.utf8Size = size left := by
      rw [← hn, size]
      omega
    rw [hn, List.cons_append, cut, if_pos hle, hrest, ih]
    rfl

end Text

namespace Diagnostic

def gutter (number : Nat) : List Char := List.replicate (toString number).length ' '

def margin (number : Nat) : List Char := (toString number).toList ++ [' ', '|', ' ']

def rows (d : Diagnostic) (source : String) : List (List Char) :=
  let number := max d.span.line 1
  let column := max d.span.column 1
  ["error: ".toList ++ d.message.toList,
    gutter number ++ ("--> " ++ toString d.span.line ++ ":" ++ toString d.span.column).toList,
    gutter number ++ [' ', '|'],
    margin number ++ (lines source.toList).getD (number - 1) [],
    gutter number ++ [' ', '|', ' '] ++ List.replicate (column - 1) ' ' ++
      List.replicate (caretCount source.toList d.span) '^'] ++
  d.help.toList.map fun help => gutter number ++ (" = help: " ++ help).toList

lemma toList_render (d : Diagnostic) (source : String) :
    (d.render source).toList = ofRows (d.rows source) := by
  cases hhelp : d.help with
  | none => simp [render, rows, ofRows, gutter, margin, spaces, hhelp]
  | some help => simp [render, rows, ofRows, gutter, margin, spaces, hhelp]

lemma isAlpha_head_gutter (number : Nat) {cs : List Char} (h : ∀ c ∈ cs.head?, c.isAlpha = false) :
    ∀ c ∈ (gutter number ++ cs).head?, c.isAlpha = false := by
  intro c hc
  rw [gutter] at hc
  cases hlength : (toString number).length with
  | zero =>
    rw [hlength] at hc
    exact h c hc
  | succ n =>
    rw [hlength] at hc
    cases hc
    rfl

lemma isAlpha_head_margin (number : Nat) (cs : List Char) :
    ∀ c ∈ (margin number ++ cs).head?, c.isAlpha = false := by
  intro c hc
  cases hdigits : (toString number).toList with
  | nil =>
    rw [margin, hdigits] at hc
    cases hc
    rfl
  | cons d ds =>
    rw [margin, hdigits] at hc
    obtain rfl : d = c := Option.some.inj hc
    have hmem : d ∈ (toString number).toList := by
      rw [hdigits]
      exact List.mem_cons_self
    have hdigit := isDigit_toString hmem
    rw [Bool.eq_false_iff]
    intro halpha
    have hname : PieceKind.isNameStart d = true := by simp [PieceKind.isNameStart, halpha]
    have hnumeral := not_isNumeral_of_isNameStart hname
    simp [PieceKind.isNumeral, hdigit] at hnumeral

lemma exists_rows_eq (d : Diagnostic) (source : String) : ∃ more,
    d.rows source = ("error: ".toList ++ d.message.toList) :: more ∧
      ∀ row ∈ more, ∀ c ∈ row.head?, c.isAlpha = false := by
  refine ⟨_, rfl, fun row hrow => ?_⟩
  simp only [List.append_eq, List.mem_append, List.mem_cons, List.not_mem_nil, or_false] at hrow
  rcases hrow with (rfl | rfl | rfl | rfl) | hrow
  · exact isAlpha_head_gutter _ (by simp)
  · exact isAlpha_head_gutter _ (by simp)
  · exact isAlpha_head_margin _ _
  · rw [List.append_assoc, List.append_assoc]
    exact isAlpha_head_gutter _ (by simp)
  · obtain ⟨help, -, rfl⟩ := List.mem_map.mp hrow
    exact isAlpha_head_gutter _ (by simp)

lemma rows_line (d : Diagnostic) (source : String) : (d.rows source)[3]? =
    some (margin (max d.span.line 1) ++ (lines source.toList).getD (max d.span.line 1 - 1) []) :=
  rfl

lemma margin_inj {m n : Nat} {as bs : List Char} (h : margin m ++ as = margin n ++ bs) : m = n := by
  have hdigits : ∀ (k : Nat) (cs : List Char),
      (margin k ++ cs).takeWhile Char.isDigit = (toString k).toList := by
    intro k cs
    rw [margin, List.append_assoc, List.takeWhile_append_of_pos fun c => isDigit_toString]
    exact List.append_nil _
  have htexts : (toString m).toList = (toString n).toList := by rw [← hdigits m as, h, hdigits n bs]
  exact Nat.repr_inj.mp (String.toList_inj.mp htexts)

lemma caretCount_pos (source : List Char) (span : Span) : 0 < caretCount source span := by
  rw [caretCount]
  split
  · exact Nat.one_pos
  · split
    · exact Nat.one_pos
    · exact lt_max_of_lt_right Nat.one_pos

lemma idxOf_caret {cs : List Char} (h : '^' ∉ cs) {n : Nat} (hn : 0 < n) :
    '^' ∈ cs ++ List.replicate n '^' ∧ (cs ++ List.replicate n '^').idxOf '^' = cs.length := by
  obtain ⟨n, rfl⟩ := Nat.exists_eq_add_one.mpr hn
  rw [List.idxOf_append_of_notMem h]
  simp [List.replicate_succ]

lemma oneLine_lexHelp (fault : LexFault) : OneLine (lexHelp fault) := by
  cases fault <;> simp [OneLine, lexHelp]

lemma oneLine_parseHelp? {fault : ParseFault} {help : String} (h : help ∈ parseHelp? fault) :
    OneLine help := by
  cases fault with
  | unexpected text =>
    rw [parseHelp?] at h
    split at h
    · cases h
      simp [OneLine]
    · split at h
      · cases h
        simp [OneLine]
      · cases h
  | call fault =>
    cases fault with
    | unknownFunction =>
      cases h
      simp [OneLine, Builtin.names, Builtin.all, Builtin.name]
    | wrongArity =>
      cases h
      simp [OneLine]
  | _ =>
    cases h
    simp [OneLine]

lemma ofError_eq (error : CompileError) (source : String) : ∃ help, ofError error source =
    ⟨error.message, Span.at source.toList error.position, help⟩ ∧ ∀ s ∈ help, OneLine s := by
  cases error with
  | lex fault =>
    refine ⟨some (lexHelp fault), rfl, ?_⟩
    rintro s ⟨⟩
    exact oneLine_lexHelp fault
  | parse error =>
    refine ⟨parseHelp? error.fault, ?_, fun s => oneLine_parseHelp?⟩
    rw [ofError]
    cases parseHelp? error.fault <;> rfl

lemma spanAt_append (left right : List Char) : ∃ last, Span.at (left ++ right) (size left) =
    ⟨size left, last, (Location.start.advance left).line % 2 ^ 32,
      (Location.start.advance left).column % 2 ^ 32⟩ := by
  rw [Span.at, cut_size_append]
  exact ⟨_, rfl⟩

lemma feed_not_mem_gutter (number : Nat) : '\n' ∉ gutter number := by
  intro hmem
  cases List.eq_of_mem_replicate hmem

lemma feed_not_mem_line (cs : List Char) (index : Nat) : '\n' ∉ (lines cs).getD index [] := by
  rw [List.getD_eq_getElem?_getD]
  cases hget : (lines cs)[index]? with
  | none => simp
  | some line => exact feed_not_mem_lines (List.mem_of_getElem? hget)

lemma feed_not_mem_rows {d : Diagnostic} (hmessage : OneLine d.message)
    (hhelp : ∀ s ∈ d.help, OneLine s) (source : String) :
    ∀ row ∈ d.rows source, '\n' ∉ row := by
  have hplace : OneLine ("--> " ++ toString d.span.line ++ ":" ++ toString d.span.column) := by
    rw [oneLine_append, oneLine_append, oneLine_append]
    exact ⟨⟨⟨by simp [OneLine], oneLine_toString _⟩, by simp [OneLine]⟩, oneLine_toString _⟩
  intro row hrow
  rw [rows, List.mem_append] at hrow
  rcases hrow with hrow | hrow
  · simp only [List.mem_cons, List.not_mem_nil, or_false] at hrow
    rcases hrow with rfl | rfl | rfl | rfl | rfl
    · rw [List.mem_append, not_or]
      exact ⟨by simp, hmessage⟩
    · rw [List.mem_append, not_or]
      exact ⟨feed_not_mem_gutter _, hplace⟩
    · simp [feed_not_mem_gutter]
    · rw [margin, List.mem_append, List.mem_append, not_or, not_or]
      exact ⟨⟨oneLine_toString _, by simp⟩, feed_not_mem_line _ _⟩
    · simp [feed_not_mem_gutter]
  · obtain ⟨help, hmem, rfl⟩ := List.mem_map.mp hrow
    have hone := hhelp help (Option.mem_toList.mp hmem)
    rw [List.mem_append, not_or]
    exact ⟨feed_not_mem_gutter _, oneLine_append.mpr ⟨by simp [OneLine], hone⟩⟩

/-- Rows that show a line under its number, and the first caret under the place that cuts the
line. -/
structure Points (rows : List (List Char)) (number : Nat) (front back : List Char) : Prop where
  line : rows[3]? = some (margin number ++ front ++ back)
  caret : ∃ row, rows[4]? = some row ∧ '^' ∈ row ∧ row.idxOf '^' = (margin number ++ front).length

section Place

variable {d : Diagnostic} {source : String} {left right front back : List Char}
variable (hline : d.span.line = (Location.start.advance left).line)
variable (hsource : source.toList = left ++ right) (hhosts : Hosts left right front back)

include hline

lemma loneReturns_of_points (h : Points (d.rows source) (left.count '\n' + 1) front back) :
    loneReturns left = 0 := by
  have hrows := h.line.symm.trans (rows_line d source)
  rw [Option.some_inj, List.append_assoc] at hrows
  have hnumber := margin_inj hrows
  rw [hline, Location.line_advance] at hnumber
  simp only [Location.start] at hnumber
  omega

include hsource hhosts

lemma points_of_loneReturns (hcolumn : d.span.column = (Location.start.advance left).column)
    (h : loneReturns left = 0) : Points (d.rows source) (left.count '\n' + 1) front back := by
  obtain ⟨above, rfl, hfront, habove⟩ := hhosts.front
  have hnumber : max d.span.line 1 = (above ++ front).count '\n' + 1 := by
    rw [hline, Location.line_advance, h]
    simp only [Location.start]
    omega
  have hindex : max d.span.column 1 - 1 = front.length := by
    rw [hcolumn, Location.column_advance habove hfront h]
    omega
  constructor
  · rw [rows_line, hnumber, hsource, Nat.add_sub_cancel, hhosts.line, List.append_assoc]
  · refine ⟨_, rfl, ?_⟩
    rw [hnumber, hindex]
    have hnone : '^' ∉ gutter ((above ++ front).count '\n' + 1) ++ [' ', '|', ' '] ++
        List.replicate front.length ' ' := by
      simp [gutter]
    obtain ⟨hmem, hfirst⟩ := idxOf_caret hnone (caretCount_pos source.toList d.span)
    refine ⟨hmem, hfirst.trans ?_⟩
    simp only [gutter, margin, List.length_append, List.length_replicate, String.length_toList]

end Place

/-- A carriage return by itself ends a line of the place but not of the text, and so the picture
shows the line of the fault, with the first caret under the fault, exactly if there is none before
the fault. -/
theorem render_of_compile {source : String} {error : CompileError}
    (h : Formula.compile source = .error error) :
    ∃ left right front back rows, source.toList = left ++ right ∧ size left = error.position ∧
      Hosts left right front back ∧
      ((ofError error source).render source).toList = ofRows rows ∧
      (∀ row ∈ rows, '\n' ∉ row) ∧
      rows.length = (if (ofError error source).help.isSome then 6 else 5) ∧
      ((Location.start.advance left).line < 2 ^ 32 →
        (Location.start.advance left).column < 2 ^ 32 →
        (Points rows (left.count '\n' + 1) front back ↔ loneReturns left = 0)) := by
  obtain ⟨left, right, hsource, hposition, hcut⟩ := Formula.exists_place_of_compile h
  obtain ⟨front, back, hhosts⟩ := exists_hosts hcut
  obtain ⟨help, hdiagnostic, hhelp⟩ := ofError_eq error source
  obtain ⟨last, hspan⟩ := spanAt_append left right
  rw [hsource, ← hposition, hspan] at hdiagnostic
  refine ⟨left, right, front, back, (ofError error source).rows source, hsource, hposition, hhosts,
    toList_render _ _, ?_, ?_, fun hline hcolumn => ⟨?_, ?_⟩⟩
  · rw [hdiagnostic]
    exact feed_not_mem_rows (Formula.oneLine_of_compile h) hhelp source
  · rw [hdiagnostic]
    cases help <;> rfl
  · rw [hdiagnostic]
    exact loneReturns_of_points (Nat.mod_eq_of_lt hline)
  · rw [hdiagnostic]
    exact points_of_loneReturns (Nat.mod_eq_of_lt hline) hsource hhosts (Nat.mod_eq_of_lt hcolumn)

theorem render_of_compile_second_line :
    let source := "theta +\n  pi pi"
    let error : CompileError := .parse ⟨.trailing, 13⟩
    Formula.compile source = .error error ∧ ∃ front back rows,
      Hosts "theta +\n  pi ".toList "pi".toList front back ∧
      ((ofError error source).render source).toList = ofRows rows ∧
      rows.length = 6 ∧ Points rows 2 front back := by
  intro source error
  have htrimmed : Trimmed "theta +\n  pi pi".toList :=
    ⟨⟨'t', "heta +\n  pi pi".toList, rfl, by decide, by decide⟩, "theta +\n  pi p".toList, 'i', rfl,
      by decide⟩
  have hlex : Token.lex Location.start source.toList =
      .ok [⟨.name "theta", "theta", ⟨1, 1, 0⟩⟩, ⟨.mark .plus, "+", ⟨1, 7, 6⟩⟩,
        ⟨.name "pi", "pi", ⟨2, 3, 10⟩⟩, ⟨.name "pi", "pi", ⟨2, 6, 13⟩⟩,
        ⟨.ending, "", ⟨2, 8, 15⟩⟩] := by cbv
  have h : Formula.compile source = .error error := Formula.compile_eq_error htrimmed hlex rfl
  obtain ⟨left, right, front, back, rows, hsource, hposition, hhosts, htext, -, hlength, hpoints⟩ :=
    render_of_compile h
  have hcut := cut_size_append left right
  rw [← hsource, hposition] at hcut
  have hparts : cut 13 source.toList = some ("theta +\n  pi ".toList, "pi".toList) := by decide
  obtain ⟨rfl, rfl⟩ := Prod.mk.inj (Option.some_inj.mp (hparts.symm.trans hcut))
  exact ⟨h, front, back, rows, hhosts, htext, hlength,
    (hpoints (by decide) (by decide)).mpr (by decide)⟩

theorem render_lone_return :
    let source := "pi\r$"
    let d := ofError (.lex (.strayChar '$' 3)) source
    Formula.compile source = .error (.lex (.strayChar '$' 3)) ∧
      lines source.toList = [source.toList] ∧
      (d.render source).toList = ofRows (d.rows source) ∧
      (d.rows source)[3]? = some "2 | ".toList ∧ (d.rows source)[4]? = some "  | ^".toList ∧
      ¬ ∃ number, (d.rows source)[3]? = some (margin number ++ source.toList) := by
  intro source d
  have htrimmed : Trimmed "pi\r$".toList :=
    ⟨⟨'p', "i\r$".toList, rfl, by decide, by decide⟩, "pi\r".toList, '$', rfl, by decide⟩
  have hlex : Token.lex Location.start "pi\r$".toList = .error (.strayChar '$' 3) := by cbv
  have hline : (d.rows source)[3]? = some "2 | ".toList := by
    rw [rows_line]
    decide
  refine ⟨?_, by decide, toList_render d source, hline, ?_, ?_⟩
  · rw [Formula.compile, htrimmed.unframe_eq]
    simp only [Location.advance, hlex]
  · change some (gutter (max d.span.line 1) ++ [' ', '|', ' '] ++
      List.replicate (max d.span.column 1 - 1) ' ' ++
      List.replicate (caretCount source.toList d.span) '^') = _
    decide
  · rintro ⟨number, hrow⟩
    rw [hline, Option.some_inj] at hrow
    have hmem : '$' ∈ margin number ++ source.toList := List.mem_append_right _ (by decide)
    rw [← hrow] at hmem
    exact absurd hmem (by decide)

end Diagnostic

end PolarCurve
