import PolarCurve.Session
import PolarCurve.Proofs.Diagnostic
import PolarCurve.Proofs.Expr.Outline
import PolarCurve.Proofs.Formula.Accepted
import PolarCurve.Proofs.Formula.Value

namespace PolarCurve

open Text

namespace Session

def valueLine (angle value : Float) : String :=
  "r(" ++ Double.text angle ++ ") = " ++ Double.text value

def note (source : String) : String := "note: keeping previous formula '" ++ source ++ "'"

structure Plain (out : String) : Prop where
  value : ¬ ['r', '('] <+: out.toList
  fault : ∀ fault : CallFault, out ≠ "error: " ++ fault.message

lemma plain_of_head {out : String} (h : ∀ c ∈ out.toList.head?, c ≠ 'r' ∧ c ≠ 'e') :
    Plain out where
  value := by
    rintro ⟨more, hmore⟩
    rw [← hmore] at h
    exact (h 'r' rfl).1 rfl
  fault fault heq := by
    rw [heq, String.toList_append] at h
    exact (h 'e' rfl).2 rfl

lemma plain_of_error {text : String} (h : ∀ fault : CallFault, text ≠ fault.message) :
    Plain ("error: " ++ text) where
  value := by
    rw [String.toList_append]
    rintro ⟨more, hmore⟩
    cases hmore
  fault fault heq := by
    apply h fault
    have hlists := congrArg String.toList heq
    rw [String.toList_append, String.toList_append] at hlists
    exact String.toList_inj.mp (List.append_cancel_left hlists)

lemma take_message (fault : CallFault) : fault.message.toList.take 9 = "unknown f".toList ∨
    fault.message.toList.take 9 = "arity mis".toList := by
  cases fault with
  | unknownFunction name =>
    left
    change (_ ++ _ ++ _ : String).toList.take 9 = _
    rw [String.toList_append, String.toList_append]
    rfl
  | wrongArity function expected found =>
    right
    change (_ ++ _ ++ _ ++ toString _ ++ _ ++ toString _ : String).toList.take 9 = _
    simp only [String.toList_append]
    rfl

lemma plain_of_take {text : String} (hunknown : text.toList.take 9 ≠ "unknown f".toList)
    (harity : text.toList.take 9 ≠ "arity mis".toList) : Plain ("error: " ++ text) := by
  apply plain_of_error
  rintro fault rfl
  exact (take_message fault).elim hunknown harity

lemma plain_usage_theta : Plain ("error: " ++ "usage: :theta <number>") :=
  plain_of_take (by decide) (by decide)

lemma plain_usage_eval : Plain ("error: " ++ "usage: :eval [theta]") :=
  plain_of_take (by decide) (by decide)

lemma plain_unknown_command (command : String) :
    Plain ("error: " ++ ("unknown command '" ++ command ++ "'")) := by
  have htake : ("unknown command '" ++ command ++ "'").toList.take 9 = "unknown c".toList := by
    rw [String.toList_append, String.toList_append]
    rfl
  apply plain_of_take
  · rw [htake]
    decide
  · rw [htake]
    decide

lemma textLines_ofRows {text : String} {rows : List (List Char)} (h : text.toList = ofRows rows)
    (hrows : ∀ row ∈ rows, '\n' ∉ row) :
    textLines text = rows.map fun row => String.ofList (withoutReturn row) := by
  rw [textLines, h, lines_ofRows hrows, List.map_map]
  rfl

lemma head_withoutReturn {row : List Char} {c : Char} (h : c ∈ (withoutReturn row).head?) :
    c ∈ row.head? := by
  obtain ⟨more, hmore⟩ := prefix_withoutReturn row
  rw [← hmore, List.head?_append, Option.mem_def.mp h]
  rfl

lemma exists_picture {source : String} {error : CompileError}
    (h : Formula.compile source = .error error) : ∃ more,
    textLines ((Diagnostic.ofError error source).render source) =
        ("error: " ++ error.message) :: more ∧
      ∀ out ∈ more, ∀ c ∈ out.toList.head?, c.isAlpha = false := by
  obtain ⟨help, hdiagnostic, hhelp⟩ := Diagnostic.ofError_eq error source
  obtain ⟨more, hrows, hmore⟩ := Diagnostic.exists_rows_eq (Diagnostic.ofError error source) source
  have hfeeds := Diagnostic.feed_not_mem_rows (d := Diagnostic.ofError error source)
    (by rw [hdiagnostic]; exact Formula.oneLine_of_compile h) (by rw [hdiagnostic]; exact hhelp)
    source
  have hfirst : withoutReturn ("error: ".toList ++ error.message.toList) =
      "error: ".toList ++ error.message.toList := by
    apply withoutReturn_of_last
    intro hlast
    have hne : error.message.toList ≠ [] := by
      obtain ⟨cs, hcs⟩ := error.exists_message
      simp [hcs]
    rw [List.getLast?_append_of_ne_nil _ hne] at hlast
    cases error.isDigit_last '\r' hlast
  refine ⟨more.map fun row => String.ofList (withoutReturn row), ?_, ?_⟩
  · rw [textLines_ofRows (Diagnostic.toList_render _ _) hfeeds, hrows, List.map_cons, hdiagnostic,
      hfirst, ← String.toList_append, String.ofList_toList]
  · intro out hout c hc
    obtain ⟨row, hrow, rfl⟩ := List.mem_map.mp hout
    rw [String.toList_ofList] at hc
    exact hmore row hrow c (head_withoutReturn hc)

lemma plain_outline {e : Expr} (h : e.validate = .ok ()) :
    ∀ out ∈ textLines e.outline, Plain out := by
  have hlabels := Expr.labels_entries 0 e h
  have hrows : ∀ row ∈ (e.entries 0).map Expr.outlineRow, '\n' ∉ row := by
    intro row hrow
    obtain ⟨entry, hentry, rfl⟩ := List.mem_map.mp hrow
    exact Expr.feed_not_mem_outlineRow (hlabels entry hentry)
  intro out hout
  rw [textLines_ofRows (Expr.toList_outline e) hrows] at hout
  obtain ⟨row, hrow, rfl⟩ := List.mem_map.mp hout
  obtain ⟨⟨level, label⟩, hentry, rfl⟩ := List.mem_map.mp hrow
  apply plain_of_head
  intro c hc
  rw [String.toList_ofList] at hc
  have hc := head_withoutReturn hc
  cases level with
  | zero =>
    have hupper := (hlabels _ hentry).head c (by simpa [Expr.outlineRow] using hc)
    constructor <;> rintro rfl <;> cases hupper
  | succ level =>
    cases hc
    decide

lemma plain_describe {f : Formula} (h : Formula.compile f.source = .ok f) :
    Plain (f.source ++ " => " ++ f.display) := by
  have hcolon := Formula.colon_not_mem_of_compile h
  have hprefix := Formula.not_prefix_of_compile h
  have htext : (f.source ++ " => " ++ f.display).toList =
      f.source.toList ++ ' ' :: ("=> ".toList ++ f.display.toList) := by
    simp
  constructor
  · rw [htext]
    rintro ⟨more, hmore⟩
    match hsource : f.source.toList with
    | [] =>
      rw [hsource] at hmore
      cases hmore
    | [c] =>
      rw [hsource] at hmore
      cases hmore
    | c :: d :: cs =>
      rw [hsource] at hmore hprefix
      cases hmore
      exact hprefix ⟨cs, rfl⟩
  · intro fault heq
    have hlists := congrArg String.toList heq
    rw [htext, String.toList_append] at hlists
    have hlength : f.source.toList.length ≤ 5 := by
      by_contra hlong
      have hget : (f.source.toList ++ ' ' :: ("=> ".toList ++ f.display.toList))[5]? = some ':' := by
        rw [hlists]
        rfl
      rw [List.getElem?_append_left (by omega)] at hget
      exact hcolon (List.mem_of_getElem? hget)
    have hget := congrArg (fun cs => cs[f.source.toList.length]?) hlists
    have hspaces : ∀ k ≤ 5, "error: ".toList[k]? ≠ some ' ' := by decide
    rw [List.getElem?_append_right (Nat.le_refl _), Nat.sub_self, List.getElem?_cons_zero,
      List.getElem?_append_left (Nat.lt_of_le_of_lt hlength (by decide))] at hget
    exact hspaces _ hlength hget.symm

end Session

end PolarCurve
