import PolarCurve.Json.Reader
import PolarCurve.Json.Shape
import Mathlib.Tactic.Lemma

namespace PolarCurve.Json

inductive Escaped (c : Char) : List Char → Prop
  | letter (letter : Char) (h : (c, letter) ∈ escapes) : Escaped c ['\\', letter]
  | control (h : c.toNat < 0x20) : Escaped c
      ['\\', 'u', '0', '0', Nat.digitChar (c.toNat / 16), Nat.digitChar (c.toNat % 16)]
  | plain (hcontrol : ¬ c.toNat < 0x20) (hquote : c ≠ '"') (hbackslash : c ≠ '\\') : Escaped c [c]

lemma escaped_escapeChar (c : Char) : Escaped c (escapeChar c) := by
  rw [escapeChar]
  cases hfind : escapes.find? fun e => e.1 = c with
  | some e =>
    obtain ⟨d, letter⟩ := e
    have hd : d = c := by simpa using List.find?_some hfind
    exact .letter letter (hd ▸ List.mem_of_find?_eq_some hfind)
  | none =>
    have hne : ∀ e ∈ escapes, e.1 ≠ c := by simpa using hfind
    dsimp only
    split
    · next h => exact .control h
    · next h =>
      exact .plain h (fun hc => hne ('"', '"') (by decide) hc.symm)
        fun hc => hne ('\\', '\\') (by decide) hc.symm

lemma ofLetter?_of_mem {c letter : Char} (h : (c, letter) ∈ escapes) :
    ofLetter? letter = some c ∧ letter ≠ 'u' := by
  revert h
  simp only [escapes, List.mem_cons, Prod.mk.injEq, List.not_mem_nil, or_false]
  rintro (⟨rfl, rfl⟩ | ⟨rfl, rfl⟩ | ⟨rfl, rfl⟩ | ⟨rfl, rfl⟩ | ⟨rfl, rfl⟩ | ⟨rfl, rfl⟩ | ⟨rfl, rfl⟩) <;>
    exact ⟨rfl, by decide⟩

lemma hexUnit?_control {n : Nat} (h : n < 0x20) :
    hexUnit? '0' '0' (Nat.digitChar (n / 16)) (Nat.digitChar (n % 16)) = some n := by
  revert n
  decide

lemma not_surrogate_of_control {n : Nat} (h : n < 0x20) :
    isLowerUnit n = false ∧ isUpperUnit n = false := by
  simp only [isLowerUnit, isUpperUnit, Bool.and_eq_false_iff, decide_eq_false_iff_not]
  omega

lemma unescape?_escaped {c : Char} {text : List Char} (h : Escaped c text) (cs : List Char) :
    unescape? (text ++ cs) = (unescape? cs).map (c :: ·) := by
  cases h with
  | letter letter h =>
    obtain ⟨hletter, hu⟩ := ofLetter?_of_mem h
    change unescape? ('\\' :: letter :: cs) = _
    rw [unescape?, hletter]
    · rfl
    · exact fun _ _ _ _ _ heq _ => hu heq
  | control h =>
    obtain ⟨hlower, hupper⟩ := not_surrogate_of_control h
    change unescape? ('\\' :: 'u' :: '0' :: '0' :: _ :: _ :: cs) = _
    rw [unescape?, if_neg (not_not_intro rfl), hexUnit?_control h]
    change (if isLowerUnit c.toNat = true then _ else _) = _
    simp only [hlower, hupper, Bool.false_eq_true, if_false, Char.ofNat_toNat]
  | plain _ _ hbackslash =>
    change unescape? (c :: cs) = _
    rw [unescape?.eq_def]
    exact if_pos hbackslash

lemma splitString_escaped {c : Char} {text : List Char} (h : Escaped c text) (cs : List Char) :
    splitString (text ++ cs) = (splitString cs).map fun (spelling, rest) => (text ++ spelling, rest) := by
  cases h with
  | letter letter h =>
    obtain ⟨hletter, hu⟩ := ofLetter?_of_mem h
    change splitString ('\\' :: letter :: cs) = _
    rw [splitString, if_neg (by decide), if_pos rfl, hletter]
    · cases splitString cs <;> rfl
    · exact fun _ _ _ _ _ heq _ => hu heq
  | control h =>
    change splitString ('\\' :: 'u' :: '0' :: '0' :: _ :: _ :: cs) = _
    rw [splitString, if_neg (by decide), if_pos rfl, hexUnit?_control h]
    cases splitString cs <;> rfl
  | plain hcontrol hquote hbackslash =>
    change splitString (c :: cs) = _
    rw [splitString.eq_def]
    simp only [if_neg hcontrol, if_neg hquote, if_neg hbackslash]
    cases splitString cs <;> rfl

theorem unescape?_escape (cs : List Char) : unescape? (escape cs) = some cs := by
  induction cs with
  | nil => rfl
  | cons c cs ih =>
    rw [escape, List.flatMap_cons, unescape?_escaped (escaped_escapeChar c)]
    change (unescape? (escape cs)).map _ = _
    rw [ih]
    rfl

lemma unescape?_of_not_mem {cs : List Char} (h : '\\' ∉ cs) : unescape? cs = some cs := by
  induction cs with
  | nil => rfl
  | cons c cs ih =>
    rw [List.mem_cons, not_or] at h
    rw [unescape?.eq_def]
    dsimp only
    rw [if_pos (Ne.symm h.1), ih h.2]
    rfl

def StringSpelling (cs : List Char) : Prop :=
  ∀ rest, splitString (cs ++ '"' :: rest) = some (cs, rest)

lemma StringSpelling.nil : StringSpelling [] := by
  intro rest
  change splitString ('"' :: rest) = _
  rw [splitString.eq_def]
  rfl

lemma StringSpelling.append {c : Char} {text cs : List Char} (h : Escaped c text)
    (hcs : StringSpelling cs) : StringSpelling (text ++ cs) := by
  intro rest
  rw [List.append_assoc, splitString_escaped h, hcs]
  rfl

theorem stringSpelling_escape (cs : List Char) : StringSpelling (escape cs) := by
  induction cs with
  | nil => exact .nil
  | cons c cs ih =>
    rw [escape, List.flatMap_cons]
    exact .append (escaped_escapeChar c) ih

def PlainKey (key : String) : Prop :=
  ∀ c ∈ key.toList, ¬ c.toNat < 0x20 ∧ c ≠ '"' ∧ c ≠ '\\'

instance (key : String) : Decidable (PlainKey key) :=
  @List.decidableBAll Char (fun c => ¬ c.toNat < 0x20 ∧ c ≠ '"' ∧ c ≠ '\\')
    (fun _ => inferInstance) key.toList

lemma PlainKey.unescape? {key : String} (h : PlainKey key) :
    unescape? key.toList = some key.toList :=
  unescape?_of_not_mem fun hc => (h _ hc).2.2 rfl

lemma PlainKey.stringSpelling {key : String} (h : PlainKey key) : StringSpelling key.toList := by
  rw [PlainKey] at h
  generalize key.toList = cs at h ⊢
  induction cs with
  | nil => exact .nil
  | cons c cs ih =>
    obtain ⟨hcontrol, hquote, hbackslash⟩ := h c List.mem_cons_self
    exact .append (.plain hcontrol hquote hbackslash) (ih fun d hd => h d (List.mem_cons_of_mem _ hd))

lemma text?_ofString (s : String) : (ofString s).text? = some s := by
  rw [ofString, ofText, text?, unescape?_escape]
  simp

end PolarCurve.Json
