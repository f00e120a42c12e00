import PolarCurve.Json.Printer
import PolarCurve.Proofs.Json.Numbers
import PolarCurve.Proofs.Json.Strings

namespace PolarCurve.Json

inductive Spelt : Json → Prop
  | null : Spelt null
  | bool (value : Bool) : Spelt (bool value)
  | number {cs : List Char} (h : NumberSpelling cs) : Spelt (number cs)
  | string {cs : List Char} (h : StringSpelling cs) : Spelt (string cs)
  | array {items : List Json} (h : ∀ item ∈ items, Spelt item) : Spelt (array items)
  | object {members : List (List Char × Json)} (hkeys : ∀ m ∈ members, StringSpelling m.1)
      (hvalues : ∀ m ∈ members, Spelt m.2) : Spelt (object members)

def Reads (cs : List Char) (j : Json) : Prop :=
  ∀ bound rest, 2 * cs.length ≤ bound → NumberEnds rest → read bound (cs ++ rest) = some (j, rest)

lemma skip_append {blank : List Char} (h : ∀ c ∈ blank, isSpacing c = true) (cs : List Char) :
    skip (blank ++ cs) = skip cs :=
  List.dropWhile_append_of_pos h

lemma skip_cons {c : Char} (h : isSpacing c = false) (cs : List Char) : skip (c :: cs) = c :: cs := by
  simp [skip, h]

lemma spacing_newline (level : Nat) : ∀ c ∈ newline level, isSpacing c = true := by
  intro c hc
  rcases List.mem_cons.mp hc with rfl | hc
  · rfl
  · rw [List.eq_of_mem_replicate hc]
    rfl

lemma skip_newline (level : Nat) (cs : List Char) : skip (newline level ++ cs) = skip cs :=
  skip_append (spacing_newline level) cs

lemma read_append {blank : List Char} (h : ∀ c ∈ blank, isSpacing c = true) (bound : Nat)
    (cs : List Char) : read bound (blank ++ cs) = read bound cs := by
  cases bound with
  | zero => rfl
  | succ bound => rw [read, read, skip_append h]

lemma read_newline (bound level : Nat) (cs : List Char) :
    read bound (newline level ++ cs) = read bound cs :=
  read_append (spacing_newline level) bound cs

lemma read_blank (bound : Nat) (cs : List Char) : read bound (' ' :: cs) = read bound cs :=
  read_append (List.forall_mem_singleton.mpr rfl) bound cs

lemma readItems_newline (bound level : Nat) (cs : List Char) :
    readItems bound (newline level ++ cs) = readItems bound cs := by
  cases bound with
  | zero => rfl
  | succ bound => rw [readItems, readItems, read_newline]

lemma readMembers_newline (bound level : Nat) (cs : List Char) :
    readMembers bound (newline level ++ cs) = readMembers bound cs := by
  cases bound with
  | zero => rfl
  | succ bound => rw [readMembers, readMembers, skip_newline]

lemma numberEnds_cons {c : Char} (h : c.isDigit = false ∧ c ≠ '.' ∧ c ≠ 'e' ∧ c ≠ 'E')
    (cs : List Char) : NumberEnds (c :: cs) := by
  intro d hd
  cases hd
  exact h

lemma numberEnds_of_spacing {blank : List Char} (h : ∀ c ∈ blank, isSpacing c = true) :
    NumberEnds blank := by
  intro c hc
  have hspacing := h c (List.mem_of_mem_head? hc)
  refine ⟨?_, ?_, ?_, ?_⟩
  · simp only [isSpacing, Bool.or_eq_true, decide_eq_true_eq] at hspacing
    rcases hspacing with ((rfl | rfl) | rfl) | rfl <;> rfl
  all_goals
    rintro rfl
    cases hspacing

lemma read_atom {c : Char} (hspacing : isSpacing c = false) (hlist : c ≠ '[') (hobject : c ≠ '\x7b')
    (bound : Nat) (cs : List Char) : read (bound + 1) (c :: cs) = readAtom (c :: cs) := by
  rw [read, skip_cons hspacing]
  split
  · next heq => exact absurd (List.cons.inj heq).1 hlist
  · next heq => exact absurd (List.cons.inj heq).1 hobject
  · rfl

lemma reads_null : Reads "null".toList null := by
  intro bound rest hbound _
  cases bound with
  | zero => simp at hbound
  | succ bound => rfl

lemma reads_bool (value : Bool) : Reads (print 0 (bool value)) (bool value) := by
  intro bound rest hbound _
  cases bound with
  | zero => cases value <;> simp [print] at hbound
  | succ bound => cases value <;> rfl

lemma NumberSpelling.ne {c : Char} {ds : List Char} (h : NumberSpelling (c :: ds)) :
    isSpacing c = false ∧ c ≠ ']' ∧ c ≠ '[' ∧ c ≠ '\x7b' ∧ c ≠ '"' ∧ c ≠ 'n' ∧ c ≠ 't' ∧ c ≠ 'f' := by
  obtain ⟨d, ds', heq, hfirst⟩ := h.first
  obtain ⟨rfl, -⟩ := List.cons.inj heq
  refine ⟨?_, ?_⟩
  · rw [Bool.eq_false_iff]
    intro hspacing
    simp only [isSpacing, Bool.or_eq_true, decide_eq_true_eq] at hspacing
    rcases hspacing with ((rfl | rfl) | rfl) | rfl <;> simp at hfirst
  · refine ⟨?_, ?_, ?_, ?_, ?_, ?_, ?_⟩ <;> (rintro rfl; simp at hfirst)

lemma reads_number {cs : List Char} (h : NumberSpelling cs) : Reads cs (number cs) := by
  intro bound rest hbound hrest
  obtain ⟨c, ds, rfl, -⟩ := h.first
  obtain ⟨hspacing, -, hlist, hobject, hquote, hn, ht, hf⟩ := h.ne
  cases bound with
  | zero => simp at hbound
  | succ bound =>
    have hsplit := h.split rest hrest
    rw [List.cons_append] at hsplit ⊢
    rw [read_atom hspacing hlist hobject, readAtom, if_neg hquote, if_neg hn, if_neg ht, if_neg hf,
      hsplit]
    rfl

lemma reads_string {cs : List Char} (h : StringSpelling cs) :
    Reads ('"' :: (cs ++ ['"'])) (string cs) := by
  intro bound rest hbound _
  cases bound with
  | zero => simp at hbound
  | succ bound =>
    rw [List.cons_append, List.append_assoc, read_atom rfl (by decide) (by decide), readAtom,
      if_pos rfl, List.singleton_append, h rest]
    rfl

lemma Spelt.opens {j : Json} (h : Spelt j) (level : Nat) :
    ∃ c ds, print level j = c :: ds ∧ isSpacing c = false ∧ c ≠ ']' := by
  cases h with
  | null => exact ⟨'n', _, rfl, rfl, by decide⟩
  | bool value =>
    cases value with
    | true => exact ⟨'t', _, rfl, rfl, by decide⟩
    | false => exact ⟨'f', _, rfl, rfl, by decide⟩
  | @number cs h =>
    obtain ⟨c, ds, rfl, -⟩ := h.first
    exact ⟨c, ds, rfl, h.ne.1, h.ne.2.1⟩
  | string => exact ⟨'"', _, rfl, rfl, by decide⟩
  | @array items => cases items <;> exact ⟨'[', _, rfl, rfl, by decide⟩
  | @object members => cases members <;> exact ⟨'\x7b', _, rfl, rfl, by decide⟩

lemma numberEnds_newline (level : Nat) (cs : List Char) : NumberEnds (newline level ++ cs) :=
  numberEnds_cons ⟨rfl, by decide⟩ _

lemma skip_closing (level : Nat) {c : Char} (h : isSpacing c = false) (cs : List Char) :
    skip (newline level ++ c :: cs) = c :: cs := by
  rw [skip_newline, skip_cons h]

lemma readItems_print {level : Nat} {item : Json} {items : List Json}
    (h : ∀ i ∈ item :: items, Reads (print level i) i) (closing bound : Nat)
    (rest : List Char) (hbound : 2 * (print level item ++ printItems level items).length < bound) :
    readItems bound
        (print level item ++ (printItems level items ++ (newline closing ++ ']' :: rest))) =
      some (item :: items, rest) := by
  obtain ⟨bound, rfl⟩ := Nat.exists_eq_add_one_of_ne_zero (Nat.ne_zero_of_lt hbound)
  rw [List.length_append] at hbound
  rw [readItems]
  -- Every item lowers the bound by one, and what is printed for it is longer than that.
  induction items generalizing item bound with
  | nil =>
    have hitem := h item List.mem_cons_self bound (newline closing ++ ']' :: rest) (by omega)
      (numberEnds_newline _ _)
    rw [printItems, List.nil_append, hitem]
    simp only [Option.bind_eq_bind, Option.bind_some, skip_closing closing (c := ']') rfl]
    rfl
  | cons next items ih =>
    rw [printItems] at hbound
    simp only [List.length_cons, List.length_append] at hbound
    obtain ⟨bound, rfl⟩ := Nat.exists_eq_add_one_of_ne_zero (n := bound) (by omega)
    have hitem := h item List.mem_cons_self (bound + 1)
      (printItems level (next :: items) ++ (newline closing ++ ']' :: rest)) (by omega)
      (numberEnds_cons ⟨rfl, by decide⟩ _)
    have hitems := ih (fun i hi => h i (List.mem_cons_of_mem _ hi)) bound (by omega)
    rw [hitem]
    simp only [Option.bind_eq_bind, Option.bind_some, printItems, List.cons_append, List.append_assoc,
      skip_cons (c := ',') rfl, readItems_newline]
    rw [readItems, hitems]
    rfl

lemma colon : "\": ".toList = ['"', ':', ' '] := rfl

section Members

variable {key : List Char} (hkey : StringSpelling key) {value : Json} {bound : Nat}
variable {cs behind rest : List Char} (hvalue : read bound cs = some (value, behind))

include hkey hvalue

lemma readMembers_last (hbehind : skip behind = '\x7d' :: rest) :
    readMembers (bound + 1) ('"' :: (key ++ '"' :: ':' :: ' ' :: cs)) =
      some ([(key, value)], rest) := by
  rw [readMembers, skip_cons (c := '"') rfl]
  simp only [Option.bind_eq_bind, hkey (':' :: ' ' :: cs), Option.bind_some,
    skip_cons (c := ':') rfl, read_blank, hvalue, hbehind]
  rfl

lemma readMembers_next {more : List Char} {members : List (List Char × Json)}
    (hbehind : skip behind = ',' :: more) (hmore : readMembers bound more = some (members, rest)) :
    readMembers (bound + 1) ('"' :: (key ++ '"' :: ':' :: ' ' :: cs)) =
      some ((key, value) :: members, rest) := by
  rw [readMembers, skip_cons (c := '"') rfl]
  simp only [Option.bind_eq_bind, hkey (':' :: ' ' :: cs), Option.bind_some,
    skip_cons (c := ':') rfl, read_blank, hvalue, hbehind, hmore]
  rfl

end Members

lemma readMembers_print {level : Nat} {key : List Char} {value : Json}
    {members : List (List Char × Json)}
    (hkeys : ∀ m ∈ (key, value) :: members, StringSpelling m.1)
    (hvalues : ∀ m ∈ (key, value) :: members, Reads (print level m.2) m.2) (closing bound : Nat)
    (rest : List Char)
    (hbound : 2 * (print level value ++ printMembers level members).length < bound) :
    readMembers bound ('"' :: (key ++ '"' :: ':' :: ' ' :: (print level value ++
        (printMembers level members ++ (newline closing ++ '\x7d' :: rest))))) =
      some ((key, value) :: members, rest) := by
  obtain ⟨bound, rfl⟩ := Nat.exists_eq_add_one_of_ne_zero (Nat.ne_zero_of_lt hbound)
  rw [List.length_append] at hbound
  have hkey : StringSpelling key := hkeys _ List.mem_cons_self
  have hread : Reads (print level value) value := hvalues _ List.mem_cons_self
  induction members generalizing key value bound with
  | nil =>
    have hvalue := hread bound (newline closing ++ '\x7d' :: rest) (by omega)
      (numberEnds_newline _ _)
    exact readMembers_last hkey hvalue (skip_closing closing rfl rest)
  | cons next members ih =>
    obtain ⟨nextKey, next⟩ := next
    rw [printMembers] at hbound
    simp only [List.length_cons, List.length_append] at hbound
    obtain ⟨bound, rfl⟩ := Nat.exists_eq_add_one_of_ne_zero (n := bound) (by omega)
    have hvalue := hread (bound + 1)
      (printMembers level ((nextKey, next) :: members) ++ (newline closing ++ '\x7d' :: rest))
      (by omega) (numberEnds_cons ⟨rfl, by decide⟩ _)
    have hkeys' : ∀ m ∈ (nextKey, next) :: members, StringSpelling m.1 :=
      fun m hm => hkeys m (List.mem_cons_of_mem _ hm)
    have hvalues' : ∀ m ∈ (nextKey, next) :: members, Reads (print level m.2) m.2 :=
      fun m hm => hvalues m (List.mem_cons_of_mem _ hm)
    have hmembers := ih hkeys' hvalues' bound (by omega) (hkeys' _ List.mem_cons_self)
      (hvalues' _ List.mem_cons_self)
    rw [printMembers, List.cons_append] at hvalue ⊢
    refine readMembers_next hkey hvalue (skip_cons rfl _) ?_
    simp only [colon, List.cons_append, List.nil_append, List.append_assoc, readMembers_newline,
      hmembers]

lemma read_array {cs : List Char} {items : List Json} {rest : List Char} {bound : Nat}
    (hopens : ∃ c ds, skip cs = c :: ds ∧ c ≠ ']')
    (h : readItems bound (skip cs) = some (items, rest)) :
    read (bound + 1) ('[' :: cs) = some (array items, rest) := by
  obtain ⟨c, ds, hcs, hc⟩ := hopens
  rw [read, skip_cons rfl]
  simp only
  rw [hcs] at h ⊢
  split
  · next heq => exact absurd (List.cons.inj heq).1 hc
  · rw [h]
    rfl

lemma read_object {cs : List Char} {members : List (List Char × Json)} {rest : List Char}
    {bound : Nat} (hopens : ∃ c ds, skip cs = c :: ds ∧ c ≠ '\x7d')
    (h : readMembers bound (skip cs) = some (members, rest)) :
    read (bound + 1) ('\x7b' :: cs) = some (object members, rest) := by
  obtain ⟨c, ds, hcs, hc⟩ := hopens
  rw [read, skip_cons rfl]
  simp only
  rw [hcs] at h ⊢
  split
  · next heq => exact absurd (List.cons.inj heq).1 hc
  · rw [h]
    rfl

lemma reads_array {level : Nat} {items : List Json} (hspelt : ∀ item ∈ items, Spelt item)
    (h : ∀ item ∈ items, Reads (print (level + 1) item) item) :
    Reads (print level (array items)) (array items) := by
  intro bound rest hbound _
  cases items with
  | nil =>
    cases bound with
    | zero => simp [print] at hbound
    | succ bound => rfl
  | cons item items =>
    rw [print] at hbound ⊢
    simp only [List.length_cons, List.length_append] at hbound
    obtain ⟨bound, rfl⟩ := Nat.exists_eq_add_one_of_ne_zero (n := bound) (by omega)
    obtain ⟨c, ds, hopens, hspacing, hclose⟩ := (hspelt item List.mem_cons_self).opens (level + 1)
    have hitems := readItems_print h level bound rest (by rw [List.length_append]; omega)
    simp only [List.cons_append, List.append_assoc, List.nil_append]
    rw [hopens, List.cons_append] at hitems ⊢
    refine read_array ⟨c, _, skip_closing (level + 1) hspacing _, hclose⟩ ?_
    rwa [skip_closing (level + 1) hspacing]

lemma reads_object {level : Nat} {members : List (List Char × Json)}
    (hkeys : ∀ m ∈ members, StringSpelling m.1)
    (h : ∀ m ∈ members, Reads (print (level + 1) m.2) m.2) :
    Reads (print level (object members)) (object members) := by
  intro bound rest hbound _
  cases members with
  | nil =>
    cases bound with
    | zero => simp [print] at hbound
    | succ bound => rfl
  | cons member members =>
    obtain ⟨key, value⟩ := member
    rw [print] at hbound ⊢
    simp only [List.length_cons, List.length_append] at hbound
    obtain ⟨bound, rfl⟩ := Nat.exists_eq_add_one_of_ne_zero (n := bound) (by omega)
    have hmembers := readMembers_print hkeys h level bound rest
      (by rw [List.length_append]; omega)
    simp only [colon, List.cons_append, List.append_assoc, List.nil_append]
    refine read_object ⟨'"', _, skip_closing (level + 1) rfl _, by decide⟩ ?_
    rwa [skip_closing (level + 1) rfl]

theorem Spelt.reads {j : Json} (h : Spelt j) (level : Nat) : Reads (print level j) j := by
  induction h generalizing level with
  | null => exact reads_null
  | bool value => exact reads_bool value
  | number h => exact reads_number h
  | string h => exact reads_string h
  | array h ih => exact reads_array h fun item hitem => ih item hitem (level + 1)
  | object hkeys _ ih => exact reads_object hkeys fun m hm => ih m hm (level + 1)

theorem ofText?_print {j : Json} (h : Spelt j) {blank : List Char}
    (hblank : ∀ c ∈ blank, isSpacing c = true) : ofText? (print 0 j ++ blank) = some j := by
  have hread := h.reads 0 (2 * (print 0 j ++ blank).length + 2) blank
    (by rw [List.length_append]; omega) (numberEnds_of_spacing hblank)
  rw [ofText?, hread]
  exact if_pos (List.dropWhile_eq_nil_iff.mpr hblank)

theorem ofText?_text {j : Json} (h : Spelt j) : ofText? j.text.toList = some j := by
  have hread := ofText?_print h (List.forall_mem_nil (isSpacing · = true))
  rw [List.append_nil] at hread
  rw [text, String.toList_ofList, hread]

end PolarCurve.Json
