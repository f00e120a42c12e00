import PolarCurve.Store
import Mathlib.Tactic.Lemma

namespace PolarCurve.Store

def Writable (store : Store) (name : String) : Prop :=
  ∃ place, store.newPlace name = .ok place ∧ store.find? place ≠ some .directory

lemma find?_insert_self (store : Store) {parts : List String} (h : parts ≠ []) (entry : Entry) :
    (store.insert parts entry).find? parts = some entry := by
  rw [find?, if_neg h, insert, List.find?_cons]
  simp

lemma find?_insert_of_ne (store : Store) {parts other : List String} (h : other ≠ parts)
    (entry : Entry) : (store.insert parts entry).find? other = store.find? other := by
  rw [find?, find?, insert, List.find?_cons]
  simp only [h.symm, decide_false, List.find?_filter]
  congr 3
  funext e
  by_cases he : e.1 = other
  · simp [he, h]
  · simp [he]

lemma insert_insert (store : Store) (parts : List String) (entry : Entry) :
    (store.insert parts entry).insert parts entry = store.insert parts entry := by
  simp [insert]

lemma walk_nil_eq_ok {store : Store} {place there : List String} {entry : Entry} :
    store.walk place [] = .ok (there, entry) ↔ place = there ∧ store.find? place = some entry := by
  rw [walk]
  cases store.find? place with
  | none => simp
  | some found => simp

lemma walk_cons_eq_ok {store : Store} {place : List String} {step : String} {rest : List String}
    {result : List String × Entry} : store.walk place (step :: rest) = .ok result ↔
      store.find? place = some .directory ∧ step.utf8ByteSize ≤ maxPart ∧
        store.walk (move place step) rest = .ok result := by
  rw [walk]
  cases store.find? place with
  | none => simp
  | some found =>
    cases found with
    | file content => simp
    | directory =>
      simp only [true_and]
      split
      · next h => simp [Nat.not_le.mpr h]
      · next h => rw [and_iff_right (Nat.le_of_not_lt h)]

lemma walk_append {store : Store} {place there above below : List String}
    (h : store.walk place above = .ok (there, .directory)) :
    store.walk place (above ++ below) = store.walk there below := by
  induction above generalizing place with
  | nil =>
    obtain ⟨rfl, -⟩ := walk_nil_eq_ok.mp h
    rfl
  | cons step above ih =>
    obtain ⟨hplace, hstep, hwalk⟩ := walk_cons_eq_ok.mp h
    rw [List.cons_append, walk, hplace, ← ih hwalk]
    exact if_neg (Nat.not_lt.mpr hstep)

lemma find?_of_walk {store : Store} {place there above : List String} {entry : Entry}
    (h : store.walk place above = .ok (there, entry)) : store.find? there = some entry := by
  induction above generalizing place with
  | nil =>
    obtain ⟨rfl, hplace⟩ := walk_nil_eq_ok.mp h
    exact hplace
  | cons step above ih => exact ih (walk_cons_eq_ok.mp h).2.2

lemma walk_insert {store : Store} {place there above target : List String} (entry : Entry)
    (h : store.walk place above = .ok (there, .directory))
    (htarget : store.find? target ≠ some .directory) :
    (store.insert target entry).walk place above = .ok (there, .directory) := by
  have hkept : ∀ p, store.find? p = some .directory →
      (store.insert target entry).find? p = some .directory := by
    intro p hp
    -- The target holds no directory, so no place on the way is changed.
    have hne : p ≠ target := by
      rintro rfl
      exact htarget hp
    rw [find?_insert_of_ne store hne, hp]
  induction above generalizing place with
  | nil =>
    obtain ⟨rfl, hplace⟩ := walk_nil_eq_ok.mp h
    exact walk_nil_eq_ok.mpr ⟨rfl, hkept _ hplace⟩
  | cons step above ih =>
    obtain ⟨hplace, hstep, hwalk⟩ := walk_cons_eq_ok.mp h
    exact walk_cons_eq_ok.mpr ⟨hkept _ hplace, hstep, ih hwalk⟩

/-- A place for a file: one plain step from a directory that the steps before it lead to. -/
inductive PlaceOf (store : Store) (name : String) : List String → Prop
  | behind {above there : List String} {last : String} (hcheck : checkName name = .ok ())
      (hsteps : steps name = above ++ [last])
      (hwalk : store.walk [] above = .ok (there, .directory))
      (hmove : move there last = there ++ [last]) (hlast : last.utf8ByteSize ≤ maxPart) :
      PlaceOf store name (there ++ [last])

lemma eq_of_head {steps above : List String} {last : String}
    (hdrop : steps.reverse.dropWhile (· = "") = last :: above)
    (hhead : ¬ steps.reverse.head? = some "") : last ≠ "" ∧ steps = above.reverse ++ [last] := by
  cases hsteps : steps.reverse with
  | nil =>
    rw [hsteps] at hdrop
    cases hdrop
  | cons step rest =>
    rw [hsteps] at hdrop hhead
    have hstep : step ≠ "" := fun heq => hhead (congrArg some heq)
    rw [List.dropWhile_cons_of_neg (by simpa using hstep)] at hdrop
    obtain ⟨rfl, rfl⟩ := List.cons.inj hdrop
    refine ⟨hstep, ?_⟩
    rw [← List.reverse_reverse steps, hsteps, List.reverse_cons]

lemma placeOf_newPlace {store : Store} {name : String} {place : List String}
    (h : store.newPlace name = .ok place) : PlaceOf store name place := by
  rw [newPlace] at h
  cases hcheck : checkName name with
  | error fault =>
    rw [hcheck] at h
    cases h
  | ok _ =>
    rw [hcheck] at h
    dsimp only [bind, Except.bind] at h
    split at h
    · cases h
    · next last above hdrop =>
      split at h
      · cases hwalk : store.walk [] (last :: above).reverse <;> rw [hwalk] at h <;> cases h
      · next hlast =>
        rw [not_or] at hlast
        cases hwalk : store.walk [] above.reverse with
        | error fault =>
          rw [hwalk] at h
          cases h
        | ok result =>
          obtain ⟨there, entry⟩ := result
          rw [hwalk] at h
          cases entry with
          | file => cases h
          | directory =>
            dsimp only at h
            split at h
            · cases h
            next hhead =>
            split at h
            · cases h
            next hlong =>
            cases h
            obtain ⟨hne, hsteps⟩ := eq_of_head hdrop hhead
            refine .behind hcheck hsteps hwalk ?_ (Nat.le_of_not_lt hlong)
            simp [move, stays, hne, hlast]

lemma plain_of_move {there : List String} {last : String} (h : move there last = there ++ [last]) :
    last ≠ "" ∧ last ≠ "." ∧ last ≠ ".." := by
  have hlength := congrArg List.length h
  rw [List.length_append, List.length_singleton] at hlength
  refine ⟨?_, ?_, ?_⟩
  · rintro rfl
    exact absurd hlength (Nat.ne_of_lt (Nat.lt_succ_self _))
  · rintro rfl
    exact absurd hlength (Nat.ne_of_lt (Nat.lt_succ_self _))
  · rintro rfl
    change there.dropLast.length = _ at hlength
    rw [List.length_dropLast] at hlength
    omega

theorem newPlace_eq_ok_iff {store : Store} {name : String} {place : List String} :
    store.newPlace name = .ok place ↔ PlaceOf store name place := by
  refine ⟨placeOf_newPlace, ?_⟩
  rintro @⟨above, there, last, hcheck, hsteps, hwalk, hmove, hlast⟩
  obtain ⟨hempty, hdot, hdots⟩ := plain_of_move hmove
  have hreverse : (steps name).reverse = last :: above.reverse := by simp [hsteps]
  have hdrop : (last :: above.reverse).dropWhile (· = "") = last :: above.reverse :=
    List.dropWhile_cons_of_neg (by simpa using hempty)
  rw [newPlace, hcheck, hreverse]
  dsimp only [bind, Except.bind]
  rw [hdrop]
  dsimp only
  rw [if_neg (not_or.mpr ⟨hdot, hdots⟩), List.reverse_reverse, hwalk]
  dsimp only
  rw [if_neg (by simpa using hempty), if_neg (Nat.not_lt.mpr hlast)]
  rfl

lemma PlaceOf.ne_nil {store : Store} {name : String} {place : List String}
    (h : PlaceOf store name place) : place ≠ [] := by
  cases h
  simp

lemma PlaceOf.insert {store : Store} {name : String} {place : List String}
    (h : PlaceOf store name place) (hplace : store.find? place ≠ some .directory) (entry : Entry) :
    PlaceOf (store.insert place entry) name place := by
  obtain ⟨hcheck, hsteps, hwalk, hmove, hlast⟩ := h
  exact .behind hcheck hsteps (walk_insert entry hwalk hplace) hmove hlast

lemma PlaceOf.read {store : Store} {name : String} {place : List String} {content : ByteArray}
    (h : PlaceOf store name place) (hfile : store.find? place = some (.file content)) :
    store.read name = .ok content := by
  obtain ⟨hcheck, hsteps, hwalk, hmove, hlast⟩ := h
  rw [← hmove] at hfile
  have hread := walk_cons_eq_ok.mpr
    ⟨find?_of_walk hwalk, hlast, walk_nil_eq_ok.mpr ⟨rfl, hfile⟩⟩
  rw [Store.read, lookup, hcheck, hsteps, walk_append hwalk, hread]
  rfl

lemma write_eq_ok {store : Store} {name : String} {place : List String}
    (h : PlaceOf store name place) (hplace : store.find? place ≠ some .directory)
    (content : ByteArray) : store.write name content = .ok (store.insert place (.file content)) := by
  rw [write, newPlace_eq_ok_iff.mpr h]
  dsimp only [bind, Except.bind]
  split
  · next hdirectory => exact absurd hdirectory hplace
  · rfl

theorem exists_write {store : Store} {name : String} (h : Writable store name)
    (content : ByteArray) :
    ∃ written, store.write name content = .ok written ∧ written.read name = .ok content ∧
      written.write name content = .ok written := by
  obtain ⟨place, hplace, hfree⟩ := h
  have hof := placeOf_newPlace hplace
  have hfile := find?_insert_self store hof.ne_nil (.file content)
  have hwritten := hof.insert hfree (.file content)
  refine ⟨store.insert place (.file content), write_eq_ok hof hfree content, hwritten.read hfile, ?_⟩
  rw [write_eq_ok hwritten (by rw [hfile]; nofun), insert_insert]

theorem fromUTF8?_toUTF8 (s : String) : String.fromUTF8? s.toUTF8 = some s := by
  have hvalid : s.toUTF8.IsValidUTF8 := s.isValidUTF8
  rw [String.fromUTF8?, dif_pos hvalid]
  rfl

lemma readText_of_read {store : Store} {name text : String}
    (h : store.read name = .ok text.toUTF8) : store.readText name = .ok text := by
  rw [readText, h]
  simp only [fromUTF8?_toUTF8]

end PolarCurve.Store
