import PolarCurve.Proofs.Json.Text

namespace PolarCurve.Json

structure PlainKeys (keys : List String) : Prop where
  plain : ∀ key ∈ keys, PlainKey key
  nodup : keys.Nodup

instance (keys : List String) : Decidable (PlainKeys keys) :=
  decidable_of_iff ((∀ key ∈ keys, PlainKey key) ∧ keys.Nodup)
    ⟨fun h => ⟨h.1, h.2⟩, fun h => ⟨h.1, h.2⟩⟩

lemma readKeys_plain {fields : List (String × Json)} (h : ∀ key ∈ fields.map Prod.fst, PlainKey key) :
    readKeys (fields.map fun (key, value) => (key.toList, value)) = some fields := by
  induction fields with
  | nil => rfl
  | cons field fields ih =>
    have hkey : PlainKey field.1 := h field.1 List.mem_cons_self
    have hfields := ih fun key hkey => h key (List.mem_cons_of_mem _ hkey)
    rw [List.map_cons, readKeys, hkey.unescape?, hfields]
    simp

lemma member?_eq {fields : List (String × Json)} (h : (fields.map Prod.fst).Nodup) (name : String) :
    member? name fields = some ((fields.find? fun field => field.1 = name).map Prod.snd) := by
  induction fields with
  | nil => rfl
  | cons field fields ih =>
    rw [List.map_cons, List.nodup_cons] at h
    rw [member?, List.filter_cons, List.find?_cons]
    by_cases hname : field.1 = name
    · have hrest : fields.filter (fun m => decide (m.1 = name)) = [] := by
        rw [List.filter_eq_nil_iff]
        intro m hm heq
        refine h.1 (List.mem_map.mpr ⟨m, hm, ?_⟩)
        rw [hname]
        exact of_decide_eq_true heq
      simp [hname, hrest]
    · simp only [hname, decide_false, Bool.false_eq_true, if_false]
      exact ih h.2

theorem fields?_object (fields : List (String × Json)) (h : PlainKeys (fields.map Prod.fst))
    (names : List String) :
    fields? names (object (fields.map fun (key, value) => (key.toList, value))) =
      some (names.map fun name => (fields.find? fun field => field.1 = name).map Prod.snd) := by
  rw [fields?, readKeys_plain h.plain]
  simp only [Option.bind_eq_bind, Option.bind_some, member?_eq h.nodup]
  exact List.mapM_pure

lemma find?_of_mem {fields : List (String × Json)} (h : (fields.map Prod.fst).Nodup)
    {field : String × Json} (hfield : field ∈ fields) :
    (fields.find? fun f => f.1 = field.1) = some field := by
  induction fields with
  | nil => cases hfield
  | cons f fields ih =>
    rw [List.map_cons, List.nodup_cons] at h
    rw [List.find?_cons]
    rcases List.mem_cons.mp hfield with rfl | hfield
    · simp
    · have hne : f.1 ≠ field.1 := fun heq => h.1 (heq ▸ List.mem_map_of_mem hfield)
      simp only [hne, decide_false]
      exact ih h.2 hfield

theorem fields?_record {names : List String} {fields : List (String × Json)}
    (hnames : fields.map Prod.fst = names) (h : PlainKeys names) :
    fields? names (object (fields.map fun (key, value) => (key.toList, value))) =
      some (fields.map fun field => some field.2) := by
  subst hnames
  rw [fields?_object fields h, List.map_map]
  congr 1
  refine List.map_congr_left fun field hfield => ?_
  rw [Function.comp_apply, find?_of_mem h.nodup hfield]
  rfl

lemma nullable?_of_ne_null {α : Type} {ask : Json → Option α} {j : Json} (h : j ≠ .null) :
    nullable? ask j = (ask j).map some := by
  cases j <;> first | rfl | exact absurd rfl h

lemma spelt_object (fields : List (String × Json)) (h : PlainKeys (fields.map Prod.fst))
    (hvalues : ∀ value ∈ fields.map Prod.snd, Spelt value) :
    Spelt (object (fields.map fun (key, value) => (key.toList, value))) := by
  refine .object ?_ ?_
  · intro m hm
    obtain ⟨field, hfield, rfl⟩ := List.mem_map.mp hm
    exact (h.plain field.1 (List.mem_map_of_mem hfield)).stringSpelling
  · intro m hm
    obtain ⟨field, hfield, rfl⟩ := List.mem_map.mp hm
    exact hvalues field.2 (List.mem_map_of_mem hfield)

lemma spelt_ofString (s : String) : Spelt (ofString s) := .string (stringSpelling_escape _)

lemma spelt_ofNat (n : Nat) : Spelt (ofNat n) := .number (numberSpelling_toDigits n)

lemma spelt_ofFloat (x : Float) : Spelt (ofFloat x) := by
  rw [ofFloat]
  split
  · next h => exact .number (numberSpelling_text h)
  · exact .null

end PolarCurve.Json
