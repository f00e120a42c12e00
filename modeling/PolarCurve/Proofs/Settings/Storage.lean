import PolarCurve.Proofs.Settings.Document
import PolarCurve.Proofs.Store
import PolarCurve.Settings.Storage

namespace PolarCurve.Settings

lemma ofDocument?_fileText (s : Settings) : ofDocument? s.fileText = s.reread? :=
  ofDocument?_document s (List.forall_mem_singleton.mpr rfl)

lemma load_eq_ok_iff {path : String} {s t : Settings} {store : Store}
    (h : store.readText path = .ok s.fileText) :
    load path store = .ok t ↔ s.reread? = some t ∧ t.validate = .ok () := by
  rw [load, h]
  dsimp only
  rw [ofDocument?_fileText]
  cases s.reread? with
  | none => simp
  | some u =>
    rw [Option.some.injEq]
    dsimp only
    constructor
    · intro h
      split at h
      · cases h
      · next hvalid =>
        cases h
        exact ⟨rfl, hvalid⟩
    · rintro ⟨rfl, hvalid⟩
      rw [hvalid]

lemma save_of_valid {path : String} {s : Settings} {store written : Store}
    (h : s.validate = .ok ()) (hwrite : store.write path s.fileText.toUTF8 = .ok written) :
    s.save path store = .ok written := by
  rw [save, h]
  simp only [hwrite]

lemma exists_save {path : String} {s : Settings} {store : Store} (h : s.validate = .ok ())
    (hpath : store.Writable path) :
    ∃ written, s.save path store = .ok written ∧ written.readText path = .ok s.fileText ∧
      s.save path written = .ok written := by
  obtain ⟨written, hwrite, hread, hagain⟩ := Store.exists_write hpath s.fileText.toUTF8
  exact ⟨written, save_of_valid h hwrite, Store.readText_of_read hread, save_of_valid h hagain⟩

/-- They are loaded with every double as its own text is read, so as they were if and only if each
text is read as the double it was written for. -/
theorem load_save (s : Settings) (path : String) (store : Store) :
    (s.validate = .ok () → store.Writable path →
      ∃ written, s.save path store = .ok written ∧ written.readText path = .ok s.fileText ∧
        (∀ t, load path written = .ok t ↔ s.reread? = some t ∧ t.validate = .ok ()) ∧
        (load path written = .ok s ↔ ∀ x ∈ s.doubles, Json.reread? x = some x) ∧
        s.save path written = .ok written) ∧
      (∀ fault, s.validate = .error fault → s.save path store = .error (.invalid path fault)) := by
  constructor
  · intro hvalid hpath
    obtain ⟨written, hsave, hread, hagain⟩ := exists_save hvalid hpath
    refine ⟨written, hsave, hread, ?_, ?_, hagain⟩
    · intro t
      exact load_eq_ok_iff hread
    · rw [load_eq_ok_iff hread, reread?_eq_self_iff, and_iff_left hvalid]
  · intro fault hfault
    rw [save, hfault]

theorem load_save_default :
    default.validate = .ok () ∧ Store.empty.Writable "a.json" ∧
      (∀ x ∈ default.doubles, Json.reread? x = some x) ∧
      (∃ written, default.save "a.json" .empty = .ok written ∧
        load "a.json" written = .ok default) ∧
      let pointless : Settings := { default with size := 0 }
      pointless.validate = .error (.notPositive "size" 0) ∧
        pointless.save "a.json" .empty = .error (.invalid "a.json" (.notPositive "size" 0)) := by
  have hvalid : default.validate = .ok () := by decide +kernel
  have hpath : Store.empty.Writable "a.json" := ⟨["a.json"], by decide +kernel, nofun⟩
  have hdoubles : ∀ x ∈ default.doubles, Json.reread? x = some x := by decide +kernel
  obtain ⟨written, hsave, -, -, hload, -⟩ := (load_save default "a.json" .empty).1 hvalid hpath
  refine ⟨hvalid, hpath, hdoubles, ⟨written, hsave, hload.mpr hdoubles⟩, ?_⟩
  intro pointless
  have hpointless : pointless.validate = .error (.notPositive "size" 0) := by decide +kernel
  exact ⟨hpointless, (load_save pointless "a.json" .empty).2 _ hpointless⟩

theorem load_save_eleventh :
    let s : Settings := { default with drawSpeed := Float.ofBits 0x3fb745d1745d1746 }
    s.validate = .ok () ∧ Store.empty.Writable "a.json" ∧
      Json.reread? s.drawSpeed = some (Float.ofBits 0x3fb745d1745d1747) ∧
      ∃ written, s.save "a.json" .empty = .ok written ∧ load "a.json" written ≠ .ok s := by
  intro s
  have hvalid : s.validate = .ok () := by decide +kernel
  have hpath : Store.empty.Writable "a.json" := ⟨["a.json"], by decide +kernel, nofun⟩
  have hnext : Json.reread? s.drawSpeed = some (Float.ofBits 0x3fb745d1745d1747) := by
    decide +kernel
  have hne : Json.reread? s.drawSpeed ≠ some s.drawSpeed := by decide +kernel
  obtain ⟨written, hsave, hread, -⟩ := exists_save hvalid hpath
  refine ⟨hvalid, hpath, hnext, written, hsave, fun hload => hne ?_⟩
  rw [load_eq_ok_iff hread, reread?_eq_self_iff] at hload
  exact hload.1 _ (by simp [doubles])

end PolarCurve.Settings
