import PolarCurve.Proofs.Json.Shape
import PolarCurve.Settings

namespace PolarCurve

def Velocity.reread? (v : Velocity) : Option Velocity := do
  return ⟨← Json.reread? v.min, ← Json.reread? v.max, ← Json.reread? v.angle⟩

def Scale.reread? (s : Scale) : Option Scale := do
  return ⟨← Json.reread? s.first, ← Json.reread? s.last⟩

def EmissionRate.reread? (r : EmissionRate) : Option EmissionRate := do
  return ⟨r.fewest, r.most, ← Json.reread? r.shortest, ← Json.reread? r.longest⟩

lemma Velocity.reread?_eq_some {v w : Velocity} (h : v.reread? = some w) :
    Json.reread? v.min = some w.min ∧ Json.reread? v.max = some w.max ∧
      Json.reread? v.angle = some w.angle := by
  obtain ⟨min, hmin, h⟩ := Option.bind_eq_some_iff.mp h
  obtain ⟨max, hmax, h⟩ := Option.bind_eq_some_iff.mp h
  obtain ⟨angle, hangle, h⟩ := Option.bind_eq_some_iff.mp h
  cases h
  exact ⟨hmin, hmax, hangle⟩

lemma Scale.reread?_eq_some {s t : Scale} (h : s.reread? = some t) :
    Json.reread? s.first = some t.first ∧ Json.reread? s.last = some t.last := by
  obtain ⟨first, hfirst, h⟩ := Option.bind_eq_some_iff.mp h
  obtain ⟨last, hlast, h⟩ := Option.bind_eq_some_iff.mp h
  cases h
  exact ⟨hfirst, hlast⟩

lemma EmissionRate.reread?_eq_some {r t : EmissionRate} (h : r.reread? = some t) :
    Json.reread? r.shortest = some t.shortest ∧ Json.reread? r.longest = some t.longest := by
  obtain ⟨shortest, hshortest, h⟩ := Option.bind_eq_some_iff.mp h
  obtain ⟨longest, hlongest, h⟩ := Option.bind_eq_some_iff.mp h
  cases h
  exact ⟨hshortest, hlongest⟩

namespace Settings

def reread? (s : Settings) : Option Settings := do
  return { s with
    size := ← Json.reread? s.size
    drawSpeed := ← Json.reread? s.drawSpeed
    xDrift := ← Json.reread? s.xDrift
    yDrift := ← Json.reread? s.yDrift
    driftDelay := ← Json.reread? s.driftDelay
    lifespan := ← Json.reread? s.lifespan
    damping := ← Json.reread? s.damping
    particleVelocity := ← Json.reread? s.particleVelocity
    hueMin := ← Json.reread? s.hueMin
    hueMax := ← Json.reread? s.hueMax
    velocity := ← s.velocity.reread?
    scale := ← s.scale.reread?
    emissionRate := ← s.emissionRate.reread?
    emitterRateTime := ← Json.reread? s.emitterRateTime }

def doubles (s : Settings) : List Float :=
  [s.size, s.drawSpeed, s.xDrift, s.yDrift, s.driftDelay, s.lifespan, s.damping, s.particleVelocity,
    s.hueMin, s.hueMax, s.velocity.min, s.velocity.max, s.velocity.angle, s.scale.first, s.scale.last,
    s.emissionRate.shortest, s.emissionRate.longest, s.emitterRateTime]

lemma reread?_doubles {s t : Settings} (h : s.reread? = some t) :
    List.Forall₂ (fun x y => Json.reread? x = some y) s.doubles t.doubles := by
  obtain ⟨size, hsize, h⟩ := Option.bind_eq_some_iff.mp h
  obtain ⟨drawSpeed, hdrawSpeed, h⟩ := Option.bind_eq_some_iff.mp h
  obtain ⟨xDrift, hxDrift, h⟩ := Option.bind_eq_some_iff.mp h
  obtain ⟨yDrift, hyDrift, h⟩ := Option.bind_eq_some_iff.mp h
  obtain ⟨driftDelay, hdriftDelay, h⟩ := Option.bind_eq_some_iff.mp h
  obtain ⟨lifespan, hlifespan, h⟩ := Option.bind_eq_some_iff.mp h
  obtain ⟨damping, hdamping, h⟩ := Option.bind_eq_some_iff.mp h
  obtain ⟨particleVelocity, hparticleVelocity, h⟩ := Option.bind_eq_some_iff.mp h
  obtain ⟨hueMin, hhueMin, h⟩ := Option.bind_eq_some_iff.mp h
  obtain ⟨hueMax, hhueMax, h⟩ := Option.bind_eq_some_iff.mp h
  obtain ⟨velocity, hvelocity, h⟩ := Option.bind_eq_some_iff.mp h
  obtain ⟨scale, hscale, h⟩ := Option.bind_eq_some_iff.mp h
  obtain ⟨rate, hrate, h⟩ := Option.bind_eq_some_iff.mp h
  obtain ⟨time, htime, h⟩ := Option.bind_eq_some_iff.mp h
  cases h
  simp only [doubles, List.forall₂_cons, hsize, hdrawSpeed, hxDrift, hyDrift, hdriftDelay, hlifespan,
    hdamping, hparticleVelocity, hhueMin, hhueMax, Velocity.reread?_eq_some hvelocity,
    Scale.reread?_eq_some hscale, EmissionRate.reread?_eq_some hrate, htime]
  simp

theorem reread?_eq_self_iff (s : Settings) :
    s.reread? = some s ↔ ∀ x ∈ s.doubles, Json.reread? x = some x := by
  constructor
  · intro h
    exact List.forall₂_same.mp (reread?_doubles h)
  · intro h
    simp only [doubles, List.forall_mem_cons] at h
    simp [reread?, Velocity.reread?, Scale.reread?, EmissionRate.reread?, h]

lemma names_plain : Json.PlainKeys names := by decide

lemma velocityKeys : Json.PlainKeys ["min", "max", "angle"] := by decide

lemma scaleKeys : Json.PlainKeys ["start", "end"] := by decide

lemma emissionRateKeys : Json.PlainKeys ["particles", "time"] := by decide

lemma count?_count (n : UInt32) : count? (count n) = some n := by
  have hlt := n.toNat_lt
  rw [count?, count, Json.nat?_ofNat (by omega)]
  simp only [Option.bind_eq_bind, Option.bind_some, if_pos hlt, UInt32.ofNat_toNat]

lemma float?_ofFloat (x : Float) : (Json.ofFloat x).float? = Json.reread? x := rfl

lemma velocity?_record (v : Velocity) :
    velocity? (record [("min", Json.ofFloat v.min), ("max", Json.ofFloat v.max),
      ("angle", Json.ofFloat v.angle)]) = v.reread? := by
  rw [velocity?, record, Json.fields?_record (by rfl) velocityKeys]
  rfl

lemma scale?_record (s : Scale) :
    scale? (record [("start", Json.ofFloat s.first), ("end", Json.ofFloat s.last)]) =
      s.reread? := by
  rw [scale?, record, Json.fields?_record (by rfl) scaleKeys]
  rfl

lemma emissionRate?_record (r : EmissionRate) :
    emissionRate? (record [("particles", .array [count r.fewest, count r.most]),
      ("time", .array [Json.ofFloat r.shortest, Json.ofFloat r.longest])]) = r.reread? := by
  rw [emissionRate?, record, Json.fields?_record (by rfl) emissionRateKeys]
  simp only [Option.bind_eq_bind, Option.bind_some, List.map_cons, List.map_nil, Json.items?,
    count?_count]
  rfl

theorem ofJson?_toJson (s : Settings) : ofJson? s.toJson = s.reread? := by
  rw [ofJson?, toJson, record, Json.fields?_record (by rfl) names_plain, Option.bind_eq_bind,
    Option.bind_some]
  simp only [List.map_cons, List.map_nil, Json.orElse?, Json.text?_ofString, float?_ofFloat,
    velocity?_record, scale?_record, emissionRate?_record, count?_count]
  rfl

lemma spelt_count (n : UInt32) : Json.Spelt (count n) := Json.spelt_ofNat _

lemma spelt_record {fields : List (String × Json)} {names : List String}
    (hnames : fields.map Prod.fst = names) (h : Json.PlainKeys names)
    (hvalues : ∀ value ∈ fields.map Prod.snd, Json.Spelt value) : Json.Spelt (record fields) :=
  Json.spelt_object fields (hnames ▸ h) hvalues

lemma spelt_emissionRate (r : EmissionRate) :
    Json.Spelt (record [("particles", .array [count r.fewest, count r.most]),
      ("time", .array [Json.ofFloat r.shortest, Json.ofFloat r.longest])]) := by
  have hcounts : Json.Spelt (.array [count r.fewest, count r.most]) :=
    .array (by simp [spelt_count])
  have htimes : Json.Spelt (.array [Json.ofFloat r.shortest, Json.ofFloat r.longest]) :=
    .array (by simp [Json.spelt_ofFloat])
  refine spelt_record rfl emissionRateKeys ?_
  simp [hcounts, htimes]

lemma spelt_toJson (s : Settings) : Json.Spelt s.toJson := by
  have hvelocity : Json.Spelt (record [("min", Json.ofFloat s.velocity.min),
      ("max", Json.ofFloat s.velocity.max), ("angle", Json.ofFloat s.velocity.angle)]) :=
    spelt_record rfl velocityKeys (by simp [Json.spelt_ofFloat])
  have hscale : Json.Spelt (record [("start", Json.ofFloat s.scale.first),
      ("end", Json.ofFloat s.scale.last)]) :=
    spelt_record rfl scaleKeys (by simp [Json.spelt_ofFloat])
  refine spelt_record rfl names_plain ?_
  simp [Json.spelt_ofString, Json.spelt_ofFloat, spelt_count, hvelocity, hscale,
    spelt_emissionRate s.emissionRate]

theorem ofDocument?_document (s : Settings) {blank : String}
    (h : ∀ c ∈ blank.toList, Json.isSpacing c = true) :
    ofDocument? (s.document ++ blank) = s.reread? := by
  have hread := Json.ofText?_print (spelt_toJson s) h
  rw [ofDocument?, document, Json.text, String.toList_append, String.toList_ofList, hread,
    Option.bind_eq_bind, Option.bind_some, ofJson?_toJson]

end Settings

end PolarCurve
