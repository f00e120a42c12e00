import Mathlib
import PolarCurve.Number.Double

namespace PolarCurve.Double

open Float.Model Float.Model.UnpackedFloat

lemma toNat_unpackMantissa (b : BitVec Format.binary64.numBits) :
    (unpackMantissa b).toNat = b.toNat % 2 ^ 52 := by
  simp [unpackMantissa_def]

lemma toNat_unpackExponent (b : BitVec Format.binary64.numBits) :
    (unpackExponent b).toNat = b.toNat / 2 ^ 52 % 2 ^ 11 := by
  simp [unpackExponent_def, Nat.shiftRight_eq_div_pow]

lemma unpackMantissa_of_le_infinity {b : BitVec Format.binary64.numBits} (h : b.toNat ≤ infinity)
    (he : unpackExponent b = -1#_) : unpackMantissa b = 0#_ := by
  have hexp : b.toNat / 2 ^ 52 % 2 ^ 11 = 2047 := by
    have := congrArg BitVec.toNat he
    rwa [toNat_unpackExponent] at this
  apply BitVec.eq_of_toNat_eq
  rw [toNat_unpackMantissa]
  change b.toNat % 2 ^ 52 = 0
  rw [infinity] at h
  omega

lemma valid_of_le_infinity {u : UInt64} (h : u.toNat ≤ infinity) :
    Format.binary64.Valid u.toBitVec :=
  ⟨fun he hm => (hm (unpackMantissa_of_le_infinity h he)).elim⟩

lemma isNaN_of_le_infinity {x : Float} (h : x.toBits.toNat ≤ infinity) : x.isNaN = false := by
  change (UnpackedFloat.unpack Format.binary64 x.toBits.toBitVec).isNaN = false
  rw [UnpackedFloat.unpack]
  split
  · next he =>
    rw [if_pos (unpackMantissa_of_le_infinity h he)]
    rfl
  · split
    · split <;> rfl
    · rfl

theorem toBits_ofBits {u : UInt64} (h : u.toNat ≤ infinity) : (Float.ofBits u).toBits = u := by
  apply UInt64.toBitVec_inj.mp
  exact pack_unpack_of_valid (valid_of_le_infinity h)

lemma toBits_ofCode {n : Nat} (h : n ≤ infinity) : (ofCode false n).toBits.toNat = n := by
  have hn : (UInt64.ofNat n).toNat = n := by
    rw [UInt64.toNat_ofNat']
    rw [infinity] at h
    omega
  rw [ofCode, if_neg Bool.false_ne_true, toBits_ofBits (by omega), hn]

theorem code_ofCode {n : Nat} (h : n ≤ infinity) : code (ofCode false n) = n := by
  rw [code, toBits_ofCode h]
  rw [infinity] at h
  omega

theorem isNegative_ofCode {n : Nat} (h : n ≤ infinity) : isNegative (ofCode false n) = false := by
  rw [isNegative, toBits_ofCode h]
  rw [infinity] at h
  simp only [decide_eq_false_iff_not]
  omega

theorem isNaN_ofCode {n : Nat} (h : n ≤ infinity) : (ofCode false n).isNaN = false :=
  isNaN_of_le_infinity (by rwa [toBits_ofCode h])

theorem ofCode_code {x : Float} (h : isNegative x = false) : ofCode false (code x) = x := by
  have hsign : x.toBits.toNat < 2 ^ 63 := by simpa [isNegative] using h
  rw [ofCode, if_neg Bool.false_ne_true, code, Nat.mod_eq_of_lt hsign, UInt64.ofNat_toNat,
    Float.ofBits_toBits]

theorem eq_of_code {x y : Float} (hsign : isNegative x = isNegative y) (hcode : code x = code y) :
    x = y := by
  have hx := x.toBits.toNat_lt
  have hy := y.toBits.toNat_lt
  have hhigh : 2 ^ 63 ≤ x.toBits.toNat ↔ 2 ^ 63 ≤ y.toBits.toNat := by
    simpa [isNegative] using hsign
  rw [code, code] at hcode
  have hbits : x.toBits = y.toBits := by
    apply UInt64.toNat_inj.mp
    omega
  rw [← Float.ofBits_toBits x, hbits, Float.ofBits_toBits]

lemma toNat_unpackSign (b : BitVec Format.binary64.numBits) :
    (unpackSign b).toNat = b.toNat / 2 ^ 63 % 2 := by
  simp [unpackSign, Nat.shiftRight_eq_div_pow]

lemma neg_unpack {b b' : BitVec Format.binary64.numBits} (hm : unpackMantissa b' = unpackMantissa b)
    (he : unpackExponent b' = unpackExponent b)
    (hs : Sign.ofBitVec (unpackSign b') = -Sign.ofBitVec (unpackSign b)) :
    (UnpackedFloat.unpack Format.binary64 b).neg = UnpackedFloat.unpack Format.binary64 b' := by
  rw [UnpackedFloat.unpack, UnpackedFloat.unpack]
  simp only [hm, he, hs]
  split
  · split <;> rfl
  · split
    · split <;> rfl
    · rfl

lemma neg_unpack_of_add {b b' : BitVec Format.binary64.numBits} (hb : b.toNat < 2 ^ 63)
    (hb' : b'.toNat = 2 ^ 63 + b.toNat) :
    (UnpackedFloat.unpack Format.binary64 b).neg = UnpackedFloat.unpack Format.binary64 b' := by
  apply neg_unpack
  · apply BitVec.eq_of_toNat_eq
    rw [toNat_unpackMantissa, toNat_unpackMantissa]
    omega
  · apply BitVec.eq_of_toNat_eq
    rw [toNat_unpackExponent, toNat_unpackExponent]
    omega
  · have hplus : unpackSign b = 0#1 := by
      apply BitVec.eq_of_toNat_eq
      rw [toNat_unpackSign]
      exact congrArg (· % 2) (Nat.div_eq_of_lt hb)
    have hminus : unpackSign b' = 1#1 := by
      apply BitVec.eq_of_toNat_eq
      rw [toNat_unpackSign]
      change b'.toNat / 2 ^ 63 % 2 = 1
      omega
    rw [hplus, hminus]
    rfl

theorem neg_ofCode_code {x : Float} (hsign : isNegative x = true) (hle : code x ≤ infinity) :
    -ofCode false (code x) = x := by
  have hmagnitude : (ofCode false (code x)).toBits.toNat = code x := toBits_ofCode hle
  have hx : x.toBits.toNat = 2 ^ 63 + code x := by
    have hlow : 2 ^ 63 ≤ x.toBits.toNat := by simpa [isNegative] using hsign
    have hhigh := x.toBits.toNat_lt
    rw [code]
    omega
  have hlt : (ofCode false (code x)).toBits.toBitVec.toNat < 2 ^ 63 := by
    change (ofCode false (code x)).toBits.toNat < 2 ^ 63
    rw [hmagnitude]
    rw [infinity] at hle
    omega
  have hbits : (-ofCode false (code x)).toBits = x.toBits := by
    apply UInt64.toBitVec_inj.mp
    have hneg := neg_unpack_of_add hlt (hx.trans (congrArg (2 ^ 63 + ·) hmagnitude.symm))
    change UnpackedFloat.pack Format.binary64
      (UnpackedFloat.unpack Format.binary64 (ofCode false (code x)).toBits.toBitVec).neg = _
    rw [hneg]
    exact pack_unpack_of_valid x.toModel.valid
  rw [← Float.ofBits_toBits (-ofCode false (code x)), hbits, Float.ofBits_toBits]

lemma unpackExponent_eq_iff {b : BitVec Format.binary64.numBits} :
    unpackExponent b = -1#_ ↔ b.toNat / 2 ^ 52 % 2 ^ 11 = 2047 := by
  rw [← toNat_unpackExponent, ← BitVec.toNat_inj]
  rfl

lemma unpackMantissa_eq_iff {b : BitVec Format.binary64.numBits} :
    unpackMantissa b = 0#_ ↔ b.toNat % 2 ^ 52 = 0 := by
  rw [← toNat_unpackMantissa, ← BitVec.toNat_inj]
  rfl

lemma kind_unpack (b : BitVec Format.binary64.numBits) :
    ((UnpackedFloat.unpack Format.binary64 b).isNaN = true ↔
      unpackExponent b = -1#_ ∧ unpackMantissa b ≠ 0#_) ∧
    ((UnpackedFloat.unpack Format.binary64 b).isInf = true ↔
      unpackExponent b = -1#_ ∧ unpackMantissa b = 0#_) ∧
    ((UnpackedFloat.unpack Format.binary64 b).isFinite = true ↔ unpackExponent b ≠ -1#_) := by
  rw [UnpackedFloat.unpack]
  simp only [ne_eq]
  split
  · next he =>
    split
    · next hm => simp [he, hm, UnpackedFloat.isNaN, UnpackedFloat.isInf, UnpackedFloat.isFinite]
    · next hm => simp [he, hm, UnpackedFloat.isNaN, UnpackedFloat.isInf, UnpackedFloat.isFinite]
  · next he =>
    simp only [he, false_and, not_false_eq_true, iff_true, iff_false]
    split
    · split <;> exact ⟨Bool.false_ne_true, Bool.false_ne_true, rfl⟩
    · exact ⟨Bool.false_ne_true, Bool.false_ne_true, rfl⟩

theorem isNaN_iff {x : Float} : x.isNaN = true ↔ infinity < code x := by
  have hkind := (kind_unpack x.toBits.toBitVec).1
  rw [ne_eq, unpackExponent_eq_iff, unpackMantissa_eq_iff] at hkind
  refine hkind.trans ?_
  change _ ↔ 2047 * 2 ^ 52 < x.toBits.toBitVec.toNat % 2 ^ 63
  omega

theorem isInf_iff {x : Float} : x.isInf = true ↔ code x = infinity := by
  have hkind := (kind_unpack x.toBits.toBitVec).2.1
  rw [unpackExponent_eq_iff, unpackMantissa_eq_iff] at hkind
  refine hkind.trans ?_
  change _ ↔ x.toBits.toBitVec.toNat % 2 ^ 63 = 2047 * 2 ^ 52
  omega

theorem isFinite_iff {x : Float} : x.isFinite = true ↔ code x < infinity := by
  have hkind := (kind_unpack x.toBits.toBitVec).2.2
  rw [ne_eq, unpackExponent_eq_iff] at hkind
  refine hkind.trans ?_
  change _ ↔ x.toBits.toBitVec.toNat % 2 ^ 63 < 2047 * 2 ^ 52
  omega

lemma abs_unpack {b c : BitVec Format.binary64.numBits} (hm : unpackMantissa c = unpackMantissa b)
    (he : unpackExponent c = unpackExponent b) (hs : unpackSign c = 0#1) :
    (UnpackedFloat.unpack Format.binary64 b).abs = UnpackedFloat.unpack Format.binary64 c := by
  rw [UnpackedFloat.unpack, UnpackedFloat.unpack]
  simp only [hm, he, hs]
  split
  · split <;> rfl
  · split
    · split <;> rfl
    · rfl

theorem abs_eq_ofCode {x : Float} (hle : code x ≤ infinity) : x.abs = ofCode false (code x) := by
  have hcode : (ofCode false (code x)).toBits.toBitVec.toNat = x.toBits.toBitVec.toNat % 2 ^ 63 :=
    toBits_ofCode hle
  have hbits : x.abs.toBits = (ofCode false (code x)).toBits := by
    apply UInt64.toBitVec_inj.mp
    change UnpackedFloat.pack Format.binary64
      (UnpackedFloat.unpack Format.binary64 x.toBits.toBitVec).abs = _
    rw [abs_unpack (c := (ofCode false (code x)).toBits.toBitVec)]
    · exact pack_unpack_of_valid (ofCode false (code x)).toModel.valid
    · apply BitVec.eq_of_toNat_eq
      rw [toNat_unpackMantissa, toNat_unpackMantissa]
      omega
    · apply BitVec.eq_of_toNat_eq
      rw [toNat_unpackExponent, toNat_unpackExponent]
      omega
    · apply BitVec.eq_of_toNat_eq
      rw [toNat_unpackSign]
      change _ = 0
      omega
  rw [← Float.ofBits_toBits x.abs, hbits, Float.ofBits_toBits]

end PolarCurve.Double
