import Mathlib
import Retrieval.Number.Double

/-!
Doubles as the rationals they stand for. The parts of a double are those that its operations work
on, and they are canonical: of two magnitudes the one with the larger exponent is larger. Main
statements: finite doubles are ordered as their values, and a sum of one and a part of one is
rounded past no double.
-/

namespace Retrieval.Number

open Float.Model Float.Model.UnpackedFloat

theorem twoTo_eq (k : Nat) : twoTo k = 2 ^ k := by
  rw [twoTo, Nat.pow_eq]

/-- The rational that finite parts stand for. -/
def Parts.value? : Parts → Option ℚ
  | .finite negative m q => some ((if negative then -1 else 1) * m * 2 ^ q)
  | _ => none

/-- A double is exactly a rational. -/
def HasValue (x : Float) (v : ℚ) : Prop := (parts x).value? = some v

theorem hasValue_of_parts {x : Float} {m : Nat} {q : Int} (h : parts x = .finite false m q) :
    HasValue x (m * 2 ^ q) := by
  rw [HasValue, h]
  simp [Parts.value?]

theorem hasValue_zero : HasValue 0.0 0 := by
  simpa using hasValue_of_parts (show parts 0.0 = .finite false 0 (-1074) by decide)

theorem hasValue_one : HasValue 1.0 1 := by
  have h := hasValue_of_parts (show parts 1.0 = .finite false (2 ^ 52) (-52) by decide)
  norm_num at h
  exact h

theorem hasValue_two : HasValue 2.0 2 := by
  have h := hasValue_of_parts (show parts 2.0 = .finite false (2 ^ 52) (-51) by decide)
  norm_num at h
  exact h

/-- The parts of a double in the form that its operations work on. -/
def Parts.ofUnpacked : UnpackedFloat → Parts
  | .infinity s => .infinite (s == .negative)
  | .notANumber => .nan
  | .zero s => .finite (s == .negative) 0 leastExponent
  | .finite s m e _ => .finite (s == .negative) m e

theorem toNat_unpackMantissa (b : BitVec 64) :
    (@unpackMantissa Format.binary64 b).toNat = b.toNat % 2 ^ 52 := by
  simp [unpackMantissa]

theorem toNat_unpackExponent (b : BitVec 64) :
    (@unpackExponent Format.binary64 b).toNat = b.toNat / 2 ^ 52 % 2 ^ 11 := by
  simp [unpackExponent, Nat.shiftRight_eq_div_pow]

theorem toNat_unpackSign (b : BitVec 64) :
    (@unpackSign Format.binary64 b).toNat = b.toNat / 2 ^ 63 % 2 := by
  simp [unpackSign, Nat.shiftRight_eq_div_pow]

theorem sign_ofBitVec (b : BitVec 1) : (Sign.ofBitVec b == .negative) = (b.toNat == 1) := by
  have hcases : b = 0#1 ∨ b = 1#1 := by
    have hlt := b.isLt
    simp only [← BitVec.toNat_inj, BitVec.toNat_ofNat]
    omega
  obtain rfl | rfl := hcases <;> rfl

theorem toNat_append_one (m : BitVec 52) : (1#1 ++ m).toNat = 2 ^ 52 + m.toNat := by
  rw [BitVec.toNat_append, ← Nat.shiftLeft_add_eq_or_of_lt m.isLt]
  simp [Nat.shiftLeft_eq]

theorem unpackExponent_eq_iff (b : BitVec 64) (e : BitVec 11) :
    @unpackExponent Format.binary64 b = e ↔
      (@unpackExponent Format.binary64 b).toNat = e.toNat :=
  BitVec.toNat_inj.symm

theorem unpackMantissa_eq_zero_iff (b : BitVec 64) :
    @unpackMantissa Format.binary64 b = 0#52 ↔
      (@unpackMantissa Format.binary64 b).toNat = 0 :=
  BitVec.toNat_inj.symm

theorem partsOfBits_toNat (b : BitVec 64) :
    partsOfBits b.toNat = .ofUnpacked (UnpackedFloat.unpack Format.binary64 b) := by
  have hsign := (sign_ofBitVec (@unpackSign Format.binary64 b)).trans
    (congrArg (· == 1) (toNat_unpackSign b))
  unfold UnpackedFloat.unpack partsOfBits
  simp only [twoTo_eq, ← toNat_unpackMantissa b, ← toNat_unpackExponent b, ← hsign]
  have hones := unpackExponent_eq_iff b (-1#11)
  have hzero := unpackExponent_eq_iff b 0#11
  have hnone := unpackMantissa_eq_zero_iff b
  have hbias : Format.binary64.exponentBias = 1023 := rfl
  by_cases h : (@unpackExponent Format.binary64 b).toNat = 2 ^ 11 - 1
  · rw [if_pos h, if_pos (hones.mpr h)]
    by_cases hm : (@unpackMantissa Format.binary64 b).toNat = 0
    · rw [if_pos hm, if_pos (hnone.mpr hm)]
      rfl
    · rw [if_neg hm, if_neg (mt hnone.mp hm)]
      rfl
  rw [if_neg h, if_neg (mt hones.mp h)]
  by_cases he : (@unpackExponent Format.binary64 b).toNat = 0
  · rw [if_pos he, if_pos (hzero.mpr he)]
    by_cases hm : (@unpackMantissa Format.binary64 b).toNat = 0
    · rw [dif_pos (hnone.mpr hm), hm]
      rfl
    · rw [dif_neg (mt hnone.mp hm), he, hbias]
      rfl
  · rw [if_neg he, if_neg (mt hzero.mp he), hbias, Parts.ofUnpacked, toNat_append_one]
    rfl

/-- The parts of a double are those that its operations work on. -/
theorem parts_eq (x : Float) : parts x = .ofUnpacked x.toModel.unpack :=
  partsOfBits_toNat x.toModel.toBits.toBitVec

/-- The significand of a finite double fits, and it is as large as it can be unless the exponent is
the least. -/
structure IsCanonical (m : Nat) (e : Int) : Prop where
  fits : m < 2 ^ 53
  least : -1074 ≤ e
  most : e ≤ 971
  leading : 2 ^ 52 ≤ m ∨ e = -1074

theorem isCanonical_of_partsOfBits {bits : Nat} {negative : Bool} {m : Nat} {e : Int}
    (h : partsOfBits bits = .finite negative m e) : IsCanonical m e := by
  have hfraction : bits % 2 ^ 52 < 2 ^ 52 := Nat.mod_lt _ (by decide)
  simp only [partsOfBits, twoTo_eq] at h
  split at h
  · split at h <;> cases h
  · split at h
    · obtain ⟨-, rfl, rfl⟩ := Parts.finite.inj h
      exact ⟨by omega, by decide, by decide, .inr rfl⟩
    · obtain ⟨-, rfl, rfl⟩ := Parts.finite.inj h
      exact ⟨by omega, by omega, by omega, .inl (Nat.le_add_right _ _)⟩

variable {m n : Nat} {e f : Int}

/-- With a larger exponent a magnitude is larger. -/
theorem magnitude_lt_of_exponent_lt (hm : IsCanonical m e) (hn : IsCanonical n f) (h : e < f) :
    (m : ℚ) * 2 ^ e < n * 2 ^ f := by
  have hleading : 2 ^ 52 ≤ n := hn.leading.resolve_right (by have := hm.least; omega)
  calc (m : ℚ) * 2 ^ e < 2 ^ 53 * 2 ^ e := by
        have hfits : (m : ℚ) < 2 ^ 53 := by exact_mod_cast hm.fits
        gcongr
    _ = 2 ^ 52 * 2 ^ (e + 1) := by
        rw [zpow_add₀ (by norm_num)]
        ring
    _ ≤ 2 ^ 52 * 2 ^ f := by
        gcongr
        · norm_num
        · omega
    _ ≤ n * 2 ^ f := by
        have hmost : (2 : ℚ) ^ 52 ≤ n := by exact_mod_cast hleading
        gcongr

/-- Magnitudes are ordered as their exponents, and with one exponent as their significands. -/
theorem compare_magnitude (hm : IsCanonical m e) (hn : IsCanonical n f) :
    (compare e f).then (compare m n) = compare ((m : ℚ) * 2 ^ e) (n * 2 ^ f) := by
  obtain h | rfl | h := lt_trichotomy e f
  · rw [compare_lt_iff_lt.mpr h, compare_lt_iff_lt.mpr (magnitude_lt_of_exponent_lt hm hn h)]
    rfl
  · have hpos : (0 : ℚ) < 2 ^ e := by positivity
    rw [compare_eq_iff_eq.mpr rfl, Ordering.eq_then]
    obtain h | rfl | h := lt_trichotomy m n
    · rw [compare_lt_iff_lt.mpr h, compare_lt_iff_lt.mpr]
      exact mul_lt_mul_of_pos_right (by exact_mod_cast h) hpos
    · rw [compare_eq_iff_eq.mpr rfl, compare_eq_iff_eq.mpr rfl]
    · rw [compare_gt_iff_gt.mpr h, compare_gt_iff_gt.mpr]
      exact mul_lt_mul_of_pos_right (by exact_mod_cast h) hpos
  · rw [compare_gt_iff_gt.mpr h, compare_gt_iff_gt.mpr (magnitude_lt_of_exponent_lt hn hm h)]
    rfl

variable {x y : Float} {v w : ℚ}

/-- What the operations on a double work on, given its value. -/
theorem HasValue.unpack_cases (h : HasValue x v) :
    (∃ s, x.toModel.unpack = .zero s ∧ v = 0) ∨
      ∃ m e, ∃ hpos : 0 < m, IsCanonical m e ∧
        ((x.toModel.unpack = .finite .positive m e hpos ∧ v = m * 2 ^ e) ∨
          (x.toModel.unpack = .finite .negative m e hpos ∧ v = -(m * 2 ^ e))) := by
  have hcanonical {negative : Bool} {m : Nat} {e : Int} (hp : parts x = .finite negative m e) :=
    isCanonical_of_partsOfBits hp
  rw [HasValue, parts_eq] at h
  rw [parts_eq] at hcanonical
  cases hx : x.toModel.unpack with
  | infinity s => rw [hx] at h; cases h
  | notANumber => rw [hx] at h; cases h
  | zero s =>
    rw [hx] at h
    obtain rfl := Option.some.inj h
    exact .inl ⟨s, rfl, by simp⟩
  | finite s m e hpos =>
    rw [hx] at h hcanonical
    refine .inr ⟨m, e, hpos, hcanonical rfl, ?_⟩
    cases s with
    | positive =>
      have hv : (Parts.finite false m e).value? = some v := h
      simp only [Parts.value?, Bool.false_eq_true, if_false, one_mul, Option.some.injEq] at hv
      exact .inl ⟨rfl, hv.symm⟩
    | negative =>
      have hv : (Parts.finite true m e).value? = some v := h
      simp only [Parts.value?, if_true, neg_mul, one_mul, Option.some.injEq] at hv
      exact .inr ⟨rfl, hv.symm⟩

theorem compare_neg_neg (a b : ℚ) : compare (-a) (-b) = (compare a b).swap := by
  obtain h | rfl | h := lt_trichotomy a b
  · rw [compare_lt_iff_lt.mpr h, compare_gt_iff_gt.mpr (neg_lt_neg h)]
    rfl
  · rw [compare_eq_iff_eq.mpr rfl, compare_eq_iff_eq.mpr rfl]
    rfl
  · rw [compare_gt_iff_gt.mpr h, compare_lt_iff_lt.mpr (neg_lt_neg h)]
    rfl

/-- Doubles compare as their values. -/
theorem compare_of_hasValue (hx : HasValue x v) (hy : HasValue y w) :
    x.toModel.unpack.compare y.toModel.unpack = some (compare v w) := by
  have hmagnitude {m : Nat} (e : Int) (hm : 0 < m) : (0 : ℚ) < m * 2 ^ e := by positivity
  obtain ⟨s, hs, rfl⟩ | ⟨m, e, hm, hcm, ⟨hs, rfl⟩ | ⟨hs, rfl⟩⟩ := hx.unpack_cases <;>
    obtain ⟨t, ht, rfl⟩ | ⟨n, f, hn, hcn, ⟨ht, rfl⟩ | ⟨ht, rfl⟩⟩ := hy.unpack_cases <;>
    rw [hs, ht, UnpackedFloat.compare]
  · rw [compare_eq_iff_eq.mpr rfl]
  · rw [compare_lt_iff_lt.mpr (hmagnitude f hn)]
  · rw [compare_gt_iff_gt.mpr (neg_lt_zero.mpr (hmagnitude f hn))]
  · rw [compare_gt_iff_gt.mpr (hmagnitude e hm)]
  · rw [compare_magnitude hcm hcn]
  · rw [compare_gt_iff_gt.mpr ((neg_lt_zero.mpr (hmagnitude f hn)).trans (hmagnitude e hm))]
  · rw [compare_lt_iff_lt.mpr (neg_lt_zero.mpr (hmagnitude e hm))]
  · rw [compare_lt_iff_lt.mpr ((neg_lt_zero.mpr (hmagnitude e hm)).trans (hmagnitude f hn))]
  · rw [compare_magnitude hcm hcn, compare_neg_neg]

/-- Doubles are ordered as their values. -/
theorem le_iff (hx : HasValue x v) (hy : HasValue y w) : x ≤ y ↔ v ≤ w := by
  have hle : x ≤ y ↔ (x.toModel.unpack.compare y.toModel.unpack).any (·.isLE) = true :=
    decide_eq_true_iff
  rw [hle, compare_of_hasValue hx hy, Option.any_some]
  obtain h | h | h := lt_trichotomy v w
  · simp [compare_lt_iff_lt.mpr h, h.le]
  · simp [compare_eq_iff_eq.mpr h, h.le]
  · simp [compare_gt_iff_gt.mpr h, h]

theorem lt_iff (hx : HasValue x v) (hy : HasValue y w) : x < y ↔ v < w := by
  have hlt : x < y ↔ (x.toModel.unpack.compare y.toModel.unpack == some .lt) = true :=
    decide_eq_true_iff
  rw [hlt, compare_of_hasValue hx hy, beq_iff_eq, Option.some.injEq, compare_lt_iff_lt]

theorem beq_iff (hx : HasValue x v) (hy : HasValue y w) : (x == y) = true ↔ v = w := by
  have hbeq : (x == y) = (x.toModel.unpack.compare y.toModel.unpack == some .eq) := rfl
  rw [hbeq, compare_of_hasValue hx hy, beq_iff_eq, Option.some.injEq, compare_eq_iff_eq]

/-- A normal significand is packed without its first place, and its exponent with the bias. -/
theorem pack_normal (s : Sign) (hpos : 0 < m) (hm : IsCanonical m e) (hleading : 2 ^ 52 ≤ m) :
    UnpackedFloat.pack Format.binary64 (.finite s m e hpos) =
      packComponents Format.binary64 s (BitVec.ofNat 11 (e + 1075).toNat) (BitVec.ofNat 52 m) := by
  have hlog : m.log2 = 52 := (Nat.log2_eq_iff hpos.ne').mpr ⟨hleading, hm.fits⟩
  have hsum : e + (Format.binary64.exponentBias : Int) + (52 : Nat) = e + 1075 := by
    rw [show Format.binary64.exponentBias = 1023 from rfl]
    omega
  have hmost : ¬ 2 ^ Format.binary64.exponentBits ≤ (e + 1075).toNat + 1 := by
    have hmost := hm.most
    change ¬ 2 ^ 11 ≤ _
    omega
  have hwidth : 52 + 1 = Format.binary64.mantissaBits := rfl
  rw [UnpackedFloat.pack, hlog, hsum, if_neg hmost, if_pos hwidth]

/-- What a normal significand and its exponent are packed into, they are unpacked from. -/
theorem unpack_pack_normal (s : Sign) (hpos : 0 < m) (hm : IsCanonical m e)
    (hleading : 2 ^ 52 ≤ m) :
    (Float.Model.pack (.finite s m e hpos)).unpack = .finite s m e hpos := by
  have hpack := pack_normal s hpos hm hleading
  obtain ⟨hfits, hleast, hmost, -⟩ := hm
  have hbiased : (((e + 1075).toNat : Nat) : Int) = e + 1075 := Int.toNat_of_nonneg (by omega)
  have hexponent : (BitVec.ofNat 11 (e + 1075).toNat).toNat = (e + 1075).toNat := by
    rw [BitVec.toNat_ofNat, Nat.mod_eq_of_lt (by omega)]
  have hsignificand : (1#1 ++ BitVec.ofNat 52 m).toNat = m := by
    rw [toNat_append_one, BitVec.toNat_ofNat]
    omega
  have hnotOnes : BitVec.ofNat 11 (e + 1075).toNat ≠ -1#11 := by
    rw [ne_eq, ← BitVec.toNat_inj, hexponent, show (-1#11).toNat = 2047 from rfl]
    omega
  have hnotZero : BitVec.ofNat 11 (e + 1075).toNat ≠ 0#11 := by
    rw [ne_eq, ← BitVec.toNat_inj, hexponent, show (0#11).toNat = 0 from rfl]
    omega
  have hunpack : (Float.Model.pack (.finite s m e hpos)).unpack = UnpackedFloat.unpack
      Format.binary64 (UnpackedFloat.pack Format.binary64 (.finite s m e hpos)) := rfl
  rw [hunpack, hpack, UnpackedFloat.unpack]
  simp only [unpackMantissa_packComponents, unpackExponent_packComponents,
    unpackSign_packComponents, Sign.ofBitVec_toBitVec, hnotOnes, hnotZero, if_false, hexponent]
  congr 1
  rw [hbiased, show Format.binary64.exponentBias = 1023 from rfl]
  omega

theorem mantissa_shiftRight (em : ExtendedMantissa) (k : Nat) :
    (em >>> k).mantissa = em.mantissa / 2 ^ k := by
  induction k generalizing em with
  | zero =>
    change em.mantissa = em.mantissa / 2 ^ 0
    rw [pow_zero, Nat.div_one]
  | succ k ih =>
    change (em >>> k).mantissa / 2 = _
    rw [ih, Nat.div_div_eq_div_mul, pow_succ]

/-- Rounding adds at most one unit. -/
theorem roundedMantissa_bounds (em : ExtendedMantissa) :
    em.mantissa ≤ em.roundedMantissa ∧ em.roundedMantissa ≤ em.mantissa + 1 := by
  obtain ⟨n, roundBit, stickyBit⟩ := em
  cases roundBit <;> cases stickyBit <;>
    simp only [ExtendedMantissa.roundedMantissa, ExtendedMantissa.accuracy,
      Accuracy.roundToNearestEven] <;> omega

/-- The exponent that a magnitude gets whose leading digits are cut off after `k` of them. -/
theorem targetExponent_eq {k : Nat} {t : Int} (ht : e + k = t) (hleast : -1074 ≤ t)
    (hleading : 2 ^ 52 ≤ m / 2 ^ k) (hfits : m / 2 ^ k < 2 ^ 53) :
    Format.binary64.targetExponent (totalExponent m e) = t := by
  have hpos : 0 < 2 ^ k := Nat.two_pow_pos k
  have hlow : 2 ^ (52 + k) ≤ m := by
    rw [pow_add]
    exact (Nat.le_div_iff_mul_le hpos).mp hleading
  have hhigh : m < 2 ^ (53 + k) := by
    rw [pow_add]
    exact (Nat.div_lt_iff_lt_mul hpos).mp hfits
  have hne : m ≠ 0 := by
    have := Nat.two_pow_pos (52 + k)
    omega
  have hlog : m.log2 = 52 + k := (Nat.log2_eq_iff hne).mpr ⟨hlow, by rwa [add_right_comm]⟩
  have hwidth : (Format.binary64.mantissaBits : Int) = 53 := rfl
  have hmin : Format.binary64.minExponent = -1074 := rfl
  rw [Format.targetExponent, totalExponent, hlog, hwidth, hmin]
  push_cast
  omega

theorem shiftToTargetExponent_eq {k : Nat} {t : Int} (ht : e + k = t) (hleast : -1074 ≤ t)
    (hleading : 2 ^ 52 ≤ m / 2 ^ k) (hfits : m / 2 ^ k < 2 ^ 53) :
    shiftToTargetExponent Format.binary64 m e .exact =
      ((⟨m, false, false⟩ : ExtendedMantissa) >>> k, t) := by
  have hshift : (t - e).toNat = k := by omega
  have htarget : shiftToTargetExponent Format.binary64 m e .exact =
      shiftToExponent m e .exact (Format.binary64.targetExponent (totalExponent m e)) := rfl
  rw [htarget, targetExponent_eq ht hleast hleading hfits, shiftToExponent, hshift]
  subst ht
  rw [← hshift, Int.toNat_of_nonneg (by omega)]
  have hadd : e + (e + k - e) = e + k := by omega
  rw [hadd]
  rfl

/-- Rounding cuts a magnitude off and rounds it, and once more if that made it too long. -/
theorem roundWithAccuracy_eq {cut again : ExtendedMantissa} {t f : Int}
    (hcut : shiftToTargetExponent Format.binary64 m e .exact = (cut, t))
    (hagain : shiftToTargetExponent Format.binary64 cut.roundedMantissa t .exact = (again, f))
    (hn : again.mantissa = n) (hpos : 0 < n) :
    roundWithAccuracy Format.binary64 .positive m e .exact = .finite .positive n f hpos := by
  subst hn
  rw [roundWithAccuracy, hcut]
  dsimp only
  rw [hagain]
  exact dif_neg hpos.ne'

/-- A magnitude is rounded to a normal one that is no smaller than its leading digits. -/
theorem exists_round {k : Nat} {t : Int} (ht : e + k = t) (hleast : -1074 ≤ t)
    (hleading : 2 ^ 52 ≤ m / 2 ^ k) (hfits : m / 2 ^ k < 2 ^ 53) :
    ∃ (n : Nat) (f : Int) (hpos : 0 < n),
      UnpackedFloat.round Format.binary64 .positive m e = .finite .positive n f hpos ∧
      2 ^ 52 ≤ n ∧ n < 2 ^ 53 ∧ t ≤ f ∧ f ≤ t + 1 ∧
      ((m / 2 ^ k : Nat) : ℚ) * 2 ^ t ≤ n * 2 ^ f := by
  have hround : UnpackedFloat.round Format.binary64 .positive m e =
      roundWithAccuracy Format.binary64 .positive m e .exact := by
    have hshift : (e - t).toNat = 0 := by omega
    rw [UnpackedFloat.round, targetExponent_eq ht hleast hleading hfits, decreaseExponent, hshift]
    simp
  have hcut := shiftToTargetExponent_eq ht hleast hleading hfits
  have hbounds := roundedMantissa_bounds ((⟨m, false, false⟩ : ExtendedMantissa) >>> k)
  rw [mantissa_shiftRight] at hbounds
  rw [hround]
  generalize hr : ((⟨m, false, false⟩ : ExtendedMantissa) >>> k).roundedMantissa = r at hbounds
  obtain ⟨hfloor, hceil⟩ : m / 2 ^ k ≤ r ∧ r ≤ m / 2 ^ k + 1 := hbounds
  have hcast : ((m / 2 ^ k : Nat) : ℚ) ≤ r := by exact_mod_cast hfloor
  have hpos : (0 : ℚ) ≤ 2 ^ t := by positivity
  by_cases hlt : r < 2 ^ 53
  · have hagain : shiftToTargetExponent Format.binary64 r t .exact =
        ((⟨r, false, false⟩ : ExtendedMantissa) >>> 0, t) :=
      shiftToTargetExponent_eq (by omega) hleast (by simp; omega) (by simpa using hlt)
    have hsame : ((⟨r, false, false⟩ : ExtendedMantissa) >>> 0).mantissa = r := by
      rw [mantissa_shiftRight, pow_zero, Nat.div_one]
    exact ⟨r, t, by omega, roundWithAccuracy_eq hcut (by rw [hr, hagain]) hsame _,
      hleading.trans hfloor, hlt, le_refl t, by omega, mul_le_mul_of_nonneg_right hcast hpos⟩
  · obtain rfl : r = 2 ^ 53 := by omega
    have hagain : shiftToTargetExponent Format.binary64 (2 ^ 53) t .exact =
        ((⟨2 ^ 53, false, false⟩ : ExtendedMantissa) >>> 1, t + 1) :=
      shiftToTargetExponent_eq (by omega) (by omega) (by decide) (by decide)
    have hhalf : ((⟨2 ^ 53, false, false⟩ : ExtendedMantissa) >>> 1).mantissa = 2 ^ 52 := by
      rw [mantissa_shiftRight]
      rfl
    refine ⟨2 ^ 52, t + 1, by decide, roundWithAccuracy_eq hcut (by rw [hr, hagain]) hhalf _,
      le_refl _, by decide, by omega, le_refl _, ?_⟩
    calc ((m / 2 ^ k : Nat) : ℚ) * 2 ^ t ≤ (2 ^ 53 : Nat) * 2 ^ t :=
          mul_le_mul_of_nonneg_right hcast hpos
      _ = (2 ^ 52 : Nat) * 2 ^ (t + 1) := by
          rw [zpow_add₀ (by norm_num)]
          push_cast
          ring

theorem isCanonical_one : IsCanonical (2 ^ 52) (-52) :=
  ⟨by decide, by decide, by decide, .inl (le_refl _)⟩

theorem one_eq : ((2 ^ 52 : Nat) : ℚ) * 2 ^ (-52 : Int) = 1 := by norm_num

/-- The magnitudes from one on are those of the exponents from that of one on. -/
theorem one_le_iff (hm : IsCanonical m e) : 1 ≤ (m : ℚ) * 2 ^ e ↔ -52 ≤ e := by
  constructor
  · intro h
    by_contra hlt
    have := magnitude_lt_of_exponent_lt hm isCanonical_one (by omega)
    rw [one_eq] at this
    exact this.not_ge h
  · intro h
    obtain rfl | hlt := h.eq_or_lt
    · have hleading : 2 ^ 52 ≤ m := hm.leading.resolve_right (by decide)
      rw [← one_eq]
      gcongr
    · have := magnitude_lt_of_exponent_lt isCanonical_one hm hlt
      rw [one_eq] at this
      exact this.le

/-- From one on every double is a multiple of the last place of one. -/
theorem HasValue.exists_multiple (hx : HasValue x v) (hone : 1 ≤ v) :
    ∃ n : Nat, v = n * 2 ^ (-52 : Int) := by
  obtain ⟨s, -, rfl⟩ | ⟨m, e, hpos, hm, ⟨-, rfl⟩ | ⟨-, rfl⟩⟩ := hx.unpack_cases
  · norm_num at hone
  · have hleast : -52 ≤ e := (one_le_iff hm).mp hone
    obtain ⟨k, hk⟩ := Int.eq_ofNat_of_zero_le (show 0 ≤ e + 52 by omega)
    refine ⟨m * 2 ^ k, ?_⟩
    obtain rfl : e = k + -52 := by omega
    rw [zpow_add₀ (by norm_num), zpow_natCast]
    push_cast
    ring
  · have hnonneg : (0 : ℚ) ≤ m * 2 ^ e := by positivity
    linarith

theorem hasValue_of_unpack {hpos : 0 < m} (h : x.toModel.unpack = .finite .positive m e hpos) :
    HasValue x (m * 2 ^ e) :=
  hasValue_of_parts (by rw [parts_eq, h]; rfl)

theorem unpack_one :
    (1.0 : Float).toModel.unpack = .finite .positive (2 ^ 52) (-52) (by decide) :=
  rfl

theorem unpack_add (x y : Float) : (x + y).toModel.unpack = (Float.Model.pack
    (UnpackedFloat.add Format.binary64 x.toModel.unpack y.toModel.unpack)).unpack := rfl

/-- One and a smaller magnitude are added in the units of the smaller one. -/
theorem add_one_finite {k : Nat} (he : e + k = -52) (hpos : 0 < m) :
    UnpackedFloat.add Format.binary64 (.finite .positive (2 ^ 52) (-52) (by decide))
      (.finite .positive m e hpos) =
      UnpackedFloat.round Format.binary64 .positive (2 ^ 52 * 2 ^ k + m) e := by
  have hshift : (-52 - e).toNat = k := by omega
  have hsum : Sign.positive.apply ((2 ^ 52 <<< k : Nat) : Int) + Sign.positive.apply (m : Int) =
      ((2 ^ 52 * 2 ^ k + m : Nat) : Int) := by
    simp [Sign.apply, Nat.shiftLeft_eq]
  have hsumPos : (0 : Int) < ((2 ^ 52 * 2 ^ k + m : Nat) : Int) := by omega
  rw [UnpackedFloat.add, min_eq_right (by omega : e ≤ -52)]
  simp only [decreaseExponent, hshift, sub_self, Int.toNat_zero, Nat.shiftLeft_zero, hsum]
  rw [UnpackedFloat.normalize, compare_gt_iff_gt.mpr hsumPos, Int.toNat_natCast]

/-- A double that is at most some magnitude from one on is at most what is left of it above the last
place of one. -/
theorem le_cut_of_le {k : Nat} (he : e + k = -52) (hleading : 2 ^ 52 ≤ m / 2 ^ k)
    (hx : HasValue x v) (hle : v ≤ (m : ℚ) * 2 ^ e) :
    v ≤ ((m / 2 ^ k : Nat) : ℚ) * 2 ^ (-52 : Int) := by
  by_cases hone : 1 ≤ v
  · obtain ⟨n, rfl⟩ := hx.exists_multiple hone
    have hunit : (2 : ℚ) ^ (-52 : Int) = 2 ^ k * 2 ^ e := by
      rw [← he, zpow_add₀ (by norm_num), zpow_natCast, mul_comm]
    have hcut : n ≤ m / 2 ^ k := by
      rw [Nat.le_div_iff_mul_le (Nat.two_pow_pos k)]
      rw [hunit, ← mul_assoc] at hle
      exact_mod_cast le_of_mul_le_mul_right hle (by positivity)
    gcongr
  · calc v ≤ ((2 ^ 52 : Nat) : ℚ) * 2 ^ (-52 : Int) := by
          rw [one_eq]
          linarith
      _ ≤ ((m / 2 ^ k : Nat) : ℚ) * 2 ^ (-52 : Int) := by gcongr

/-- A sum of one and a part of one is rounded, but past no double: what is at most the exact sum is
at most the rounded one. -/
theorem exists_one_add (hx : HasValue x v) (hnonneg : 0 ≤ v) (hlt : v < 1) :
    ∃ s, HasValue (1.0 + x) s ∧ ∀ {y w}, HasValue y w → w ≤ 1 + v → w ≤ s := by
  obtain ⟨s, hs, rfl⟩ | ⟨m, e, hpos, hm, ⟨hs, rfl⟩ | ⟨hs, rfl⟩⟩ := hx.unpack_cases
  · have hsum : (1.0 + x).toModel.unpack = .finite .positive (2 ^ 52) (-52) (by decide) := by
      rw [unpack_add, unpack_one, hs]
      exact unpack_pack_normal _ (by decide) isCanonical_one (le_refl _)
    refine ⟨_, hasValue_of_unpack hsum, ?_⟩
    intro y w _ hle
    rw [one_eq]
    linarith
  · have he : e < -52 := by
      by_contra hge
      exact ((one_le_iff hm).mpr (by omega)).not_gt hlt
    obtain ⟨k, hk⟩ := Int.eq_ofNat_of_zero_le (show 0 ≤ -52 - e by omega)
    have hek : e + k = -52 := by omega
    have hone : (1 : ℚ) = (2 ^ 52 * 2 ^ k : Nat) * 2 ^ e := by
      rw [← one_eq, ← hek, zpow_add₀ (by norm_num), zpow_natCast]
      push_cast
      ring
    have hsmall : m < 2 ^ 52 * 2 ^ k := by
      rw [hone] at hlt
      exact_mod_cast lt_of_mul_lt_mul_right hlt (by positivity)
    have hexact : 1 + (m : ℚ) * 2 ^ e = (2 ^ 52 * 2 ^ k + m : Nat) * 2 ^ e := by
      rw [Nat.cast_add, add_mul, ← hone]
    have hleading : 2 ^ 52 ≤ (2 ^ 52 * 2 ^ k + m) / 2 ^ k := by
      rw [Nat.le_div_iff_mul_le (Nat.two_pow_pos k)]
      omega
    have hfits : (2 ^ 52 * 2 ^ k + m) / 2 ^ k < 2 ^ 53 := by
      rw [Nat.div_lt_iff_lt_mul (Nat.two_pow_pos k)]
      omega
    obtain ⟨n, f, hn, hround, hlow, hhigh, hleast, hmost, hvalue⟩ :=
      exists_round hek (by decide) hleading hfits
    have hsum : (1.0 + x).toModel.unpack = .finite .positive n f hn := by
      rw [unpack_add, unpack_one, hs, add_one_finite hek, hround]
      exact unpack_pack_normal _ hn ⟨hhigh, by omega, by omega, .inl hlow⟩ hlow
    refine ⟨_, hasValue_of_unpack hsum, ?_⟩
    intro y w hy hle
    rw [hexact] at hle
    exact (le_cut_of_le hek hleading hy hle).trans hvalue
  · have : (0 : ℚ) < m * 2 ^ e := by positivity
    linarith

/-- What exceeds a rounded sum of one and a part of one exceeds the exact sum. -/
theorem one_add_lt_of_not_le (hx : HasValue x v) (hnonneg : 0 ≤ v) (hlt : v < 1)
    (hy : HasValue y w) (h : ¬ y ≤ 1.0 + x) : 1 + v < w := by
  obtain ⟨s, hs, hmost⟩ := exists_one_add hx hnonneg hlt
  by_contra hle
  exact h ((le_iff hy hs).mpr (hmost hy (not_lt.mp hle)))

end Retrieval.Number
