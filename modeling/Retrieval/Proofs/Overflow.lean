import Retrieval.Number.Double
import Retrieval.Proofs.Doubles

/-!
Powers that are too large for a double. Main statements: the powers of a positive double that are
too large are those that reach the limit, and naturals up to `2 ^ 53` are doubles themselves.
-/

namespace Retrieval.Number

open Float.Model Float.Model.UnpackedFloat

theorem overflowLimit_eq : overflowLimit = (2 ^ 54 - 1) * (2 ^ 97) ^ 10 := by
  have hplaces : 970 = 97 * 10 := rfl
  unfold overflowLimit
  rw [twoTo_eq, twoTo_eq, hplaces, pow_mul]

/-- The natural logarithm of the limit is above 709. -/
theorem exp_709_lt : Real.exp 709 < overflowLimit := by
  have hstep : Real.exp 709 = (Real.exp 1 ^ 100) ^ 7 * Real.exp 1 ^ 9 := by
    rw [← pow_mul, ← pow_add, Real.exp_one_pow]
    norm_num
  have hbase := Real.exp_one_lt_d9.le
  calc Real.exp 709 = (Real.exp 1 ^ 100) ^ 7 * Real.exp 1 ^ 9 := hstep
    _ ≤ ((2.7182818286 : ℝ) ^ 100) ^ 7 * 2.7182818286 ^ 9 := by gcongr
    _ < ((2 : ℝ) ^ 200) ^ 5 * 2 ^ 23 := by norm_num
    _ ≤ (overflowLimit : ℝ) := by
        rw [overflowLimit_eq]
        norm_num

theorem limit_le_exp_710 : (overflowLimit : ℝ) ≤ Real.exp 710 := by
  have hstep : Real.exp 710 = (Real.exp 1 ^ 100) ^ 7 * Real.exp 1 ^ 10 := by
    rw [← pow_mul, ← pow_add, Real.exp_one_pow]
    norm_num
  have hbase := Real.exp_one_gt_d9.le
  calc (overflowLimit : ℝ) ≤ ((2 : ℝ) ^ 200) ^ 5 * 2 ^ 24 := by
        rw [overflowLimit_eq]
        norm_num
    _ ≤ ((2.7182818283 : ℝ) ^ 100) ^ 7 * 2.7182818283 ^ 10 := by norm_num
    _ ≤ (Real.exp 1 ^ 100) ^ 7 * Real.exp 1 ^ 10 := by gcongr
    _ = Real.exp 710 := hstep.symm

variable {num den exponent : Nat}

theorem power_lt_of_excess_le (hden : 0 < den) (h : exponent * (num - den) ≤ 709 * den) :
    num ^ exponent < overflowLimit * den ^ exponent := by
  have hden' : (0 : ℝ) < den := by exact_mod_cast hden
  have hnum : (num : ℝ) ≤ (((num - den : Nat) : ℝ) / den + 1) * den := by
    rw [add_mul, div_mul_cancel₀ _ hden'.ne', one_mul]
    exact_mod_cast Nat.le_add_of_sub_le (le_refl _)
  have hexponent : (exponent : ℝ) * (((num - den : Nat) : ℝ) / den) ≤ 709 := by
    rw [← mul_div_assoc, div_le_iff₀ hden']
    exact_mod_cast h
  have hreal : (num : ℝ) ^ exponent < overflowLimit * (den : ℝ) ^ exponent :=
    calc (num : ℝ) ^ exponent ≤ ((((num - den : Nat) : ℝ) / den + 1) * den) ^ exponent := by gcongr
      _ = (((num - den : Nat) : ℝ) / den + 1) ^ exponent * (den : ℝ) ^ exponent := mul_pow _ _ _
      _ ≤ Real.exp (((num - den : Nat) : ℝ) / den) ^ exponent * (den : ℝ) ^ exponent := by
          gcongr
          exact Real.add_one_le_exp _
      _ = Real.exp (exponent * (((num - den : Nat) : ℝ) / den)) * (den : ℝ) ^ exponent := by
          rw [Real.exp_nat_mul]
      _ ≤ Real.exp 709 * (den : ℝ) ^ exponent := by gcongr
      _ < overflowLimit * (den : ℝ) ^ exponent := by
          gcongr
          exact exp_709_lt
  exact_mod_cast hreal

theorem limit_le_power_of_le_excess (hden : 0 < den) (hnum : 0 < num)
    (h : 710 * num ≤ exponent * (num - den)) :
    overflowLimit * den ^ exponent ≤ num ^ exponent := by
  have hle : den ≤ num := by
    by_contra hlt
    rw [Nat.sub_eq_zero_of_le (by omega), Nat.mul_zero] at h
    omega
  have hnum' : (0 : ℝ) < num := by exact_mod_cast hnum
  have hden' : (den : ℝ) = (-(((num - den : Nat) : ℝ) / num) + 1) * num := by
    rw [add_mul, neg_mul, div_mul_cancel₀ _ hnum'.ne', Nat.cast_sub hle]
    ring
  have hexponent : (exponent : ℝ) * -(((num - den : Nat) : ℝ) / num) ≤ -710 := by
    rw [mul_neg, neg_le_neg_iff, ← mul_div_assoc, le_div_iff₀ hnum']
    exact_mod_cast h
  have hbase : (0 : ℝ) ≤ -(((num - den : Nat) : ℝ) / num) + 1 := by
    have hpos : (0 : ℝ) < (-(((num - den : Nat) : ℝ) / num) + 1) * num := by
      rw [← hden']
      exact_mod_cast hden
    exact ((mul_pos_iff_of_pos_right hnum').mp hpos).le
  have hpower : (den : ℝ) ^ exponent ≤ Real.exp (-710) * (num : ℝ) ^ exponent :=
    calc (den : ℝ) ^ exponent
        = (-(((num - den : Nat) : ℝ) / num) + 1) ^ exponent * (num : ℝ) ^ exponent := by
          rw [← mul_pow, ← hden']
      _ ≤ Real.exp (-(((num - den : Nat) : ℝ) / num)) ^ exponent * (num : ℝ) ^ exponent := by
          gcongr
          exact Real.add_one_le_exp _
      _ = Real.exp (exponent * -(((num - den : Nat) : ℝ) / num)) * (num : ℝ) ^ exponent := by
          rw [Real.exp_nat_mul]
      _ ≤ Real.exp (-710) * (num : ℝ) ^ exponent := by gcongr
  have hreal : overflowLimit * (den : ℝ) ^ exponent ≤ (num : ℝ) ^ exponent :=
    calc overflowLimit * (den : ℝ) ^ exponent
        ≤ Real.exp 710 * (Real.exp (-710) * (num : ℝ) ^ exponent) :=
          mul_le_mul limit_le_exp_710 hpower (by positivity) (Real.exp_pos 710).le
      _ = (num : ℝ) ^ exponent := by
          rw [← mul_assoc, ← Real.exp_add, add_neg_cancel, Real.exp_zero, one_mul]
  exact_mod_cast hreal

/-- The bounds of the logarithms settle only what is so. -/
theorem powerOverflows_iff (hden : 0 < den) : powerOverflows num den exponent = true ↔
    overflowLimit * den ^ exponent ≤ num ^ exponent := by
  unfold powerOverflows
  by_cases hbelow : exponent * (num - den) ≤ 709 * den
  · have hlt := power_lt_of_excess_le hden hbelow
    simp only [hbelow, if_true, Bool.false_eq_true, false_iff]
    omega
  by_cases habove : 710 * num ≤ exponent * (num - den)
  · have hnum : 0 < num := by
      by_contra hzero
      obtain rfl : num = 0 := by omega
      simp at hbelow
    simp only [hbelow, habove, if_false, if_true, true_iff]
    exact limit_le_power_of_le_excess hden hnum habove
  · simp only [hbelow, habove, if_false, decide_eq_true_eq, Nat.pow_eq]

theorem scaled_snd_pos (a : Nat) (k : Int) : 0 < (scaled a k).2 := by
  unfold scaled
  split
  · exact Nat.one_pos
  · exact Nat.two_pow_pos _

/-- A scaled natural is a quotient of naturals. -/
theorem scaled_div (a : Nat) (k : Int) :
    ((scaled a k).1 : ℚ) / (scaled a k).2 = a * 2 ^ k := by
  unfold scaled
  by_cases h : 0 ≤ k
  · obtain ⟨n, rfl⟩ := Int.eq_ofNat_of_zero_le h
    simp [twoTo_eq]
  · obtain ⟨n, hn⟩ := Int.eq_ofNat_of_zero_le (show 0 ≤ -k by omega)
    obtain rfl : k = -n := by omega
    rw [if_neg h]
    simp [twoTo_eq, div_eq_mul_inv]

theorem limit_le_power_iff (hden : 0 < den) :
    powerOverflows num den exponent = true ↔
      (overflowLimit : ℚ) ≤ ((num : ℚ) / den) ^ exponent := by
  have hpos : (0 : ℚ) < (den : ℚ) ^ exponent := by positivity
  rw [powerOverflows_iff hden, div_pow, le_div_iff₀ hpos]
  exact_mod_cast Iff.rfl

variable {x : Float} {v : ℚ}

theorem magnitude_of_pos {negative : Bool} {m : Nat} {q : Int} (hx : HasValue x v) (hpos : 0 < v)
    (h : parts x = .finite negative m q) : (m : ℚ) * 2 ^ q = v := by
  rw [HasValue, h] at hx
  obtain rfl := Option.some.inj hx
  have hmagnitude : (0 : ℚ) ≤ m * 2 ^ q := by positivity
  cases negative with
  | false => simp
  | true =>
    simp only [if_true, neg_mul, one_mul] at hpos
    linarith

/-- The powers of a positive double that are too large are those that reach the limit. -/
theorem outgrows_iff (hx : HasValue x v) (hpos : 0 < v) (exponent : Int) :
    outgrows x exponent = true ↔ (overflowLimit : ℚ) ≤ v ^ exponent := by
  cases hp : parts x with
  | infinite negative => simp [HasValue, hp, Parts.value?] at hx
  | nan => simp [HasValue, hp, Parts.value?] at hx
  | finite negative m q =>
    have hden := scaled_snd_pos m q
    have hv : ((scaled m q).1 : ℚ) / (scaled m q).2 = v := by
      rw [scaled_div]
      exact magnitude_of_pos hx hpos hp
    have hnum : 0 < (scaled m q).1 := by
      have hdiv : (0 : ℚ) < (scaled m q).1 / (scaled m q).2 := hv ▸ hpos
      exact_mod_cast (div_pos_iff_of_pos_right (by exact_mod_cast hden)).mp hdiv
    rw [outgrows, hp]
    dsimp only
    by_cases he : 0 ≤ exponent
    · obtain ⟨n, rfl⟩ := Int.eq_ofNat_of_zero_le he
      rw [if_pos he, limit_le_power_iff hden, hv, Int.natAbs_natCast, zpow_natCast]
    · obtain ⟨n, hn⟩ := Int.eq_ofNat_of_zero_le (show 0 ≤ -exponent by omega)
      obtain rfl : exponent = -n := by omega
      rw [if_neg he, limit_le_power_iff hnum, ← inv_div, hv, Int.natAbs_neg, Int.natAbs_natCast,
        zpow_neg, zpow_natCast, inv_pow]

/-- The integer that an integer becomes as a double, if it is not beyond all doubles. -/
def nearestInt? (n : Int) : Option Int := (ofInt? n).bind toInt?

/-- A double that is made of the bits of a finite one has them. -/
theorem parts_ofBits {bits : UInt64} {negative : Bool} {m : Nat} {e : Int}
    (h : partsOfBits bits.toNat = .finite negative m e) :
    parts (Float.ofBits bits) = .finite negative m e := by
  have hnumber : ¬ @isNaNBits Format.binary64 bits.toBitVec := by
    intro hnan
    rw [isNaNBits, decide_eq_true_eq] at hnan
    have hunpack : UnpackedFloat.unpack Format.binary64 bits.toBitVec = .notANumber := by
      rw [UnpackedFloat.unpack]
      exact (if_pos hnan.1).trans (if_neg hnan.2)
    rw [show bits.toNat = bits.toBitVec.toNat from rfl, partsOfBits_toNat, hunpack] at h
    cases h
  have hpack := @pack_unpack Format.binary64 bits.toBitVec (by decide)
  rw [if_neg hnumber] at hpack
  have hbits : (Float.ofBits bits).toBits = bits := UInt64.toBitVec_inj.mp hpack
  rw [parts, hbits, h]

theorem roundDiv_one (n : Nat) : roundDiv n 1 = n := by
  simp [roundDiv, Nat.mod_one]

theorem scaled_natCast (a k : Nat) : scaled a k = (a * 2 ^ k, 1) := by
  simp [scaled, twoTo_eq]

/-- What is moved up by some places is moved back down by them. -/
theorem scaled_neg (n k : Nat) :
    (scaled (n * 2 ^ k) (-(k : Int))).1 = n * (scaled (n * 2 ^ k) (-(k : Int))).2 := by
  unfold scaled
  by_cases h : 0 ≤ -(k : Int)
  · obtain rfl : k = 0 := by omega
    simp [twoTo_eq]
  · simp only [h, if_false, twoTo_eq, neg_neg, Int.toNat_natCast]

/-- A natural that fits is moved up to the first place of a significand. -/
theorem significand_of_lt {n : Nat} (hpos : 0 < n) (hlt : n < 2 ^ 53) :
    n.log2 ≤ 52 ∧ 2 ^ 52 ≤ n * 2 ^ (52 - n.log2) ∧ n * 2 ^ (52 - n.log2) < 2 ^ 53 := by
  have hne : n ≠ 0 := by omega
  have hlog : n.log2 < 53 := (Nat.log2_lt hne).mpr hlt
  have hlow : 2 ^ n.log2 ≤ n := Nat.log2_self_le hne
  have hhigh : n < 2 ^ (n.log2 + 1) := Nat.lt_log2_self
  have hpow : 0 < 2 ^ (52 - n.log2) := Nat.two_pow_pos _
  refine ⟨by omega, ?_, ?_⟩
  · calc 2 ^ 52 = 2 ^ n.log2 * 2 ^ (52 - n.log2) := by rw [← pow_add]; congr 1; omega
      _ ≤ n * 2 ^ (52 - n.log2) := Nat.mul_le_mul_right _ hlow
  · calc n * 2 ^ (52 - n.log2) < 2 ^ (n.log2 + 1) * 2 ^ (52 - n.log2) :=
          Nat.mul_lt_mul_of_pos_right hhigh hpow
      _ = 2 ^ 53 := by rw [← pow_add]; congr 1; omega

/-- The bits of a natural: its places after the first, above them its size. -/
theorem bitsOfRatio_one {n : Nat} (hpos : 0 < n) (hlt : n < 2 ^ 53) :
    bitsOfRatio n 1 = (n.log2 + 1022) * 2 ^ 52 + n * 2 ^ (52 - n.log2) := by
  obtain ⟨hlog, hlow, hhigh⟩ := significand_of_lt hpos hlt
  have hguess : (n.log2 : Int) - (Nat.log2 1 : Nat) - 52 = -((52 - n.log2 : Nat) : Int) := by
    rw [show Nat.log2 1 = 0 from rfl]
    omega
  have hbelow : -(-((52 - n.log2 : Nat) : Int) - 1) = ((53 - n.log2 : Nat) : Int) := by omega
  have hwide : ¬ n * 2 ^ (53 - n.log2) < 2 ^ 53 := by
    rw [show 53 - n.log2 = 52 - n.log2 + 1 by omega, pow_succ, ← Nat.mul_assoc]
    omega
  have hexponent : max leastExponent (-((52 - n.log2 : Nat) : Int)) =
      -((52 - n.log2 : Nat) : Int) := max_eq_right (by rw [leastExponent]; omega)
  have hplaces : (-((52 - n.log2 : Nat) : Int) - leastExponent).toNat = n.log2 + 1022 := by
    rw [leastExponent]
    omega
  unfold bitsOfRatio
  simp only [hpos.ne', if_false, hguess, hbelow, scaled_natCast, twoTo_eq, Nat.mul_one, hwide,
    hexponent, neg_neg, roundDiv_one, hplaces]
  apply min_eq_right
  rw [infinityBits, twoTo_eq]
  omega

/-- A natural that fits has itself as a double. -/
theorem parts_ofRatio_one {n : Nat} (hpos : 0 < n) (hlt : n < 2 ^ 53) :
    parts (ofRatio false n 1) =
      .finite false (n * 2 ^ (52 - n.log2)) (-((52 - n.log2 : Nat) : Int)) := by
  obtain ⟨hlog, hlow, hhigh⟩ := significand_of_lt hpos hlt
  apply parts_ofBits
  have hbits : (UInt64.ofNat ((if false then twoTo 63 else 0) + bitsOfRatio n 1)).toNat =
      (n.log2 + 1022) * 2 ^ 52 + n * 2 ^ (52 - n.log2) := by
    rw [bitsOfRatio_one hpos hlt, UInt64.toNat_ofNat']
    simp
    omega
  rw [hbits]
  generalize hm : n * 2 ^ (52 - n.log2) = m at *
  obtain ⟨fraction, rfl⟩ : ∃ fraction, m = 2 ^ 52 + fraction := ⟨m - 2 ^ 52, by omega⟩
  have hdiv : ((n.log2 + 1022) * 2 ^ 52 + (2 ^ 52 + fraction)) / 2 ^ 52 = n.log2 + 1023 := by omega
  have hmod : ((n.log2 + 1022) * 2 ^ 52 + (2 ^ 52 + fraction)) % 2 ^ 52 = fraction := by omega
  have hsign : ((n.log2 + 1022) * 2 ^ 52 + (2 ^ 52 + fraction)) / 2 ^ 63 % 2 = 0 := by omega
  have hbiased : (n.log2 + 1023) % 2 ^ 11 = n.log2 + 1023 := by omega
  simp only [partsOfBits, twoTo_eq, hdiv, hmod, hsign, hbiased]
  have hexponent : ((n.log2 + 1023 : Nat) : Int) - 1075 = -((52 - n.log2 : Nat) : Int) := by omega
  rw [if_neg (by omega), if_neg (by omega), hexponent]
  rfl

theorem ofInt?_natCast {n : Nat} (hpos : 0 < n) (hlt : n < 2 ^ 53) :
    ofInt? n = some (ofRatio false n 1) := by
  have hsign : decide ((n : Int) < 0) = false := by simp
  rw [ofInt?, hsign, Int.natAbs_natCast]
  simp [isFinite, parts_ofRatio_one hpos hlt]

theorem hasValue_ofRatio_one {n : Nat} (hpos : 0 < n) (hlt : n < 2 ^ 53) :
    HasValue (ofRatio false n 1) n := by
  have hvalue := hasValue_of_parts (parts_ofRatio_one hpos hlt)
  rwa [Nat.cast_mul, Nat.cast_pow, Nat.cast_two, zpow_neg, zpow_natCast,
    mul_inv_cancel_right₀ (by positivity)] at hvalue

theorem nearestInt?_natCast {n : Nat} (h : n ≤ 2 ^ 53) : nearestInt? n = some (n : Int) := by
  obtain hlt | rfl := h.lt_or_eq
  · obtain rfl | hpos := n.eq_zero_or_pos
    · decide +kernel
    · have hden := scaled_snd_pos (n * 2 ^ (52 - n.log2)) (-((52 - n.log2 : Nat) : Int))
      rw [nearestInt?, ofInt?_natCast hpos hlt, Option.bind_some, toInt?,
        parts_ofRatio_one hpos hlt]
      simp only [scaled_neg, Nat.mul_mod_left, Nat.mul_div_cancel _ hden, if_true,
        Bool.false_eq_true, if_false]
  · decide +kernel

end Retrieval.Number
