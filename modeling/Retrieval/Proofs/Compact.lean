import Retrieval.Number.Rounded
import Retrieval.Proofs.Numerals
import Retrieval.Proofs.Overflow

/-!
Whole doubles to some significant digits. Main statements: a whole number that has no more digits is
written with exactly its own, and any larger one gets an exponent, whatever becomes of its digits.
-/

namespace Retrieval.Number

theorem tenTo_eq (k : Nat) : tenTo k = 10 ^ k := by
  rw [tenTo, Nat.pow_eq]

/-- A quotient that comes out even is not rounded. -/
theorem roundDiv_mul {d : Nat} (hd : 0 < d) (n : Nat) : roundDiv (n * d) d = n := by
  simp [roundDiv, Nat.mul_div_cancel n hd, hd]

theorem decimalLength_le_iff {n k : Nat} (hk : 0 < k) : decimalLength n ≤ k ↔ n < 10 ^ k :=
  Nat.length_toDigits_le_iff (by decide) hk

theorem decimalLength_pos (n : Nat) : 0 < decimalLength n :=
  List.length_pos_of_ne_nil Nat.toDigits_ne_nil

theorem lt_pow_decimalLength (n : Nat) : n < 10 ^ decimalLength n :=
  (decimalLength_le_iff (decimalLength_pos n)).mp (le_refl _)

theorem leadingExponent_mul {n d : Nat} (hn : 0 < n) (hd : 0 < d) :
    leadingExponent (n * d) d = decimalLength n - 1 := by
  rw [leadingExponent, if_pos (Nat.le_mul_of_pos_left d hn), Nat.mul_div_cancel n hd]

/-- The last digit of a number with more than one comes off the end. -/
theorem decimalDigits_mul_ten {n : Nat} (hn : 0 < n) :
    decimalDigits (n * 10) = decimalDigits n ++ ['0'] := by
  rw [decimalDigits, Nat.toDigits_of_base_le (by decide) (by omega),
    Nat.mul_div_cancel n (by decide), Nat.mul_mod_left]
  rfl

/-- Zeros at the end of digits are dropped one by one, as many as there are. -/
theorem Digits.trimmed_mul_tenTo (zeros fuel coefficient : Nat) {count : Nat} (hcount : 1 ≤ count)
    (exponent : Int) :
    trimmed (fuel + zeros) ⟨coefficient * 10 ^ zeros, count + zeros, exponent⟩ =
      trimmed fuel ⟨coefficient, count, exponent⟩ := by
  induction zeros with
  | zero => rw [Nat.pow_zero, Nat.mul_one, Nat.add_zero, Nat.add_zero]
  | succ zeros ih =>
    have hlast : coefficient * 10 ^ (zeros + 1) = coefficient * 10 ^ zeros * 10 := by
      rw [Nat.pow_succ, Nat.mul_assoc]
    have hstop : (decide (count + (zeros + 1) ≤ 1) ||
        decide (coefficient * 10 ^ zeros * 10 % 10 ≠ 0)) = false := by
      rw [Nat.mul_mod_left, decide_eq_false (by omega : ¬ count + (zeros + 1) ≤ 1)]
      rfl
    rw [← ih, ← Nat.add_assoc, trimmed, hlast, hstop, Nat.mul_div_cancel _ (by decide)]
    rfl

theorem Digits.exponent_trimmed (fuel : Nat) (d : Digits) :
    (trimmed fuel d).exponent = d.exponent := by
  induction fuel generalizing d with
  | zero => rfl
  | succ fuel ih =>
    rw [trimmed]
    split
    · rfl
    · exact ih _

/-- What is dropped from digits are zeros. -/
theorem Digits.decimalDigits_trimmed (fuel : Nat) {coefficient : Nat} (hpos : 0 < coefficient)
    (count : Nat) (exponent : Int) :
    ∃ zeros, decimalDigits coefficient =
      decimalDigits (trimmed fuel ⟨coefficient, count, exponent⟩).coefficient ++
        List.replicate zeros '0' := by
  induction fuel generalizing coefficient count with
  | zero => exact ⟨0, (List.append_nil _).symm⟩
  | succ fuel ih =>
    rw [trimmed]
    split
    · exact ⟨0, (List.append_nil _).symm⟩
    · next hgo =>
      simp only [Bool.or_eq_true, decide_eq_true_eq, not_or, Decidable.not_not] at hgo
      obtain ⟨n, rfl⟩ : ∃ n, coefficient = n * 10 := ⟨coefficient / 10, by omega⟩
      have hn : 0 < n := by omega
      obtain ⟨zeros, hdigits⟩ := ih hn (count - 1)
      refine ⟨zeros + 1, ?_⟩
      rw [Nat.mul_div_cancel n (by decide), decimalDigits_mul_ten hn, hdigits, List.append_assoc,
        ← List.replicate_succ']

/-- The magnitude of a double is a whole number. -/
def IsWhole (m : Nat) (q : Int) (n : Nat) : Prop := (scaled m q).1 = n * (scaled m q).2

variable {m n count : Nat} {q : Int}

theorem IsWhole.ne_zero (h : IsWhole m q n) (hn : 0 < n) : m ≠ 0 := by
  rintro rfl
  have hzero : (scaled 0 q).1 = 0 := by
    unfold scaled
    split <;> simp
  have hpos := Nat.mul_pos hn (scaled_snd_pos 0 q)
  rw [IsWhole, hzero] at h
  omega

/-- A whole number with no more digits than are asked for is not rounded. -/
theorem rounded_of_lt (hwhole : IsWhole m q n) (hn : 0 < n) (hlength : decimalLength n ≤ count) :
    rounded count m q = ⟨n * 10 ^ (count - decimalLength n), count, decimalLength n - 1⟩ := by
  have hden := scaled_snd_pos m q
  have hpower : (count : Int) - 1 - (decimalLength n - 1) = (count - decimalLength n : Nat) := by
    omega
  have hfits : n * 10 ^ (count - decimalLength n) < 10 ^ count := by
    calc n * 10 ^ (count - decimalLength n)
        < 10 ^ decimalLength n * 10 ^ (count - decimalLength n) :=
          Nat.mul_lt_mul_of_pos_right (lt_pow_decimalLength n) (Nat.pow_pos (by decide))
      _ = 10 ^ count := by
          rw [← Nat.pow_add, Nat.add_sub_cancel' hlength]
  have hexact : roundDiv (n * (scaled m q).2 * 10 ^ (count - decimalLength n))
      (1 * (scaled m q).2) = n * 10 ^ (count - decimalLength n) := by
    rw [Nat.one_mul, Nat.mul_right_comm, roundDiv_mul hden]
  have hm := hwhole.ne_zero hn
  rw [IsWhole] at hwhole
  rw [rounded, if_neg hm]
  simp only [scaledTen, hwhole, leadingExponent_mul hn hden, hpower, Int.natCast_nonneg, if_true,
    Int.toNat_natCast, tenTo_eq, hexact, hfits.ne, if_false]

/-- Rounding leaves the first digit of a whole number in its place or moves it up. -/
theorem le_exponent_rounded (count : Nat) (hwhole : IsWhole m q n) (hn : 0 < n) :
    (decimalLength n : Int) - 1 ≤ (rounded count m q).exponent := by
  have hden := scaled_snd_pos m q
  have hm := hwhole.ne_zero hn
  rw [IsWhole] at hwhole
  rw [rounded, if_neg hm]
  simp only [hwhole, leadingExponent_mul hn hden]
  split <;> simp only <;> omega

/-- The digits of a whole number that are positional come out with the zeros they lack. -/
theorem Layout.digits_whole {l : Layout} (hkeeps : l.keepsFraction = false) {d : Digits}
    {ds : List Char} {zeros : Nat}
    (hds : ds = decimalDigits d.coefficient ++ List.replicate zeros '0')
    (hexponent : d.exponent = ds.length - 1) (hfrom : l.positionalFrom ≤ d.exponent)
    (hbelow : d.exponent < l.positionalBelow) : l.digits d = ds := by
  have hne : 0 < (decimalDigits d.coefficient).length := decimalLength_pos _
  have hlength : ds.length = (decimalDigits d.coefficient).length + zeros := by
    rw [hds, List.length_append, List.length_replicate]
  have hnonneg : ¬ d.exponent < 0 := by omega
  have hwhole : d.exponent.toNat + 1 = (decimalDigits d.coefficient).length + zeros := by omega
  rw [digits]
  simp only [hfrom, hbelow, hnonneg, hwhole, hkeeps, Nat.le_add_right, Nat.add_sub_cancel_left,
    decide_true, Bool.and_true, if_true, Bool.false_eq_true, if_false, List.append_nil, hds]

/-- Beyond the positional exponents digits come with an exponent. -/
theorem Layout.mem_digits {l : Layout} {d : Digits} (h : l.positionalBelow ≤ d.exponent) :
    'e' ∈ l.digits d := by
  have hbeyond : (decide (l.positionalFrom ≤ d.exponent) &&
      decide (d.exponent < l.positionalBelow)) = false := by
    rw [decide_eq_false (Int.not_lt.mpr h), Bool.and_false]
  obtain ⟨c, cs, hdigits⟩ : ∃ c cs, decimalDigits d.coefficient = c :: cs :=
    List.exists_cons_of_ne_nil Nat.toDigits_ne_nil
  rw [digits, hbeyond, hdigits]
  cases cs <;> simp [exponentText]

variable {x : Float}

/-- A double that is a positive whole number has it for a magnitude, and no sign. -/
theorem exists_isWhole (hx : HasValue x n) (hn : 0 < n) :
    ∃ m q, parts x = .finite false m q ∧ IsWhole m q n := by
  have hpos : (0 : ℚ) < n := by exact_mod_cast hn
  cases hparts : parts x with
  | infinite negative => simp [HasValue, hparts, Parts.value?] at hx
  | nan => simp [HasValue, hparts, Parts.value?] at hx
  | finite negative m q =>
    have hmagnitude := magnitude_of_pos hx hpos hparts
    refine ⟨m, q, ?_, ?_⟩
    · cases negative with
      | false => rfl
      | true =>
        rw [HasValue, hparts] at hx
        obtain hv := Option.some.inj hx
        simp only [if_true, neg_mul, one_mul, hmagnitude] at hv
        linarith
    · have hden : ((scaled m q).2 : ℚ) ≠ 0 := by exact_mod_cast (scaled_snd_pos m q).ne'
      have hquotient := scaled_div m q
      rw [hmagnitude, div_eq_iff hden] at hquotient
      exact_mod_cast hquotient

/-- A whole number that has no more digits than are asked for is written with its own. -/
theorem general_of_lt (hx : HasValue x n) (hn : 0 < n) (hcount : 0 < count)
    (hlt : n < 10 ^ count) : general count x = decimalDigits n := by
  obtain ⟨m, q, hparts, hwhole⟩ := exists_isWhole hx hn
  have hm := hwhole.ne_zero hn
  have hlength := (decimalLength_le_iff hcount).mpr hlt
  have hpos := decimalLength_pos n
  -- the zeros that fill the number up come off again, and after them perhaps some of its own, which
  -- the layout puts back
  have htrimmed := Digits.trimmed_mul_tenTo (count - decimalLength n) (decimalLength n) n hpos
    (decimalLength n - 1)
  rw [Nat.add_sub_cancel' hlength] at htrimmed
  have hexponent : (Digits.trimmed (decimalLength n)
      ⟨n, decimalLength n, decimalLength n - 1⟩).exponent = (decimalLength n : Int) - 1 :=
    Digits.exponent_trimmed _ _
  obtain ⟨zeros, hdigits⟩ := Digits.decimalDigits_trimmed (decimalLength n) hn (decimalLength n)
    (decimalLength n - 1)
  rw [general, Layout.write, hparts]
  simp only [Bool.false_eq_true, if_false, List.nil_append, hm, significant,
    rounded_of_lt hwhole hn hlength, htrimmed]
  refine Layout.digits_whole rfl hdigits hexponent ?first ?last
  case first =>
    rw [hexponent]
    change (-4 : Int) ≤ _
    omega
  case last =>
    rw [hexponent]
    change _ < (count : Int)
    omega

/-- A whole number that has more digits than are asked for is written with an exponent. -/
theorem mem_general_of_le (hx : HasValue x n) (hn : 0 < n) (hcount : 0 < count)
    (hle : 10 ^ count ≤ n) : 'e' ∈ general count x := by
  obtain ⟨m, q, hparts, hwhole⟩ := exists_isWhole hx hn
  have hm := hwhole.ne_zero hn
  have hlength : count < decimalLength n :=
    Nat.not_le.mp (mt (decimalLength_le_iff hcount).mp (Nat.not_lt.mpr hle))
  have hrounded := le_exponent_rounded count hwhole hn
  have hexponent : (significant count m q).exponent = (rounded count m q).exponent :=
    Digits.exponent_trimmed _ _
  rw [general, Layout.write, hparts]
  simp only [Bool.false_eq_true, if_false, List.nil_append, hm]
  exact Layout.mem_digits (by simp only; omega)

end Retrieval.Number
