import Mathlib.Data.List.TakeWhile
import Mathlib.Tactic.Ring
import Retrieval.Number.Notation
import Retrieval.Number.Numeral
import Retrieval.Proofs.Names

/-!
Texts that look like digits all through. Digits of all scripts write a number, superscripts and the
like do not. Main statements: such a text denotes an integer exactly if it is written with decimal
digits and not with too many, and the digits of a number denote it.
-/

namespace Retrieval

namespace Text

variable {c : Char} {cs : List Char}

/-- Digits have no code point in common with white space. -/
theorem not_isBlank_of_isDigitLike (h : isDigitLike c = true) : isBlank c = false := by
  have hapart : ∀ r ∈ digitRanges.ranges, ∀ b ∈ blankRanges.ranges, r.2 < b.1 ∨ b.2 < r.1 := by
    decide
  obtain ⟨r, hr, hlow, hhigh⟩ := (CharRanges.contains_iff _ _).mp h
  rw [← Bool.not_eq_true]
  intro hblank
  obtain ⟨b, hb, hstart, hend⟩ := (CharRanges.contains_iff _ _).mp hblank
  have := hapart r hr b hb
  omega

theorem isAllDigitLike_iff :
    isAllDigitLike cs = true ↔ cs ≠ [] ∧ ∀ c ∈ cs, isDigitLike c = true := by
  simp [isAllDigitLike]

theorem isDigitLike_of_isDigit (h : c.isDigit = true) : isDigitLike c = true := by
  simp only [Char.isDigit, ge_iff_le, Bool.and_eq_true, decide_eq_true_eq,
    UInt32.le_iff_toNat_le] at h
  exact (CharRanges.contains_iff _ _).mpr ⟨(0x30, 0x39), List.mem_cons_self, h⟩

theorem isAllDigitLike_toString (n : Nat) : isAllDigitLike (toString n).toList = true := by
  have htext : (toString n).toList = Nat.toDigits 10 n := Nat.toList_repr
  simp only [isAllDigitLike, htext, Bool.and_eq_true, List.all_eq_true]
  refine ⟨by simp, fun c hc => isDigitLike_of_isDigit ?_⟩
  exact Nat.isDigit_of_mem_toDigits (by decide) (by decide) hc

/-- A decimal digit of ASCII has the value that its place among them gives. -/
theorem decimalValue?_of_isDigit (h : c.isDigit = true) :
    decimalValue? c = some (c.toNat - '0'.toNat) := by
  simp only [Char.isDigit, ge_iff_le, Bool.and_eq_true, decide_eq_true_eq,
    UInt32.le_iff_toNat_le] at h
  have hfirst : (decide (0x30 ≤ c.toNat) && decide (c.toNat ≤ 0x30 + 9)) = true := by
    rw [Bool.and_eq_true, decide_eq_true_eq, decide_eq_true_eq]
    exact h
  rw [decimalValue?, decimalZeros, List.find?_cons, hfirst]
  rfl

end Text

namespace Number

open Retrieval.Text

variable {cs rest : List Char}

/-- A decimal digit of any script. -/
def isDecimal (c : Char) : Bool := (decimalValue? c).isSome

/-- The number that digits write after those of `n`. -/
def digitsAfter (n : Nat) (cs : List Char) : Nat :=
  cs.foldl (fun n c => 10 * n + (decimalValue? c).getD 0) n

/-- Decimal digits, and not more of them than an integer may have. -/
def IsIndex (cs : List Char) : Prop := (∀ c ∈ cs, isDecimal c = true) ∧ cs.length ≤ maxDigits

theorem trimNumeral_of_isDigitLike (h : ∀ c ∈ cs, isDigitLike c = true) : trimNumeral cs = cs := by
  have hstays {ds : List Char} (hds : ∀ c ∈ ds, isDigitLike c = true) :
      ds.dropWhile isNumeralBlank = ds := by
    cases ds with
    | nil => rfl
    | cons d ds =>
      have hblank : isNumeralBlank d = false := by
        rw [isNumeralBlank, not_isBlank_of_isDigitLike (hds d List.mem_cons_self)]
        rfl
      rw [List.dropWhile_cons, hblank]
      rfl
  have hreverse : ∀ c ∈ cs.reverse, isDigitLike c = true := fun c hc =>
    h c (List.mem_reverse.mp hc)
  rw [trimNumeral, hstays h, hstays hreverse, List.reverse_reverse]

theorem takeSign_of_isDigitLike (h : ∀ c ∈ cs, isDigitLike c = true) :
    takeSign cs = (false, cs) := by
  unfold takeSign
  split
  · exact absurd (h '-' (by simp)) (by decide)
  · exact absurd (h '+' (by simp)) (by decide)
  · rfl

/-- Digits are read up to a character that is neither a digit nor an underscore. -/
theorem takeDigits_append (hcs : ∀ c ∈ cs, isDecimal c = true)
    (hrest : ∀ c ∈ rest.head?, isDecimal c = false ∧ c ≠ '_') (last : Bool) (v n : Nat) :
    takeDigits last v n (cs ++ rest) = (digitsAfter v cs, n + cs.length, rest) := by
  induction cs generalizing last v n with
  | nil =>
    cases rest with
    | nil => rfl
    | cons c more =>
      obtain ⟨hnone, hother⟩ := hrest c rfl
      rw [isDecimal, Option.isSome_eq_false_iff, Option.isNone_iff_eq_none] at hnone
      simp [takeDigits, hnone, hother, digitsAfter]
  | cons c cs ih =>
    obtain ⟨hc, hcs⟩ := List.forall_mem_cons.mp hcs
    obtain ⟨d, hd⟩ := Option.isSome_iff_exists.mp hc
    rw [List.cons_append, takeDigits, hd]
    simp [ih hcs, digitsAfter, hd, Nat.add_comm, Nat.add_left_comm]

/-- A text that looks like digits denotes an integer exactly if its digits are decimal ones and not
too many. -/
theorem readInt_eq_ok_iff (h : isAllDigitLike cs = true) {n : Int} :
    readInt (String.ofList cs) = .ok n ↔ IsIndex cs ∧ n = digitsAfter 0 cs := by
  obtain ⟨hne, hall⟩ := isAllDigitLike_iff.mp h
  have hcs : cs.takeWhile isDecimal ++ cs.dropWhile isDecimal = cs :=
    List.takeWhile_append_dropWhile
  have hdecimal : ∀ c ∈ cs.takeWhile isDecimal, isDecimal c = true := fun c hc =>
    List.mem_takeWhile_imp hc
  have hstop : ∀ c ∈ (cs.dropWhile isDecimal).head?, isDecimal c = false ∧ c ≠ '_' := by
    intro c hc
    have hlike := hall c ((List.dropWhile_suffix isDecimal).subset (List.mem_of_mem_head? hc))
    have hother := List.head?_dropWhile_not isDecimal cs
    rw [Option.mem_def.mp hc] at hother
    exact ⟨by simpa using hother, by rintro rfl; exact absurd hlike (by decide)⟩
  have htake := takeDigits_append hdecimal hstop false 0 0
  rw [hcs, Nat.zero_add] at htake
  rw [readInt, String.toList_ofList, trimNumeral_of_isDigitLike hall,
    takeSign_of_isDigitLike hall]
  simp only [htake]
  cases hleft : cs.dropWhile isDecimal with
  | nil =>
    have hwhole : cs.takeWhile isDecimal = cs := by simpa [hleft] using hcs
    rw [hwhole] at hdecimal ⊢
    have hindex : IsIndex cs ↔ ¬ maxDigits < cs.length := by
      rw [Nat.not_lt]
      exact and_iff_right hdecimal
    rw [hindex]
    by_cases hmany : maxDigits < cs.length <;> simp [hmany, hne, eq_comm]
  | cons c more =>
    have hmem : c ∈ cs := (List.dropWhile_suffix isDecimal).subset (by simp [hleft])
    have hother := (hstop c (by simp [hleft])).1
    have hindex : ¬ IsIndex cs := fun hindex => by simp [hindex.1 c hmem] at hother
    simp only [List.isEmpty_cons, Bool.false_eq_true, if_false, hindex, false_and, iff_false]
    split
    · exact nofun
    · split <;> exact nofun

theorem digitsAfter_toDigits (n : Nat) : digitsAfter 0 (Nat.toDigits 10 n) = n := by
  have hsame (cs : List Char) (h : ∀ c ∈ cs, c.isDigit = true) (m : Nat) :
      digitsAfter m cs = Nat.ofDigitChars 10 cs m := by
    induction cs generalizing m with
    | nil => rfl
    | cons c cs ih =>
      obtain ⟨hc, hcs⟩ := List.forall_mem_cons.mp h
      rw [digitsAfter, List.foldl_cons, decimalValue?_of_isDigit hc]
      exact ih hcs _
  rw [hsame _ (fun c => Nat.isDigit_of_mem_toDigits (by decide) (by decide)),
    Nat.ofDigitChars_ten_toDigits]

theorem digitsAfter_lt (n : Nat) (cs : List Char) :
    digitsAfter n cs < (n + 1) * 10 ^ cs.length := by
  induction cs generalizing n with
  | nil => simp [digitsAfter]
  | cons c cs ih =>
    have hdigit : (decimalValue? c).getD 0 < 10 := by
      cases hvalue : decimalValue? c with
      | none => decide
      | some d => exact decimalValue?_lt_ten hvalue
    calc digitsAfter n (c :: cs)
        = digitsAfter (10 * n + (decimalValue? c).getD 0) cs := rfl
      _ < (10 * n + (decimalValue? c).getD 0 + 1) * 10 ^ cs.length := ih _
      _ ≤ (10 * (n + 1)) * 10 ^ cs.length := Nat.mul_le_mul_right _ (by omega)
      _ = (n + 1) * 10 ^ (cs.length + 1) := by ring

/-- The number that an index is, written in digits of ASCII, is no longer than the index. -/
theorem length_toDigits_le (cs : List Char) :
    (Nat.toDigits 10 (digitsAfter 0 cs)).length ≤ max 1 cs.length := by
  rw [Nat.length_toDigits_le_iff (by decide) (by omega)]
  calc digitsAfter 0 cs < (0 + 1) * 10 ^ cs.length := digitsAfter_lt 0 cs
    _ ≤ 10 ^ max 1 cs.length := by
      rw [Nat.zero_add, Nat.one_mul]
      exact Nat.pow_le_pow_right (by decide) (Nat.le_max_right _ _)

/-- The text of a number that has not too many digits denotes it. -/
theorem readInt_toString {n : Nat} (h : (Nat.toDigits 10 n).length ≤ maxDigits) :
    readInt (toString n) = .ok n := by
  have htext : toString n = String.ofList (Nat.toDigits 10 n) := Nat.toString_eq_ofList_toDigits
  have hlike : isAllDigitLike (Nat.toDigits 10 n) = true := by
    simpa [htext] using isAllDigitLike_toString n
  rw [htext, readInt_eq_ok_iff hlike, digitsAfter_toDigits]
  refine ⟨⟨fun c hc => ?_, h⟩, rfl⟩
  rw [isDecimal, decimalValue?_of_isDigit (Nat.isDigit_of_mem_toDigits (by decide) (by decide) hc)]
  rfl

end Number

end Retrieval
