import Retrieval.Number.Notation
import Retrieval.Proofs.Names
import Retrieval.Proofs.ShortestDigits

/-!
Numerals of the query language: a whole part without leading zeros, then perhaps a fraction and an
exponent. Main statements: integers and finite doubles are written as numerals.
-/

namespace Retrieval.Literal

open Number (decimalDigits)

/-- One zero, or digits that do not start with one. -/
def isWhole : List Char → Bool
  | [] => false
  | ['0'] => true
  | c :: _ => c ≠ '0'

/-- Digits, at least one. -/
def areDigits (ds : List Char) : Bool := !ds.isEmpty && ds.all Char.isDigit

def dropSign : List Char → List Char
  | '+' :: cs => cs
  | '-' :: cs => cs
  | cs => cs

/-- Nothing, or an exponent. -/
def isPower : List Char → Bool
  | [] => true
  | e :: cs => (e = 'e' || e = 'E') && areDigits (dropSign cs)

/-- What may follow the whole part of a numeral. -/
def isTail : List Char → Bool
  | '.' :: cs => areDigits (cs.takeWhile Char.isDigit) && isPower (cs.dropWhile Char.isDigit)
  | cs => isPower cs

/-- A numeral without its sign. -/
def isMagnitude (cs : List Char) : Bool :=
  isWhole (cs.takeWhile Char.isDigit) && isTail (cs.dropWhile Char.isDigit)

def isNumeral : List Char → Bool
  | '-' :: cs => isMagnitude cs
  | cs => isMagnitude cs

theorem isDigit_of_mem_decimalDigits {n : Nat} {c : Char} (h : c ∈ decimalDigits n) :
    c.isDigit = true := Nat.isDigit_of_mem_toDigits (by decide) (by decide) h

theorem areDigits_iff (ds : List Char) :
    areDigits ds = true ↔ ds ≠ [] ∧ ∀ c ∈ ds, c.isDigit = true := by
  simp [areDigits]

theorem areDigits_decimalDigits (n : Nat) : areDigits (decimalDigits n) = true :=
  (areDigits_iff _).mpr ⟨Nat.toDigits_ne_nil, fun _ => isDigit_of_mem_decimalDigits⟩

theorem isWhole_cons {c : Char} (h : c ≠ '0') (cs : List Char) : isWhole (c :: cs) = true := by
  cases cs <;> simp [isWhole, h]

/-- The digits of a positive natural do not start with a zero. -/
theorem exists_cons_decimalDigits {n : Nat} (h : 0 < n) :
    ∃ c cs, decimalDigits n = c :: cs ∧ c ≠ '0' := by
  induction n using Nat.strongRecOn with
  | ind n ih =>
    by_cases hsmall : n < 10
    · have hall : ∀ m ∈ List.range 10, 0 < m → m.digitChar ≠ '0' := by decide
      exact ⟨n.digitChar, [], Nat.toDigits_of_lt_base hsmall,
        hall n (List.mem_range.mpr hsmall) h⟩
    · obtain ⟨c, cs, hdigits, hc⟩ := ih (n / 10) (by omega) (by omega)
      refine ⟨c, cs ++ [(n % 10).digitChar], ?_, hc⟩
      rw [decimalDigits, Nat.toDigits_of_base_le (by decide) (by omega)]
      rw [decimalDigits] at hdigits
      rw [hdigits]
      rfl

theorem isWhole_decimalDigits (n : Nat) : isWhole (decimalDigits n) = true := by
  cases n with
  | zero => decide
  | succ n =>
    obtain ⟨c, cs, hdigits, hc⟩ := exists_cons_decimalDigits (Nat.succ_pos n)
    rw [hdigits]
    exact isWhole_cons hc cs

theorem isTail_of_isPower {cs : List Char} (h : isPower cs = true) : isTail cs = true := by
  cases cs with
  | nil => rfl
  | cons c cs =>
    have hc : c ≠ '.' := by
      rintro rfl
      simp [isPower] at h
    unfold isTail
    split
    · next heq =>
      cases heq
      exact absurd rfl hc
    · exact h

/-- What follows a whole part does not start with a digit. -/
theorem not_isDigit_of_isPower {cs : List Char} (h : isPower cs = true) :
    ∀ c ∈ cs.head?, c.isDigit = false := by
  cases cs with
  | nil => simp
  | cons e cs =>
    simp only [isPower, Bool.and_eq_true, Bool.or_eq_true, decide_eq_true_eq] at h
    rintro c ⟨⟩
    obtain ⟨rfl | rfl, -⟩ := h <;> decide

theorem not_isDigit_of_isTail {cs : List Char} (h : isTail cs = true) :
    ∀ c ∈ cs.head?, c.isDigit = false := by
  unfold isTail at h
  split at h
  · rintro c ⟨⟩
    decide
  · exact not_isDigit_of_isPower h

/-- Digits after a point, with what may follow them. -/
theorem isTail_fraction {ds power : List Char} (hds : areDigits ds = true)
    (hpower : isPower power = true) : isTail ('.' :: (ds ++ power)) = true := by
  have hdigits := ((areDigits_iff ds).mp hds).2
  rw [isTail, takeWhile_append_stop hdigits (not_isDigit_of_isPower hpower),
    dropWhile_append_stop hdigits (not_isDigit_of_isPower hpower), hds, hpower]
  rfl

/-- The digits of a whole part with what may follow them, after a sign or without one. -/
theorem isNumeral_of_parts {whole tail : List Char} (hwhole : isWhole whole = true)
    (hdigits : ∀ c ∈ whole, c.isDigit = true) (htail : isTail tail = true) (negative : Bool) :
    isNumeral ((if negative then ['-'] else []) ++ (whole ++ tail)) = true := by
  have hmagnitude : isMagnitude (whole ++ tail) = true := by
    rw [isMagnitude, takeWhile_append_stop hdigits (not_isDigit_of_isTail htail),
      dropWhile_append_stop hdigits (not_isDigit_of_isTail htail), hwhole, htail]
    rfl
  cases negative with
  | true => exact hmagnitude
  | false =>
    cases whole with
    | nil => cases hwhole
    | cons c cs =>
      have hc : c ≠ '-' := by
        rintro rfl
        exact absurd (hdigits '-' (by simp)) (by decide)
      simp only [Bool.false_eq_true, if_false, List.nil_append, List.cons_append]
      unfold isNumeral
      split
      · next heq =>
        cases heq
        exact absurd rfl hc
      · exact hmagnitude

theorem isNumeral_integer (n : Int) : isNumeral (Number.integer n).toList = true := by
  have htail : isTail [] = true := rfl
  have h := isNumeral_of_parts (isWhole_decimalDigits n.natAbs)
    (fun _ => isDigit_of_mem_decimalDigits) htail (decide (n < 0))
  simpa [Number.integer] using h

theorem isPower_exponentText (n : Int) : isPower (Number.exponentText n) = true := by
  have hdigits := areDigits_decimalDigits n.natAbs
  rw [areDigits_iff] at hdigits
  have hpadded : areDigits (if (decimalDigits n.natAbs).length < 2 then
      '0' :: decimalDigits n.natAbs else decimalDigits n.natAbs) = true := by
    rw [areDigits_iff]
    split
    · refine ⟨by simp, fun c hc => ?_⟩
      obtain rfl | hc := List.mem_cons.mp hc
      · decide
      · exact hdigits.2 c hc
    · exact hdigits
  unfold Number.exponentText
  split
  · exact hpadded
  · exact hpadded

theorem isWhole_singleton (c : Char) : isWhole [c] = true := by
  by_cases h : c = '0'
  · rw [h]
    rfl
  · exact isWhole_cons h []

theorem areDigits_append {cs ds : List Char} (hcs : ∀ c ∈ cs, c.isDigit = true)
    (hds : areDigits ds = true) : areDigits (cs ++ ds) = true := by
  rw [areDigits_iff] at hds ⊢
  refine ⟨by simp [hds.1], fun c hc => ?_⟩
  obtain hc | hc := List.mem_append.mp hc
  · exact hcs c hc
  · exact hds.2 c hc

theorem isDigit_of_mem_zeros {n : Nat} {c : Char} (h : c ∈ List.replicate n '0') :
    c.isDigit = true := by
  rw [(List.mem_replicate.mp h).2]
  decide

/-- What a numeral is without its sign: a whole part, with what may follow it. -/
def HasParts (cs : List Char) : Prop := ∃ whole tail, cs = whole ++ tail ∧ isWhole whole = true ∧
  (∀ c ∈ whole, c.isDigit = true) ∧ isTail tail = true

/-- Zeros between the point and the digits. -/
theorem hasParts_belowOne (zeros : Nat) {ds : List Char} (hds : areDigits ds = true) :
    HasParts (['0', '.'] ++ List.replicate zeros '0' ++ ds) := by
  have hdigits := areDigits_append (fun c => isDigit_of_mem_zeros (n := zeros)) hds
  have hnone : isPower [] = true := rfl
  have hfraction := isTail_fraction hdigits hnone
  exact ⟨['0'], _, by simp, isWhole_singleton '0', by simp, hfraction⟩

/-- Zeros behind the digits. -/
theorem hasParts_padded {ds : List Char} (hds : areDigits ds = true) (zeros : Nat)
    (hwhole : isWhole (ds ++ List.replicate zeros '0') = true) (keepsFraction : Bool) :
    HasParts (ds ++ List.replicate zeros '0' ++ (if keepsFraction then ['.', '0'] else [])) := by
  have htail : isTail (if keepsFraction then ['.', '0'] else []) = true := by
    cases keepsFraction <;> decide
  refine ⟨_, _, rfl, hwhole, fun c hc => ?_, htail⟩
  obtain hc | hc := List.mem_append.mp hc
  · exact ((areDigits_iff ds).mp hds).2 c hc
  · exact isDigit_of_mem_zeros hc

/-- The point among the digits. -/
theorem hasParts_pointed {ds : List Char} (hds : areDigits ds = true) {whole : Nat}
    (hlong : whole < ds.length) (hwhole : isWhole (ds.take whole) = true) :
    HasParts (ds.take whole ++ ['.'] ++ ds.drop whole) := by
  have hall := ((areDigits_iff ds).mp hds).2
  have hdrop : areDigits (ds.drop whole) = true :=
    (areDigits_iff _).mpr ⟨by simpa using hlong, fun e he => hall e (List.mem_of_mem_drop he)⟩
  have hnone : isPower [] = true := rfl
  have hfraction := isTail_fraction hdrop hnone
  rw [List.append_nil] at hfraction
  exact ⟨ds.take whole, _, List.append_assoc _ _ _, hwhole,
    fun e he => hall e (List.mem_of_mem_take he), hfraction⟩

/-- Digits are laid out as a numeral, unless zeros would have to be put behind a zero. -/
theorem hasParts_digits (l : Number.Layout) {d : Number.Digits}
    (h : 0 < d.coefficient ∨ d.exponent = 0) : HasParts (l.digits d) := by
  have hds := areDigits_decimalDigits d.coefficient
  obtain ⟨hne, hall⟩ := (areDigits_iff _).mp hds
  have hpower := isPower_exponentText d.exponent
  unfold Number.Layout.digits
  dsimp only
  split
  · by_cases hsmall : d.exponent < 0
    · rw [if_pos hsmall]
      exact hasParts_belowOne _ hds
    rw [if_neg hsmall]
    by_cases hshort : (decimalDigits d.coefficient).length ≤ d.exponent.toNat + 1
    · rw [if_pos hshort]
      refine hasParts_padded hds _ ?_ l.keepsFraction
      obtain hcoefficient | hexponent := h
      · obtain ⟨c, cs, hdigits, hc⟩ := exists_cons_decimalDigits hcoefficient
        rw [hdigits]
        exact isWhole_cons hc _
      · -- a single digit, with no zeros behind it
        have hpos := List.length_pos_iff.mpr hne
        have hone : (decimalDigits d.coefficient).length = 1 := by
          simp [hexponent] at hshort
          omega
        obtain ⟨c, hc⟩ := List.length_eq_one_iff.mp hone
        simp [hc, hexponent, isWhole_singleton]
    · have hcoefficient : 0 < d.coefficient := by
        obtain hcoefficient | hexponent := h
        · exact hcoefficient
        · refine Nat.pos_of_ne_zero fun hzero => hshort ?_
          rw [hzero]
          simp [decimalDigits]
      obtain ⟨c, cs, hdigits, hc⟩ := exists_cons_decimalDigits hcoefficient
      rw [if_neg hshort]
      refine hasParts_pointed hds (Nat.lt_of_not_le hshort) ?_
      rw [hdigits]
      exact isWhole_cons hc _
  · cases hdigits : decimalDigits d.coefficient with
    | nil => exact absurd hdigits hne
    | cons c cs =>
      have hc : ∀ e ∈ [c], e.isDigit = true := fun e he => hall e (by simp_all)
      have hcs : ∀ e ∈ cs, e.isDigit = true := fun e he => hall e (by simp_all)
      cases cs with
      | nil =>
        exact ⟨[c], _, rfl, isWhole_singleton c, hc, isTail_of_isPower hpower⟩
      | cons e more =>
        have hfraction := isTail_fraction ((areDigits_iff (e :: more)).mpr ⟨by simp, hcs⟩) hpower
        exact ⟨[c], _, by simp, isWhole_singleton c, hc, hfraction⟩

theorem isNumeral_of_hasParts {cs : List Char} (h : HasParts cs) (negative : Bool) :
    isNumeral ((if negative then ['-'] else []) ++ cs) = true := by
  obtain ⟨whole, tail, rfl, hwhole, hdigits, htail⟩ := h
  exact isNumeral_of_parts hwhole hdigits htail negative

theorem isNumeral_data {x : Float} (h : Number.isFinite x = true) :
    isNumeral (Number.data x).toList = true := by
  unfold Number.isFinite at h
  rw [Number.data, String.toList_ofList, Number.Layout.write]
  cases hparts : Number.parts x with
  | nan => simp [hparts] at h
  | infinite negative => simp [hparts] at h
  | finite negative m q =>
    by_cases hm : m = 0
    · have hzero : HasParts ['0', '.', '0'] := ⟨['0'], ['.', '0'], rfl, rfl, by simp, rfl⟩
      simpa [hm, Number.Layout.zeroText, Number.dataLayout] using
        isNumeral_of_hasParts hzero negative
    · have hdigits := hasParts_digits Number.dataLayout
        (Number.shortest_pos (Nat.pos_of_ne_zero hm) q)
      simpa [hm] using isNumeral_of_hasParts hdigits negative

end Retrieval.Literal
