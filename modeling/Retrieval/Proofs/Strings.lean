import Mathlib.Data.List.Chain
import Retrieval.Json.Decode
import Retrieval.Json.Encode

/-!
Strings between quotes, as they are written and read back. Main statements: reading the characters
of a string up to its closing quote gives back the characters that were written, whatever follows;
and so it does if all of them are written within ASCII, but that the two halves of a pair, side by
side, come back as the character that they make up.
-/

namespace Retrieval

namespace Text

/-- The character of a pair. -/
def ofPair (high low : Nat) : Char :=
  Char.ofNat (0x10000 + (high - 0xd800) * 0x400 + (low - 0xdc00))

/-- Whether half a pair is the first. -/
def isFirst (unit : Nat) : Bool := unit < 0xdc00

/-- The character that two characters make up which are kept for the halves of a pair. -/
def paired? (c d : Char) : Option Char := do
  let high ← surrogate? c
  let low ← surrogate? d
  if isFirst high && !isFirst low then some (ofPair high low) else none

/-- A text with the character of each pair whose halves stand side by side. -/
def joinHalves : List Char → List Char
  | [] => []
  | [c] => [c]
  | c :: d :: cs => (paired? c d).elim (c :: joinHalves (d :: cs)) (· :: joinHalves cs)

/-- No two halves that make up a pair stand side by side. -/
def HalvesApart (cs : List Char) : Prop := cs.IsChain fun c d => paired? c d = none

theorem joinHalves_of_apart {cs : List Char} (h : HalvesApart cs) : joinHalves cs = cs := by
  induction cs using joinHalves.induct with
  | case1 => rfl
  | case2 c => rfl
  | case3 c d cs ih _ =>
    obtain ⟨hapart, hrest⟩ := List.isChain_cons_cons.mp h
    rw [joinHalves, hapart]
    exact congrArg (c :: ·) (ih hrest)

/-- A text that can be written in bytes has no halves at all. -/
theorem halvesApart_of_isEncodable {s : String} (h : isEncodable s = true) :
    HalvesApart s.toList := by
  refine List.isChain_iff_forall_rel_of_append_cons_cons.mpr fun c d before after hs => ?_
  have hnone : surrogate? c = none :=
    Option.isNone_iff_eq_none.mp (List.all_eq_true.mp h c (by simp [hs]))
  rw [paired?, hnone]
  rfl

end Text

namespace Json

open Retrieval.Text (codeOf hexDigits hexValue?_hexDigit isSurrogateUnit ofSurrogate surrogate?
  paired? joinHalves)

theorem readUnit?_hexDigits {n : Nat} (h : n < 0x10000) (rest : List Char) :
    readUnit? (hexDigits 4 n ++ rest) = some (n, rest) := by
  have hvalue (m : Nat) : Text.hexValue? (Text.hexDigit (m % 16)) = some (m % 16) :=
    hexValue?_hexDigit (Nat.mod_lt m (by decide))
  simp [hexDigits, readUnit?, hvalue]
  omega

/-- The escape of a unit that is no half of a pair reads back. -/
theorem readEscaped?_hexDigits {n : Nat} (h : n < 0x10000) (hunit : isSurrogateUnit n = false)
    (rest : List Char) : readEscaped? (hexDigits 4 n ++ rest) = some (Char.ofNat n, rest) := by
  have hrange : ¬ (0xd800 ≤ n ∧ n < 0xe000) := by simpa [isSurrogateUnit] using hunit
  have hhigh : (decide (0xd800 ≤ n) && decide (n < 0xdc00)) = false := by simp; omega
  have hlow : (decide (0xdc00 ≤ n) && decide (n < 0xe000)) = false := by simp; omega
  rw [readEscaped?, readUnit?_hexDigits h]
  simp only [hhigh, hlow, Bool.false_eq_true, if_false]

theorem readString_escapeChar (c : Char) (bound : Nat) (rest : List Char) :
    readString (bound + 1) (escapeChar c ++ rest) =
      (readString bound rest).map fun (cs, after) => (c :: cs, after) := by
  unfold escapeChar
  by_cases hquote : c = '"'
  · simp [hquote, readString, simpleEscape?]
  by_cases hslash : c = '\\'
  · simp [hslash, readString, simpleEscape?]
  by_cases hline : c = '\n'
  · simp [hline, readString, simpleEscape?]
  by_cases hreturn : c = '\r'
  · simp [hreturn, readString, simpleEscape?]
  by_cases htab : c = '\t'
  · simp [htab, readString, simpleEscape?]
  by_cases hback : c.toNat = 8
  · have hc : Char.ofNat 8 = c := by rw [← hback, Char.ofNat_toNat]
    simp [hquote, hslash, hline, hreturn, htab, hback, readString, simpleEscape?]
    rw [hc]
  by_cases hfeed : c.toNat = 12
  · have hc : Char.ofNat 12 = c := by rw [← hfeed, Char.ofNat_toNat]
    simp [hquote, hslash, hline, hreturn, htab, hfeed, readString, simpleEscape?]
    rw [hc]
  by_cases hcontrol : c.toNat < 0x20
  · have hunit : isSurrogateUnit c.toNat = false := by simp [isSurrogateUnit]; omega
    have hread := readEscaped?_hexDigits (by omega) hunit rest
    simp [hquote, hslash, hline, hreturn, htab, hback, hfeed, hcontrol, escapeUnit, readString,
      hread, Char.ofNat_toNat]
  · simp [hquote, hslash, hline, hreturn, htab, hback, hfeed, hcontrol, readString]

/-- The characters of a string read back up to the closing quote, whatever follows. -/
theorem readString_stringChars {bound : Nat} (cs rest : List Char) (h : cs.length < bound) :
    readString bound (cs.flatMap escapeChar ++ '"' :: rest) = .ok (cs, rest) := by
  induction cs generalizing bound with
  | nil =>
    obtain ⟨n, rfl⟩ : ∃ n, bound = n + 1 := ⟨bound - 1, by simp at h; omega⟩
    simp [readString]
  | cons c cs ih =>
    obtain ⟨n, rfl⟩ : ∃ n, bound = n + 1 := ⟨bound - 1, by simp at h; omega⟩
    rw [List.flatMap_cons, List.append_assoc, readString_escapeChar,
      ih (by simpa using h)]
    rfl

theorem one_le_length_escapeChar (c : Char) : 1 ≤ (escapeChar c).length := by
  unfold escapeChar
  repeat' split
  all_goals simp [escapeUnit]

theorem length_le_length_flatMap_escapeChar (cs : List Char) :
    cs.length ≤ (cs.flatMap escapeChar).length := by
  induction cs with
  | nil => simp
  | cons c cs ih =>
    have hpos := one_le_length_escapeChar c
    rw [List.flatMap_cons, List.length_append, List.length_cons]
    omega

/-- The escapes of the two halves of a pair read back as one character. -/
theorem readEscaped?_pair {high low : Nat} (hhigh : 0xd800 ≤ high ∧ high < 0xdc00)
    (hlow : 0xdc00 ≤ low ∧ low < 0xe000) (rest : List Char) :
    readEscaped? (hexDigits 4 high ++ (escapeUnit low ++ rest)) =
      some (Text.ofPair high low, rest) := by
  rw [readEscaped?, readUnit?_hexDigits (by omega)]
  simp only [hhigh, decide_true, Bool.and_self, if_true, escapeUnit, List.cons_append,
    List.nil_append]
  rw [readUnit?_hexDigits (by omega)]
  simp only [hlow, decide_true, Bool.and_self, if_true]
  rfl

/-- Characters that begin with the escape of the second half of a pair. -/
def StartsLow (cs : List Char) : Prop :=
  ∃ more low after, cs = '\\' :: 'u' :: more ∧ readUnit? more = some (low, after) ∧
    0xdc00 ≤ low ∧ low < 0xe000

/-- The escape of half a pair reads back as that half, unless the other half follows it. -/
theorem readEscaped?_half {unit : Nat} (h : isSurrogateUnit unit = true) {rest : List Char}
    (hrest : unit < 0xdc00 → ¬ StartsLow rest) :
    readEscaped? (hexDigits 4 unit ++ rest) = some (ofSurrogate unit, rest) := by
  obtain ⟨hleast, hmost⟩ : 0xd800 ≤ unit ∧ unit < 0xe000 := by simpa [isSurrogateUnit] using h
  rw [readEscaped?, readUnit?_hexDigits (by omega)]
  by_cases hhigh : unit < 0xdc00
  · simp only [hleast, hhigh, decide_true, Bool.and_self, if_true]
    split
    · next more =>
      split
      · next low after hunit =>
        have hlow : (decide (0xdc00 ≤ low) && decide (low < 0xe000)) = false := by
          rw [← Bool.not_eq_true]
          intro hrange
          simp only [Bool.and_eq_true, decide_eq_true_eq] at hrange
          exact hrest hhigh ⟨more, low, after, rfl, hunit, hrange⟩
        simp only [hlow, Bool.false_eq_true, if_false]
      · rfl
    · rfl
  · have hlow : 0xdc00 ≤ unit := by omega
    simp only [hhigh, hlow, hmost, decide_false, decide_true, Bool.and_false, Bool.and_self,
      Bool.false_eq_true, if_false, if_true]

/-- A string goes on after an escape with the character that the escape reads back as. -/
theorem readString_escapeUnit {n : Nat} {rest after : List Char} {d : Char}
    (h : readEscaped? (hexDigits 4 n ++ rest) = some (d, after)) (bound : Nat) :
    readString (bound + 1) (escapeUnit n ++ rest) =
      (readString bound after).map fun (ds, r) => (d :: ds, r) := by
  simp [escapeUnit, readString, h]

/-- A character in as many units as it needs reads back, whatever follows. -/
theorem readString_escapeWide (c : Char) (bound : Nat) (rest : List Char) :
    readString (bound + 1) (escapeWide c.toNat ++ rest) =
      (readString bound rest).map fun (cs, after) => (c :: cs, after) := by
  have hvalid : c.toNat < 0xd800 ∨ 0xdfff < c.toNat ∧ c.toNat < 0x110000 := c.valid
  have hread : Char.ofNat c.toNat = c := Char.ofNat_toNat c
  unfold escapeWide
  by_cases hsmall : c.toNat < 0x10000
  · have hunit : isSurrogateUnit c.toNat = false := by simp [isSurrogateUnit]; omega
    have hescape := readEscaped?_hexDigits hsmall hunit rest
    rw [hread] at hescape
    rw [if_pos hsmall, readString_escapeUnit hescape]
  · have hsum : 0x10000 + (0xd800 + (c.toNat - 0x10000) / 0x400 - 0xd800) * 0x400 +
        (0xdc00 + (c.toNat - 0x10000) % 0x400 - 0xdc00) = c.toNat := by omega
    have hhigh : 0xd800 ≤ 0xd800 + (c.toNat - 0x10000) / 0x400 ∧
        0xd800 + (c.toNat - 0x10000) / 0x400 < 0xdc00 := by omega
    have hlow : 0xdc00 ≤ 0xdc00 + (c.toNat - 0x10000) % 0x400 ∧
        0xdc00 + (c.toNat - 0x10000) % 0x400 < 0xe000 := by omega
    have hescape := readEscaped?_pair hhigh hlow rest
    rw [Text.ofPair, hsum, hread] at hescape
    rw [if_neg hsmall, List.append_assoc, readString_escapeUnit hescape]

theorem ofSurrogate_of_surrogate? {c : Char} {unit : Nat} (h : surrogate? c = some unit) :
    isSurrogateUnit unit = true ∧ ofSurrogate unit = c := by
  unfold surrogate? at h
  split at h
  · next hunit =>
    obtain rfl := Option.some.inj h
    refine ⟨hunit, ?_⟩
    have hpos : 0xd800 ≤ c.toNat - Text.surrogateDistance := by
      simp only [isSurrogateUnit, Bool.and_eq_true, decide_eq_true_eq] at hunit
      exact hunit.1
    rw [ofSurrogate, Nat.add_sub_cancel' (by omega), Char.ofNat_toNat]
  · cases h

theorem range_of_surrogate? {c : Char} {unit : Nat} (h : surrogate? c = some unit) :
    0xd800 ≤ unit ∧ unit < 0xe000 := by
  simpa [isSurrogateUnit] using (ofSurrogate_of_surrogate? h).1

/-- The code of a character that is kept for half a pair is one unit. -/
theorem escapeWide_codeOf {c : Char} {unit : Nat} (h : surrogate? c = some unit) :
    escapeWide (codeOf c) = escapeUnit unit := by
  have hunit := range_of_surrogate? h
  rw [codeOf, h, Option.getD_some, escapeWide, if_pos (by omega)]

theorem escapeNarrow_of_surrogate? {c : Char} {unit : Nat} (h : surrogate? c = some unit) :
    escapeNarrow c = escapeUnit unit := by
  have hfar : ¬ c.toNat < 0x7f := by
    intro hnear
    rw [Text.surrogate?_of_lt (by omega)] at h
    cases h
  rw [escapeNarrow, if_neg hfar, escapeWide_codeOf h]

theorem paired?_eq_some {c d e : Char} (h : paired? c d = some e) : ∃ high low,
    surrogate? c = some high ∧ surrogate? d = some low ∧ (0xd800 ≤ high ∧ high < 0xdc00) ∧
      (0xdc00 ≤ low ∧ low < 0xe000) ∧ Text.ofPair high low = e := by
  simp only [paired?, Option.bind_eq_bind, Option.bind_eq_some_iff,
    Option.ite_none_right_eq_some, Bool.and_eq_true, Bool.not_eq_true'] at h
  obtain ⟨high, hc, low, hd, ⟨hfirst, hsecond⟩, he⟩ := h
  have hhigh : high < 0xdc00 := of_decide_eq_true hfirst
  have hlow : ¬ low < 0xdc00 := of_decide_eq_false hsecond
  exact ⟨high, low, hc, hd, ⟨(range_of_surrogate? hc).1, hhigh⟩,
    ⟨by omega, (range_of_surrogate? hd).2⟩, Option.some.inj he⟩

theorem narrowChars_cons (c : Char) (cs : List Char) :
    narrowChars (c :: cs) = escapeNarrow c ++ narrowChars cs := List.flatMap_cons

/-- The escape of a unit that is no second half does not complete a pair. -/
theorem not_startsLow_escapeUnit {n : Nat} (h : n < 0x10000) (hlow : n < 0xdc00 ∨ 0xe000 ≤ n)
    (rest : List Char) : ¬ StartsLow (escapeUnit n ++ rest) := by
  rintro ⟨more, low, after, hmore, hunit, hrange⟩
  obtain rfl : hexDigits 4 n ++ rest = more := by simpa [escapeUnit] using hmore
  rw [readUnit?_hexDigits h] at hunit
  obtain ⟨rfl, -⟩ := Prod.mk.inj (Option.some.inj hunit)
  omega

theorem not_startsLow_escapeChar (c : Char) (rest : List Char) :
    ¬ StartsLow (escapeChar c ++ rest) := by
  unfold escapeChar
  iterate 7
    split
    · rintro ⟨more, low, after, hmore, -⟩
      simp at hmore
  split
  · next hcontrol => exact not_startsLow_escapeUnit (by omega) (by omega) rest
  · next hslash _ _ _ _ _ _ =>
    rintro ⟨more, low, after, hmore, -⟩
    exact hslash (List.cons.inj hmore).1

theorem not_startsLow_escapeWide {n : Nat} (h : n < 0x110000) (hlow : n < 0xdc00 ∨ 0xe000 ≤ n)
    (rest : List Char) : ¬ StartsLow (escapeWide n ++ rest) := by
  unfold escapeWide
  by_cases hsmall : n < 0x10000
  · rw [if_pos hsmall]
    exact not_startsLow_escapeUnit hsmall hlow rest
  · rw [if_neg hsmall, List.append_assoc]
    exact not_startsLow_escapeUnit (by omega) (by omega) _

/-- After the first half of a pair no second half is written, unless the two make up a pair. -/
theorem not_startsLow_narrowChars {c : Char} {unit : Nat} (hunit : surrogate? c = some unit)
    (hhigh : unit < 0xdc00) {cs : List Char} (hapart : ∀ d ∈ cs.head?, paired? c d = none)
    (rest : List Char) : ¬ StartsLow (narrowChars cs ++ '"' :: rest) := by
  cases cs with
  | nil =>
    rintro ⟨more, low, after, hmore, -⟩
    simp [narrowChars] at hmore
  | cons d ds =>
    have hvalid : d.toNat < 0xd800 ∨ 0xdfff < d.toNat ∧ d.toNat < 0x110000 := d.valid
    rw [narrowChars_cons, List.append_assoc, escapeNarrow]
    split
    · exact not_startsLow_escapeChar d _
    cases hd : surrogate? d with
    | none =>
      rw [codeOf, hd]
      exact not_startsLow_escapeWide (by simp; omega) (by simp; omega) _
    | some low =>
      have hrange := range_of_surrogate? hd
      have hfirst : low < 0xdc00 := by
        have hfirst : Text.isFirst unit = true := decide_eq_true hhigh
        have hnone := hapart d rfl
        simp only [paired?, hunit, hd, hfirst, Option.bind_eq_bind, Option.bind_some, Bool.true_and,
          ite_eq_right_iff, reduceCtorEq, imp_false, Bool.not_eq_true', Bool.not_eq_false] at hnone
        exact of_decide_eq_true hnone
      rw [codeOf, hd]
      exact not_startsLow_escapeWide (by simp; omega) (by simp; omega) _

theorem readString_escapeNarrow {c : Char} {cs : List Char}
    (hapart : ∀ d ∈ cs.head?, paired? c d = none) (rest : List Char) (bound : Nat) :
    readString (bound + 1) (escapeNarrow c ++ (narrowChars cs ++ '"' :: rest)) =
      (readString bound (narrowChars cs ++ '"' :: rest)).map
        fun (ds, after) => (c :: ds, after) := by
  rw [escapeNarrow]
  split
  · exact readString_escapeChar c bound _
  cases hc : surrogate? c with
  | none =>
    rw [codeOf, hc]
    exact readString_escapeWide c bound _
  | some unit =>
    obtain ⟨hunit, hself⟩ := ofSurrogate_of_surrogate? hc
    have hread := readEscaped?_half hunit fun hhigh =>
      not_startsLow_narrowChars hc hhigh hapart rest
    rw [hself] at hread
    rw [escapeWide_codeOf hc]
    exact readString_escapeUnit hread bound

/-- The escapes of two halves that make up a pair read back as its character. -/
theorem readString_escapeNarrow_pair {c d e : Char} (h : paired? c d = some e) (rest : List Char)
    (bound : Nat) : readString (bound + 1) (escapeNarrow c ++ (escapeNarrow d ++ rest)) =
      (readString bound rest).map fun (ds, after) => (e :: ds, after) := by
  obtain ⟨high, low, hc, hd, hhigh, hlow, rfl⟩ := paired?_eq_some h
  rw [escapeNarrow_of_surrogate? hc, escapeNarrow_of_surrogate? hd]
  exact readString_escapeUnit (readEscaped?_pair hhigh hlow rest) bound

/-- The characters of a string within ASCII read back up to the closing quote, whatever follows;
halves that make up a pair come back as its character. -/
theorem readString_narrowChars {bound : Nat} (cs rest : List Char) (h : cs.length < bound) :
    readString bound (narrowChars cs ++ '"' :: rest) = .ok (joinHalves cs, rest) := by
  obtain ⟨n, rfl⟩ : ∃ n, bound = n + 1 := ⟨bound - 1, by omega⟩
  induction cs using Retrieval.Text.joinHalves.induct generalizing n with
  | case1 => simp [narrowChars, readString, joinHalves]
  | case2 c =>
    obtain ⟨m, rfl⟩ : ∃ m, n = m + 1 := ⟨n - 1, by simp at h; omega⟩
    have hend : ∀ d ∈ ([] : List Char).head?, paired? c d = none := by simp
    have hread := readString_escapeNarrow hend rest (m + 1)
    rw [narrowChars_cons, List.append_assoc, hread]
    simp [narrowChars, readString, joinHalves, Except.map]
  | case3 c d cs ihApart ihPair =>
    obtain ⟨m, rfl⟩ : ∃ m, n = m + 1 := ⟨n - 1, by simp at h; omega⟩
    rw [joinHalves]
    cases hpair : paired? c d with
    | some e =>
      rw [narrowChars_cons, narrowChars_cons, List.append_assoc, List.append_assoc,
        readString_escapeNarrow_pair hpair, ihPair m (by simp at h; omega)]
      rfl
    | none =>
      rw [narrowChars_cons, List.append_assoc, readString_escapeNarrow (by simpa using hpair),
        ihApart m (by simpa using h)]
      rfl

theorem length_le_length_narrowChars (cs : List Char) : cs.length ≤ (narrowChars cs).length := by
  induction cs with
  | nil => exact Nat.le_refl 0
  | cons c cs ih =>
    have hwide (n : Nat) : 1 ≤ (escapeWide n).length := by
      unfold escapeWide
      split <;> simp [escapeUnit]
    have hpos : 1 ≤ (escapeNarrow c).length := by
      unfold escapeNarrow
      split
      · exact one_le_length_escapeChar c
      · exact hwide _
    rw [narrowChars_cons, List.length_append, List.length_cons]
    omega

end Json

end Retrieval
