import Retrieval.Number.Shortest

/-!
How digits are laid out: positionally within a range of exponents, with an exponent outside it. The
decisions of a format are one record; the formats of this library stand at the end.
-/

namespace Retrieval.Number

/-- The decisions of a number format. -/
structure Layout where
  /-- The least exponent of the first digit that is written positionally. -/
  positionalFrom : Int
  /-- The least exponent above the positional ones. -/
  positionalBelow : Int
  /-- Whether a whole number is written with a fraction `.0`. -/
  keepsFraction : Bool
  nan : String
  infinity : String

def decimalDigits (n : Nat) : List Char := Nat.toDigits 10 n

/-- Exponents have a sign and at least two digits. -/
def exponentText (e : Int) : List Char :=
  let digits := decimalDigits e.natAbs
  ['e', if e < 0 then '-' else '+'] ++ (if digits.length < 2 then '0' :: digits else digits)

/-- The digits of a positive decimal, laid out. -/
def Layout.digits (l : Layout) (d : Digits) : List Char :=
  let ds := decimalDigits d.coefficient
  if l.positionalFrom ≤ d.exponent && d.exponent < l.positionalBelow then
    if d.exponent < 0 then
      ['0', '.'] ++ List.replicate ((-d.exponent).toNat - 1) '0' ++ ds
    else
      let whole := d.exponent.toNat + 1
      if ds.length ≤ whole then
        ds ++ List.replicate (whole - ds.length) '0' ++ (if l.keepsFraction then ['.', '0'] else [])
      else ds.take whole ++ ['.'] ++ ds.drop whole
  else
    match ds with
    | [] => []
    | [c] => [c] ++ exponentText d.exponent
    | c :: cs => [c, '.'] ++ cs ++ exponentText d.exponent

def Layout.zeroText (l : Layout) : List Char := if l.keepsFraction then ['0', '.', '0'] else ['0']

/-- A double in a format, with the digits that `choose` gives for its magnitude. -/
def Layout.write (l : Layout) (choose : Nat → Int → Digits) (x : Float) : List Char :=
  match parts x with
  | .nan => l.nan.toList
  | .infinite negative => (if negative then ['-'] else []) ++ l.infinity.toList
  | .finite negative m q =>
    (if negative then ['-'] else []) ++ (if m = 0 then l.zeroText else l.digits (choose m q))

/-- Numbers in texts and messages: whole numbers keep `.0`, exponents from 16 on and below -4. -/
def plainLayout : Layout := ⟨-4, 16, true, "nan", "inf"⟩

/-- Numbers in documents and data: as in texts, with the words of the data format. -/
def dataLayout : Layout := ⟨-4, 16, true, "NaN", "Infinity"⟩

/-- Numbers of at most six digits, whole numbers without a fraction. -/
def compactLayout : Layout := ⟨-4, 6, false, "nan", "inf"⟩

/-- A double in texts and messages. -/
def plain (x : Float) : String := String.ofList (plainLayout.write shortest x)

/-- A double in documents and data. -/
def data (x : Float) : String := String.ofList (dataLayout.write shortest x)

/-- An integer. -/
def integer (n : Int) : String :=
  String.ofList ((if n < 0 then ['-'] else []) ++ decimalDigits n.natAbs)

/-- An integer in a text may have no more digits than this. -/
def maxDigits : Nat := 4300

/-- The least natural with more digits than that. -/
def leastLong : Nat := tenTo maxDigits

/-- Whether an integer is short enough for a text. -/
def isShort (n : Int) : Bool := (decimalDigits n.natAbs).length ≤ maxDigits

theorem length_decimalDigits_le_iff {n k : Nat} (hk : 0 < k) :
    (decimalDigits n).length ≤ k ↔ n < tenTo k := Nat.length_toDigits_le_iff (by decide) hk

theorem isShort_iff (n : Int) : isShort n = true ↔ n.natAbs < leastLong := by
  rw [isShort, decide_eq_true_eq]
  exact length_decimalDigits_le_iff (by decide)

end Retrieval.Number
