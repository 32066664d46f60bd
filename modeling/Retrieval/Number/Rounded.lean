import Retrieval.Number.Notation

/-!
Numbers rounded for display: to some places after the point, or to some significant digits. A tie
goes to the even neighbour of the exact value.
-/

namespace Retrieval.Number

/-- The digits before a point and those after it. Without digits after it the point is left out,
unless it is kept. -/
def pointed (keepsPoint : Bool) (whole fraction : List Char) : List Char :=
  whole ++ if fraction.isEmpty && !keepsPoint then [] else '.' :: fraction

/-- A natural with a point before its last `places` digits. -/
def withPoint (keepsPoint : Bool) (places n : Nat) : List Char :=
  let ds := decimalDigits n
  let ds := List.replicate (places + 1 - ds.length) '0' ++ ds
  let whole := ds.length - places
  pointed keepsPoint (ds.take whole) (ds.drop whole)

/-- A double whose finite magnitudes are written in some way. -/
def written (magnitude : Nat → Int → List Char) (x : Float) : List Char :=
  match parts x with
  | .nan => ['n', 'a', 'n']
  | .infinite negative => (if negative then ['-'] else []) ++ ['i', 'n', 'f']
  | .finite negative m q => (if negative then ['-'] else []) ++ magnitude m q

/-- `significand · 2 ^ exponent` with a fixed number of places. -/
def fixedChars (keepsPoint : Bool) (places significand : Nat) (exponent : Int) : List Char :=
  let s := scaled significand exponent
  withPoint keepsPoint places (roundDiv (s.1 * tenTo places) s.2)

/-- A double with a fixed number of places. -/
def fixed (places : Nat) (x : Float) : String := String.ofList (written (fixedChars false places) x)

/-- The nearest decimal with `count` significant digits to a positive `significand · 2 ^ exponent`,
and zero for zero. -/
def rounded (count significand : Nat) (exponent : Int) : Digits :=
  if significand = 0 then ⟨0, count, 0⟩
  else
    let s := scaled significand exponent
    let lead := leadingExponent s.1 s.2
    let t := scaledTen s.1 (count - 1 - lead)
    let n := roundDiv t.1 (t.2 * s.2)
    if n = tenTo count then ⟨tenTo (count - 1), count, lead + 1⟩ else ⟨n, count, lead⟩

/-- The nearest decimal with `count` significant digits, without trailing zeros. -/
def significant (count significand : Nat) (exponent : Int) : Digits :=
  (rounded count significand exponent).trimmed count

/-- All digits of a decimal. -/
def Digits.chars (d : Digits) : List Char :=
  let ds := decimalDigits d.coefficient
  List.replicate (d.count - ds.length) '0' ++ ds

/-- A decimal with one digit before the point, and an exponent. -/
def Digits.scientific (keepsPoint : Bool) (d : Digits) : List Char :=
  pointed keepsPoint (d.chars.take 1) (d.chars.drop 1) ++ exponentText d.exponent

/-- `significand · 2 ^ exponent` with one digit before the point and some places after it. -/
def scientificChars (keepsPoint : Bool) (places significand : Nat) (exponent : Int) : List Char :=
  (rounded (places + 1) significand exponent).scientific keepsPoint

/-- `significand · 2 ^ exponent` to some significant digits, all of which are written. -/
def fullChars (count significand : Nat) (exponent : Int) : List Char :=
  let d := rounded count significand exponent
  if compactLayout.positionalFrom ≤ d.exponent && d.exponent < count then
    fixedChars true (count - 1 - d.exponent).toNat significand exponent
  else d.scientific true

/-- A double to some significant digits, without trailing zeros. -/
def general (count : Nat) (x : Float) : List Char :=
  { compactLayout with positionalBelow := count }.write (significant count) x

/-- A double to six significant digits. -/
def compact (x : Float) : String := String.ofList (general 6 x)

end Retrieval.Number
