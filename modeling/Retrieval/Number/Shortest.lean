import Retrieval.Number.Double

/-!
The shortest decimal that reads back as a given double: for one, two, … digits the two neighbours
of the value on that decimal grid are tried, and the first grid with a hit wins. Of two hits the
nearer is taken.
-/

namespace Retrieval.Number

/-- A positive decimal `d.ddd · 10 ^ exponent`: its digits as a natural, their count, and the
exponent of the first digit. -/
structure Digits where
  coefficient : Nat
  count : Nat
  exponent : Int
  deriving DecidableEq, Repr

/-- How many decimal digits a natural has. -/
def decimalLength (n : Nat) : Nat := (Nat.toDigits 10 n).length

/-- The exponent of the first digit of a positive quotient. -/
def leadingExponent (num den : Nat) : Int :=
  if den ≤ num then decimalLength (num / den) - 1
  else
    let l := decimalLength (den / num)
    if den ≤ num * tenTo (l - 1) then -((l : Int) - 1) else -(l : Int)

/-- `a · 10 ^ k` as a quotient of naturals. -/
def scaledTen (a : Nat) (k : Int) : Nat × Nat :=
  if 0 ≤ k then (a * tenTo k.toNat, 1) else (a, tenTo (-k).toNat)

/-- Drops trailing zeros of a coefficient, and one digit each from the count. -/
def Digits.trimmed : Nat → Digits → Digits
  | 0, d => d
  | fuel + 1, d =>
    if d.count ≤ 1 || d.coefficient % 10 ≠ 0 then d
    else trimmed fuel ⟨d.coefficient / 10, d.count - 1, d.exponent⟩

/-- The decimals around a double: the value, the ends of the interval that reads back as it, all
over one denominator, and whether the ends belong to the interval. -/
structure Interval where
  low : Nat
  value : Nat
  high : Nat
  den : Nat
  closed : Bool

/-- The interval of reals that round to `significand · 2 ^ exponent`. -/
def intervalOf (significand : Nat) (exponent : Int) : Interval :=
  let narrow := significand = twoTo 52 && exponent > leastExponent
  let low := scaled (4 * significand - if narrow then 1 else 2) (exponent - 2)
  let value := scaled (4 * significand) (exponent - 2)
  let high := scaled (4 * significand + 2) (exponent - 2)
  ⟨low.1, value.1, high.1, value.2, significand % 2 = 0⟩

/-- Whether `n · 10 ^ k` lies in the interval. -/
def Interval.holds (i : Interval) (n : Nat) (k : Int) : Bool :=
  let s := scaledTen n k
  let low := i.low * s.2
  let high := i.high * s.2
  let here := s.1 * i.den
  if i.closed then low ≤ here && here ≤ high else low < here && here < high

/-- The best of the two neighbours of the value with `count` digits, if one reads back. -/
def Interval.neighbour? (i : Interval) (lead : Int) (count : Nat) : Option Digits :=
  let k := lead - (count - 1)
  let s := scaledTen i.value (-k)
  let below := s.1 / (s.2 * i.den)
  let above := below + 1
  let pack (n : Nat) : Digits :=
    if n = tenTo count then ⟨tenTo (count - 1), count, lead + 1⟩ else ⟨n, count, lead⟩
  match i.holds below k, i.holds above k with
  | true, true =>
    let twice := 2 * s.1
    let middle := (below + above) * (s.2 * i.den)
    some (pack (if twice < middle || (twice = middle && below % 2 = 0) then below else above))
  | true, false => some (pack below)
  | false, true => some (pack above)
  | false, false => none

/-- Tries ever more digits, at most seventeen. -/
def Interval.search (i : Interval) (lead : Int) : Nat → Nat → Digits
  | 0, count => ((i.neighbour? lead count).getD ⟨0, 1, 0⟩)
  | more + 1, count =>
    match i.neighbour? lead count with
    | some d => d
    | none => i.search lead more (count + 1)

/-- The shortest digits that read back as `significand · 2 ^ exponent`, for a positive
significand. -/
def shortest (significand : Nat) (exponent : Int) : Digits :=
  let i := intervalOf significand exponent
  (i.search (leadingExponent i.value i.den) 16 1).trimmed 17

end Retrieval.Number
