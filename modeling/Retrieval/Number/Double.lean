/-!
Doubles as exact numbers: the parts of a double, and the double nearest to a quotient of naturals,
a tie going to the even neighbour. Nothing here rounds twice. Powers too large for a double are told
from the exact power.
-/

namespace Retrieval.Number

/-- The power `2 ^ n`, for significands and exponents of doubles. -/
@[inline] def twoTo (n : Nat) : Nat := Nat.pow 2 n

/-- The power `10 ^ n`, for decimals. -/
@[inline] def tenTo (n : Nat) : Nat := Nat.pow 10 n

/-- A double: a magnitude `significand · 2 ^ exponent` with a sign, an infinity, or no number. -/
inductive Parts
  | finite (negative : Bool) (significand : Nat) (exponent : Int)
  | infinite (negative : Bool)
  | nan
  deriving DecidableEq, Repr

/-- The least exponent of a double's significand. -/
def leastExponent : Int := -1074

/-- The parts of a double given by its bits. -/
def partsOfBits (bits : Nat) : Parts :=
  let negative := bits / twoTo 63 % 2 == 1
  let biased : Nat := bits / twoTo 52 % twoTo 11
  let fraction : Nat := bits % twoTo 52
  if biased = twoTo 11 - 1 then
    if fraction = 0 then .infinite negative else .nan
  else if biased = 0 then .finite negative fraction leastExponent
  else .finite negative (twoTo 52 + fraction) ((biased : Int) - 1075)

def parts (x : Float) : Parts := partsOfBits x.toBits.toNat

/-- The nearest natural to a quotient, a tie going to the even one. -/
def roundDiv (num den : Nat) : Nat :=
  let q := num / den
  let r := num % den
  if 2 * r < den || (2 * r = den && q % 2 = 0) then q else q + 1

/-- `a · 2 ^ k` as a quotient of naturals. -/
def scaled (a : Nat) (k : Int) : Nat × Nat :=
  if 0 ≤ k then (a * twoTo k.toNat, 1) else (a, twoTo (-k).toNat)

/-- The bits of the largest finite magnitude, plus one: those of infinity. -/
def infinityBits : Nat := 2047 * twoTo 52

/-- The bits of the double nearest to a positive quotient; a quotient beyond the largest double
gives those of infinity. -/
def bitsOfRatio (num den : Nat) : Nat :=
  if num = 0 then 0
  else
    let guess : Int := (Nat.log2 num : Int) - (Nat.log2 den : Int) - 52
    -- the significand at the guess has 53 bits, or 52 if the guess is one too high
    let low := scaled num (-(guess - 1))
    let exponent := max leastExponent
      (if low.1 < twoTo 53 * (low.2 * den) then guess - 1 else guess)
    let s := scaled num (-exponent)
    let significand := roundDiv s.1 (s.2 * den)
    min infinityBits ((exponent - leastExponent).toNat * twoTo 52 + significand)

/-- The double nearest to a quotient, with a sign. -/
def ofRatio (negative : Bool) (num den : Nat) : Float :=
  Float.ofBits (UInt64.ofNat ((if negative then twoTo 63 else 0) + bitsOfRatio num den))

/-- The double nearest to `coefficient · 10 ^ exponent`. Exponents far outside the range of doubles
are settled without computing the power. -/
def ofDecimal (negative : Bool) (coefficient : Nat) (exponent : Int) : Float :=
  let size : Int := Nat.log2 coefficient
  if coefficient = 0 then ofRatio negative 0 1
  else if exponent > 400 then ofRatio negative (twoTo 1100) 1
  else if exponent < -400 - size then ofRatio negative 0 1
  else if 0 ≤ exponent then ofRatio negative (coefficient * tenTo exponent.toNat) 1
  else ofRatio negative coefficient (tenTo (-exponent).toNat)

def isFinite (x : Float) : Bool :=
  match parts x with
  | .finite .. => true
  | _ => false

/-- The double of an integer; nothing if the integer is beyond all doubles. -/
def ofInt? (n : Int) : Option Float :=
  let x := ofRatio (n < 0) n.natAbs 1
  if isFinite x then some x else none

/-- The integer that a double is equal to, if there is one. -/
def toInt? (x : Float) : Option Int :=
  match parts x with
  | .finite negative m q =>
    let s := scaled m q
    if s.1 % s.2 = 0 then
      let n := ((s.1 / s.2 : Nat) : Int)
      some (if negative then -n else n)
    else none
  | _ => none

/-- The parts of an integer. -/
def partsOfInt (n : Int) : Parts := .finite (n < 0) n.natAbs 0

/-- How many units of `2 ^ least` a finite magnitude of some exponent has. -/
def inUnits (negative : Bool) (significand : Nat) (above : Nat) : Int :=
  let n : Int := significand * twoTo above
  if negative then -n else n

/-- The order of two exact numbers; what is no number has no place in it. -/
def Parts.compare? : Parts → Parts → Option Ordering
  | .nan, _ => none
  | _, .nan => none
  | .infinite a, .infinite b => some (Ord.compare b a)
  | .infinite a, .finite .. => some (if a then .lt else .gt)
  | .finite .., .infinite b => some (if b then .gt else .lt)
  | .finite a m p, .finite b n q =>
    let least := min p q
    some (Ord.compare (inUnits a m (p - least).toNat) (inUnits b n (q - least).toNat))

/-- Positive infinity. -/
def infinity : Float := ofRatio false (twoTo 1100) 1

def negativeInfinity : Float := ofRatio true (twoTo 1100) 1

/-- A double that is no number. -/
def notANumber : Float := Float.ofBits 0x7ff8000000000000

/-- The least magnitude that is rounded to infinity; irreducible, for it is too large to unfold. -/
@[irreducible] def overflowLimit : Nat := (twoTo 54 - 1) * twoTo 970

/-- Whether a power of a quotient of naturals reaches the limit. The natural logarithm of the limit
is between 709 and 710; that of the base is at most the excess of the base over one, and at least
that excess as a part of the base. Only a power that these bounds do not settle is computed. -/
def powerOverflows (num den exponent : Nat) : Bool :=
  let excess := num - den
  if exponent * excess ≤ 709 * den then false
  else if 710 * num ≤ exponent * excess then true
  else overflowLimit * Nat.pow den exponent ≤ Nat.pow num exponent

/-- Whether a finite double has a power that is too large; also zero has one if its exponent is
negative. -/
def outgrows (x : Float) (exponent : Int) : Bool :=
  match parts x with
  | .finite _ m q =>
    let s := scaled m q
    if 0 ≤ exponent then powerOverflows s.1 s.2 exponent.natAbs
    else powerOverflows s.2 s.1 exponent.natAbs
  | _ => false

end Retrieval.Number
