import Retrieval.Number.Numeral

/-!
Numerals in checked data. They are those of the data format, written a little more freely: blanks
may stand around them, leading zeros and a fraction of zeros are no harm, and underscores may be put
between characters, but neither at the ends nor side by side.
-/

namespace Retrieval.Schema.Numeral

open Retrieval.Number

/-- Whether two underscores stand side by side. -/
def hasDouble : List Char → Bool
  | '_' :: '_' :: _ => true
  | _ :: cs => hasDouble cs
  | [] => false

/-- The characters without the underscores between them; nothing if there are none, or if one stands
where it may not. -/
def joined? (cs : List Char) : Option (List Char) :=
  if cs.head? = some '_' || cs.getLast? = some '_' || hasDouble cs || !cs.contains '_' then none
  else some (cs.filter (· != '_'))

/-- The value of ASCII digits. -/
def digitsValue (cs : List Char) : Nat := cs.foldl (fun n c => 10 * n + (c.toNat - 48)) 0

/-- The leading ASCII digits, and the rest. -/
def takeDigits (cs : List Char) : List Char × List Char :=
  (cs.takeWhile Char.isDigit, cs.dropWhile Char.isDigit)

/-- The exponent at the end of a numeral; it may be missing. -/
def exponent? : List Char → Option Int
  | [] => some 0
  | c :: cs =>
    let (negative, ds) := takeSign cs
    if (c = 'e' || c = 'E') && !ds.isEmpty && ds.all Char.isDigit then
      some (if negative then -(digitsValue ds : Int) else digitsValue ds)
    else none

/-- A number after its sign: `inf`, `infinity`, `nan`, or digits with a point and an exponent. -/
def magnitude? (negative : Bool) (cs : List Char) : Option Float :=
  match wordValue? negative cs with
  | some x => some x
  | none =>
    let (whole, rest) := takeDigits cs
    let (fraction, rest) :=
      match rest with
      | '.' :: ds => takeDigits ds
      | _ => ([], rest)
    if whole.isEmpty && fraction.isEmpty then none
    else (exponent? rest).map fun e =>
      ofDecimal negative (digitsValue (whole ++ fraction)) (e - fraction.length)

/-- A number without blanks and underscores. -/
def plainReal? (cs : List Char) : Option Float :=
  let (negative, rest) := takeSign cs
  magnitude? negative rest

/-- The double that a text denotes. Blanks and underscores do not go together. -/
def real? (s : String) : Option Float :=
  (plainReal? (trimNumeral s.toList)).or ((joined? s.toList).bind plainReal?)

/-- Passes over zeros and underscores after a zero, `last` being the character before. A point keeps
that character before it, and of nothing but zeros the last one stays. -/
def afterZeros? : (last : Char) → List Char → Option (List Char)
  | last, [] => some [last]
  | last, c :: cs =>
    if c = '0' || c = '_' then afterZeros? c cs
    else if c.isDigit || c = '-' then some (c :: cs)
    else if c = '.' then some (last :: c :: cs)
    else none

/-- A numeral without leading zeros; a sign may follow them. -/
def withoutZeros? : List Char → Option (List Char)
  | [] => none
  | c :: cs =>
    if c = '0' then afterZeros? c cs
    else if c.isDigit || c = '-' then some (c :: cs)
    else none

/-- A numeral without its plus sign, which may not stand before another sign. -/
def withoutPlus? : List Char → Option (List Char)
  | '+' :: '-' :: _ => none
  | '+' :: cs => some cs
  | cs => some cs

/-- A numeral without a fraction of one or more zeros. -/
def withoutFraction (cs : List Char) : List Char :=
  match cs.dropWhile (· != '.') with
  | _ :: '0' :: zeros => if zeros.all (· == '0') then cs.takeWhile (· != '.') else cs
  | _ => cs

/-- The digits of an integer with what may surround them removed. -/
def cleaned? (cs : List Char) : Option (List Char) := do
  let cs ← withoutPlus? (trimNumeral cs)
  let cs := withoutFraction (← withoutZeros? cs)
  return (joined? cs).getD cs

/-- What keeps a text from being an integer. -/
inductive IntegerFault
  | malformed
  | tooLong
  deriving DecidableEq, Repr

/-- Digits of the data format: one zero, or digits that do not begin with one. -/
def wholeNumber (cs : List Char) : Except IntegerFault Nat :=
  let (ds, rest) := takeDigits cs
  if ds.isEmpty || (ds.head? = some '0' && ds.length ≠ 1) then .error .malformed
  else if maxDigits < ds.length then .error .tooLong
  else if rest.isEmpty then .ok (digitsValue ds)
  else .error .malformed

/-- The integer that a text denotes. -/
def integer (s : String) : Except IntegerFault Int :=
  match cleaned? s.toList with
  | none => .error .malformed
  | some ('-' :: cs) => (wholeNumber cs).map fun n => -(n : Int)
  | some cs => (wholeNumber cs).map fun n => (n : Int)

end Retrieval.Schema.Numeral
