import Retrieval.Number.Notation
import Retrieval.Text.CharRanges
import Retrieval.Text.Digit
import Retrieval.Text.Quoted

/-!
Numerals in text. Digits of all scripts count, single underscores may stand between digits, and
blanks may stand around the numeral.
-/

namespace Retrieval.Number

open Retrieval.Text

/-- What is wrong with a numeral. -/
inductive NumeralError
  | notInteger (text : String)
  | notReal (text : String)
  | tooManyDigits (count : Nat)
  deriving DecidableEq, Repr

/-- How many characters of the quoted text a message about an integer shows. -/
def shownLength : Nat := 200

def NumeralError.message : NumeralError → String
  | .notInteger s =>
    "invalid literal for int() with base 10: " ++
      String.ofList ((quotedChars s.toList).take shownLength)
  | .notReal s => "could not convert string to float: " ++ quoted s
  | .tooManyDigits n =>
    "Exceeds the limit (4300 digits) for integer string conversion: value has " ++ toString n ++
      " digits; use sys.set_int_max_str_digits() to increase the limit"

/-- The blanks that may stand around a numeral; the information separators may not. -/
def isNumeralBlank (c : Char) : Bool := isBlank c && !(0x1c ≤ c.toNat && c.toNat ≤ 0x1f)

def trimNumeral (cs : List Char) : List Char :=
  ((cs.dropWhile isNumeralBlank).reverse.dropWhile isNumeralBlank).reverse

/-- A sign, which may be missing, and the rest; true is minus. -/
def takeSign : List Char → Bool × List Char
  | '-' :: cs => (true, cs)
  | '+' :: cs => (false, cs)
  | cs => (false, cs)

/-- Reads digits with single underscores between them, as the value, the number of digits and the
rest. `last` tells whether the character before was a digit. -/
def takeDigits : (last : Bool) → (value count : Nat) → List Char → Nat × Nat × List Char
  | _, v, n, [] => (v, n, [])
  | last, v, n, c :: cs =>
    match decimalValue? c with
    | some d => takeDigits true (10 * v + d) (n + 1) cs
    | none =>
      if c = '_' && last && (cs.head?.bind decimalValue?).isSome then takeDigits false v n cs
      else (v, n, c :: cs)

/-- The integer that a text denotes. Digits are counted before what follows them is looked at, an
underscore out of place excepted. -/
def readInt (s : String) : Except NumeralError Int :=
  let (negative, cs) := takeSign (trimNumeral s.toList)
  let (v, n, rest) := takeDigits false 0 0 cs
  if n = 0 || rest.head? = some '_' then .error (.notInteger s)
  else if maxDigits < n then .error (.tooManyDigits n)
  else if rest.isEmpty then .ok (if negative then -(v : Int) else v)
  else .error (.notInteger s)

/-- The exponent part of a numeral, to the end of the text; it may be missing. -/
def readExponent? : List Char → Option Int
  | [] => some 0
  | c :: cs =>
    if c = 'e' || c = 'E' then
      let (negative, ds) := takeSign cs
      match takeDigits false 0 0 ds with
      | (v, n, []) => if n = 0 then none else some (if negative then -(v : Int) else v)
      | _ => none
    else none

/-- Small ASCII letters for capital ones. -/
def lowerAscii (cs : List Char) : List Char := cs.map Char.toLower

/-- The numbers that are written as words, in letters of any case. -/
def wordValue? (negative : Bool) (cs : List Char) : Option Float :=
  let word := String.ofList (lowerAscii cs)
  if word == "inf" || word == "infinity" then
    some (if negative then negativeInfinity else infinity)
  else if word == "nan" then some notANumber
  else none

/-- A number without its sign: `inf`, `infinity`, `nan`, or digits with a point and an exponent. -/
def readUnsigned? (negative : Bool) (cs : List Char) : Option Float :=
  match wordValue? negative cs with
  | some x => some x
  | none =>
    let (whole, n, rest) := takeDigits false 0 0 cs
    let (all, m, rest) :=
      match rest with
      | '.' :: ds => takeDigits false whole 0 ds
      | _ => (whole, 0, rest)
    if n + m = 0 then none
    else (readExponent? rest).map fun e => ofDecimal negative all (e - m)

/-- The double that a text denotes. -/
def readReal (s : String) : Except NumeralError Float :=
  let (negative, cs) := takeSign (trimNumeral s.toList)
  match readUnsigned? negative cs with
  | some x => .ok x
  | none => .error (.notReal s)

end Retrieval.Number
