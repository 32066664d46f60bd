import Retrieval.Number.Rounded
import Retrieval.Value.Display

/-!
Conversions such as `%s`, `%5d` or `%#.3g`: how a value is written under one. A conversion has
flags, a least width, a precision and a letter for its kind.
-/

namespace Retrieval.Log

structure Conversion where
  flags : List Char
  width : Nat
  precision : Option Nat
  kind : Char
  deriving DecidableEq, Repr

def isFlag (c : Char) : Bool := ['#', '0', '-', ' ', '+'].contains c

/-- Why a value cannot be written under a conversion. -/
inductive ConversionError
  /-- There is no such kind of conversion. -/
  | unknownKind
  /-- What is no number was to become an integer. -/
  | notANumber
  /-- The value does not fit the conversion. -/
  | mismatch
  deriving DecidableEq, Repr

namespace Conversion

variable (c : Conversion)

/-- The longest text that is filled up to. -/
def reach : Nat := Number.tenTo 8

/-- A number or a text brought to the width: to the left, or to the right with blanks before it. In
place of the blanks a number can have zeros, which follow its sign and mark. -/
def place (isNumber : Bool) (start body : List Char) : List Char :=
  let missing := c.width - (start.length + body.length)
  if c.flags.contains '-' then start ++ body ++ List.replicate missing ' '
  else if isNumber && c.flags.contains '0' then start ++ List.replicate missing '0' ++ body
  else List.replicate missing ' ' ++ start ++ body

/-- The sign of a number; one that has none can be given a plus or a blank. -/
def sign (isNegative : Bool) : List Char :=
  if isNegative then ['-']
  else if c.flags.contains '+' then ['+']
  else if c.flags.contains ' ' then [' ']
  else []

/-- A text, cut to the precision. -/
def text (cs : List Char) : List Char :=
  c.place false [] (match c.precision with
    | some n => cs.take n
    | none => cs)

/-- An integer to some base, with a mark of the base if asked for, in as many digits as the
precision wants. -/
def integer (base : Nat) (mark : List Char) (n : Int) : List Char :=
  let ds := Nat.toDigits base n.natAbs
  let zeros := List.replicate (c.precision.getD 0 - ds.length) '0'
  let mark := if c.flags.contains '#' then mark else []
  c.place true (c.sign (n < 0) ++ mark) (zeros ++ ds)

/-- The characters of a written number with its sign set apart. -/
def number (cs : List Char) : List Char :=
  match cs with
  | '-' :: cs => c.place true (c.sign true) cs
  | cs => c.place true (c.sign false) cs

/-- The places or digits of a float for which no precision is given. -/
def usualPrecision : Nat := 6

/-- A float under a conversion of the kinds `e`, `f` and `g`. -/
def float (kind : Char) (x : Float) : List Char :=
  let isFull := c.flags.contains '#'
  let n := c.precision.getD usualPrecision
  c.number (
    if kind = 'e' then Number.written (Number.scientificChars isFull n) x
    else if kind = 'f' then Number.written (Number.fixedChars isFull n) x
    else if isFull then Number.written (Number.fullChars (max 1 n)) x
    else Number.general (max 1 n) x)

/-- An integer or a truth value as an integer. -/
def exactInteger? : Value → Option Int
  | .int n => some n
  | .bool b => some (if b then 1 else 0)
  | _ => none

/-- The integer that a value converts to; a fraction is cut off. -/
def wholeOf : Value → Except ConversionError Int
  | .float x =>
    if x.isNaN then .error .notANumber
    else
      match Number.toInt? (if x < 0.0 then x.ceil else x.floor) with
      | some n => .ok n
      | none => .error .mismatch
  | v =>
    match exactInteger? v with
    | some n => .ok n
    | none => .error .mismatch

/-- The double that a value converts to. -/
def doubleOf? : Value → Option Float
  | .float x => some x
  | v => (exactInteger? v).bind Number.ofInt?

/-- The character that a value is or has the number of. -/
def charOf? : Value → Option Char
  | .text s =>
    match s.toList with
    | [c] => some c
    | _ => none
  | v =>
    match exactInteger? v with
    | some n => if 0 ≤ n && n ≤ 0x10ffff then some (Text.charOfCode n.toNat) else none
    | none => none

def fit {α : Type} (v : Option α) (write : α → List Char) : Except ConversionError (List Char) :=
  match v with
  | some a => .ok (write a)
  | none => .error .mismatch

/-- The kinds of conversion, by what they make of a value. -/
def textKinds : List Char := ['s', 'r', 'a']

def numberKinds : List Char :=
  ['d', 'i', 'u', 'o', 'x', 'X', 'e', 'E', 'f', 'F', 'g', 'G', 'c']

/-- Whether a conversion asks for a text of a size that is not made. -/
def isTooLarge : Bool :=
  reach < c.width || (numberKinds.contains c.kind && c.precision.any fun n => reach < n)

/-- A value under a conversion to a text. -/
def ofText (v : Value) : List Char :=
  match c.kind with
  | 's' => c.text v.display.toList
  | 'r' => c.text v.inner.toList
  | _ => c.text (Text.asciiOnly v.inner.toList)

/-- A value under a conversion to a number or a character. Large letters stand for the same as small
ones, but write in large letters. -/
def ofNumber (v : Value) : Except ConversionError (List Char) :=
  match c.kind with
  | 'o' => fit (exactInteger? v) (c.integer 8 ['0', 'o'])
  | 'x' => fit (exactInteger? v) (c.integer 16 ['0', 'x'])
  | 'X' => (fit (exactInteger? v) (c.integer 16 ['0', 'x'])).map (·.map Char.toUpper)
  | 'e' => fit (doubleOf? v) (c.float 'e')
  | 'f' => fit (doubleOf? v) (c.float 'f')
  | 'g' => fit (doubleOf? v) (c.float 'g')
  | 'E' => (fit (doubleOf? v) (c.float 'e')).map (·.map Char.toUpper)
  | 'F' => (fit (doubleOf? v) (c.float 'f')).map (·.map Char.toUpper)
  | 'G' => (fit (doubleOf? v) (c.float 'g')).map (·.map Char.toUpper)
  | 'c' => fit (charOf? v) fun ch => c.place false [] [ch]
  | _ => (wholeOf v).map (c.integer 10 [])

/-- A value under a conversion. -/
def apply (v : Value) : Except ConversionError (List Char) :=
  if !textKinds.contains c.kind && !numberKinds.contains c.kind then .error .unknownKind
  else if c.isTooLarge then .error .mismatch
  else if textKinds.contains c.kind then .ok (c.ofText v)
  else c.ofNumber v

end Conversion

end Retrieval.Log
