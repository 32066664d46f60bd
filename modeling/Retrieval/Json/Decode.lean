import Retrieval.Number.Numeral
import Retrieval.Text.Surrogate
import Retrieval.Value.Basic

/-!
Reading JSON. Besides the standard, the words `NaN`, `Infinity` and `-Infinity` are numbers; a key
that is written twice keeps its first place and its last value; an escape for half a pair of units
is kept as it is; integers are bounded in length, and values in depth.
-/

namespace Retrieval.Json

/-- Why a text is not read. -/
inductive DecodeError
  | malformed
  | integerTooLong
  /-- Too many brackets are open. -/
  | tooDeep
  /-- The bytes are no text. -/
  | notText
  deriving DecidableEq, Repr

abbrev Step (α : Type) := Except DecodeError (α × List Char)

def isSpace (c : Char) : Bool := c = ' ' || c = '\t' || c = '\n' || c = '\r'

def skipSpace (cs : List Char) : List Char := cs.dropWhile isSpace

/-- A unit of four digits to the base sixteen, and the rest. -/
def readUnit? : List Char → Option (Nat × List Char)
  | a :: b :: c :: d :: rest => do
    let a ← Text.hexValue? a
    let b ← Text.hexValue? b
    let c ← Text.hexValue? c
    let d ← Text.hexValue? d
    return (((a * 16 + b) * 16 + c) * 16 + d, rest)
  | _ => none

/-- The character of an escape after its `u`: one unit, or the two units of a pair. -/
def readEscaped? (cs : List Char) : Option (Char × List Char) :=
  match readUnit? cs with
  | none => none
  | some (high, rest) =>
    if 0xd800 ≤ high && high < 0xdc00 then
      match rest with
      | '\\' :: 'u' :: more =>
        match readUnit? more with
        | some (low, after) =>
          if 0xdc00 ≤ low && low < 0xe000 then
            some (Char.ofNat (0x10000 + (high - 0xd800) * 0x400 + (low - 0xdc00)), after)
          else some (Text.ofSurrogate high, rest)
        | none => some (Text.ofSurrogate high, rest)
      | _ => some (Text.ofSurrogate high, rest)
    else if 0xdc00 ≤ high && high < 0xe000 then some (Text.ofSurrogate high, rest)
    else some (Char.ofNat high, rest)

def simpleEscape? (c : Char) : Option Char :=
  match c with
  | '"' => some '"'
  | '\\' => some '\\'
  | '/' => some '/'
  | 'b' => some (Char.ofNat 8)
  | 'f' => some (Char.ofNat 12)
  | 'n' => some '\n'
  | 'r' => some '\r'
  | 't' => some '\t'
  | _ => none

/-- The characters of a string after its opening quote, and what follows its closing one. The bound
is the number of characters that may be read. -/
def readString : Nat → List Char → Step (List Char)
  | _, [] => .error .malformed
  | 0, _ => .error .malformed
  | bound + 1, c :: cs =>
    if c = '"' then .ok ([], cs)
    else if c.toNat < 0x20 then .error .malformed
    else if c = '\\' then
      match cs with
      | 'u' :: rest =>
        match readEscaped? rest with
        | some (d, after) => (readString bound after).map fun (ds, r) => (d :: ds, r)
        | none => .error .malformed
      | e :: rest =>
        match simpleEscape? e with
        | some d => (readString bound rest).map fun (ds, r) => (d :: ds, r)
        | none => .error .malformed
      | [] => .error .malformed
    else (readString bound cs).map fun (ds, r) => (c :: ds, r)

def isAsciiDigit (c : Char) : Bool := '0' ≤ c && c ≤ '9'

/-- The value of ASCII digits. -/
def digitsValue (cs : List Char) : Nat := cs.foldl (fun n c => 10 * n + (c.toNat - 48)) 0

/-- The whole part of a number: one zero, or digits that do not start with one. -/
def readWhole? (cs : List Char) : Option (List Char × List Char) :=
  match cs with
  | '0' :: rest => some (['0'], rest)
  | _ =>
    let ds := cs.takeWhile isAsciiDigit
    if ds.isEmpty then none else some (ds, cs.dropWhile isAsciiDigit)

/-- The digits after a point, if there is a point with digits. -/
def readFraction (cs : List Char) : List Char × List Char :=
  match cs with
  | '.' :: rest =>
    let ds := rest.takeWhile isAsciiDigit
    if ds.isEmpty then ([], cs) else (ds, rest.dropWhile isAsciiDigit)
  | _ => ([], cs)

/-- The exponent, if there is one with digits. -/
def readPower (cs : List Char) : Option Int × List Char :=
  match cs with
  | c :: rest =>
    if c = 'e' || c = 'E' then
      let (negative, more) := Number.takeSign rest
      let ds := more.takeWhile isAsciiDigit
      if ds.isEmpty then (none, cs)
      else
        let n : Int := digitsValue ds
        (some (if negative then -n else n), more.dropWhile isAsciiDigit)
    else (none, cs)
  | [] => (none, [])

/-- A number after its sign. One with neither fraction nor exponent is an integer. -/
def readNumber (negative : Bool) (cs : List Char) : Step Value :=
  match readWhole? cs with
  | none => .error .malformed
  | some (whole, rest) =>
    let (fraction, rest) := readFraction rest
    let (power, rest) := readPower rest
    if fraction.isEmpty && power.isNone then
      if Number.maxDigits < whole.length then .error .integerTooLong
      else
        let n : Int := digitsValue whole
        .ok (.int (if negative then -n else n), rest)
    else
      let coefficient := digitsValue (whole ++ fraction)
      let exponent := power.getD 0 - fraction.length
      .ok (.float (Number.ofDecimal negative coefficient exponent), rest)

/-- The rest after a given word. -/
def afterWord? (word : String) (cs : List Char) : Option (List Char) :=
  if word.toList.isPrefixOf cs then some (cs.drop word.length) else none

/-- A value that starts with none of the opening marks: a word or a number. -/
def readScalar (cs : List Char) : Step Value :=
  match afterWord? "null" cs, afterWord? "true" cs, afterWord? "false" cs, afterWord? "NaN" cs,
      afterWord? "Infinity" cs, afterWord? "-Infinity" cs with
  | some rest, _, _, _, _, _ => .ok (.null, rest)
  | _, some rest, _, _, _, _ => .ok (.bool true, rest)
  | _, _, some rest, _, _, _ => .ok (.bool false, rest)
  | _, _, _, some rest, _, _ => .ok (.float Number.notANumber, rest)
  | _, _, _, _, some rest, _ => .ok (.float Number.infinity, rest)
  | _, _, _, _, _, some rest => .ok (.float Number.negativeInfinity, rest)
  | _, _, _, _, _, _ =>
    match cs with
    | '-' :: rest => readNumber true rest
    | _ => readNumber false cs

mutual

/-- A value, and what follows it. The first bound is on the depth plus the length of what is read,
for which the length of the text is enough; the second is on how many brackets may be open. -/
def readValue : Nat → Nat → List Char → Step Value
  | 0, _, _ => .error .malformed
  | bound + 1, depth, cs =>
    match cs, depth with
    | '"' :: rest, _ => (readString (rest.length + 1) rest).map fun (s, r) => (.text (.ofList s), r)
    | '[' :: _, 0 => .error .tooDeep
    | '[' :: rest, depth + 1 =>
      match skipSpace rest with
      | ']' :: after => .ok (.list [], after)
      | inside => (readItems bound depth inside).map fun (items, r) => (.list items, r)
    | '\x7b' :: _, 0 => .error .tooDeep
    | '\x7b' :: rest, depth + 1 =>
      match skipSpace rest with
      | '\x7d' :: after => .ok (.map [], after)
      | inside => (readMembers bound depth [] inside).map fun (es, r) => (.map es, r)
    | _, _ => readScalar cs

/-- The items of a list up to its closing bracket. -/
def readItems : Nat → Nat → List Char → Step (List Value)
  | 0, _, _ => .error .malformed
  | bound + 1, depth, cs =>
    match readValue bound depth cs with
    | .error e => .error e
    | .ok (v, rest) =>
      match skipSpace rest with
      | ']' :: after => .ok ([v], after)
      | ',' :: more => (readItems bound depth (skipSpace more)).map fun (vs, r) => (v :: vs, r)
      | _ => .error .malformed

/-- The members of an object up to its closing brace, added to those read before. -/
def readMembers : Nat → Nat → Entries Value → List Char → Step (Entries Value)
  | 0, _, _, _ => .error .malformed
  | bound + 1, depth, done, cs =>
    match cs with
    | '"' :: rest =>
      match readString (rest.length + 1) rest with
      | .error e => .error e
      | .ok (key, afterKey) =>
        match skipSpace afterKey with
        | ':' :: more =>
          match readValue bound depth (skipSpace more) with
          | .error e => .error e
          | .ok (v, rest) =>
            let done := done.set (.ofList key) v
            match skipSpace rest with
            | '\x7d' :: after => .ok (done, after)
            | ',' :: more => readMembers bound depth done (skipSpace more)
            | _ => .error .malformed
        | _ => .error .malformed
    | _ => .error .malformed

end

/-- How many brackets may be open at once. -/
def maxDepth : Nat := 950

/-- The value that characters denote. -/
def decodeChars (cs : List Char) : Except DecodeError Value :=
  match readValue (cs.length + 1) maxDepth (skipSpace cs) with
  | .error e => .error e
  | .ok (v, rest) => if (skipSpace rest).isEmpty then .ok v else .error .malformed

/-- The value that a text denotes. -/
def decode (s : String) : Except DecodeError Value := decodeChars s.toList

end Retrieval.Json
