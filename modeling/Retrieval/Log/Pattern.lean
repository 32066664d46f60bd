import Retrieval.Log.Conversion
import Retrieval.Text.Digit
import Retrieval.Text.Word

/-!
Patterns: texts with conversions, which are filled in with values in order or by name.
-/

namespace Retrieval.Log

/-- Why a pattern cannot be filled in. -/
inductive PatternError
  | unknownKind (kind : Char) (position : Nat)
  | incomplete
  | incompleteName
  | widthTooLarge
  | precisionTooLarge
  | notANumber
  | missingName (name : String)
  /-- The values do not fit the conversions. -/
  | mismatch
  deriving DecidableEq, Repr

/-- A character as messages on patterns show it. -/
def shownKind (c : Char) : Char := if 31 ≤ c.toNat && c.toNat ≤ 126 then c else '?'

/-- The message of an error that has one. -/
def PatternError.message? : PatternError → Option String
  | .unknownKind kind position =>
    some <| "unsupported format character '" ++ String.ofList [shownKind kind] ++ "' (0x" ++
      String.ofList (Nat.toDigits 16 kind.toNat) ++ s!") at index {position}"
  | .incomplete => some "incomplete format"
  | .incompleteName => some "incomplete format key"
  | .widthTooLarge => some "width too big"
  | .precisionTooLarge => some "precision too big"
  | .notANumber => some "cannot convert float NaN to integer"
  | .missingName _ => none
  | .mismatch => none

/-- The values that a pattern is filled in with: those that may be named, if any, and those that
wait for a conversion without a name. -/
structure Supply where
  names : Option (Entries Value)
  waiting : List Value

namespace Supply

/-- Values to be taken in order. A single mapping is also a source of named values. -/
def ofArguments (args : List Value) : Supply :=
  match args with
  | [.map (e :: es)] => ⟨some (e :: es), args⟩
  | _ => ⟨none, args⟩

/-- Values to be taken by name; the whole mapping can be taken once. -/
def ofNames (es : Entries Value) : Supply := ⟨some es, [.map es]⟩

def take (s : Supply) : Except PatternError (Value × Supply) :=
  match s.waiting with
  | v :: rest => .ok (v, { s with waiting := rest })
  | [] => .error .mismatch

/-- Whether all values have been taken. Those with names need not be. -/
def isSpent (s : Supply) : Bool := s.names.isSome || s.waiting.isEmpty

end Supply

/-- The name up to the bracket that closes it, and what follows; `depth` counts the brackets inside
the name that are open. -/
def takeName? : (depth : Nat) → List Char → Option (List Char × List Char)
  | _, [] => none
  | depth, c :: cs =>
    if c = ')' then
      match depth with
      | 0 => some ([], cs)
      | depth + 1 => (takeName? depth cs).map fun (name, rest) => (c :: name, rest)
    else
      let depth := if c = '(' then depth + 1 else depth
      (takeName? depth cs).map fun (name, rest) => (c :: name, rest)

/-- Reads the name in brackets that a conversion may begin with. Its value is the only one that
waits afterwards. -/
def readName (cs : List Char) (s : Supply) : Except PatternError (List Char × Supply) :=
  match cs with
  | '(' :: cs =>
    match s.names, takeName? 0 cs with
    | none, _ => .error .mismatch
    | some _, none => .error .incompleteName
    | some es, some (name, rest) =>
      match Entries.get? (String.ofList name) es with
      | some v => .ok (rest, { s with waiting := [v] })
      | none => .error (.missingName (String.ofList name))
  | cs => .ok (cs, s)

/-- A size and what follows it. -/
structure Sized where
  size : Option Int
  rest : List Char
  supply : Supply

/-- Reads a width or a precision: digits, or a star that takes an integer. -/
def readSize (most : Nat) (tooLarge : PatternError) (cs : List Char) (s : Supply) :
    Except PatternError Sized :=
  match cs with
  | '*' :: rest => do
    let (v, s) ← s.take
    match Conversion.exactInteger? v with
    | some n => if n.natAbs ≤ most then return ⟨some n, rest, s⟩ else throw .mismatch
    | none => throw .mismatch
  | cs =>
    let ds := cs.takeWhile Char.isDigit
    let n := ds.foldl (fun n c => 10 * n + (c.toNat - 48)) 0
    if ds.isEmpty then .ok ⟨none, cs, s⟩
    else if most < n then .error tooLarge
    else .ok ⟨some n, cs.dropWhile Char.isDigit, s⟩

def mostWidth : Nat := Number.twoTo 63 - 1

def mostPrecision : Nat := Number.twoTo 31 - 1

/-- Reads a precision after its point; one below zero counts as zero. -/
def readPrecision (cs : List Char) (s : Supply) :
    Except PatternError (Option Nat × List Char × Supply) :=
  match cs with
  | '.' :: cs => do
    let p ← readSize mostPrecision .precisionTooLarge cs s
    return (some (p.size.getD 0).toNat, p.rest, p.supply)
  | cs => .ok (none, cs, s)

/-- What follows a letter for the size of a number, which says nothing here. -/
def afterSizeLetter : List Char → List Char
  | c :: cs => if ['h', 'l', 'L'].contains c then cs else c :: cs
  | [] => []

/-- Fills in the conversion after a percent sign. A width below zero asks for the left side. -/
def fillConversion (total : Nat) (cs : List Char) (s : Supply) :
    Except PatternError (List Char × List Char × Supply) := do
  let (cs, s) ← readName cs s
  let flags := cs.takeWhile isFlag
  let w ← readSize mostWidth .widthTooLarge (cs.dropWhile isFlag) s
  let width := w.size.getD 0
  let (precision, cs, s) ← readPrecision w.rest w.supply
  match afterSizeLetter cs with
  | [] => throw .incomplete
  | kind :: rest => do
    let (v, s) ← s.take
    let flags := if width < 0 then '-' :: flags else flags
    match (Conversion.mk flags width.natAbs precision kind).apply v with
    | .ok made => return (made, rest, s)
    | .error .unknownKind => throw (.unknownKind kind (total - rest.length - 1))
    | .error .notANumber => throw .notANumber
    | .error .mismatch => throw .mismatch

/-- Fills in a pattern of `total` characters; `bound` is more than the number of those left. -/
def fillWithin (total : Nat) : (bound : Nat) → List Char → Supply →
    Except PatternError (List Char × Supply)
  | _, [], s => .ok ([], s)
  | 0, _, _ => .error .incomplete
  | bound + 1, '%' :: '%' :: cs, s => do
    let (filled, s) ← fillWithin total bound cs s
    return ('%' :: filled, s)
  | bound + 1, '%' :: cs, s => do
    let (made, rest, s) ← fillConversion total cs s
    let (filled, s) ← fillWithin total bound rest s
    return (made ++ filled, s)
  | bound + 1, c :: cs, s => do
    let (filled, s) ← fillWithin total bound cs s
    return (c :: filled, s)

/-- A pattern filled in with values, all of which must be taken. -/
def fill (pattern : String) (s : Supply) : Except PatternError String := do
  let total := pattern.length
  let (filled, s) ← fillWithin total (total + 1) pattern.toList s
  if s.isSpent then return String.ofList filled else throw .mismatch

/-- A message with its values; without values the message stands for itself. -/
def filled (message : String) (args : List Value) : Except PatternError String :=
  if args.isEmpty then .ok message else fill message (.ofArguments args)

/-- The letters that may end a named conversion in the pattern of a line. Case does not matter, and
three letters differ from one of these by case alone in some script. -/
def fieldKinds : List Char :=
  "diouxefgcrsaDIOUXEFGCRSA%".toList ++ ['\u0130', '\u0131', '\u017f']

/-- What follows a star or digits of any script. -/
def afterSize : List Char → List Char
  | '*' :: cs => cs
  | cs => cs.dropWhile fun c => (Text.decimalValue? c).isSome

/-- Whether a text begins with a named conversion of the form that patterns of lines must have. -/
def beginsWithField : List Char → Bool
  | '%' :: '(' :: cs =>
    let name := cs.takeWhile Text.isWordChar
    match cs.dropWhile Text.isWordChar with
    | ')' :: cs =>
      let cs := afterSize (cs.dropWhile isFlag)
      let cs :=
        match cs with
        | '.' :: ds => if afterSize ds = ds then cs else afterSize ds
        | cs => cs
      !name.isEmpty && cs.head?.any fieldKinds.contains
    | _ => false
  | _ => false

/-- Whether a text has such a conversion anywhere. -/
def hasField : List Char → Bool
  | [] => false
  | c :: cs => beginsWithField (c :: cs) || hasField cs

end Retrieval.Log
