import Retrieval.Calendar.Part
import Retrieval.Text.Case

/-!
Times laid out by a pattern, in which a percent sign with a letter stands for a part of the time.
Between the two may stand flags, a least width and a modifier. What stands for nothing is kept.
-/

namespace Retrieval

/-- What stands between a percent sign and the letter, and the letter. -/
structure Directive where
  /-- How missing places are filled: with zeros, with blanks, or not at all. -/
  filling : Option Char
  isUpper : Bool
  changesCase : Bool
  width : Nat
  modifier : Option Char
  letter : Option Char
  /-- The directive as it is written. -/
  source : List Char

/-- Characters with some filling before them. -/
structure Chunk where
  missing : Nat
  filling : Char
  chars : List Char

namespace Chunk

def size (c : Chunk) : Nat := c.missing + c.chars.length

def made (c : Chunk) : List Char := List.replicate c.missing c.filling ++ c.chars

def ofChar (ch : Char) : Chunk := ⟨0, ' ', [ch]⟩

end Chunk

namespace Directive

def isFlag (c : Char) : Bool := ['_', '-', '0', '^', '#'].contains c

def isModifier (c : Char) : Bool := c == 'E' || c == 'O'

/-- Reads a directive after its percent sign; of two fillings the last counts. -/
def read (cs : List Char) : Directive × List Char :=
  let flags := cs.takeWhile isFlag
  let afterFlags := cs.dropWhile isFlag
  let digits := afterFlags.takeWhile Char.isDigit
  let afterWidth := afterFlags.dropWhile Char.isDigit
  let (modifier, rest) :=
    match afterWidth with
    | c :: rest => if isModifier c then (some c, rest) else (none, afterWidth)
    | [] => (none, [])
  let d : Directive := {
    filling := (flags.filter fun c => c != '^' && c != '#').getLast?
    isUpper := flags.contains '^'
    changesCase := flags.contains '#'
    width := digits.foldl (fun n c => 10 * n + (c.toNat - 48)) 0
    modifier
    letter := rest.head?
    source := '%' :: cs.take (cs.length - (rest.drop 1).length) }
  (d, rest.drop 1)

variable (d : Directive)

/-- What fills a text up to the width. -/
def textFilling : Char := if d.filling = some '0' then '0' else ' '

/-- A text at the width. -/
def place (cs : List Char) : Chunk := ⟨d.width - cs.length, d.textFilling, cs⟩

/-- A text in large letters; a character that has no single large one stays. -/
def inCapitals (cs : List Char) : List Char :=
  cs.map fun c =>
    match Text.upperChar c with
    | [u] => u
    | _ => c

def text (cs : List Char) : Chunk := d.place (if d.isUpper then inCapitals cs else cs)

/-- A number in at least so many digits. Without filling only the width counts. -/
def number (digits : Nat) (isSpaced : Bool) (value : Int) : List Chunk :=
  let ds := Nat.toDigits 10 value.natAbs
  let cs := if value < 0 then '-' :: ds else ds
  match d.filling with
  | some '-' => [⟨d.width - cs.length, ' ', cs⟩]
  | filling =>
    let isZero := filling = some '0' || (filling.isNone && !isSpaced)
    [⟨max digits d.width - cs.length, if isZero then '0' else ' ', cs⟩]

/-- What stands for nothing, as it is written. -/
def kept : Chunk :=
  let isChanged := d.changesCase && d.letter.any Part.alwaysChanged.contains
  if isChanged then d.place (inCapitals d.source) else d.text d.source

/-- The characters of a part that is no layout. -/
def chunks (p : Part) : List Chunk :=
  match p with
  | .number digits isSpaced value => d.number digits isSpaced value
  | .text s => [d.text s.toList]
  | .small s => [d.place s.toList]
  | .zone s => [if d.filling = some '-' then ⟨0, ' ', s.toList⟩ else d.place s.toList]
  | .name s => [d.place (if d.isUpper || d.changesCase then inCapitals s.toList else s.toList)]
  | .half s => [if d.changesCase then d.place (s.toList.map Char.toLower) else d.text s.toList]
  | .signed digits value => d.place ['+'] :: d.number digits false value
  | .layout _ => []

end Directive

namespace DateTime

variable (t : DateTime) (shift : Shift)

/-- The chunks of a pattern whose layouts, if `depth` is above zero, are laid out in turn; `bound`
is more than the length of the pattern. -/
def chunksOf : (depth bound : Nat) → List Char → List Chunk
  | _, _, [] => []
  | _, 0, _ => []
  | depth, bound + 1, '%' :: cs =>
    let (d, rest) := Directive.read cs
    let part := (d.letter.filter (Part.admits d.modifier)).bind (t.partOf? shift)
    let here :=
      match part, depth with
      | none, _ => [d.kept]
      | some (.layout pattern), depth + 1 =>
        let inside := chunksOf depth (pattern.length + 1) pattern.toList
        [d.text (inside.flatMap Chunk.made)]
      | some p, _ => d.chunks p
    here ++ chunksOf depth bound rest
  | depth, bound + 1, c :: cs => .ofChar c :: chunksOf depth bound cs

/-- The parts that are set in before all others: the distance and the name of the zone, and the
fraction of the second, if their letter follows the percent sign at once. A pattern ends at the
first zero character. -/
def withZone : List Char → List Char
  | [] => []
  | '%' :: c :: cs =>
    if c = '\x00' then ['%']
    else if c = 'z' then (offsetText "" (t.offset.getD 0)).toList ++ withZone cs
    else if c = 'Z' then shift.name.toList ++ withZone cs
    else if c = 'f' then (padded 6 t.microsecond).toList ++ withZone cs
    else '%' :: c :: withZone cs
  | c :: cs => if c = '\x00' then [] else c :: withZone cs

/-- The room for a pattern of some length: from 1024 on doubled until there are 256 places for each
character. -/
def room (length : Nat) : (doublings : Nat) → Nat
  | 0 => 1024
  | n + 1 =>
    let smaller := room length n
    if 256 * length ≤ smaller then smaller else 2 * smaller

/-- A time laid out by a pattern. What exceeds the room for the pattern leaves nothing. -/
def layout (pattern : String) : String :=
  let cs := t.withZone shift pattern.toList
  let chunks := t.chunksOf shift 1 (cs.length + 1) cs
  let size := (chunks.map Chunk.size).foldl (· + ·) 0
  if room cs.length cs.length ≤ size then "" else String.ofList (chunks.flatMap Chunk.made)

end DateTime

end Retrieval
