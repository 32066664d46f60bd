import Retrieval.Calendar.Zone

/-!
The parts of a time that letters of a layout stand for: numbers, words, and layouts of several
parts.
-/

namespace Retrieval

/-- What a letter of a layout stands for. -/
inductive Part
  /-- A number in at least so many digits, filled up with zeros or, if `isSpaced`, with blanks. -/
  | number (digits : Nat) (isSpaced : Bool) (value : Int)
  | text (s : String)
  /-- A word that stays in small letters. -/
  | small (s : String)
  /-- The name of a zone, which is not brought to a width if there is to be no filling. -/
  | zone (s : String)
  /-- A word that a change of case writes in large letters. -/
  | name (s : String)
  /-- The half of the day, which a change of case writes in small letters. -/
  | half (s : String)
  /-- A number after a sign of its own. -/
  | signed (digits : Nat) (value : Nat)
  /-- A layout of other parts. -/
  | layout (pattern : String)
  deriving DecidableEq, Repr

namespace DateTime

def dayNames : List String :=
  ["Sunday", "Monday", "Tuesday", "Wednesday", "Thursday", "Friday", "Saturday"]

def monthNames : List String :=
  ["January", "February", "March", "April", "May", "June", "July", "August", "September",
    "October", "November", "December"]

/-- A name by its number. -/
def nameOf (names : List String) (n : Nat) : String := (names[n]?).getD ""

/-- The first letters of a name. -/
def shortName (name : String) : String := String.ofList (name.toList.take 3)

variable (t : DateTime)

def dayName : String := nameOf dayNames t.date.weekday

def monthName : String := nameOf monthNames (t.date.month - 1)

/-- The hour on a clock of twelve. -/
def clockHour : Nat := if t.hour % 12 = 0 then 12 else t.hour % 12

def halfName : String := if t.hour < 12 then "AM" else "PM"

/-- The number of the week in the year, weeks beginning on a day of the week. -/
def weekNumber (firstDay : Nat) : Nat :=
  (t.date.dayOfYear - 1 + 7 - (t.date.weekday + 7 - firstDay) % 7) / 7

/-- The day of the week, Monday being one and Sunday seven. -/
def dayNumber : Nat := if t.date.weekday = 0 then 7 else t.date.weekday

/-- The Thursday of the week. A week belongs to the year of its Thursday. -/
def thursday : Date := .ofEpoch (t.date.sinceEpoch - t.dayNumber + 4)

def weekYear : Nat := t.thursday.year

/-- The number of the week in the year that it belongs to. -/
def weekOfYear : Nat := (t.thursday.dayOfYear - 1) / 7 + 1

/-- The seconds from the start of 1970 that a clock with universal time shows the time after. While
clocks are put forward, it is taken to be an hour fast. -/
def clockSeconds (shift : Shift) : Int :=
  t.date.sinceEpoch * 86400 + (t.hour * 3600 + t.minute * 60 + t.second : Nat)
    - if shift.isSummer then 3600 else 0

/-- The name and the distance of the zone that a layout is written in. -/
def writingZone : String := "UTC"

/-- The part that a letter stands for. -/
def partOf? (shift : Shift) (letter : Char) : Option Part :=
  let number (digits value : Nat) : Option Part := some (.number digits false value)
  let spaced (value : Nat) : Option Part := some (.number 2 true value)
  match letter with
  | 'Y' => number 1 t.date.year
  | 'C' => number 1 (t.date.year / 100)
  | 'y' => number 2 (t.date.year % 100)
  | 'G' => number 1 t.weekYear
  | 'g' => number 2 (t.weekYear % 100)
  | 'm' => number 2 t.date.month
  | 'd' => number 2 t.date.day
  | 'e' => spaced t.date.day
  | 'j' => number 3 t.date.dayOfYear
  | 'H' => number 2 t.hour
  | 'I' => number 2 t.clockHour
  | 'k' => spaced t.hour
  | 'l' => spaced t.clockHour
  | 'M' => number 2 t.minute
  | 'S' => number 2 t.second
  | 'U' => number 2 (t.weekNumber 0)
  | 'W' => number 2 (t.weekNumber 1)
  | 'V' => number 2 t.weekOfYear
  | 'w' => number 1 t.date.weekday
  | 'u' => number 1 t.dayNumber
  | 's' => some (.number 1 true (t.clockSeconds shift))
  | 'a' => some (.name (shortName t.dayName))
  | 'A' => some (.name t.dayName)
  | 'b' => some (.name (shortName t.monthName))
  | 'h' => some (.name (shortName t.monthName))
  | 'B' => some (.name t.monthName)
  | 'p' => some (.half t.halfName)
  | 'P' => some (.small t.halfName.toLower)
  | 'Z' => some (.zone writingZone)
  | 'z' => some (.signed 4 0)
  | 'n' => some (.text "\n")
  | 't' => some (.text "\t")
  | '%' => some (.text "%")
  | 'c' => some (.layout "%a %b %e %H:%M:%S %Y")
  | 'D' => some (.layout "%m/%d/%y")
  | 'x' => some (.layout "%m/%d/%y")
  | 'F' => some (.layout "%Y-%m-%d")
  | 'R' => some (.layout "%H:%M")
  | 'T' => some (.layout "%H:%M:%S")
  | 'X' => some (.layout "%H:%M:%S")
  | 'r' => some (.layout "%I:%M:%S %p")
  | _ => none

end DateTime

/-- The letters that may not stand after the one and after the other of two modifiers. -/
def Part.withoutEra : List Char := "aAbhBdeFDHIkljmMSUVWwGg".toList

def Part.withoutOther : List Char := "aAFDcxXY".toList

/-- The letters that write in large letters after a change of case even where they may not stand. -/
def Part.alwaysChanged : List Char := ['b', 'h', 'B']

/-- Whether a letter may stand after a modifier. -/
def Part.admits (modifier : Option Char) (letter : Char) : Bool :=
  match modifier with
  | some 'E' => !withoutEra.contains letter
  | some 'O' => !withoutOther.contains letter
  | _ => true

end Retrieval
