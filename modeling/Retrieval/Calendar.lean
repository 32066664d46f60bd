/-!
Dates and times of day and their written form: year, month and day, then `T` and the time, then a
fraction if there is one, then the distance from universal time if it is known.
-/

namespace Retrieval

/-- A natural in at least `width` decimal digits. -/
def padded (width n : Nat) : String :=
  let ds := Nat.toDigits 10 n
  String.ofList (List.replicate (width - ds.length) '0' ++ ds)

structure Date where
  year : Nat
  month : Nat
  day : Nat
  deriving DecidableEq, Repr

structure DateTime where
  date : Date
  hour : Nat
  minute : Nat
  second : Nat
  microsecond : Nat
  /-- Seconds ahead of universal time, if known. -/
  offset : Option Int
  deriving DecidableEq, Repr

namespace Date

def iso (d : Date) : String := padded 4 d.year ++ "-" ++ padded 2 d.month ++ "-" ++ padded 2 d.day

/-- The date a number of days after the first of March of the year zero. The civil year is counted
from March, so that the leap day is its last; eras have 400 years. -/
def ofMarchDays (days : Nat) : Date :=
  let era := days / 146097
  let dayOfEra := days % 146097
  let yearOfEra := (dayOfEra - dayOfEra / 1460 + dayOfEra / 36524 - dayOfEra / 146096) / 365
  let dayOfYear := dayOfEra - (365 * yearOfEra + yearOfEra / 4 - yearOfEra / 100)
  let shifted := (5 * dayOfYear + 2) / 153
  let day := dayOfYear - (153 * shifted + 2) / 5 + 1
  let month := if shifted < 10 then shifted + 3 else shifted - 9
  ⟨era * 400 + yearOfEra + (if month ≤ 2 then 1 else 0), month, day⟩

/-- Days from the first of March of the year zero. -/
def toMarchDays (d : Date) : Nat :=
  let year := if d.month ≤ 2 then d.year - 1 else d.year
  let era := year / 400
  let yearOfEra := year % 400
  let shifted := if d.month ≤ 2 then d.month + 9 else d.month - 3
  let dayOfYear := (153 * shifted + 2) / 5 + d.day - 1
  era * 146097 + (yearOfEra * 365 + yearOfEra / 4 - yearOfEra / 100 + dayOfYear)

/-- The first of January 1970, in days from the first of March of the year zero. -/
def epochDays : Nat := 719468

/-- Days since the first of January 1970. -/
def sinceEpoch (d : Date) : Int := (d.toMarchDays : Int) - epochDays

/-- The date so many days after the first of January 1970. -/
def ofEpoch (days : Int) : Date := ofMarchDays (days + epochDays).toNat

/-- The year of a day, which may lie before the year zero. -/
def yearOfEpoch (days : Int) : Int :=
  let eras := (days + epochDays).fdiv 146097
  (ofMarchDays ((days + epochDays).fmod 146097).toNat).year + 400 * eras

/-- The day of the week, Sunday being zero. -/
def weekday (d : Date) : Nat := (d.sinceEpoch + 4).emod 7 |>.toNat

/-- The day of the year, from one. -/
def dayOfYear (d : Date) : Nat := (d.sinceEpoch - sinceEpoch ⟨d.year, 1, 1⟩).toNat + 1

end Date

namespace DateTime

/-- A distance from universal time: sign, hours and minutes, and seconds if there are any. -/
def offsetText (sep : String) (offset : Int) : String :=
  let n := offset.natAbs
  let seconds := n % 60
  (if offset < 0 then "-" else "+") ++ padded 2 (n / 3600) ++ sep ++ padded 2 (n / 60 % 60) ++
    (if seconds = 0 then "" else sep ++ padded 2 seconds)

/-- The time of day. -/
def timeText (t : DateTime) : String :=
  padded 2 t.hour ++ ":" ++ padded 2 t.minute ++ ":" ++ padded 2 t.second ++
    (if t.microsecond = 0 then "" else "." ++ padded 6 t.microsecond) ++
    (match t.offset with
      | none => ""
      | some o => offsetText ":" o)

def iso (t : DateTime) : String := t.date.iso ++ "T" ++ t.timeText

/-- As `iso`, with a space before the time. -/
def spaced (t : DateTime) : String := t.date.iso ++ " " ++ t.timeText

/-- The time so many microseconds after the start of 1970 in universal time, at a distance of
`offset` seconds from universal time. -/
def ofMicroseconds (micros : Int) (offset : Int) : DateTime :=
  let shifted := micros + offset * 1000000
  let days := shifted.fdiv 86400000000
  let rest := (shifted.fmod 86400000000).toNat
  let seconds := rest / 1000000
  ⟨.ofEpoch days, seconds / 3600, seconds / 60 % 60, seconds % 60, rest % 1000000, some offset⟩

end DateTime

end Retrieval
