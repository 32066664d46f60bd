import Retrieval.Calendar
import Retrieval.Number.Double

/-!
Time zones: what is added to universal time at a moment, and what the sum is called. Moments are
seconds since the start of 1970.
-/

namespace Retrieval

inductive Zone
  /-- The same distance at all times. -/
  | fixed (seconds : Int) (name : String)
  | berlin
  deriving DecidableEq, Repr

/-- What is added to universal time, in seconds. -/
structure Shift where
  seconds : Int
  name : String
  /-- Whether the clocks are put forward. -/
  isSummer : Bool := false
  deriving DecidableEq, Repr

namespace Zone

def standard : Shift := ⟨3600, "CET", false⟩

def summer : Shift := ⟨7200, "CEST", true⟩

def midsummer : Shift := ⟨10800, "CEMT", true⟩

/-- The changes of Berlin time up to 1980, latest first. -/
def earlyChanges : List (Int × Shift) :=
  [(338950800, standard), (323830800, summer), (-639010800, standard), (-654130800, summer),
    (-670460400, standard), (-684975600, summer), (-701910000, standard), (-710380800, summer),
    (-714610800, midsummer), (-717631200, summer), (-733273200, standard), (-748479600, summer),
    (-761180400, standard), (-765936000, summer), (-776563200, midsummer), (-781052400, summer),
    (-796777200, standard), (-812502000, summer), (-828226800, standard), (-844556400, summer),
    (-857257200, standard), (-938905200, summer), (-1618700400, standard), (-1632006000, summer),
    (-1650150000, standard), (-1663455600, summer), (-1680483600, standard),
    (-1693706400, summer), (-2422054408, standard)]

/-- Before the first change the sun's time is kept, to the minute. -/
def sunTime : Shift := ⟨3180, "LMT", false⟩

/-- One o'clock, universal time, on the last Sunday of a month whose last day is given. -/
def lastSunday (lastDay : Date) : Int :=
  (lastDay.sinceEpoch - lastDay.weekday) * 86400 + 3600

/-- The last year whose summer time is laid down. -/
def lastYear : Nat := 2037

/-- The beginning and the end of summer time, from 1981 on. -/
def summerOf (year : Nat) : Int × Int :=
  (lastSunday ⟨year, 3, 31⟩,
    if year ≤ 1995 then lastSunday ⟨year, 9, 30⟩ else lastSunday ⟨year, 10, 31⟩)

/-- Berlin time at a moment. -/
def berlinAt (moment : Int) : Shift :=
  let year := (Date.ofEpoch (moment.fdiv 86400)).year
  if year ≤ 1980 then
    match earlyChanges.find? fun c => c.1 ≤ moment with
    | some (_, kept) => kept
    | none => sunTime
  else
    let (start, stop) := summerOf year
    if year ≤ lastYear && start ≤ moment && moment < stop then summer else standard

/-- The distance from universal time at a moment. -/
def shift (zone : Zone) (moment : Int) : Shift :=
  match zone with
  | .fixed seconds name => ⟨seconds, name, false⟩
  | .berlin => berlinAt moment

/-- The zone so many hours east. -/
def hours (n : Int) : Zone :=
  .fixed (n * 3600) ((if n < 0 then "-" else "+") ++ padded 2 n.natAbs)

/-- The zones that are known by name. In names of the kind `Etc/GMT-5` the sign is that of the
distance to the west. -/
def named : List (String × Zone) :=
  [("UTC", .fixed 0 "UTC"), ("Etc/UTC", .fixed 0 "UTC"), ("GMT", .fixed 0 "GMT"),
    ("Etc/GMT", .fixed 0 "GMT"), ("Europe/Berlin", .berlin)] ++
  ((List.range 14).map fun (n : Nat) => ("Etc/GMT-" ++ toString (n + 1), hours (n + 1))) ++
  (List.range 12).map fun (n : Nat) => ("Etc/GMT+" ++ toString (n + 1), hours (-(n + 1)))

/-- Why a moment has no local time. -/
inductive MomentError
  /-- The year, in universal time, is none that is counted. -/
  | year (n : Int)
  /-- The moment is out of all reach, or the zone takes it out of the years that are counted. -/
  | beyond
  deriving DecidableEq, Repr

/-- The days before the first year, before the year 10000, and the seconds of a day. -/
def firstDay : Int := -719162

def lastDay : Int := 2932897

def daySeconds : Int := 86400

/-- The years whose distance from 1900 is a number of 32 bits can be told. -/
def yearReach : Int := Number.twoTo 31

/-- The local time of a moment given in microseconds, and its distance from universal time. Years
are counted from 1 to 9999. -/
def localTime (zone : Zone) (microseconds : Int) : Except MomentError (DateTime × Shift) :=
  let moment := microseconds.fdiv 1000000
  let day := moment.fdiv daySeconds
  if day < firstDay || lastDay ≤ day then
    let year := Date.yearOfEpoch day
    if -yearReach ≤ year - 1900 && year - 1900 < yearReach then
      .error (.year (year.bmod (Number.twoTo 32)))
    else .error .beyond
  else
    let shift := zone.shift moment
    let shifted := (moment + shift.seconds).fdiv daySeconds
    if shifted < firstDay || lastDay ≤ shifted then .error .beyond
    else .ok (.ofMicroseconds microseconds shift.seconds, shift)

end Zone

end Retrieval
