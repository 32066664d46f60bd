import Retrieval.Calendar.Layout
import Retrieval.Calendar.Zone
import Retrieval.Log.Entry
import Retrieval.Log.Pattern
import Retrieval.Text.Split
import Retrieval.Value.Pairs

/-!
Lines of a log. Warnings and errors are marked, and a line may be coloured.
-/

namespace Retrieval.Log

/-- Why a line cannot be written. -/
inductive LineError
  | pattern (cause : PatternError)
  /-- A pattern of lines that names no field. -/
  | noField (pattern : String)
  | unknownField (name : String)
  | year (n : Int)
  | unknownLevel (name : String)
  | extra (cause : PairError)
  /-- A part of the line has a shape that there is no reading for. -/
  | misuse
  deriving DecidableEq, Repr

/-- The message of an error that has one. -/
def LineError.message? : LineError → Option String
  | .pattern cause => cause.message?
  | .noField given => some (s!"Invalid format '{given}' for '%' style")
  | .unknownField name => some ("Formatting field not found in record: " ++ Text.quoted name)
  | .year n => some (s!"year {n} is out of range")
  | .unknownLevel name => some ("Unknown level: " ++ Text.quoted name)
  | .extra cause => cause.message?
  | .misuse => none

/-- A message on its way to a log. -/
structure Message where
  level : Level
  text : Value
  args : List Value := []
  /-- Values that the pattern of a line may name. -/
  extra : Entries Value := []
  /-- Whether the state of an exception is shown under the line; there is none. -/
  showsException : Bool := false

/-- How lines are written. -/
structure Style where
  logger : String
  pattern : String
  /-- The pattern of times; without one they are written in full. -/
  timePattern : Value := .null
  zone : Zone
  isColored : Bool := false

/-- The pattern of lines for which no other is given. -/
def usualPattern : String := "%(asctime)s - %(levelname)s - %(name)s - %(message)s"

/-- The pattern that stands in for an empty one. -/
def barePattern : String := "%(message)s"

/-- The pattern that a value stands for. It must have a named conversion. -/
def patternOf (v : Value) : Except LineError String :=
  if !v.isTruthy then .ok barePattern
  else
    match v.text? with
    | none => .error .misuse
    | some pattern =>
      if hasField pattern.toList then .ok pattern else .error (.noField pattern)

/-- The mark before the messages of a level. -/
def Level.mark (l : Level) : String :=
  if Level.error.rank ≤ l.rank then "⛔ "
  else if l = .warning then "⚠️ "
  else ""

/-- The terminal codes of the colours. -/
def colors : List (String × String) :=
  [("cyan", "36"), ("green", "32"), ("yellow", "33"), ("red", "31"), ("magenta", "35"),
    ("blue", "34"), ("white", "37")]

def colorCode (code : String) : String := "\x1b[" ++ code ++ "m"

/-- The field that holds the colour of a message. -/
def colorField : String := "color"

/-- The code of a message's colour, if it has a known one. -/
def colorOf (m : Message) : Except LineError (Option String) :=
  match Entries.get? colorField m.extra with
  | none => .ok none
  | some v =>
    if v.isTruthy && !v.isKey then .error .misuse else .ok (v.text?.bind (colors.lookup ·))

/-- The microseconds in a number of seconds; halves go to the even neighbour. -/
def microseconds? (seconds : Value) : Option Int :=
  match seconds with
  | .int n => some (n * 1000000)
  | .bool b => some (if b then 1000000 else 0)
  | .float x =>
    if !Number.isFinite x then none
    else do
      let whole := if x < 0.0 then x.ceil else x.floor
      let part := (x - whole) * 1000000.0
      let nearest ← Number.toInt? (if part < 0.0 then -(-part).round else part.round)
      let tie := Float.abs (part - Float.ofInt nearest) == 0.5
      let nearest :=
        if tie && nearest % 2 != 0 then (if part < 0.0 then nearest + 1 else nearest - 1)
        else nearest
      return (← Number.toInt? whole) * 1000000 + nearest
  | _ => none

/-- The time of a line, given in seconds since the start of 1970. -/
def Style.time (s : Style) (created : Value) : Except LineError String := do
  let moment ←
    match microseconds? created with
    | some moment => pure moment
    | none => throw .misuse
  match s.zone.localTime moment with
  | .error (.year n) => throw (.year n)
  | .error .beyond => throw .misuse
  | .ok (t, shift) =>
    if !s.timePattern.isTruthy then return t.iso
    else
      match s.timePattern.text? with
      | some pattern =>
        if Text.isEncodable pattern then return t.layout shift pattern else throw .misuse
      | none => throw .misuse

/-- The conversion that asks for the time. -/
def timeMark : String := "%(asctime)"

/-- The fields of a line that only its parts tell. -/
def ownFields : List String :=
  ["message", "asctime", "name", "msg", "args", "levelname", "levelno", "pathname", "filename",
    "module", "exc_info", "exc_text", "stack_info", "lineno", "funcName", "created", "msecs",
    "relativeCreated", "thread", "threadName", "processName", "process"]

/-- The fields of a line that do not hang on where and when it was written. -/
def Style.fields (s : Style) (created : Value) (m : Message) (text : String) : Entries Value :=
  [("name", .text s.logger), ("msg", .text text), ("args", .seq .tuple []),
    ("levelname", .text m.level.name), ("levelno", .int m.level.rank),
    ("exc_info", if m.showsException then .seq .tuple [.null, .null, .null] else .null),
    ("exc_text", .null), ("stack_info", .null), ("created", created),
    ("threadName", .text "MainThread"), ("processName", .text "MainProcess"),
    ("message", .text text)]

/-- A line with a line break at its end. -/
def endedLine (line : String) : String :=
  if line.toList.getLast? = some '\n' then line else line ++ "\n"

/-- A pattern of lines filled in with fields by name. -/
def fillFields (pattern : String) (fields : Entries Value) : Except LineError String :=
  match fill pattern (.ofNames fields) with
  | .ok line => .ok line
  | .error (.missingName name) => .error (.unknownField name)
  | .error e => .error (.pattern e)

/-- The line of a message. -/
def Style.line (s : Style) (created : Value) (m : Message) : Except LineError String := do
  let text := m.level.mark ++ (← (filled m.text.display m.args).mapError .pattern)
  let fields := Entries.merge m.extra (s.fields created m text)
  let fields ←
    if Text.isPart timeMark.toList s.pattern.toList then
      (s.time created).map fun time => Entries.set "asctime" (.text time) fields
    else pure fields
  let line ← fillFields s.pattern fields
  let line := if m.showsException then endedLine line ++ "NoneType: None" else line
  if !s.isColored then return line
  else
    match ← colorOf m with
    | some code => return colorCode code ++ line ++ colorCode "0"
    | none => return line

end Retrieval.Log
