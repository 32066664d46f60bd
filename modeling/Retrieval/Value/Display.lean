import Retrieval.Number.Notation
import Retrieval.Text.Quoted
import Retrieval.Value.Basic

/-!
The text of a value inside messages and templates. `inner` is the form inside other values, where
texts stand in quotes; `display` is the form at the top, where a text stands for itself.
-/

namespace Retrieval.Value

open Retrieval.Text

/-- The words for the scalars that have no notation of their own. -/
def nullWord : String := "None"

def boolWord (b : Bool) : String := if b then "True" else "False"

/-- A date by its parts. -/
def dateParts (d : Date) : String := s!"datetime.date({d.year}, {d.month}, {d.day})"

/-- A distance from universal time by its parts. -/
def zoneParts (offset : Int) : String :=
  if offset = 0 then "datetime.timezone.utc"
  else
    let days := offset.fdiv 86400
    let seconds := offset.fmod 86400
    let parts :=
      (if days = 0 then [] else ["days=" ++ toString days]) ++
      (if seconds = 0 then [] else ["seconds=" ++ toString seconds])
    "datetime.timezone(datetime.timedelta(" ++ ", ".intercalate parts ++ "))"

/-- A time by its parts; a trailing zero second or fraction is left out. -/
def dateTimeParts (t : DateTime) : String :=
  let base := [t.date.year, t.date.month, t.date.day, t.hour, t.minute]
  let tail :=
    if t.microsecond ≠ 0 then [t.second, t.microsecond]
    else if t.second ≠ 0 then [t.second] else []
  let zone :=
    match t.offset with
    | none => []
    | some o => ["tzinfo=" ++ zoneParts o]
  "datetime.datetime(" ++ ", ".intercalate ((base ++ tail).map toString ++ zone) ++ ")"

/-- A sequence in the brackets of its kind, given the texts of its items. -/
def bracketed (kind : SeqKind) (items : List String) : String :=
  let inside := ", ".intercalate items
  match kind with
  | .list => "[" ++ inside ++ "]"
  | .tuple => if items.length = 1 then "(" ++ inside ++ ",)" else "(" ++ inside ++ ")"
  | .set => if items.isEmpty then "set()" else "\x7b" ++ inside ++ "\x7d"
  | .frozenSet =>
    if items.isEmpty then "frozenset()" else "frozenset(\x7b" ++ inside ++ "\x7d)"

mutual

/-- The text of a value inside another one. -/
def inner : Value → String
  | .null => nullWord
  | .bool b => boolWord b
  | .int n => Number.integer n
  | .float x => Number.plain x
  | .text s => quoted s
  | .word s => quoted s
  | .seq kind items => bracketed kind (innerItems items)
  | .map entries => "\x7b" ++ ", ".intercalate (innerEntries entries) ++ "\x7d"
  | .date d => dateParts d
  | .dateTime t => dateTimeParts t
  | .foreign => "<object>"

def innerItems : List Value → List String
  | [] => []
  | v :: vs => inner v :: innerItems vs

def innerEntries : List (String × Value) → List String
  | [] => []
  | (k, v) :: es => (quoted k ++ ": " ++ inner v) :: innerEntries es

end

/-- The text of a value on its own. -/
def display : Value → String
  | .text s => s
  | .word s => s
  | .date d => d.iso
  | .dateTime t => t.spaced
  | v => inner v

end Retrieval.Value
