import Retrieval.Schema.Issue
import Retrieval.Schema.Numeral
import Retrieval.Text.Surrogate
import Retrieval.Value.Basic

/-!
Checks of single values and of the fields of a mapping. Numbers are read generously: from booleans,
from whole floats and from texts that denote one.
-/

namespace Retrieval.Schema

variable {α : Type}

/-- A reading of a value. -/
abbrev Reader (α : Type) := Value → Checked α

def anything : Reader Value := .valid

def text : Reader String
  | .text s => .valid s
  | .word s => .valid s
  | _ => .refuse .stringType

/-- Reads a text that is looked into, which must be characters throughout. -/
def whole (read : String → Checked α) (s : String) : Checked α :=
  if Text.isEncodable s then read s else .refuse .stringUnicode

def nonEmptyText : Reader String := fun v =>
  (text v).bind (whole fun s => if s.isEmpty then .refuse .stringTooShort else .valid s)

/-- One of some words, as the value that stands for it. -/
def choice (options : List (String × α)) : Reader α := fun v =>
  match v.text? with
  | some s =>
    whole (fun s => match options.lookup s with
      | some a => .valid a
      | none => .refuse .literal) s
  | none => .refuse .literal

/-- The double that a text denotes. -/
def realOfText (s : String) : Checked Float :=
  match Numeral.real? s with
  | some x => .valid x
  | none => .refuse .floatParsing

def real : Reader Float
  | .float x => .valid x
  | .bool b => .valid (if b then 1.0 else 0.0)
  | .int n =>
    match Number.ofInt? n with
    | some x => .valid x
    | none => .refuse .floatType
  | .text s => whole realOfText s
  | .word s => whole realOfText s
  | _ => .refuse .floatType

/-- The integer that a text denotes. -/
def integerOfText (s : String) : Checked Int :=
  match Numeral.integer s with
  | .ok n => .valid n
  | .error .tooLong => .refuse .intParsingSize
  | .error .malformed => .refuse .intParsing

/-- Beyond this magnitude a float is no integer. -/
def integerBound : Float := 9223372036854775808.0

def integer : Reader Int
  | .int n => .valid n
  | .bool b => .valid (if b then 1 else 0)
  | .float x =>
    if !Number.isFinite x then .refuse .finiteNumber
    else
      match Number.toInt? x with
      | none => .refuse .intFromFloat
      | some n =>
        if -integerBound < x && x < integerBound then .valid n else .refuse .intParsingSize
  | .text s => whole integerOfText s
  | .word s => whole integerOfText s
  | _ => .refuse .intType

/-- The words that stand for a boolean, in small letters. -/
def boolWords : List (String × Bool) :=
  [("0", false), ("off", false), ("f", false), ("false", false), ("n", false), ("no", false),
    ("1", true), ("on", true), ("t", true), ("true", true), ("y", true), ("yes", true)]

/-- The boolean that a text denotes. -/
def booleanOfText (s : String) : Checked Bool :=
  match boolWords.lookup s.toLower with
  | some b => .valid b
  | none => .refuse .boolParsing

def boolean : Reader Bool
  | .bool b => .valid b
  | .int n =>
    if n = 0 then .valid false
    else if n = 1 then .valid true
    else if -(Number.twoTo 63 : Int) ≤ n && n < Number.twoTo 63 then .refuse .boolParsing
    else .refuse .boolType
  | .float x =>
    if x == 0.0 then .valid false
    else if x == 1.0 then .valid true
    else
      match Number.toInt? x with
      | some _ =>
        if -integerBound < x && x < integerBound then .refuse .boolParsing else .refuse .boolType
      | none => .refuse .boolType
  | .text s => whole booleanOfText s
  | .word s => whole booleanOfText s
  | _ => .refuse .boolType

/-- A null counts as absent. -/
def optional (read : Reader α) : Reader (Option α)
  | .null => .valid none
  | v => some <$> read v

/-- The bounds of a float. The upper bounds are looked at first; a value that is no number is
outside every bound. -/
structure Bounds where
  atMost : Option Float := none
  below : Option Float := none
  atLeast : Option Float := none
  above : Option Float := none

def Bounds.check (b : Bounds) (x : Float) : Checked Float :=
  if b.atMost.any (fun m => !(x ≤ m)) then .refuse .lessThanEqual
  else if b.below.any (fun m => !(x < m)) then .refuse .lessThan
  else if b.atLeast.any (fun m => !(m ≤ x)) then .refuse .greaterThanEqual
  else if b.above.any (fun m => !(m < x)) then .refuse .greaterThan
  else .valid x

def realWithin (b : Bounds) : Reader Float := fun v => (real v).bind b.check

/-- An integer above zero. -/
def positive : Reader Nat := fun v =>
  (integer v).bind fun n => if 0 < n then .valid n.toNat else .refuse .greaterThan

/-- An integer that is at least one. -/
def atLeastOne : Reader Nat := fun v =>
  (integer v).bind fun n => if 1 ≤ n then .valid n.toNat else .refuse .greaterThanEqual

/-- Checks the elements from position `n` on. -/
def itemsFrom (read : Reader α) : Nat → List Value → Checked (List α)
  | _, [] => .valid []
  | n, v :: vs => .apply (.map .cons ((read v).under (.index n))) (itemsFrom read (n + 1) vs)

def items (read : Reader α) (vs : List Value) : Checked (List α) := itemsFrom read 0 vs

/-- A sequence of any kind; a text is none. -/
def list (read : Reader α) : Reader (List α)
  | .seq _ vs => items read vs
  | _ => .refuse .listType

/-- Checks the values of a mapping. -/
def mappingValues (read : Reader α) : Entries Value → Checked (Entries α)
  | [] => .valid []
  | (k, v) :: es =>
    .apply (.map (fun a rest => (k, a) :: rest) ((read v).under (.field k))) (mappingValues read es)

def mapping (read : Reader α) : Reader (Entries α)
  | .map es => mappingValues read es
  | _ => .refuse .dictType

/-- A mapping that is read field by field. -/
def object (read : Entries Value → Checked α) : Reader α
  | .map es => read es
  | _ => .refuse .modelType

/-- A field that must be present. -/
def required (name : String) (read : Reader α) (es : Entries Value) : Checked α :=
  match Entries.get? name es with
  | some v => (read v).under (.field name)
  | none => .under (.field name) (.refuse .missing)

/-- A field with a value to fall back to. -/
def defaulted (name : String) (fallback : α) (read : Reader α) (es : Entries Value) : Checked α :=
  match Entries.get? name es with
  | some v => (read v).under (.field name)
  | none => .valid fallback

/-- A field given by itself rather than inside a mapping. -/
def given (name : String) (read : Reader α) (v : Value) : Checked α := (read v).under (.field name)

/-- Refuses all fields but the known ones. -/
def onlyFields (known : List String) (es : Entries Value) : Checked Unit :=
  match es.filter fun e => !known.contains e.1 with
  | [] => .valid ()
  | extra => .invalid (extra.map fun e => ⟨[.field e.1], .extraForbidden⟩)

end Retrieval.Schema
