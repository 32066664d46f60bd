import Retrieval.Number.Numeral
import Retrieval.Text.Case
import Retrieval.Text.Split
import Retrieval.Value.Display

/-!
Settings from named variables. A variable that is unset or empty has no value; values lose the
blanks at their ends. Lists are written `[a,b,c]`.
-/

namespace Retrieval

open Retrieval.Text

/-- Why a setting has no usable value. -/
inductive SettingError
  | unset (key : String)
  | notANumber (key raw : String)
  | notAList (key separator raw : String)
  | badElement (key : String) (cause : Number.NumeralError) (kind raw : String)
  | notAChoice (key choices value : String)
  | emptySeparator
  | unknownKind (kind key client engine : String)
  | unsupportedEngine (name : String)
  deriving DecidableEq, Repr

def SettingError.message : SettingError → String
  | .unset key => s!"Environment variable '{key}' is not set."
  | .notANumber key raw => s!"Environment variable '{key}' is not a valid number: '{raw}'."
  | .notAList key separator raw =>
    s!"Environment variable '{key}' must be in the format " ++
      s!"'[elem1{separator}elem2{separator}...]'. Got: '{raw}'"
  | .badElement key cause kind raw =>
    s!"Environment variable '{key}' contains invalid elements: " ++ cause.message ++
      s!". Type set to {kind}. Got: '{raw}'"
  | .notAChoice key choices value =>
    s!"Environment variable '{key}' must be one of {choices}. Got: '{value}'"
  | .emptySeparator => "empty separator"
  | .unknownKind kind key client engine =>
    s!"Unsupported config value type '{kind}' for env key '{key}' in {client} client '{engine}'."
  | .unsupportedEngine name => s!"Unsupported search engine '{name}'"

/-- The variables that settings are read from. -/
structure Settings where
  bindings : Entries String

/-- How the elements of a list setting are read. -/
inductive ElementKind
  | text
  | integer
  | real
  deriving DecidableEq, Repr

def ElementKind.name : ElementKind → String
  | .text => "str"
  | .integer => "int"
  | .real => "float"

def ElementKind.read : ElementKind → String → Except Number.NumeralError Value
  | .text, s => .ok (.text s)
  | .integer, s => Value.int <$> Number.readInt s
  | .real, s => Value.float <$> Number.readReal s

/-- What the elements of a list are kept apart by: a text, or blanks of any kind and number. -/
inductive Separator
  | text (s : String)
  | blanks
  deriving DecidableEq, Repr

/-- A separator as messages give it. -/
def Separator.shown : Separator → String
  | .text s => s
  | .blanks => Value.nullWord

/-- The pieces of a text between separators. -/
def Separator.split : Separator → List Char → List (List Char)
  | .text s, cs => splitOnText s.toList cs
  | .blanks, cs => splitWhere isBlank cs

/-- The elements between the brackets of a list, blanks around them and empty ones dropped. -/
def listElements (separator : Separator) (inside : List Char) : List String :=
  ((separator.split inside).map trim).filterMap fun e =>
    if e.isEmpty then none else some (String.ofList e)

/-- What stands between the brackets of a list. -/
def insideBrackets? (raw : List Char) : Option (List Char) :=
  if raw.head? = some '[' && raw.getLast? = some ']' then some (raw.drop 1).dropLast else none

namespace Settings

variable (s : Settings)

/-- The value of a variable, whose name is given in any case. -/
def read (key : String) : Option String :=
  match Entries.get? (upper key) s.bindings with
  | none => none
  | some "" => none
  | some raw => some (stripped raw)

theorem read_of_get? {key raw : String} (h : Entries.get? (upper key) s.bindings = some raw) :
    s.read key = if raw = "" then none else some (stripped raw) := by
  unfold read
  rw [h]
  split
  · contradiction
  · rename_i hempty
    rw [if_pos (Option.some.inj hempty)]
  · rename_i hfilled hraw
    obtain rfl := Option.some.inj hraw
    exact (if_neg hfilled).symm

/-- A value, or what stands in for an unset variable. -/
def orElse {α : Type} (key : String) (fallback : Option α) : Option α → Except SettingError α
  | some a => .ok a
  | none =>
    match fallback with
    | some a => .ok a
    | none => .error (.unset (upper key))

/-- Texts with a point are read as floats, others as integers. -/
def number? (key : String) : Except SettingError (Option Value) :=
  match s.read key with
  | none => .ok none
  | some raw =>
    let kind := if raw.toList.contains '.' then ElementKind.real else .integer
    match kind.read raw with
    | .ok v => .ok (some v)
    | .error _ => .error (.notANumber (upper key) raw)

def flag? (key : String) : Option Bool :=
  (s.read key).map fun raw => ["true", "1", "yes"].contains (lower raw)

/-- What stands between the brackets of a list, whose separator has some form in messages. -/
def inside? (key shown : String) : Except SettingError (Option (String × List Char)) :=
  match s.read key with
  | none => .ok none
  | some raw =>
    match insideBrackets? raw.toList with
    | none => .error (.notAList (upper key) shown raw)
    | some inside => .ok (some (raw, inside))

def list? (key : String) (separator : Separator) (kind : ElementKind) :
    Except SettingError (Option (List Value)) := do
  match ← s.inside? key separator.shown with
  | none => .ok none
  | some (raw, inside) =>
    if separator = .text "" then .error .emptySeparator
    else
      match (listElements separator inside).mapM kind.read with
      | .ok vs => .ok (some vs)
      | .error cause => .error (.badElement (upper key) cause kind.name raw)

/-- The separator of lists for which no other is named. -/
def comma : Separator := .text ","

/-- A list of texts; an unset variable is an empty list. -/
def texts (key : String) : Except SettingError (List String) :=
  (s.list? key comma .text).map fun vs => (vs.getD []).filterMap Value.text?

/-- A text in small letters that must be one of some choices. -/
def choice (key : String) (choices : List String) (fallback : Option String) :
    Except SettingError String := do
  let raw ← orElse key fallback (s.read key)
  let value := lower raw
  if choices.contains value then return value
  else .error (.notAChoice (upper key) (quotedList choices) value)

def text (key : String) (fallback : Option String) : Except SettingError String :=
  orElse key fallback (s.read key)

def textOr (key fallback : String) : String := (s.read key).getD fallback

def flagOr (key : String) (fallback : Bool) : Bool := (s.flag? key).getD fallback

def numberOr (key : String) (fallback : Value) : Except SettingError Value :=
  (s.number? key).map (·.getD fallback)

end Settings

end Retrieval
