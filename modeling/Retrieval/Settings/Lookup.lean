import Retrieval.Error.Query
import Retrieval.Settings
import Retrieval.Signature
import Retrieval.Value.Order

/-!
Settings looked up by kind, with any value in place of an unset variable.
-/

namespace Retrieval.Settings

/-- A kind of setting, with what reading it needs. -/
inductive Wanted
  | text
  | number
  | flag
  | list (separator : Value) (kind : ElementKind)
  | choice (options : Value)

/-- The text that a choice is made by: a fallback counts only if the variable is unset. -/
def choiceText (s : Settings) (key : String) (fallback : Value) : Except Failure String :=
  match s.read key, fallback with
  | some raw, _ => .ok raw
  | none, .null => .error (.setting (.unset (Text.upper key)))
  | none, v =>
    match v.text? with
    | some raw => .ok raw
    | none => .error .misuse

/-- Whether a word is among some options: a part of a text, an item of a sequence, or a key of a
mapping. Other values hold no options. -/
def isAmong? (word : String) : Value → Option Bool
  | .text s => some (Text.isPart word.toList s.toList)
  | .word s => some (Text.isPart word.toList s.toList)
  | .seq _ items => some (Value.isMember (.text word) items)
  | .map es => some (Entries.contains word es)
  | _ => none

/-- The separator that a value stands for. -/
def separatorOf? : Value → Option Separator
  | .null => some .blanks
  | v => v.text?.map .text

/-- What is found for a key, or what stands in for it. -/
def settled (key : String) (fallback : Value) (found : Except SettingError (Option Value)) :
    Except Failure Value :=
  (found.bind (orElse key fallback.orAbsent)).mapError .setting

/-- A list, whose separator can be any value. -/
def lookupList (s : Settings) (key : String) (fallback separator : Value) (kind : ElementKind) :
    Except Failure Value :=
  match separatorOf? separator with
  | some sep => settled key fallback ((s.list? key sep kind).map fun vs => vs.map .list)
  | none =>
    match s.inside? key separator.display with
    | .ok none => settled key fallback (.ok none)
    | .ok (some _) => .error .misuse
    | .error e => .error (.setting e)

/-- A setting; a null fallback is none. -/
def lookup (s : Settings) (key : String) (fallback : Value) (wanted : Wanted) :
    Except Failure Value :=
  match wanted with
  | .text => settled key fallback (.ok ((s.read key).map .text))
  | .number => settled key fallback (s.number? key)
  | .flag => settled key fallback (.ok ((s.flag? key).map .bool))
  | .list separator kind => lookupList s key fallback separator kind
  | .choice options => do
    let word := Text.lower (← choiceText s key fallback)
    match isAmong? word options with
    | none => .error .misuse
    | some true => return .text word
    | some false => .error (.setting (.notAChoice (Text.upper key) options.display word))

open Signature (needed nullable)

/-- The parameters of a look-up by its kind. -/
def signatures : List (String × Signature) :=
  [("string", { parameters := [needed "key", nullable "default"] }),
    ("number", { parameters := [needed "key", nullable "default"] }),
    ("bool", { parameters := [needed "key", nullable "default"] }),
    ("list", { parameters := [needed "key", nullable "default", ("separator", some (.text ",")),
      ("element_type", some (.text ElementKind.text.name))] }),
    ("choice", { parameters := [needed "key", needed "choices", nullable "default"] })]

/-- The kind of elements that a name stands for. -/
def elementKind? (v : Value) : Option ElementKind :=
  [ElementKind.text, .integer, .real].find? fun kind => v.text? == some kind.name

/-- The key, the fallback and the kind of a look-up with named arguments. -/
def wanted? (kind : String) (named : Entries Value) : Option (String × Value × Wanted) := do
  match kind, ← (← signatures.lookup kind).values? named with
  | "string", [key, fallback] => some (← key.text?, fallback, .text)
  | "number", [key, fallback] => some (← key.text?, fallback, .number)
  | "bool", [key, fallback] => some (← key.text?, fallback, .flag)
  | "list", [key, fallback, separator, element] =>
    some (← key.text?, fallback, .list separator (← elementKind? element))
  | "choice", [key, options, fallback] => some (← key.text?, fallback, .choice options)
  | _, _ => none

/-- A setting looked up with named arguments. -/
def lookupNamed (s : Settings) (kind : String) (named : Entries Value) : Except Failure Value :=
  match wanted? kind named with
  | some (key, fallback, wanted) => s.lookup key fallback wanted
  | none => .error .misuse

/-- The kinds that a setting of a client can have, by name. -/
def clientKinds : List (String × Wanted) :=
  [("string", .text), ("number", .number), ("bool", .flag), ("list", .list (.text ",") .text)]

end Retrieval.Settings
