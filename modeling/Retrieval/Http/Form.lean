import Retrieval.Text.Split
import Retrieval.Text.Surrogate
import Retrieval.Text.Transfer
import Retrieval.Value.Display
import Retrieval.Value.Order

/-!
Forms: named fields as the query of an address. The values of one name stand together.
-/

namespace Retrieval.Http

open Retrieval.Text

/-- The fields of a form: each name with its values. -/
abbrev Form := Entries (List String)

namespace Form

/-- A text as a form has it: blanks are plus signs, and most characters are escaped. -/
def encodeText (s : String) : List Char :=
  joinWith ['+'] ((splitAt ' ' s.toList).map (escapeUnless isUnreserved))

/-- A field as it is written. -/
def encodeField (name value : String) : List Char := encodeText name ++ '=' :: encodeText value

/-- A form as it is written. -/
def encode (form : Form) : String :=
  String.ofList (joinWith ['&'] (form.flatMap fun (name, values) => values.map (encodeField name)))

/-- Whether a form can be written: all its texts are characters throughout. -/
def isEncodable (form : Form) : Bool :=
  form.all fun (name, values) =>
    values.isEmpty || Text.isEncodable name && values.all Text.isEncodable

/-- A text that a form has. -/
def decodeText (cs : List Char) : String :=
  String.ofList (unescaped (joinWith [' '] (splitAt '+' cs)))

/-- One more value of a field. -/
def add (form : Form) (name value : String) : Form :=
  Entries.set name (((Entries.get? name form).getD []) ++ [value]) form

/-- The form in a text. -/
def decode (s : String) : Form :=
  ((splitAt '&' s.toList).filter (!·.isEmpty)).foldl (fun form field =>
    form.add (decodeText (field.takeWhile (· != '=')))
      (decodeText ((field.dropWhile (· != '=')).drop 1))) []

/-- The text of a value in a form. -/
def fieldText : Value → String
  | .null => ""
  | .bool b => if b then "true" else "false"
  | v => v.display

/-- The values of a field; a list stands for several. -/
def fieldTexts : Value → List String
  | .seq .list items => items.map fieldText
  | .seq .tuple items => items.map fieldText
  | v => [fieldText v]

/-- The first two elements of a field that is given as a pair; the first must do as a key. -/
def pair? (v : Value) : Option (Value × Value) :=
  match v with
  | .map _ => none
  | _ =>
    match v.elements? with
    | some (name :: value :: _) => if name.isKey then some (name, value) else none
    | _ => none

/-- Puts the values of the same name together, at the place of the first. -/
def grouped (pairs : List (Value × Value)) : List (Value × List Value) :=
  pairs.foldl (fun groups (name, value) =>
    if groups.any fun g => g.1.same name then
      groups.map fun g => if g.1.same name then (g.1, g.2 ++ [value]) else g
    else groups ++ [(name, [value])]) []

/-- The form of fields given as pairs. Of names that are written alike the last counts. -/
def ofPairs (pairs : List (Value × Value)) : Form :=
  (grouped pairs).foldl
    (fun form (name, values) => Entries.set name.display (values.map fieldText) form) []

/-- The form that a value describes: a text, a mapping, or pairs. -/
def ofValue? (v : Value) : Option Form :=
  match v with
  | .text s => some (decode s)
  | .map es => some (es.map fun (name, v) => (name, fieldTexts v))
  | .seq .list items => (items.mapM pair?).map ofPairs
  | .seq .tuple items => (items.mapM pair?).map ofPairs
  | _ => none

/-- The query that a value makes for an address: none if it describes no field. -/
def queryOf? (v : Value) : Option (Option (List Char)) :=
  if !v.isTruthy then some none
  else
    match ofValue? v with
    | none => none
    | some form =>
      if form.isEmpty then some none
      else if isEncodable form then some (some (encode form).toList) else none

end Form

end Retrieval.Http
