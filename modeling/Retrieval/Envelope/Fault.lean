import Retrieval.Error.Query
import Retrieval.Log.Entry

/-!
Reading an answer of the backend: what can be wrong with it, and the reading of parts that may be
absent. An absent part, a null and what is empty count the same.
-/

namespace Retrieval.Envelope

/-- Why an answer cannot be read. -/
inductive Fault
  /-- A part has a shape that cannot be read. -/
  | unreadable
  /-- A part breaks its schema. -/
  | invalid (issues : List Schema.Issue)
  /-- A placeholder holds digits that are no numeral. -/
  | numeral (cause : Number.NumeralError)
  /-- An integer is too large for a float. -/
  | tooLarge
  /-- The section of a member is no list. -/
  | notAList (operation key kind : String)

/-- The end of an operation that reads an answer and does nothing about its faults. -/
def Fault.toFailure : Fault → Failure
  | .unreadable => .misuse
  | .invalid issues => .schema issues
  | .numeral cause => .numeral cause
  | .tooLarge => .misuse
  | .notAList operation key kind => .query (.response (.listExpected operation key kind))

abbrev Reading (α : Type) := Except Fault α

/-- A part that is checked against a schema. -/
def checked {α : Type} : Schema.Checked α → Reading α
  | .valid a => .ok a
  | .invalid issues => .error (.invalid issues)

/-- The fields of a mapping; none if it is empty or absent. -/
def block : Option Value → Reading (Entries Value)
  | none => .ok []
  | some (.map es) => .ok es
  | some v => if v.isTruthy then .error .unreadable else .ok []

/-- The elements of a value; none if it is empty or absent. -/
def elements : Option Value → Reading (List Value)
  | none => .ok []
  | some v =>
    if !v.isTruthy then .ok []
    else
      match v.elements? with
      | some vs => .ok vs
      | none => .error .unreadable

/-- A field, null if it is absent. -/
def field (name : String) (es : Entries Value) : Value := (Entries.get? name es).getD .null

/-- The fields of a mapping inside a mapping. -/
def blockAt (name : String) (es : Entries Value) : Reading (Entries Value) :=
  block (Entries.get? name es)

/-- The elements of a field. -/
def elementsAt (name : String) (es : Entries Value) : Reading (List Value) :=
  elements (Entries.get? name es)

/-- The fields of a value that must be a mapping. -/
def fieldsOf (v : Value) : Reading (Entries Value) :=
  match v with
  | .map es => .ok es
  | _ => .error .unreadable

/-- What reading has to tell, and how it ends. The entries stand also if the reading fails. -/
structure Account (α : Type) where
  entries : List Log.Entry
  outcome : Reading α

end Retrieval.Envelope
