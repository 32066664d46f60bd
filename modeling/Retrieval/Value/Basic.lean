import Retrieval.Calendar
import Retrieval.Entries

/-!
Values whose shape is known only when they arrive: arguments of query calls, records and envelopes
of the backend, request bodies. A value is a scalar, a sequence of one of four kinds, or a mapping
in the order of its keys.
-/

namespace Retrieval

/-- The kinds of sequence. They behave alike except where one is asked for. -/
inductive SeqKind
  | list
  | tuple
  | set
  | frozenSet
  deriving DecidableEq, Repr

inductive Value
  | null
  | bool (b : Bool)
  | int (n : Int)
  | float (x : Float)
  | text (s : String)
  /-- A bare word of the query language, such as an operator name; elsewhere it is a text. -/
  | word (s : String)
  | seq (kind : SeqKind) (items : List Value)
  | map (entries : List (String × Value))
  | date (d : Date)
  | dateTime (t : DateTime)
  /-- An object that no part of the library can read. -/
  | foreign
  deriving Inhabited, Repr

namespace Value

def list (items : List Value) : Value := .seq .list items

/-- The name of a value's kind, as messages give it. -/
def kindName : Value → String
  | .null => "NoneType"
  | .bool _ => "bool"
  | .int _ => "int"
  | .float _ => "float"
  | .text _ => "str"
  | .word _ => "GraphQLEnum"
  | .seq .list _ => "list"
  | .seq .tuple _ => "tuple"
  | .seq .set _ => "set"
  | .seq .frozenSet _ => "frozenset"
  | .map _ => "dict"
  | .date _ => "date"
  | .dateTime _ => "datetime"
  | .foreign => "object"

/-- Whether a value counts as present: nulls, zeros and what is empty do not. -/
def isTruthy : Value → Bool
  | .null => false
  | .bool b => b
  | .int n => n != 0
  | .float x => x != 0.0
  | .text s => s != ""
  | .word s => s != ""
  | .seq _ items => !items.isEmpty
  | .map entries => !entries.isEmpty
  | .date _ => true
  | .dateTime _ => true
  | .foreign => true

/-- The text of a text or of a bare word. -/
def text? : Value → Option String
  | .text s => some s
  | .word s => some s
  | _ => none

def entries? : Value → Option (Entries Value)
  | .map es => some es
  | _ => none

/-- The elements met when walking through a value: characters of a text, items of a sequence, keys
of a mapping. Other values cannot be walked through. -/
def elements? : Value → Option (List Value)
  | .text s => some (s.toList.map fun c => .text (String.ofList [c]))
  | .word s => some (s.toList.map fun c => .text (String.ofList [c]))
  | .seq _ items => some items
  | .map es => some (es.map fun e => .text e.1)
  | _ => none

/-- A value, with nothing in place of null. -/
def orAbsent : Value → Option Value
  | .null => none
  | v => some v

mutual

/-- The number of levels of a value; a scalar has one. -/
def levels : Value → Nat
  | .seq _ items => levelsOfItems items + 1
  | .map es => levelsOfEntries es + 1
  | _ => 1

def levelsOfItems : List Value → Nat
  | [] => 0
  | v :: vs => max (levels v) (levelsOfItems vs)

def levelsOfEntries : List (String × Value) → Nat
  | [] => 0
  | (_, v) :: es => max (levels v) (levelsOfEntries es)

end

@[simp] theorem isTruthy_null : isTruthy .null = false := rfl
@[simp] theorem elements?_seq (kind : SeqKind) (items : List Value) :
    elements? (.seq kind items) = some items := rfl
@[simp] theorem entries?_map (es : List (String × Value)) : entries? (.map es) = some es := rfl

theorem filterMap_text?_texts (xs : List String) : (xs.map text).filterMap text? = xs := by
  rw [List.filterMap_map]
  exact List.filterMap_some

end Value

end Retrieval
