import Retrieval.Selection.Basic
import Retrieval.Value.Basic

/-!
Folding the answer to a selection back into the shape of the record: what came under the alias of a
list element goes to that element of the list.
-/

namespace Retrieval

/-- Puts a value at a position of a list, which is filled up with nulls; two mappings are merged. -/
def placeAt (value : Value) : Nat → List Value → List Value
  | 0, [] => [value]
  | 0, v :: vs =>
    (match v, value with
      | .map old, .map new => .map (Entries.merge old new)
      | _, _ => value) :: vs
  | i + 1, [] => .null :: placeAt value i []
  | i + 1, v :: vs => v :: placeAt value i vs

/-- The items of a list; other values have none. -/
def listItems : Option Value → List Value
  | some (.seq .list items) => items
  | _ => []

/-- Applies a change to a mapping, or to the mappings of a list. -/
def mapMappings (change : Entries Value → Entries Value) : Value → Value
  | .map es => .map (change es)
  | .seq .list items =>
    .seq .list (items.map fun
      | .map es => .map (change es)
      | v => v)
  | v => v

namespace SelectionTree

/-- Changes what stands under a name, if anything does. -/
def updateField (name : String) (change : Value → Value) (record : Entries Value) :
    Entries Value :=
  match Entries.get? name record with
  | some v => Entries.set name (change v) record
  | none => record

mutual

/-- Folds a record by one selected step. -/
def foldNode : SelectionNode → Entries Value → Entries Value
  | .node (.index _) _, record => record
  | .node (.property name) children, record =>
    let record :=
      if hasProperty children then
        updateField name (mapMappings (fold children)) record
      else record
    foldElements name children record

/-- Folds a record by a selection. -/
def fold : List SelectionNode → Entries Value → Entries Value
  | [], record => record
  | n :: rest, record => fold rest (foldNode n record)

/-- Moves the selected elements of a list property from their aliases into the list. -/
def foldElements (name : String) : List SelectionNode → Entries Value → Entries Value
  | [], record => record
  | .node (.property _) _ :: rest, record => foldElements name rest record
  | .node (.index i) children :: rest, record =>
    match Entries.get? (elementAlias name i) record with
    | none => foldElements name rest record
    | some element =>
      let record := Entries.erase (elementAlias name i) record
      let element :=
        match element with
        | .map es => if children.isEmpty then element else .map (fold children es)
        | _ => element
      let items := placeAt element i (listItems (Entries.get? name record))
      foldElements name rest (Entries.set name (.list items) record)

end

end SelectionTree

end Retrieval
