import Retrieval.Settings
import Retrieval.Value.Order

/-!
Known collections and their fields. A collection without fields is open: any field may be named.
Collections and fields are texts as a rule, but any value that can be a key will do.
-/

namespace Retrieval

/-- Texts in the order of their code points, each once. -/
def sortedTexts (xs : List String) : List String :=
  (xs.mergeSort fun a b => a ≤ b).eraseDups

structure Registry where
  /-- The collections, each with its fields. -/
  collections : List (Value × List Value)

namespace Registry

def empty : Registry := ⟨[]⟩

/-- The fields at a key. -/
def find? (key : Value) : List (Value × List Value) → Option (List Value)
  | [] => none
  | (k, fields) :: rest => if k.same key then some fields else find? key rest

/-- Sets the fields at a key: in its place if it is present, else at the end. -/
def place (key : Value) (fields : List Value) :
    List (Value × List Value) → List (Value × List Value)
  | [] => [(key, fields)]
  | (k, old) :: rest =>
    if k.same key then (k, fields) :: rest else (k, old) :: place key fields rest

def register (r : Registry) (collection : Value) (fields : List Value) : Registry :=
  ⟨place collection fields r.collections⟩

def isKnown (r : Registry) (collection : Value) : Bool := (find? collection r.collections).isSome

/-- The fields of a collection, unless it is open. -/
def knownFields (r : Registry) (collection : Value) : Option (List Value) :=
  match find? collection r.collections with
  | none => none
  | some [] => none
  | some fields => some fields

/-- The collections in order; nothing if they have none. -/
def names? (r : Registry) : Option (List Value) := Value.sorted? (r.collections.map (·.1))

/-- The collections that settings list, each with the fields listed for it. -/
def ofSettings (s : Settings) : Except SettingError Registry := do
  let names ← s.texts "QUERY_COLLECTIONS"
  let lists ← names.mapM fun name => s.texts ("QUERY_COLLECTION_" ++ name ++ "_FIELDS")
  return (names.zip lists).foldl
    (fun r e => r.register (.text e.1) (Value.distinct (e.2.map .text))) empty

/-- The fields that a value consists of, each once; nothing if one of them cannot be a key. -/
def fieldsOf? (v : Value) : Option (List Value) := do
  let fields ← v.elements?
  if Value.areKeys fields then some (Value.distinct fields) else none

/-- The registry of a mapping from names to their fields. What is empty stands for no mapping. -/
def ofValue? (v : Value) : Option Registry :=
  if !v.isTruthy then some empty
  else do
    let es ← v.entries?
    let lists ← es.mapM fun e => fieldsOf? e.2
    return ((Entries.keys es).zip lists).foldl (fun r e => r.register (.text e.1) e.2) empty

/-- A question to a registry, or a change of it. -/
inductive Call
  | collections
  | knownFields (collection : Value)
  | isKnown (collection : Value)
  | register (collection fields : Value)

/-- The call of a name with its arguments. -/
def Call.ofParts? : String → List Value → Option Call
  | "collections", [] => some .collections
  | "known_fields", [c] => some (.knownFields c)
  | "is_known", [c] => some (.isKnown c)
  | "register", [c, fields] => some (.register c fields)
  | _, _ => none

/-- What a call answers and the registry after it; nothing if it has no reading. -/
def answer? (r : Registry) : Call → Option (Value × Registry)
  | .collections => (r.names?).map fun names => (.list names, r)
  | .knownFields c =>
    if !c.isKey then none
    else
      match r.knownFields c with
      | none => some (.null, r)
      | some fields => (Value.sorted? fields).map fun fs => (.list fs, r)
  | .isKnown c => if c.isKey then some (.bool (r.isKnown c), r) else none
  | .register c fields => do
    let fields ← fieldsOf? fields
    if c.isKey then some (.null, r.register c fields) else none

theorem find?_place_same (c : String) (fields : List Value) (es : List (Value × List Value)) :
    find? (.text c) (place (.text c) fields es) = some fields := by
  induction es with
  | nil => simp [place, find?, Value.same_text, Value.text?]
  | cons e es ih => by_cases h : e.1.same (.text c) <;> simp [place, find?, h, ih]

theorem find?_place_other {c d : String} (fields : List Value) (es : List (Value × List Value))
    (h : d ≠ c) : find? (.text d) (place (.text c) fields es) = find? (.text d) es := by
  induction es with
  | nil => simp [place, find?, Value.same_text, Value.text?, Ne.symm h]
  | cons e es ih =>
    by_cases hc : e.1.same (.text c)
    · have ht : e.1.text? = some c := by simpa [Value.same_text] using hc
      have hd : e.1.same (.text d) = false := by simp [Value.same_text, ht, Ne.symm h]
      simp [place, find?, hc, hd]
    · by_cases hd : e.1.same (.text d) <;> simp [place, find?, hc, hd, ih]

@[simp] theorem knownFields_register_same (r : Registry) (c : String) (f : Value)
    (fs : List Value) :
    (r.register (.text c) (f :: fs)).knownFields (.text c) = some (f :: fs) := by
  simp [register, knownFields, find?_place_same]

theorem knownFields_register_other (r : Registry) {c d : String} (fs : List Value)
    (h : d ≠ c) :
    (r.register (.text c) fs).knownFields (.text d) = r.knownFields (.text d) := by
  simp [register, knownFields, find?_place_other fs r.collections h]

end Registry

end Retrieval
