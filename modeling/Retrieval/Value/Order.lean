import Retrieval.Number.Double
import Retrieval.Value.Basic

/-!
When two values are the same, and which of two comes first. Numbers are compared by what they
measure, whatever their kind, and truth values count as zero and one. Texts are compared by their
characters. Values of different families are never the same, and have no order.
-/

namespace Retrieval.Value

/-- The exact number that a value measures. -/
def number? : Value → Option Number.Parts
  | .bool b => some (Number.partsOfInt (if b then 1 else 0))
  | .int n => some (Number.partsOfInt n)
  | .float x => some (Number.parts x)
  | _ => none

/-- Whether two scalars are the same. -/
def sameScalar (a b : Value) : Bool :=
  match a.number?, b.number? with
  | some x, some y => x.compare? y == some .eq
  | some _, none => false
  | none, some _ => false
  | none, none =>
    match a.text?, b.text? with
    | some s, some t => s == t
    | some _, none => false
    | none, some _ => false
    | none, none =>
      match a, b with
      | .null, .null => true
      | .date d, .date e => d == e
      | .dateTime t, .dateTime u => t == u
      | _, _ => false

mutual

/-- Whether two values are the same. -/
def same : Value → Value → Bool
  | .seq .list xs, .seq .list ys => sameItems xs ys
  | .seq .tuple xs, .seq .tuple ys => sameItems xs ys
  | .seq .set xs, .seq .set ys => sameItems xs ys
  | .seq .set xs, .seq .frozenSet ys => sameItems xs ys
  | .seq .frozenSet xs, .seq .set ys => sameItems xs ys
  | .seq .frozenSet xs, .seq .frozenSet ys => sameItems xs ys
  | .map es, .map fs => es.length == fs.length && sameEntries es fs
  | a, b => sameScalar a b

def sameItems : List Value → List Value → Bool
  | [], [] => true
  | x :: xs, y :: ys => same x y && sameItems xs ys
  | _, _ => false

/-- Whether each entry of the first mapping is in the second. -/
def sameEntries : List (String × Value) → Entries Value → Bool
  | [], _ => true
  | (k, v) :: es, fs =>
    (match Entries.get? k fs with
      | some w => same v w
      | none => false) && sameEntries es fs

end

mutual

/-- Whether a value can be a key: nothing that may change later can. -/
def isKey : Value → Bool
  | .seq .tuple items => areKeys items
  | .seq .frozenSet _ => true
  | .seq .list _ => false
  | .seq .set _ => false
  | .map _ => false
  | _ => true

def areKeys : List Value → Bool
  | [] => true
  | v :: vs => isKey v && areKeys vs

end

def isMember (v : Value) (vs : List Value) : Bool := vs.any (same v)

/-- The values without repetitions, the first of each being kept. -/
def distinct (vs : List Value) : List Value :=
  (vs.foldl (fun seen v => if isMember v seen then seen else v :: seen) []).reverse

/-- Whether one scalar comes before another; nothing if they have no order. -/
def scalarBefore? (a b : Value) : Option Bool :=
  match a.number?, b.number? with
  | some x, some y => some (x.compare? y == some .lt)
  | _, _ =>
    match a.text?, b.text? with
    | some s, some t => some (s < t)
    | _, _ =>
      match a, b with
      | .date d, .date e => some (d.iso < e.iso)
      | _, _ => none

mutual

/-- Whether one value comes before another; nothing if they have no order. -/
def before? : Value → Value → Option Bool
  | .seq .list xs, .seq .list ys => itemsBefore? xs ys
  | .seq .tuple xs, .seq .tuple ys => itemsBefore? xs ys
  | a, b => scalarBefore? a b

/-- The first items that differ decide. -/
def itemsBefore? : List Value → List Value → Option Bool
  | [], ys => some (!ys.isEmpty)
  | _ :: _, [] => some false
  | x :: xs, y :: ys => if same x y then itemsBefore? xs ys else before? x y

end

/-- Whether any two of some values have an order. -/
def areOrdered : List Value → Bool
  | [] => true
  | v :: vs => vs.all (fun w => (before? v w).isSome) && areOrdered vs

/-- The values in order; nothing if two of them have none. -/
def sorted? (vs : List Value) : Option (List Value) :=
  if areOrdered vs then some (vs.mergeSort fun a b => before? b a != some true) else none

@[simp] theorem sorted?_nil : sorted? [] = some [] := by simp [sorted?, areOrdered]

/-- A value is the same as a text exactly if it has that text. -/
theorem same_text (v : Value) (s : String) : same v (.text s) = (v.text? == some s) := by
  cases v with
  | seq kind items => cases kind <;> simp [same, sameScalar, number?, text?]
  | _ => simp [same, sameScalar, number?, text?]

end Retrieval.Value
