import Retrieval.Value.Order

/-!
Mappings given as values: as mappings, or as sequences of pairs of which the last for a key counts.
-/

namespace Retrieval

/-- Why a value is no mapping. -/
inductive PairError
  /-- An element is no pair, but has some other length. -/
  | length (position size : Nat)
  | shape
  deriving DecidableEq, Repr

/-- The message of an error that has one. -/
def PairError.message? : PairError → Option String
  | .length position size =>
    some (s!"dictionary update sequence element #{position} has length {size}; 2 is required")
  | .shape => none

namespace Value

/-- The pair that an element at a position is. -/
def pair (position : Nat) (v : Value) : Except PairError (Value × Value) :=
  match v.elements? with
  | none => .error .shape
  | some [key, value] => if key.isKey then .ok (key, value) else .error .shape
  | some vs => .error (.length position vs.length)

/-- The pairs from a position on. -/
def pairsFrom : Nat → List Value → Except PairError (List (Value × Value))
  | _, [] => .ok []
  | n, v :: vs => do
    let p ← pair n v
    return p :: (← pairsFrom (n + 1) vs)

/-- The pairs that a value consists of. -/
def pairs : Value → Except PairError (List (Value × Value))
  | .map es => .ok (es.map fun e => (.text e.1, e.2))
  | v =>
    match v.elements? with
    | some vs => pairsFrom 0 vs
    | none => .error .shape

/-- The pairs whose keys are texts, as a mapping. -/
def textEntries (ps : List (Value × Value)) : Entries Value :=
  ps.foldl (fun es p =>
    match p.1.text? with
    | some key => Entries.set key p.2 es
    | none => es) []

end Value

end Retrieval
