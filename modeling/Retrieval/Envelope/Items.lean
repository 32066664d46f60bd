import Retrieval.Envelope.Errors

/-!
The items of a member's section. Items that are no mappings are dropped, each with a warning and an
error, and the other items are read as if they alone were there.
-/

namespace Retrieval.Envelope

/-- The section of a member: an absent one is empty. -/
def section? (m : Member) (envelope : Entries Value) : Reading (List Value) := do
  let data ← blockAt "data" envelope
  let block ← blockAt m.operation.name data
  match Entries.get? m.resultKey block with
  | none => return []
  | some (.seq .list items) => return items
  | some v =>
    if v.isTruthy then .error (.notAList m.operation.name m.resultKey v.kindName) else return []

/-- The totals that an answer gives; null if it gives none. -/
def totalsOf (envelope : Entries Value) : Reading Value := do
  return field "totals" (← blockAt "extensions" envelope)

/-- The total of a member among some totals; null if there is none. -/
def totalOf (m : Member) (totals : Value) : Reading Value := do
  return field m.resultKey (← block (some totals))

/-- The items that come to an end of reading: those dropped on the way, with their positions, and
what the others are read as. -/
structure ItemsRead (α : Type) where
  dropped : List (Nat × Value)
  outcome : Reading (List α)

variable {α : Type}

/-- Reads the items from position `n` on, up to the first that cannot be read. -/
def readItems (read : Entries Value → Reading α) : Nat → List Value → ItemsRead α
  | _, [] => ⟨[], .ok []⟩
  | n, .map es :: rest =>
    match read es with
    | .error e => ⟨[], .error e⟩
    | .ok a =>
      let more := readItems read (n + 1) rest
      ⟨more.dropped, more.outcome.map (a :: ·)⟩
  | n, v :: rest =>
    let more := readItems read (n + 1) rest
    ⟨(n, v) :: more.dropped, more.outcome⟩

/-- The mappings among some items. -/
def mappings (items : List Value) : List (Entries Value) := items.filterMap Value.entries?

/-- Only mappings are read, each by itself. -/
theorem readItems_outcome (read : Entries Value → Reading α) (n : Nat) (items : List Value) :
    (readItems read n items).outcome = (mappings items).mapM read := by
  induction items generalizing n with
  | nil => rfl
  | cons v rest ih =>
    cases v with
    | map es =>
      have hm : mappings (.map es :: rest) = es :: mappings rest := rfl
      rw [hm, List.mapM_cons]
      cases hr : read es with
      | error e => simp [readItems, hr]; rfl
      | ok a =>
        simp only [readItems, hr, ih]
        cases (mappings rest).mapM read <;> rfl
    | _ => exact ih (n + 1)

end Retrieval.Envelope
