import Retrieval.Envelope.Generated
import Retrieval.Envelope.Groups
import Retrieval.Envelope.Items

/-!
The result of a member, read from an answer of the backend. Data that came is read even if the
answer also reports errors.
-/

namespace Retrieval.Envelope

open Schema

/-- The size of a result and the total that goes with it. -/
def extentOf (count : Nat) (total : Value) : Reading Extent :=
  checked (Extent.mk count <$> given "total" (optional integer) total)

/-- What is read from the items of a section: warnings for the dropped items, then what the rest of
the reading tells. -/
def accountOf {α : Type} (m : Member) (errors : List ReportedError) (read : ItemsRead α)
    (finish : List α → List ReportedError → Account QueryResult) : Account QueryResult :=
  let warnings := read.dropped.map fun (i, item) => droppedWarning m i item
  match read.outcome with
  | .error e => ⟨warnings, .error e⟩
  | .ok parts =>
    let last := finish parts (errors ++ droppedErrors m errors read.dropped)
    ⟨warnings ++ last.entries, last.outcome⟩

/-- The result of a member that asks for statistics. -/
def finishGroups (m : Member) (totals : Value) (groups : List Group)
    (errors : List ReportedError) : Account QueryResult :=
  ⟨[], do
    let total :=
      match ← totalOf m totals, sumOfCounts groups with
      | .null, some n => .int n
      | t, _ => t
    let extent ← extentOf groups.length total
    return .groups ⟨m.collection, groups, extent, errors⟩⟩

/-- The result of a member that asks for records. -/
def finishRecords (m : Member) (totals : Value) (raw : List RawRecord)
    (errors : List ReportedError) : Account QueryResult :=
  match totalOf m totals >>= extentOf raw.length with
  | .error e => ⟨[], .error e⟩
  | .ok extent =>
    let result (generated : Option Generated) : QueryResult :=
      .records ⟨m.collection, raw.map RawRecord.record, extent, generated, errors⟩
    match m.generation with
    | none => ⟨[], .ok (result none)⟩
    | some plan =>
      let part := readGenerated m raw plan
      ⟨part.entries, part.outcome.map fun g => result (some g)⟩

/-- The parts of an answer that concern a member: its errors, its items and all totals. -/
def partsOf (m : Member) (multiplexed : Bool) (envelope : Value) :
    Reading (List ReportedError × List Value × Value) := do
  let es ← fieldsOf envelope
  let errors ← errorsFor m multiplexed es
  let items ← section? m es
  return (errors, items, ← totalsOf es)

/-- The result of a member. -/
def normalize (m : Member) (multiplexed : Bool) (envelope : Value) : Account QueryResult :=
  match partsOf m multiplexed envelope with
  | .error e => ⟨[], .error e⟩
  | .ok (errors, items, totals) =>
    match m.operation with
    | .aggregate => accountOf m errors (readItems readGroup 0 items) (finishGroups m totals)
    | .get =>
      accountOf m errors (readItems (readRecord m.selection) 0 items) (finishRecords m totals)

end Retrieval.Envelope
