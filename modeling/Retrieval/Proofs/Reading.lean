import Retrieval.Envelope.Normal
import Retrieval.Proofs.Traversal

/-!
How the parts of an answer are read for a member. A member enters the reading through the key of its
section, its total and its errors; what is made of the items depends on the clause alone.
-/

namespace Retrieval

namespace Envelope

open Schema

/-- A part that can be looked into: it is absent, null or a mapping. -/
def IsFields (v : Option Value) : Prop := v = none ∨ v = some .null ∨ ∃ es, v = some (.map es)

/-- A part that can be walked through: it is absent, null or a list. -/
def IsItems (v : Option Value) : Prop :=
  v = none ∨ v = some .null ∨ ∃ items, v = some (.seq .list items)

/-- The fields of a part that can be looked into. -/
def fieldsIn : Option Value → Entries Value
  | some (.map es) => es
  | _ => []

/-- The items of a part that can be walked through. -/
def itemsIn : Option Value → List Value
  | some (.seq .list items) => items
  | _ => []

theorem block_of_isFields {v : Option Value} (h : IsFields v) : block v = .ok (fieldsIn v) := by
  obtain rfl | rfl | ⟨es, rfl⟩ := h <;> rfl

theorem elements_of_isItems {v : Option Value} (h : IsItems v) : elements v = .ok (itemsIn v) := by
  obtain rfl | rfl | ⟨items, rfl⟩ := h
  · rfl
  · rfl
  · cases items <;> rfl

/-- The fields of a part inside a mapping. -/
def inside (name : String) (es : Entries Value) : Entries Value := fieldsIn (Entries.get? name es)

theorem elementsAt_of_get? {name : String} {es : Entries Value} {items : List Value}
    (h : Entries.get? name es = some (.list items)) : elementsAt name es = .ok items := by
  rw [elementsAt, h]
  exact elements_of_isItems (.inr (.inr ⟨items, rfl⟩))

theorem blockAt_of_isFields {name : String} {es : Entries Value}
    (h : IsFields (Entries.get? name es)) : blockAt name es = .ok (inside name es) :=
  block_of_isFields h

theorem block_field {name : String} {es : Entries Value} (h : IsFields (Entries.get? name es)) :
    block (some (field name es)) = .ok (inside name es) := by
  unfold field inside
  obtain h | h | ⟨fs, h⟩ := h <;> rw [h] <;> rfl

variable {m n : Member} {multiplexed : Bool}

theorem section?_of_isItems {envelope data es : Entries Value}
    (hdata : blockAt "data" envelope = .ok data) (hes : blockAt m.operation.name data = .ok es)
    (h : IsItems (Entries.get? m.resultKey es)) :
    (section? m envelope) = .ok (itemsIn (Entries.get? m.resultKey es)) := by
  unfold section?
  rw [hdata, ok_bind, hes, ok_bind]
  obtain h | h | ⟨items, h⟩ := h <;> rw [h] <;> rfl

theorem readErrors_append (vs ws : List Value) :
    readErrors m multiplexed (vs ++ ws) = (do
      let es ← readErrors m multiplexed vs
      let fs ← readErrors m multiplexed ws
      return es ++ fs) := by
  induction vs with
  | nil =>
    rw [List.nil_append]
    cases readErrors m multiplexed ws <;> rfl
  | cons v rest ih =>
    rw [List.cons_append, readErrors, readErrors, ih]
    cases readError m multiplexed v with
    | error fault => rfl
    | ok e =>
      cases readErrors m multiplexed rest with
      | error fault => rfl
      | ok es =>
        cases readErrors m multiplexed ws with
        | error fault => rfl
        | ok fs => exact congrArg Except.ok (List.append_assoc ..).symm

/-- Errors of other members leave nothing. -/
theorem readErrors_foreign {vs : List Value}
    (h : ∀ v ∈ vs, readError m multiplexed v = .ok none) :
    readErrors m multiplexed vs = .ok [] := by
  induction vs with
  | nil => rfl
  | cons v rest ih =>
    rw [readErrors, h v (by simp), ih fun w hw => h w (by simp [hw])]
    rfl

/-- The parts of an answer, given how each of them is reached. -/
theorem partsOf_eq {es : Entries Value} {reports items : List Value} {totals : Value}
    (hreports : elementsAt "errors" es = .ok reports) (hitems : section? m es = .ok items)
    (htotals : totalsOf es = .ok totals) :
    partsOf m multiplexed (.map es) =
      (readErrors m multiplexed reports).map fun errors => (errors, items, totals) := by
  unfold partsOf errorsFor
  rw [fieldsOf, ok_bind, hreports, ok_bind, hitems, htotals]
  cases readErrors m multiplexed reports <;> rfl

/-- The result that the parts of an answer give. -/
def readParts (m : Member) (parts : List ReportedError × List Value × Value) :
    Reading QueryResult :=
  match m.operation with
  | .aggregate =>
    (accountOf m parts.1 (readItems readGroup 0 parts.2.1) (finishGroups m parts.2.2)).outcome
  | .get =>
    (accountOf m parts.1 (readItems (readRecord m.selection) 0 parts.2.1)
      (finishRecords m parts.2.2)).outcome

theorem normalize_outcome (v : Value) :
    (normalize m multiplexed v).outcome = partsOf m multiplexed v >>= readParts m := by
  unfold normalize readParts
  cases partsOf m multiplexed v with
  | error fault => rfl
  | ok parts => cases m.operation <;> rfl

theorem accountOf_outcome {α : Type} (errors : List ReportedError) (read : ItemsRead α)
    (finish : List α → List ReportedError → Account QueryResult) :
    (accountOf m errors read finish).outcome = (do
      let parts ← read.outcome
      (finish parts (errors ++ droppedErrors m errors read.dropped)).outcome) := by
  unfold accountOf
  cases read.outcome <;> rfl

/-- The result that groups with a total give. -/
def groupResult (collection : String) (total : Value) (groups : List Group)
    (errors : List ReportedError) : Reading QueryResult := do
  let total :=
    match total, sumOfCounts groups with
    | .null, some n => .int n
    | t, _ => t
  let extent ← extentOf groups.length total
  return .groups ⟨collection, groups, extent, errors⟩

theorem finishGroups_outcome (totals : Value) (groups : List Group) (errors : List ReportedError) :
    (finishGroups m totals groups errors).outcome = (do
      let total ← totalOf m totals
      groupResult m.collection total groups errors) := by
  unfold finishGroups groupResult
  rfl

/-- The result that records with a total give. -/
def recordResult (m : Member) (total : Value) (raw : List RawRecord)
    (errors : List ReportedError) : Reading QueryResult := do
  let extent ← extentOf raw.length total
  let generated ←
    match m.generation with
    | none => pure none
    | some plan => some <$> (readGenerated m raw plan).outcome
  return .records ⟨m.collection, raw.map RawRecord.record, extent, generated, errors⟩

theorem finishRecords_outcome (totals : Value) (raw : List RawRecord)
    (errors : List ReportedError) :
    (finishRecords m totals raw errors).outcome = (do
      let total ← totalOf m totals
      recordResult m total raw errors) := by
  unfold finishRecords recordResult
  cases totalOf m totals with
  | error fault => rfl
  | ok total =>
    rw [ok_bind, ok_bind]
    cases extentOf raw.length total with
    | error fault => rfl
    | ok extent =>
      cases m.generation with
      | none => rfl
      | some plan => cases h : (readGenerated m raw plan).outcome <;> simp [h, Except.map] <;> rfl

end Envelope

end Retrieval
