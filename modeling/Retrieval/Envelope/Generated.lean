import Retrieval.Envelope.Records
import Retrieval.Log.Entry
import Retrieval.Request
import Retrieval.Template

/-!
The generated part of an answer. The backend puts it into the blocks of the records, and a part over
all records into the block of one of them.
-/

namespace Retrieval.Envelope

open Schema

/-- The error of a record for which nothing was generated. -/
def nothingGenerated : String := "No generation result returned for this record."

/-- A message filled in from a record. -/
def fillMessage (record : Entries Value) (m : ChatMessage) : Reading ChatMessage :=
  match Template.fill m.content record with
  | .ok content => .ok { m with content }
  | .error e => .error (.numeral e)

/-- What was generated for one record. A chat is filled in from the record. -/
def readEntry (chat : Option (List ChatMessage)) (r : RawRecord) : Reading GeneratedEntry := do
  let generated ← blockAt "generate" r.additional
  let result := field "singleResult" generated
  let error := field "error" generated
  let error :=
    match result, error with
    | .null, .null => .text nothingGenerated
    | _, e => e
  let prompt ←
    match chat with
    | none => pure none
    | some messages => some <$> messages.mapM (fillMessage r.record.properties)
  checked ((fun result error => ⟨r.record, result, error, prompt⟩)
    <$> given "result" (optional text) result <*> given "error" (optional text) error)

/-- The warning about records for which the generation failed. -/
def failedWarnings (m : Member) (entries : List GeneratedEntry) : List Log.Entry :=
  let failed := entries.countP GeneratedEntry.isFailed
  if failed = 0 then []
  else
    [⟨.warning, s!"Per-record generation failed for {failed} of {entries.length} records on " ++
      Text.quoted m.collection ++ "."⟩]

/-- What was generated over all records: the first block with a result or an error tells. -/
def readOverAll : List RawRecord → Reading Generated
  | [] => .ok (.overAll none none)
  | r :: rs => do
    let generated ← blockAt "generate" r.additional
    let result := field "groupedResult" generated
    let error := field "error" generated
    let isNull :=
      match result with
      | .null => true
      | _ => false
    if isNull && !error.isTruthy then readOverAll rs
    else
      checked (Generated.overAll <$> given "result" (optional text) result
        <*> given "error" (optional text) error)

mutual

/-- Whether a value can be a member of a set. -/
def isHashable : Value → Bool
  | .map _ => false
  | .seq .list _ => false
  | .seq .set _ => false
  | .seq .tuple items => areHashable items
  | _ => true

def areHashable : List Value → Bool
  | [] => true
  | v :: vs => isHashable v && areHashable vs

end

/-- Whether a record has the identifier that a value names. A null names records about which
something but no identifier is known. -/
def isNamedBy (r : Record) (v : Value) : Bool :=
  match r.metadata with
  | none => false
  | some m =>
    match m.id, v with
    | none, .null => true
    | some id, v => v.text? == some id
    | _, _ => false

/-- The records that an answer was drawn from; all, if it does not tell. -/
def readSources (records : List Record) : Value → Reading (List Record)
  | .null => .ok records
  | v =>
    match v.elements? with
    | none => .error .unreadable
    | some ids =>
      if areHashable ids then .ok (records.filter fun r => ids.any (isNamedBy r))
      else .error .unreadable

/-- The answer to a question: the first block with an answer tells. -/
def readAnswer (records : List Record) : List RawRecord → Reading Generated
  | [] => .ok (.answer none [] none)
  | r :: rs => do
    let answer ← blockAt "answer" r.additional
    if answer.isEmpty then readAnswer records rs
    else do
      let sources ← readSources records (field "sources" answer)
      checked ((fun text error => .answer text sources error)
        <$> given "text" (optional text) (field "result" answer)
        <*> given "error" (optional text) (field "error" answer))

/-- The generated part that a plan asks for, with the warnings about it. -/
def readGenerated (m : Member) (raw : List RawRecord) : GenerationPlan → Account Generated
  | .perRecord => perRecord none
  | .perRecordChat messages => perRecord (some messages)
  | .overAll => ⟨[], readOverAll raw⟩
  | .answer => ⟨[], readAnswer (raw.map RawRecord.record) raw⟩
where
  perRecord (chat : Option (List ChatMessage)) : Account Generated :=
    match raw.mapM (readEntry chat) with
    | .ok entries => ⟨failedWarnings m entries, .ok (.perRecord entries)⟩
    | .error e => ⟨[], .error e⟩

end Retrieval.Envelope
