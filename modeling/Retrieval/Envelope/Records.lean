import Retrieval.Envelope.Fault
import Retrieval.Result
import Retrieval.Selection.Fold

/-!
Records of an answer: their properties, with the elements that were selected by index put back into
their lists, and what the search says about them.
-/

namespace Retrieval.Envelope

open Schema

/-- The field that holds what is said about a record. -/
def additionalField : String := "_additional"

def readCorrection (v : Value) : Reading Correction := do
  let es ← fieldsOf v
  let part (name : String) : Value := (Entries.get? name es).getD (.text "")
  checked (Correction.mk <$> given "original" text (part "original")
    <*> given "corrected" text (part "corrected"))

def readSpellCheck (v : Value) : Reading SpellCheck := do
  let es ← fieldsOf v
  let changes ← (← elementsAt "changes" es).mapM readCorrection
  let number := field "numberOfCorrections" es
  checked ((fun typed meant location count => ⟨typed, meant, location, count, changes⟩)
    <$> given "original_text" (optional text) (field "originalText" es)
    <*> given "did_you_mean" (optional text) (field "didYouMean" es)
    <*> given "location" (optional text) (field "location" es)
    <*> given "number_of_corrections" integer (if number.isTruthy then number else .int 0))

/-- A score, which some backends give as text; what denotes no number is no score. -/
def readScore : Value → Reading (Option Float)
  | .int n =>
    match Number.ofInt? n with
    | some x => .ok (some x)
    | none => .error .tooLarge
  | .float x => .ok (some x)
  | .bool b => .ok (some (if b then 1.0 else 0.0))
  | .text s => .ok (Number.readReal s).toOption
  | .word s => .ok (Number.readReal s).toOption
  | _ => .ok none

/-- The block with a record's place in the second ordering: a list stands for its first element. -/
def rerankBlock (additional : Entries Value) : Reading (Entries Value) :=
  match Entries.get? "rerank" additional with
  | some (.seq .list items) => block items.head?
  | v => block v

/-- What is said about a record; nothing if every part of it is absent. -/
def readMetadata (additional : Entries Value) : Reading (Option Metadata) :=
  if additional.isEmpty then .ok none
  else do
    let score ← readScore (field "score" additional)
    let rerank ← rerankBlock additional
    let spellCheck ← (← elementsAt "spellCheck" additional).mapM readSpellCheck
    let m ← checked
      ((fun id certainty distance rerankScore group =>
          ⟨id, certainty, distance, score, rerankScore, spellCheck, group⟩)
        <$> given "id" (optional text) (field "id" additional)
        <*> given "certainty" (optional real) (field "certainty" additional)
        <*> given "distance" (optional real) (field "distance" additional)
        <*> given "rerank_score" (optional real) (field "score" rerank)
        <*> given "group" (optional (mapping anything)) (field "group" additional))
    return if m.isEmpty then none else some m

/-- A record, with what is said about it as it came. -/
structure RawRecord where
  record : Record
  additional : Entries Value

/-- Reads an item of a section. -/
def readRecord (selection : SelectionTree) (item : Entries Value) : Reading RawRecord := do
  let additional ← blockAt additionalField item
  let properties := SelectionTree.fold selection (Entries.erase additionalField item)
  let metadata ← readMetadata additional
  return ⟨⟨properties, metadata⟩, additional⟩

end Retrieval.Envelope
