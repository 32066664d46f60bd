import Retrieval.Envelope.Fault
import Retrieval.Request
import Retrieval.Result

/-!
The errors of an answer that concern one member. In an answer to several members an error whose path
names a key belongs to that key; an error without such a path belongs to all members.
-/

namespace Retrieval.Envelope

open Schema

/-- A step of an error's path; what is neither a text nor an integer may still denote an integer. -/
def readStep : Reader ErrorStep
  | .text s => .valid (.name s)
  | .word s => .valid (.name s)
  | .int n => .valid (.index n)
  | v =>
    match integer v with
    | .valid n => .valid (.index n)
    | .invalid is =>
      .invalid (⟨[.field "str"], .stringType⟩
        :: is.map fun i => ⟨.field "int" :: i.location, i.kind⟩)

/-- Whether an error with this path is that of another member of the same request. -/
def isForeign (m : Member) (multiplexed : Bool) (path : List Value) : Bool :=
  multiplexed &&
    match path with
    | _ :: key :: _ => key.text? != some m.resultKey
    | _ => false

/-- The message of an error, which may be any value. -/
def messageOf (es : Entries Value) : String :=
  ((Entries.get? "message" es).getD (.text "")).display

/-- One reported error, unless it is that of another member. -/
def readError (m : Member) (multiplexed : Bool) : Value → Reading (Option ReportedError)
  | .map es => do
    let path ← elementsAt "path" es
    if isForeign m multiplexed path then return none
    let extensions ← blockAt "extensions" es
    some <$> checked
      (ReportedError.mk (messageOf es) <$> (items readStep path).under (.field "path")
        <*> given "code" (optional text) (field "code" extensions))
  | v => .ok (some ⟨v.display, [], none⟩)

/-- The errors among some values that concern a member. -/
def readErrors (m : Member) (multiplexed : Bool) : List Value → Reading (List ReportedError)
  | [] => .ok []
  | v :: vs => do
    let e ← readError m multiplexed v
    let es ← readErrors m multiplexed vs
    return e.toList ++ es

/-- The errors of an answer that concern a member. -/
def errorsFor (m : Member) (multiplexed : Bool) (envelope : Entries Value) :
    Reading (List ReportedError) := do
  readErrors m multiplexed (← elementsAt "errors" envelope)

/-- The place of an item of a member. -/
def itemPath (m : Member) (index : Nat) : List ErrorStep :=
  [.name m.operation.name, .name m.resultKey, .index index]

/-- Whether some error is at or below an item. -/
def isReported (m : Member) (errors : List ReportedError) (index : Nat) : Bool :=
  errors.any fun e => e.path.take 3 = itemPath m index

/-- The error for an item that is no mapping. -/
def droppedError (m : Member) (index : Nat) (item : Value) : ReportedError :=
  ⟨"Backend returned " ++ item.inner ++ " instead of an object.", itemPath m index, none⟩

/-- The errors for dropped items that are not reported yet. -/
def droppedErrors (m : Member) (errors : List ReportedError) (dropped : List (Nat × Value)) :
    List ReportedError :=
  dropped.filterMap fun (i, item) =>
    if isReported m errors i then none else some (droppedError m i item)

/-- The warning about a dropped item. -/
def droppedWarning (m : Member) (index : Nat) (item : Value) : Log.Entry :=
  ⟨.warning, s!"Dropping {item.kindName} item at [" ++ Text.quoted m.operation.name ++ ", " ++
    Text.quoted m.resultKey ++ s!", {index}] in response for " ++ Text.quoted m.collection ++ "."⟩

end Retrieval.Envelope
