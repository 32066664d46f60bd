import Retrieval.Execution.Batch
import Retrieval.Json.Encode
import Retrieval.Result.Data

/-!
Responses of the service: a status and a body. A query that fails is answered with a status that
tells of the failure, and no failure has a status of success.
-/

namespace Retrieval.Api

open Value (levels)

structure Response where
  status : Nat
  body : Value

/-- The status for an error of a query. -/
def statusOf : QueryError → Int
  | .configuration _ => 400
  | .backend e =>
    match e.status with
    | .int status => if status = 0 then 500 else status
    | _ => 500
  | .exhausted .. => 503
  | .transport _ => 503
  | .response _ => 502
  | .general _ => 500
  | .invariant _ => 500

/-- The status that the backend answered with, if an error tells of one. -/
def backendStatus : QueryError → Value
  | .backend e => e.status
  | _ => .null

/-- What the backend said about an error. -/
def backendDetail : QueryError → Value
  | .backend e => e.detail
  | _ => .null

/-- The number of levels that values of no laid down shape have at most. -/
def maxLevels : Nat := 254

mutual

/-- A value with null for each number that JSON lacks. -/
def withoutOddNumbers : Value → Value
  | .float x => if Number.isFinite x then .float x else .null
  | .seq kind items => .seq kind (itemsWithoutOdd items)
  | .map es => .map (entriesWithoutOdd es)
  | v => v

def itemsWithoutOdd : List Value → List Value
  | [] => []
  | v :: vs => withoutOddNumbers v :: itemsWithoutOdd vs

def entriesWithoutOdd : List (String × Value) → List (String × Value)
  | [] => []
  | (k, v) :: es => (k, withoutOddNumbers v) :: entriesWithoutOdd es

end

/-- A value of no laid down shape as it is sent. -/
def looseData (v : Value) : Except Failure Value :=
  if levels v ≤ maxLevels then .ok (withoutOddNumbers v) else .error .tooNested

/-- A result as data. -/
def resultData (r : QueryResult) : Except Failure Value := do
  return (← r.mapData looseData).toValue

/-- An error as data. -/
def errorData (e : QueryError) : Except Failure Value := do
  return .map [("type", .text e.name), ("message", .text e.message),
    ("status_code", backendStatus e), ("detail", ← looseData (backendDetail e))]

/-- A slot of a batch as data. There the shape of results is not laid down. -/
def slotData : Slot → Except Failure Value
  | .ok r => do
    let loose ← mapEntries looseData (((← resultData r).entries?).getD [])
    return .map [("result", .map loose), ("error", .null)]
  | .error e => do return .map [("result", .null), ("error", ← errorData e)]

/-- A response that can be sent: its body has no number that JSON lacks, and only characters. -/
def Response.ofData (status : Nat) (body : Value) : Except Failure Response :=
  match Json.encode? body with
  | some s => if Text.isEncodable s then .ok ⟨status, body⟩ else .error .misuse
  | none => .error .notFinite

def resultResponse (r : QueryResult) : Except Failure Response := do
  Response.ofData 200 (← resultData r)

def errorResponse (e : QueryError) : Except Failure Response := do
  Response.ofData (statusOf e).toNat (← errorData e)

/-- The response to a batch. -/
def batchResponse (slots : List Slot) : Except Failure Response := do
  let failed := slots.countP Slot.isFailed
  Response.ofData 200 (.map [("results", .list (← slots.mapM slotData)),
    ("succeeded", .int (slots.length - failed : Nat)), ("failed", .int failed)])

/-- A response with a detail in words. -/
def refusal (status : Nat) (detail : String) : Response :=
  ⟨status, .map [("detail", .text detail)]⟩

def unauthorized : Response := refusal 401 "Invalid or missing API key."

def unparsable : Response := refusal 400 "There was an error parsing the body"

def notFound : Response := refusal 404 "Not Found"

def methodNotAllowed : Response := refusal 405 "Method Not Allowed"

def stepData : Schema.Step → Value
  | .field name => .text name
  | .index n => .int n

/-- The response to a body that breaks its schema. -/
def invalidBody (issues : List Schema.Issue) : Response :=
  ⟨422, .map [("detail", listOf (fun i : Schema.Issue =>
    .map [("loc", listOf stepData (.field "body" :: i.location)), ("type", .text i.kind.name)])
    issues)]⟩

end Retrieval.Api
