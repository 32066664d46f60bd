import Retrieval.Credentials
import Retrieval.Execution.Run
import Retrieval.Http.Call
import Retrieval.Json.Encoding
import Retrieval.Settings.Lookup

/-!
The client of the backend. It speaks the errors of queries: a failing status and a failing network
are errors of the backend and of the transport.
-/

namespace Retrieval.Http

open Retrieval.Text

/-- A client as settings describe it. -/
structure Client where
  baseUrl : String
  endpoint : String
  /-- The time limit of a request that has no limit of its own. -/
  limit : Value

/-- The state of a client: whether it is open, its credentials, and what the network does next. -/
structure Link where
  isOpen : Bool := false
  credentials : Credentials
  exchanges : List Exchange

namespace Client

/-- The first part of the names of the client's settings. -/
def settingsStart : String := "SEARCH_GRAPHQL"

def kind : String := "search"

def engine : String := "graphql"

def ofSettings (s : Settings) : Except SettingError Client := do
  let limit ← s.numberOr "SEARCH_TIMEOUT" (.float 30.0)
  let baseUrl ← s.text (settingsStart ++ "_BASE_URL") none
  return { baseUrl, endpoint := s.textOr (settingsStart ++ "_ENDPOINT") "/v1/graphql", limit }

/-- The client of the engine that settings name. There is one engine. -/
def ofEngine (s : Settings) : Except SettingError Client :=
  let name := capitalized (lower (stripped (s.textOr "SEARCH_ENGINE" "graphql")))
  if name = capitalized engine then ofSettings s else .error (.unsupportedEngine name)

/-- A setting of the client, of a kind given by name. -/
def setting (s : Settings) (key : String) (fallback : Value) (kindName : String) :
    Except Failure Value :=
  match Settings.clientKinds.lookup kindName with
  | some wanted => s.lookup (settingsStart ++ "_" ++ upper key) fallback wanted
  | none => .error (.setting (.unknownKind kindName key (upper kind) engine))

/-- A path with one slash before it; a blank path is none. -/
def endpointPath (endpoint : String) : String :=
  let path := trim endpoint.toList
  if path.isEmpty then "" else String.ofList ('/' :: path.dropWhile (· == '/'))

/-- The address of an endpoint. -/
def address (c : Client) (endpoint : String) : String :=
  String.ofList (c.baseUrl.toList.reverse.dropWhile (· == '/')).reverse ++ endpointPath endpoint

/-- The length to which texts of answers are shown. -/
def shownLength : Nat := 500

def shown (body : String) : String := String.ofList (body.toList.take shownLength)

/-- The data in a body; nothing if it is no data. A body with too many levels has no reading. -/
def dataOf (body : String) : Except Failure (Option Value) :=
  match Json.decodeBody body with
  | .ok v => .ok (some v)
  | .error .tooDeep => .error .misuse
  | .error _ => .ok none

def failureText (url : String) (a : Answer) : String :=
  s!"Request to {url} failed with status {a.status}: " ++ shown a.body

/-- The failure that an answer tells of; its data say more about it, or else its text. -/
def failureOf (url : String) (a : Answer) : Failure :=
  match dataOf a.body with
  | .ok v => .query (.backend (BackendError.ofStatus a.status (v.getD (.text a.body)) url))
  | .error e => e

/-- The next exchange of the network. -/
def exchange : Run Link (Option Exchange) := do
  let link ← Run.get
  match link.exchanges with
  | [] => return none
  | e :: rest => do
    Run.set { link with exchanges := rest }
    return some e

/-- The value of the authorization header of the next request. -/
def authorize : Run Link (Option (Option String)) := do
  let link ← Run.get
  match link.credentials.header? with
  | none => return none
  | some (value, credentials) => do
    Run.set { link with credentials }
    return some value

/-- The end of a call to an address. -/
def settle (url : String) (isChecked : Bool) :
    Exchange → Run Link (Except Failure Answer)
  | .timedOut cause => return .error (.query (.transport (.timedOut url cause)))
  | .failed cause => return .error (.query (.transport (.failed url cause)))
  | .answered a =>
    if isChecked && 300 ≤ a.status then do
      Run.log .error (failureText url a)
      return .error (failureOf url a)
    else return .ok a

/-- Sends a message that is ready. The answer to one that was sent nowhere is not looked at. -/
def deliver (url : String) (isChecked : Bool) (p : Prepared) :
    Run Link (Except Failure Answer) := do
  Run.emit (.posted p.sent)
  match ← exchange with
  | none => return .error .misuse
  | some (.answered a) =>
    if p.isAbsolute then settle url isChecked (.answered a)
    else return .error (.unknownAddress p.sent.url)
  | some e => settle url isChecked e

/-- Makes a call. -/
def request (c : Client) (call : Call) : Run Link (Except Failure Answer) := do
  if !(← Run.get).isOpen then return .error .notBooted
  else
    match call.endpoint.text? with
    | none => return .error .misuse
    | some endpoint =>
      match ← authorize with
      | none => return .error .misuse
      | some authorization =>
        let own := authorization.toList.map fun value => ("Authorization", value)
        match call.prepare (c.address endpoint) own c.limit with
        | .error e => return .error e
        | .ok p => deliver (c.address endpoint) call.isChecked p

/-- The envelope of an answer: its data, its errors, and its extensions if there are any. -/
def envelopeOf (raw : Entries Value) : Value :=
  let part (name : String) : Value := (Entries.get? name raw).getD .null
  let errors := part "errors"
  let extensions := part "extensions"
  .map ([("data", part "data"), ("errors", if errors.isTruthy then errors else .list [])]
    ++ if extensions.isTruthy then [("extensions", extensions)] else [])

/-- The envelope in an answer; an answer that is not JSON is an error of the backend. -/
def readAnswer (a : Answer) : Except Failure Value :=
  match dataOf a.body with
  | .error e => .error e
  | .ok none => .error (.query (.backend ⟨.server, .notJson, .int a.status, .text (shown a.body)⟩))
  | .ok (some (.map raw)) => .ok (envelopeOf raw)
  | .ok (some _) => .error .misuse

/-- Sends a request to the backend. -/
def send (c : Client) (r : Request) (limit : Option Value) : Run Link (Except Failure Value) := do
  let answer ← c.request {
    method := .text "POST", content := .text r.body, endpoint := .text c.endpoint,
    headers := .map [("Content-Type", .text "application/json")], isChecked := true, limit }
  return answer.bind readAnswer

/-- Asks the backend whether it is ready. -/
def healthcheck (c : Client) : Run Link (Except Failure Answer) :=
  c.request { endpoint := .text "/v1/.well-known/ready", isChecked := true }

/-- The reply that the result of a request stands for. -/
def replyOf : Except Failure Value → Reply
  | .ok v => .envelope v
  | .error (.query e) => .failed e
  | .error e => .broken e

/-- The client as the backend of queries. -/
def transport (c : Client) : Transport Link := fun r _ limit => do
  return replyOf (← c.send r (limit.map .float))

end Client

end Retrieval.Http
