import Retrieval.Api.Assembly
import Retrieval.Api.Response
import Retrieval.Api.Route
import Retrieval.Http.Client

/-!
The service: it answers calls that carry the configured key with the results of the queries in their
bodies.
-/

namespace Retrieval.Api

open Retrieval.Http (Client Link)

/-- The body of a call: data as they are sent, or a text that may or may not be JSON. -/
inductive Payload
  | empty
  | data (v : Value)
  | text (s : String)

structure Call where
  method : String
  path : String
  headers : Entries String
  payload : Payload

/-- A service that runs: its settings and what it runs queries with. -/
structure Service where
  settings : Settings
  client : Client
  engine : Engine Link

/-- What a call ends in; a failure breaks off the call without a response. -/
abbrev Served : Type := Run (Standing Link) (Except Failure Response)

/-- The name of the setting that holds the key. -/
def keySetting : String := "APP_API_KEY"

/-- The first header of a name, which is given in small letters. -/
def header? (name : String) (headers : Entries String) : Option String :=
  (headers.find? fun h => h.1.toLower == name).map (·.2)

/-- Whether a call carries the key. Keys are compared only if both are within ASCII. -/
def isAuthorized (s : Settings) (headers : Entries String) : Except Failure Bool := do
  let expected ← (s.text keySetting none).mapError .setting
  let provided := (header? "x-api-key" headers).getD ""
  if provided.isEmpty then return false
  else if Http.Call.isAscii provided && Http.Call.isAscii expected then return provided == expected
  else .error .misuse

/-- Whether a kind of content is JSON. -/
def isJsonContent (kind : String) : Bool :=
  let name := Text.lower (String.ofList (Text.trim (kind.toList.takeWhile (· != ';'))))
  name == "application/json"
    || (name.startsWith "application/" && name.endsWith "+json" && name.toList.count '/' = 1)

/-- Whether the body of a call is to be read as JSON; so it is if nothing is said about it. -/
def isJson (headers : Entries String) : Bool :=
  match header? "content-type" headers with
  | none => true
  | some kind => kind.isEmpty || isJsonContent kind

/-- What the body of a call holds: nothing, data, or something else. -/
inductive Content
  | nothing
  | data (v : Value)
  | other

/-- Reads a payload; a text that is no JSON is answered at once. -/
def contentOf (c : Call) : Except Response Content :=
  match c.payload with
  | .empty => .ok .nothing
  | .data .null => .ok .nothing
  | .data v => .ok (if isJson c.headers then .data v else .other)
  | .text s =>
    if s.isEmpty then .ok .nothing
    else if !isJson c.headers then .ok .other
    else
      match Json.decodeBody s with
      | .ok v => .ok (.data v)
      | .error .malformed => .error (invalidBody [⟨[], .jsonInvalid⟩])
      | .error _ => .error unparsable

/-- The content of a call under a schema. -/
def readContent {α : Type} (read : Schema.Reader α) : Content → Schema.Checked α
  | .nothing => .refuse .missing
  | .data v => read v
  | .other => .refuse .modelType

def executingText (collection : String) : String :=
  "Executing query on collection " ++ Text.quoted collection

def returnedText (collection : String) (size : Nat) : String :=
  "Query on " ++ Text.quoted collection ++ s!" returned {size} item(s)"

def failedText (collection : String) (e : QueryError) : String :=
  "Query on " ++ Text.quoted collection ++ " failed: " ++ e.message

/-- Runs the query of a body. -/
def runQuery (s : Service) (b : QueryBody) :
    Run (Standing Link) (Except Failure QueryResult) :=
  match b.assemble s.engine.registry with
  | .error e => return .error e.toFailure
  | .ok q => Execution.execute s.engine (.query q)

/-- Answers a call for one query. -/
def serveQuery (s : Service) (b : QueryBody) : Served := do
  Run.log .info (executingText b.collection)
  match ← runQuery s b with
  | .ok r => do
    Run.log .info (returnedText b.collection r.size)
    return resultResponse r
  | .error (.query e) => do
    Run.log .warning (failedText b.collection e)
    return errorResponse e
  | .error e => return .error e

/-- The queries of the bodies, or their errors; what has no reading breaks off. -/
def assembleAll (registry : Option Registry) :
    List QueryBody → Except Failure (List (Except ConfigurationError Query))
  | [] => .ok []
  | b :: bs =>
    match b.assemble registry with
    | .error .misuse => .error .misuse
    | .error (.refused e) => (assembleAll registry bs).map (.error e :: ·)
    | .ok q => (assembleAll registry bs).map (.ok q :: ·)

/-- The queries that could be assembled. -/
def assembled (inputs : List (Except ConfigurationError Query)) : List Query :=
  inputs.filterMap fun i =>
    match i with
    | .ok q => some q
    | .error _ => none

/-- Puts the slots of the queries that were run among those of the others. -/
def placeSlots : List (Except ConfigurationError Query) → List Slot → List Slot
  | [], _ => []
  | .error e :: rest, slots => .error (.configuration e) :: placeSlots rest slots
  | .ok _ :: rest, slot :: slots => slot :: placeSlots rest slots
  | .ok _ :: rest, [] => placeSlots rest []

/-- Runs the queries of a batch. -/
def runBatch (s : Service) (strategy : Option BatchStrategy) (queries : List Query) :
    Run (Standing Link) (Except Failure (List Slot)) :=
  if queries.isEmpty then return .ok []
  else
    Execution.executeBatch s.engine (strategy.getD s.engine.strategy) (queries.map .query)

/-- Answers a call for a batch. -/
def serveBatch (s : Service) (b : BatchBody) : Served := do
  Run.log .info s!"Batch query received with {b.queries.length} queries"
  match assembleAll s.engine.registry b.queries with
  | .error e => return .error e
  | .ok inputs =>
    match ← runBatch s b.strategy (assembled inputs) with
    | .error e => return .error e
    | .ok slots => return batchResponse (placeSlots inputs slots)

/-- Answers a call whose body has been read: the key comes before the schema of the body. -/
def serveContent {α : Type} (s : Service) (c : Call) (content : Content)
    (read : Schema.Reader α) (serve : α → Served) : Served :=
  match isAuthorized s.settings c.headers with
  | .error e => return .error e
  | .ok false => return .ok unauthorized
  | .ok true =>
    match readContent read content with
    | .invalid issues => return .ok (invalidBody issues)
    | .valid b => serve b

/-- Whether the body of a call can be sent. -/
def Payload.check : Payload → Except Failure Unit
  | .empty => .ok ()
  | .text s => if Text.isEncodable s then .ok () else .error .misuse
  | .data v =>
    match Json.encode? v with
    | some s => if Text.isEncodable s then .ok () else .error .misuse
    | none => .error .notFinite

/-- What a call that can be sent leads to. -/
def Call.route (c : Call) : Except Failure Route :=
  match Route.path? c.path with
  | none => .error .misuse
  | some path =>
    if c.headers.all fun h => Http.Call.isAscii h.1 && Http.Call.isAscii h.2 then
      c.payload.check.map fun _ => .ofPath path
    else .error .misuse

/-- Whether a call asks for what it may do, as other sites have to. -/
def isInquiry (c : Call) (method : String) : Bool :=
  method == "OPTIONS" && (header? "origin" c.headers).isSome
    && (header? "access-control-request-method" c.headers).isSome

/-- Whether a call on a route is answered without any data. -/
def isWithoutData (c : Call) (method : String) (route : Route) : Bool :=
  method == "HEAD" || isInquiry c method || route = .moved || route = .page && method == "GET"

/-- Answers a call whose route takes bodies. -/
def serveBody {α : Type} (s : Service) (c : Call) (read : Schema.Reader α) (serve : α → Served) :
    Served :=
  match contentOf c with
  | .error r => return .ok r
  | .ok content => serveContent s c content read serve

/-- Answers a call. -/
def serve (s : Service) (c : Call) : Served :=
  match c.route with
  | .error e => return .error e
  | .ok route =>
    let method := Text.upper c.method
    if isWithoutData c method route then return .error .misuse
    else if route = .nowhere then return .ok notFound
    else if method ≠ "POST" then return .ok methodNotAllowed
    else
      match route with
      | .query => serveBody s c readQuery (serveQuery s)
      | .batch => serveBody s c readBatch (serveBatch s)
      | _ => return .ok methodNotAllowed

/-- The text of the log when the service is ready. -/
def readyText (registry : Registry) : String :=
  let names := (registry.names?.getD []).filterMap Value.text?
  s!"Query API ready (engine={Client.engine}, known collections=" ++
    (if names.isEmpty then "none" else Text.quotedList names) ++ ")."

def closedText : String := "Query API shut down."

/-- Starts the service: the backend is asked whether it is ready, unless settings say otherwise. -/
def start (settings : Settings) (random : Nat → Float) :
    Client → Run (Standing Link) (Except Failure Service) := fun client => do
  let ready ←
    if settings.flagOr "QUERY_HEALTHCHECK_ON_BOOT" true then
      Run.within Standing.backend (fun b s => { s with backend := b }) client.healthcheck
    else pure (.ok ⟨200, ""⟩)
  let parts : Except Failure (Registry × RetryPolicy × BatchStrategy) := do
    let _ ← ready
    let registry ← (Registry.ofSettings settings).mapError .setting
    let policy ← RetryPolicy.ofSettings settings
    return (registry, policy, ← BatchStrategy.ofSettings settings)
  match parts with
  | .error e => return .error e
  | .ok (registry, policy, strategy) => do
    Run.log .info (readyText registry)
    return .ok ⟨settings, client, ⟨client.transport, policy, strategy, some registry, random⟩⟩

/-- The state of a service that is about to start, over a network that does what is given. -/
def initial (settings : Settings) (exchanges : List Http.Exchange) : Standing Link :=
  ⟨⟨true, Credentials.ofSettings settings Client.settingsStart, exchanges⟩, 0⟩

end Retrieval.Api
