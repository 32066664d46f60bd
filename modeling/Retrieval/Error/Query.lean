import Retrieval.Error.Configuration
import Retrieval.Settings
import Retrieval.Value.Display
import Retrieval.Value.Order
import Retrieval.Value.Pairs

/-!
Errors of running a query, by what went wrong: the query itself, the exchange with the backend, or
the answer. An error is worth another attempt exactly if it is of a retryable kind.
-/

namespace Retrieval

/-- Kinds of refusal by the backend. -/
inductive BackendKind
  | other
  | authentication
  | permissionDenied
  | notFound
  | validation
  | rateLimit
  | server
  deriving DecidableEq, Repr

def BackendKind.name : BackendKind → String
  | .other => "BackendError"
  | .authentication => "AuthenticationError"
  | .permissionDenied => "PermissionDeniedError"
  | .notFound => "NotFoundError"
  | .validation => "ValidationError"
  | .rateLimit => "RateLimitError"
  | .server => "ServerError"

def BackendKind.isRetryable : BackendKind → Bool
  | .rateLimit | .server => true
  | _ => false

/-- The statuses that have a kind of their own. -/
def BackendKind.ofKnown : List (Int × BackendKind) :=
  [(401, .authentication), (403, .permissionDenied), (404, .notFound), (408, .server),
    (422, .validation), (429, .rateLimit)]

/-- The least status that tells of a failure of the backend itself. -/
def serverStatus : Int := 500

/-- The kind of a status. -/
def BackendKind.ofStatus (status : Int) : BackendKind :=
  match ofKnown.lookup status with
  | some kind => kind
  | none => if serverStatus ≤ status then .server else .validation

/-- The kind of a status that is any number. -/
def BackendKind.ofNumber (status : Number.Parts) : BackendKind :=
  let against (n : Int) : Option Ordering := status.compare? (Number.partsOfInt n)
  match ofKnown.find? fun known => against known.1 == some .eq with
  | some (_, kind) => kind
  | none =>
    if against serverStatus == some .gt || against serverStatus == some .eq then .server
    else .validation

inductive BackendCause
  /-- An answer whose status tells of a failure; the address may be unknown. -/
  | status (url : String)
  /-- An answer that is not JSON. -/
  | notJson
  /-- A message passed on as it came. -/
  | reported (message : String)
  deriving DecidableEq, Repr

structure BackendError where
  kind : BackendKind
  cause : BackendCause
  /-- The status of the answer; a number unless the error was passed on as it came. -/
  status : Value
  detail : Value

def BackendError.message (e : BackendError) : String :=
  match e.cause with
  | .status url =>
    "Request to " ++ (if url.isEmpty then "backend" else url) ++ " failed with status " ++
      e.status.display
  | .notJson => "Backend returned a non-JSON body with status " ++ e.status.display
  | .reported message => message

/-- The error that a failing status stands for. -/
def BackendError.ofStatus (status : Int) (detail : Value) (url : String) : BackendError :=
  ⟨.ofStatus status, .status url, .int status, detail⟩

/-- The error that a failing status stands for, given as any values; nothing if the status is no
number. -/
def BackendError.ofValues? (status detail url : Value) : Option BackendError :=
  status.number?.map fun n =>
    ⟨.ofNumber n, .status (if url.isTruthy then url.display else ""), status, detail⟩

/-- The messages on single fields inside the detail of an error; nothing if the detail has a shape
that holds none. -/
def BackendError.fieldErrors? (e : BackendError) : Option (List Value) :=
  match e.detail with
  | .map es =>
    let candidate (key : String) : Option Value :=
      (Entries.get? key es).filter Value.isTruthy
    match candidate "errors" with
    | some v => v.elements?
    | none =>
      match candidate "detail" with
      | some v => v.elements?
      | none => some []
  | _ => some []

inductive TransportError
  | timedOut (url cause : String)
  | failed (url cause : String)
  | attemptTimedOut (seconds : Float)
  | reported (message : String)

def TransportError.message : TransportError → String
  | .timedOut url cause => s!"Request to {url} timed out: {cause}"
  | .failed url cause => s!"Request to {url} failed: {cause}"
  | .attemptTimedOut seconds => "Attempt timed out after " ++ Number.plain seconds ++ "s."
  | .reported message => message

inductive ResponseError
  | listExpected (operation key kind : String)
  /-- An answer of a shape that cannot be read, with the issues if its data breaks a schema. -/
  | malformed (collection : String) (issues : Option (List Schema.Issue))
  | reported (message : String)

def ResponseError.message : ResponseError → String
  | .listExpected operation key kind => s!"Expected a list under {operation}.{key}, got {kind}."
  | .malformed collection _ => "Malformed response for " ++ Text.quoted collection
  | .reported message => message

inductive QueryError
  | general (message : String)
  | configuration (cause : ConfigurationError)
  | invariant (cause : Violation)
  | backend (error : BackendError)
  | transport (error : TransportError)
  | response (error : ResponseError)
  | exhausted (last : QueryError) (attempts : Nat)

namespace QueryError

def name : QueryError → String
  | .general _ => "QueryError"
  | .configuration _ => "ConfigurationError"
  | .invariant _ => "InternalInvariantError"
  | .backend e => e.kind.name
  | .transport _ => "TransportError"
  | .response _ => "ResponseFormatError"
  | .exhausted .. => "RetriesExhaustedError"

def message : QueryError → String
  | .general message => message
  | .configuration cause => cause.message
  | .invariant cause => cause.message
  | .backend e => e.message
  | .transport e => e.message
  | .response e => e.message
  | .exhausted last attempts => s!"Giving up after {attempts} attempts: " ++ last.message

def isRetryable : QueryError → Bool
  | .backend e => e.kind.isRetryable
  | .transport _ => true
  | _ => false

end QueryError

/-- How an operation of the library can end without a result. -/
inductive Failure
  | query (error : QueryError)
  | setting (error : SettingError)
  | path (error : PathError)
  | numeral (error : Number.NumeralError)
  /-- A value that names no way to run a batch. -/
  | strategy (shown : String)
  /-- A request that does not have a single member. -/
  | memberCount (count : Nat)
  | notBooted
  /-- Headers that are no pairs. -/
  | pairs (error : PairError)
  /-- A number that the data format lacks. -/
  | notFinite
  /-- Data with too many levels. -/
  | tooNested
  /-- An integer with too many digits to be written. -/
  | integerTooLong
  /-- An address that does not say where to send a message. -/
  | unknownAddress (url : String)
  /-- A body that is given in parts. -/
  | contentInParts
  | schema (issues : List Schema.Issue)
  /-- A value of a shape that the operation has no reading for, or an effect that broke off. -/
  | misuse

/-- The message of a failure that is no error of a query and has one. -/
def Failure.message? : Failure → Option String
  | .query e => some e.message
  | .setting e => some e.message
  | .path e => some e.message
  | .numeral e => some e.message
  | .strategy shown => some s!"{shown} is not a valid BatchStrategy"
  | .memberCount n => some s!"Request carries {n} members; access .members instead."
  | .notBooted => some "HTTP client not initialised. Call boot() before making requests."
  | .pairs e => e.message?
  | .notFinite => some "Out of range float values are not JSON compliant"
  | .tooNested => some "Circular reference detected (depth exceeded)"
  | .integerTooLong =>
    some ("Exceeds the limit (4300 digits) for integer string conversion; " ++
      "use sys.set_int_max_str_digits() to increase the limit")
  | .unknownAddress url => some ("unknown url type: " ++ Text.quoted url)
  | .contentInParts =>
    some "Attempted to send an sync request with an AsyncClient instance."
  | .schema _ => none
  | .misuse => none

/-- An error of building, as the end of an operation. -/
def BuildError.toFailure : BuildError → Failure
  | .refused cause => .query (.configuration cause)
  | .misuse => .misuse

/-- An error of compiling, as the end of an operation. What has too many levels breaks off. -/
def CompileError.toFailure : CompileError → Failure
  | .violation cause => .query (.invariant cause)
  | .integerTooLong => .integerTooLong
  | .tooNested => .misuse

end Retrieval
