import Retrieval.Compilation.Document
import Retrieval.Envelope.Normal
import Retrieval.Execution.Attempts
import Retrieval.Query.Call

/-!
Running one query: it is completed, compiled, sent, and its answer is read.
-/

namespace Retrieval

/-- What can be given to be run: a query, a clause that counts as complete, or something else. -/
inductive Subject
  | query (q : Query)
  | clause (c : Clause)
  | request (r : Request)
  | other (v : Value)

/-- The answer of a step as something to run. -/
def Subject.ofAnswer : Query.Answer → Subject
  | .query q => .query q
  | .complete c => .clause c
  | .request r => .request r

/-- What a request is called in messages. -/
def requestKind : String := "CompiledRequest"

/-- The clause to run. -/
def Subject.complete : Subject → Except ConfigurationError Clause
  | .query q => q.complete
  | .clause c => .ok c
  | .request _ => .error (.notAQuery requestKind)
  | .other v => .error (.notAQuery v.kindName)

namespace Execution

variable {σ : Type}

/-- The error that a fault of an answer stands for. One fault is none of the answer's shape and
breaks off the run. -/
def errorOf (collection : String) : Envelope.Fault → Failure
  | .unreadable => .query (.response (.malformed collection none))
  | .invalid issues => .query (.response (.malformed collection (some issues)))
  | .numeral _ => .query (.response (.malformed collection none))
  | .notAList operation key kind => .query (.response (.listExpected operation key kind))
  | .tooLarge => .misuse

/-- Reads the part of an answer that belongs to a member. -/
def readMember (m : Member) (multiplexed : Bool) (envelope : Value) :
    Run σ (Except Failure QueryResult) := do
  let account := Envelope.normalize m multiplexed envelope
  Run.logAll account.entries
  return account.outcome.mapError (errorOf m.collection)

/-- The end of a request to one member. -/
def finish (m : Member) (multiplexed : Bool) : Ending → Run σ (Except Failure QueryResult)
  | .envelope v => readMember m multiplexed v
  | .failed e => return .error (.query e)
  | .broken cause => return .error cause

/-- Runs one query. -/
def execute (engine : Engine σ) (subject : Subject) :
    Run (Standing σ) (Except Failure QueryResult) :=
  match subject.complete with
  | .error e => return .error (.query (.configuration e))
  | .ok c => do
    Run.logAll (Compilation.warnings c)
    match Compilation.compile c with
    | .error e => return .error e.toFailure
    | .ok request =>
      match request.members with
      | [] => return .error .misuse
      | m :: _ => finish m request.multiplexed (← send engine request)

/-- Runs a query by the engine that it belongs to. -/
def executeBound (engine : Engine σ) (subject : Subject) :
    Run (Standing σ) (Except Failure QueryResult) :=
  match subject with
  | .query q =>
    if q.isBound then execute engine subject
    else return .error (.query (.configuration .noExecutor))
  | _ => return .error .misuse

end Execution

end Retrieval
