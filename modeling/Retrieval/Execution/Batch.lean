import Retrieval.Execution.Single

/-!
Running several queries. Each query has a slot of its own; a query that fails does not touch the
slots of the others.
-/

namespace Retrieval

/-- Reads the name of a way to run a batch. -/
def BatchStrategy.read (v : Value) : Except Failure BatchStrategy :=
  match v.text?.bind BatchStrategy.ofName? with
  | some s => .ok s
  | none => .error (.strategy v.inner)

/-- The way to run batches that settings give. -/
def BatchStrategy.ofSettings (s : Settings) : Except Failure BatchStrategy :=
  let names := [BatchStrategy.multiplexed, .independent].map BatchStrategy.name
  match s.choice "QUERY_BATCH_STRATEGY" names (some BatchStrategy.multiplexed.name) with
  | .error e => .error (.setting e)
  | .ok name => read (.text name)

/-- What becomes of one query of a batch. -/
abbrev Slot : Type := Except QueryError QueryResult

def Slot.isFailed : Slot → Bool
  | .error _ => true
  | .ok _ => false

namespace Execution

variable {σ : Type}

/-- The clauses that can be run, each with its position among all. -/
def accepted : Nat → List (Except ConfigurationError Clause) → List (Nat × Clause)
  | _, [] => []
  | n, .ok c :: rest => (n, c) :: accepted (n + 1) rest
  | n, .error _ :: rest => accepted (n + 1) rest

def rejectedText (position : Nat) (e : ConfigurationError) : String :=
  s!"Batch slot {position} rejected before execution: " ++ e.message

/-- The warnings about queries that cannot be run. -/
def rejections : Nat → List (Except ConfigurationError Clause) → List Log.Entry
  | _, [] => []
  | n, .ok _ :: rest => rejections (n + 1) rest
  | n, .error e :: rest => ⟨.warning, rejectedText n e⟩ :: rejections (n + 1) rest

/-- Puts the slots of the queries that were run among those of the others. -/
def fillIn : List (Except ConfigurationError Clause) → List Slot → List Slot
  | [], _ => []
  | .error e :: rest, slots => .error (.configuration e) :: fillIn rest slots
  | .ok _ :: rest, slot :: slots => slot :: fillIn rest slots
  | .ok _ :: rest, [] => fillIn rest []

def unreadText (position : Nat) (e : QueryError) : String :=
  s!"Batch slot {position} could not be normalized: " ++ e.message

/-- The slot of one query, read from the end of its request. What breaks off breaks off the whole
batch. -/
def settle (position : Nat) (m : Member) (multiplexed : Bool) (ending : Ending) :
    Run σ (Except Failure Slot) :=
  match ending with
  | .broken cause => return .error cause
  | .failed e => return .ok (.error e)
  | .envelope v => do
    match ← readMember m multiplexed v with
    | .ok r => return .ok (.ok r)
    | .error (.query e) => do
      Run.log .error (unreadText position e)
      return .ok (.error e)
    | .error e => return .error e

/-- The request, its end and the member that a place in a plan names. -/
def memberAt? (ends : List (Request × Ending)) (place : Nat × Nat) :
    Option (Request × Ending × Member) := do
  let (request, ending) ← ends[place.1]?
  let m ← request.members[place.2]?
  return (request, ending, m)

/-- The slots of the queries that were run, in order, up to one that breaks off. -/
def settleAll (ends : List (Request × Ending)) :
    List (Nat × Nat × Nat) → Run σ (Except Failure (List Slot))
  | [] => return .ok []
  | (position, place) :: rest =>
    match memberAt? ends place with
    | none => return .error .misuse
    | some (request, ending, m) => do
      match ← settle position m request.multiplexed ending with
      | .error e => return .error e
      | .ok slot => return (← settleAll ends rest).map (slot :: ·)

/-- Sends requests one after another: each finds the backend as the one before has left it. Where
requests overlap, a backend whose answers depend on what else it was asked may answer them in
another order than this; one that answers each request by itself answers both alike. -/
def sendAll (engine : Engine σ) : List Request → Run (Standing σ) (List (Request × Ending))
  | [] => return []
  | request :: rest => do
    let ending ← send engine request
    return (request, ending) :: (← sendAll engine rest)

/-- Runs the queries that can be run. -/
def runAccepted (engine : Engine σ) (strategy : BatchStrategy) (queries : List (Nat × Clause)) :
    Run (Standing σ) (Except Failure (List Slot)) :=
  if queries.isEmpty then return .ok []
  else do
    let clauses := queries.map (·.2)
    Run.logAll (Compilation.warningsOf clauses)
    match Compilation.compileBatch clauses strategy with
    | .error e => return .error e.toFailure
    | .ok plan => do
      let ends ← sendAll engine plan.requests
      settleAll ends ((queries.map (·.1)).zip plan.slots)

def completeText (strategy : BatchStrategy) (slots : List Slot) : String :=
  let failed := slots.countP Slot.isFailed
  s!"Batch of {slots.length} queries complete ({strategy.name}): {slots.length - failed} " ++
    s!"succeeded, {failed} failed."

/-- Runs a batch. There is one slot for each query, in order. -/
def executeBatch (engine : Engine σ) (strategy : BatchStrategy) (subjects : List Subject) :
    Run (Standing σ) (Except Failure (List Slot)) := do
  let inputs := subjects.map Subject.complete
  Run.logAll (rejections 0 inputs)
  match ← runAccepted engine strategy (accepted 0 inputs) with
  | .error e => return .error e
  | .ok ran => do
    let slots := fillIn inputs ran
    Run.log .info (completeText strategy slots)
    return .ok slots

end Execution

end Retrieval
