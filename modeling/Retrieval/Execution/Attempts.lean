import Retrieval.Execution.Run
import Retrieval.Number.Rounded
import Retrieval.Registry
import Retrieval.Retry

/-!
Attempts at a request. An attempt that fails in a way worth another one is repeated after a delay,
as long as the policy allows; any other end of an attempt is the end of all.
-/

namespace Retrieval

/-- What queries are run with. -/
structure Engine (σ : Type) where
  transport : Transport σ
  policy : RetryPolicy
  strategy : BatchStrategy
  registry : Option Registry
  /-- The random numbers between zero and one that delays are stretched by. -/
  random : Nat → Float

/-- The state of the backend, and how many random numbers have been drawn. -/
structure Standing (σ : Type) where
  backend : σ
  drawn : Nat

/-- How the attempts at a request end. -/
inductive Ending
  | envelope (v : Value)
  | failed (e : QueryError)
  | broken (cause : Failure)

namespace Execution

variable {σ : Type}

/-- The end of an attempt that the backend replies to. -/
def endingOf (limit : Option Float) : Reply → Ending
  | .envelope v => .envelope v
  | .failed e => .failed e
  | .broken cause => .broken cause
  | .silent =>
    match limit with
    | some seconds => .failed (.transport (.attemptTimedOut seconds))
    | none => .broken .misuse

/-- One attempt at a request. -/
def attempt (engine : Engine σ) (request : Request) (number : Nat) : Run (Standing σ) Ending := do
  let limit := engine.policy.attemptTimeout
  Run.emit (.sent request limit)
  let reply ← Run.within Standing.backend (fun b s => { s with backend := b })
    (engine.transport request number limit)
  return endingOf limit reply

/-- The next random number. -/
def draw (engine : Engine σ) : Run (Standing σ) Float := do
  let s ← Run.get
  Run.set { s with drawn := s.drawn + 1 }
  return engine.random s.drawn

/-- The delay before a retry; a random number is drawn only if the growth is not too large. -/
def delayFor (engine : Engine σ) (retry : Nat) : Run (Standing σ) (Option Float) :=
  match RetryPolicy.power? engine.policy.factor (retry - 1) with
  | none => return none
  | some _ => do return engine.policy.delay? retry (← draw engine)

def giveUpText (e : QueryError) : String :=
  s!"Query failed with non-retryable {e.name}: " ++ e.message

def retryText (attempt most : Nat) (e : QueryError) (delay : Float) : String :=
  s!"Attempt {attempt}/{most} failed with {e.name}: " ++ e.message ++ ". Retrying in " ++
    Number.fixed 2 delay ++ "s."

def exhaustedText (most : Nat) (e : QueryError) : String :=
  s!"Query failed after {most} attempts: " ++ e.message

/-- The attempts from a number on, of which `left` may follow the first. -/
def attemptsFrom (engine : Engine σ) (request : Request) :
    (left number : Nat) → Run (Standing σ) Ending
  | left, number => do
    match ← attempt engine request number with
    | .envelope v => return .envelope v
    | .broken cause => return .broken cause
    | .failed e =>
      if !e.isRetryable then do
        Run.log .error (giveUpText e)
        return .failed e
      else
        match left with
        | 0 => do
          let most := engine.policy.maxAttempts
          Run.log .error (exhaustedText most e)
          return .failed (.exhausted e most)
        | left + 1 => do
          match ← delayFor engine number with
          | none => return .broken .misuse
          | some delay => do
            Run.log .warning (retryText number engine.policy.maxAttempts e delay)
            Run.emit (.slept delay)
            attemptsFrom engine request left (number + 1)

/-- Sends a request, with as many attempts as the policy allows. -/
def send (engine : Engine σ) (request : Request) : Run (Standing σ) Ending :=
  attemptsFrom engine request (engine.policy.maxAttempts - 1) 1

end Execution

end Retrieval
