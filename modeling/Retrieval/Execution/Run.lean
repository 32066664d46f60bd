import Retrieval.Error.Query
import Retrieval.Http.Message
import Retrieval.Log.Entry
import Retrieval.Request

/-!
Runs: computations with a state that leave a trace of what they did. The trace of a sequence is the
trace of its first part followed by that of its second.
-/

namespace Retrieval

/-- What can be seen of a run from outside. -/
inductive Event
  /-- A request handed to the backend, with the time limit of the attempt. -/
  | sent (request : Request) (limit : Option Float)
  | slept (seconds : Float)
  | logged (entry : Log.Entry)
  /-- A message that reached the backend. -/
  | posted (message : Http.Sent)

/-- What a run comes to. -/
structure Course (σ α : Type) where
  result : α
  events : List Event
  state : σ

def Run (σ α : Type) : Type := σ → Course σ α

namespace Run

variable {σ τ α β : Type}

def pure (a : α) : Run σ α := fun s => ⟨a, [], s⟩

def bind (r : Run σ α) (f : α → Run σ β) : Run σ β := fun s =>
  let first := r s
  let second := f first.result first.state
  ⟨second.result, first.events ++ second.events, second.state⟩

instance : Monad (Run σ) where
  pure := pure
  bind := bind

/-- Leaves one event. -/
def emit (e : Event) : Run σ Unit := fun s => ⟨(), [e], s⟩

def log (level : Log.Level) (text : String) : Run σ Unit := emit (.logged ⟨level, text⟩)

/-- Leaves log entries. -/
def logAll (entries : List Log.Entry) : Run σ Unit := fun s => ⟨(), entries.map .logged, s⟩

def get : Run σ σ := fun s => ⟨s, [], s⟩

def set (s : σ) : Run σ Unit := fun _ => ⟨(), [], s⟩

/-- A run on a part of the state. -/
def within (view : τ → σ) (update : σ → τ → τ) (r : Run σ α) : Run τ α := fun t =>
  let c := r (view t)
  ⟨c.result, c.events, update c.state t⟩

@[simp] theorem pure_apply (a : α) (s : σ) : (Pure.pure a : Run σ α) s = ⟨a, [], s⟩ := rfl

@[simp] theorem bind_apply (r : Run σ α) (f : α → Run σ β) (s : σ) :
    (r >>= f) s = ⟨(f (r s).result (r s).state).result,
      (r s).events ++ (f (r s).result (r s).state).events, (f (r s).result (r s).state).state⟩ :=
  rfl

@[simp] theorem emit_apply (e : Event) (s : σ) : emit e s = ⟨(), [e], s⟩ := rfl

end Run

/-- What the backend does with an attempt. -/
inductive Reply
  | envelope (v : Value)
  | failed (e : QueryError)
  /-- No answer before the attempt's time is over. -/
  | silent
  /-- An effect that broke off. -/
  | broken (cause : Failure)

/-- Hands a request over to the backend, given the number of the attempt and its time limit. -/
abbrev Transport (σ : Type) : Type := Request → Nat → Option Float → Run σ Reply

end Retrieval
