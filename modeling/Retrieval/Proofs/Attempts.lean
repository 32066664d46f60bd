import Retrieval.Execution.Attempts
import Retrieval.Execution.Replay

/-!
The course of the attempts at a request, told by the replies of an arbitrary backend. Main
statement: attempts end with the first that is not worth another one, or with the last that the
policy allows, and between any two stands one warning and one sleep. How long the run gets and what
the backend does meanwhile is not bounded.
-/

namespace Retrieval

/-- Whether another attempt is worth its while. -/
def Ending.isRetryable : Ending → Bool
  | .failed e => e.isRetryable
  | _ => false

/-- The request that was handed over, if one was. -/
def Event.sent? : Event → Option Request
  | .sent request _ => some request
  | _ => none

/-- How long the run slept, if it did. -/
def Event.slept? : Event → Option Float
  | .slept seconds => some seconds
  | _ => none

@[simp] theorem sent?_sent (request : Request) (limit : Option Float) :
    (Event.sent request limit).sent? = some request := rfl
@[simp] theorem sent?_logged (entry : Log.Entry) : (Event.logged entry).sent? = none := rfl
@[simp] theorem slept?_sent (request : Request) (limit : Option Float) :
    (Event.sent request limit).slept? = none := rfl
@[simp] theorem slept?_slept (seconds : Float) :
    (Event.slept seconds).slept? = some seconds := rfl
@[simp] theorem slept?_logged (entry : Log.Entry) : (Event.logged entry).slept? = none := rfl

namespace Execution

variable {σ : Type} (engine : Engine σ) (request : Request)

/-- What a backend in state `b` does with the attempt of number `n`. -/
def exchange (b : σ) (n : Nat) : Course σ Reply :=
  engine.transport request n engine.policy.attemptTimeout b

/-- The backend after the first `n` attempts. -/
def backendAfter (b : σ) : Nat → σ
  | 0 => b
  | n + 1 => (exchange engine request (backendAfter b n) (n + 1)).state

/-- What the attempt of number `n` comes to; the first has number one. -/
def outcome (b : σ) (n : Nat) : Ending :=
  endingOf engine.policy.attemptTimeout
    (exchange engine request (backendAfter engine request b (n - 1)) n).result

/-- The delay before retry `n`. Each retry before it has drawn one random number. -/
def delayBefore (drawn n : Nat) : Option Float :=
  engine.policy.delay? n (engine.random (drawn + (n - 1)))

/-- What the attempt of number `n` leaves: its hand-over, and what the backend did with it. -/
def attemptEvents (b : σ) (n : Nat) : List Event :=
  .sent request engine.policy.attemptTimeout ::
    (exchange engine request (backendAfter engine request b (n - 1)) n).events

/-- What stands between the attempt of number `n` and the next. -/
def pauseEvents (s : Standing σ) (n : Nat) : List Event :=
  match outcome engine request s.backend n, delayBefore engine s.drawn n with
  | .failed e, some delay =>
    [.logged ⟨.warning, retryText n engine.policy.maxAttempts e delay⟩, .slept delay]
  | _, _ => []

/-- The first `n` attempts, each with the pause after it. -/
def retriesTrace (s : Standing σ) (n : Nat) : List Event :=
  (List.range n).flatMap fun i =>
    attemptEvents engine request s.backend (i + 1) ++ pauseEvents engine request s (i + 1)

/-- The first `n` attempts with the pauses between them. -/
def attemptsTrace (s : Standing σ) (n : Nat) : List Event :=
  retriesTrace engine request s (n - 1) ++ attemptEvents engine request s.backend n

/-- What is reported of an end that is not worth another attempt. -/
def closing : Ending → List Log.Entry
  | .failed e => [⟨.error, giveUpText e⟩]
  | _ => []

/-- The standing before the attempt after the first `n`, all of which were retried. -/
def standingAfter (s : Standing σ) (n : Nat) : Standing σ :=
  ⟨backendAfter engine request s.backend n, s.drawn + n⟩

/-- The first `n` attempts are all worth another one. -/
def RetriedUpTo (b : σ) (n : Nat) : Prop :=
  ∀ j, 0 < j → j ≤ n → (outcome engine request b j).isRetryable = true

theorem RetriedUpTo.mono {engine : Engine σ} {request : Request} {b : σ} {m n : Nat}
    (h : RetriedUpTo engine request b n) (hmn : m ≤ n) : RetriedUpTo engine request b m :=
  fun j hj hm => h j hj (by omega)

theorem isRetryable_iff (ending : Ending) :
    ending.isRetryable = true ↔ ∃ e, ending = .failed e ∧ e.isRetryable = true := by
  cases ending <;> simp [Ending.isRetryable]

theorem retriesTrace_succ (s : Standing σ) (n : Nat) :
    retriesTrace engine request s (n + 1) = retriesTrace engine request s n ++
      (attemptEvents engine request s.backend (n + 1) ++
        pauseEvents engine request s (n + 1)) := by
  simp [retriesTrace, List.range_succ, List.flatMap_append]

/-- One attempt, seen from the standing that the retries before it lead to. -/
theorem attempt_standingAfter (s : Standing σ) (n : Nat) :
    attempt engine request (n + 1) (standingAfter engine request s n) =
      ⟨outcome engine request s.backend (n + 1), attemptEvents engine request s.backend (n + 1),
        ⟨backendAfter engine request s.backend (n + 1), s.drawn + n⟩⟩ := by
  simp [attempt, Run.within, standingAfter, outcome, attemptEvents, exchange, backendAfter]

theorem delayFor_eq {n : Nat} {s : Standing σ} {delay : Float}
    (h : engine.policy.delay? n (engine.random s.drawn) = some delay) :
    delayFor engine n s = ⟨some delay, [], { s with drawn := s.drawn + 1 }⟩ := by
  unfold delayFor
  cases hp : RetryPolicy.power? engine.policy.factor ((n : Int) - 1) with
  | none => simp [RetryPolicy.delay?_eq, hp] at h
  | some p => simp [draw, Run.get, Run.set, h]

variable {engine : Engine σ} {request : Request} {s : Standing σ}

/-- A failed attempt that may be followed by another one leads to one warning, one sleep, and the
attempts from the next number on. -/
theorem attemptsFrom_retry {left n : Nat} {e : QueryError} {delay : Float}
    (he : outcome engine request s.backend (n + 1) = .failed e) (hr : e.isRetryable = true)
    (hd : delayBefore engine s.drawn (n + 1) = some delay) :
    attemptsFrom engine request (left + 1) (n + 1) (standingAfter engine request s n) =
      let rest := attemptsFrom engine request left (n + 2) (standingAfter engine request s (n + 1))
      ⟨rest.result, attemptEvents engine request s.backend (n + 1) ++
        pauseEvents engine request s (n + 1) ++ rest.events, rest.state⟩ := by
  have hdelay : engine.policy.delay? ((n + 1 : Nat) : Int) (engine.random (s.drawn + n)) =
      some delay := hd
  have hfor := delayFor_eq engine (n := n + 1)
    (s := ⟨backendAfter engine request s.backend (n + 1), s.drawn + n⟩) hdelay
  have hpause : pauseEvents engine request s (n + 1) =
      [.logged ⟨.warning, retryText (n + 1) engine.policy.maxAttempts e delay⟩, .slept delay] := by
    simp [pauseEvents, he, hd]
  rw [attemptsFrom]
  simp only [Run.bind_apply, attempt_standingAfter, he, hr, Bool.not_true, Bool.false_eq_true,
    if_false, hfor, Run.log, Run.emit_apply, hpause]
  simp [standingAfter, Nat.add_assoc]

/-- An attempt that is not worth another one is the last. -/
theorem attemptsFrom_stop {left n : Nat}
    (h : (outcome engine request s.backend (n + 1)).isRetryable = false) :
    attemptsFrom engine request left (n + 1) (standingAfter engine request s n) =
      ⟨outcome engine request s.backend (n + 1),
        attemptEvents engine request s.backend (n + 1) ++
          (closing (outcome engine request s.backend (n + 1))).map .logged,
        ⟨backendAfter engine request s.backend (n + 1), s.drawn + n⟩⟩ := by
  rw [attemptsFrom]
  simp only [Run.bind_apply, attempt_standingAfter]
  cases ho : outcome engine request s.backend (n + 1) with
  | envelope v => simp [closing]
  | broken cause => simp [closing]
  | failed e =>
    have hr : e.isRetryable = false := by simpa [ho, Ending.isRetryable] using h
    simp [closing, hr, Run.log]

/-- The last attempt that the policy allows ends the run even if it is worth another one. -/
theorem attemptsFrom_exhausted {n : Nat} {e : QueryError}
    (he : outcome engine request s.backend (n + 1) = .failed e) (hr : e.isRetryable = true) :
    attemptsFrom engine request 0 (n + 1) (standingAfter engine request s n) =
      ⟨.failed (.exhausted e engine.policy.maxAttempts),
        attemptEvents engine request s.backend (n + 1) ++
          [.logged ⟨.error, exhaustedText engine.policy.maxAttempts e⟩],
        ⟨backendAfter engine request s.backend (n + 1), s.drawn + n⟩⟩ := by
  rw [attemptsFrom]
  simp [attempt_standingAfter, he, hr, Run.log]

/-- The first `n` attempts are retried, and the run goes on from the standing they lead to. -/
theorem attemptsFrom_retries (left n : Nat) (hr : RetriedUpTo engine request s.backend n)
    (hd : ∀ j, 0 < j → j ≤ n → (delayBefore engine s.drawn j).isSome) :
    attemptsFrom engine request (left + n) 1 s =
      let rest := attemptsFrom engine request left (n + 1) (standingAfter engine request s n)
      ⟨rest.result, retriesTrace engine request s n ++ rest.events, rest.state⟩ := by
  induction n generalizing left with
  | zero => rfl
  | succ n ih =>
    obtain ⟨e, he, hretry⟩ := (isRetryable_iff _).mp (hr (n + 1) (by omega) (by omega))
    obtain ⟨delay, hdelay⟩ := Option.isSome_iff_exists.mp (hd (n + 1) (by omega) (by omega))
    have hbegins := ih (left + 1) (hr.mono (by omega)) fun j hj hn => hd j hj (by omega)
    rw [show left + (n + 1) = left + 1 + n by omega, hbegins,
      attemptsFrom_retry he hretry hdelay, retriesTrace_succ]
    simp only [List.append_assoc]

/-- The backend itself neither hands requests over nor lets the run sleep. -/
def IsQuiet (engine : Engine σ) (request : Request) : Prop :=
  ∀ b n, ∀ e ∈ (exchange engine request b n).events, e.sent? = none ∧ e.slept? = none

theorem IsQuiet.attemptEvents_sent (h : IsQuiet engine request) (b : σ) (n : Nat) :
    (attemptEvents engine request b n).filterMap Event.sent? = [request] := by
  have hnone : (exchange engine request (backendAfter engine request b (n - 1)) n).events.filterMap
      Event.sent? = [] := List.filterMap_eq_nil_iff.mpr fun e he => (h _ _ e he).1
  simp only [attemptEvents, List.filterMap_cons, sent?_sent, hnone]

theorem IsQuiet.attemptEvents_slept (h : IsQuiet engine request) (b : σ) (n : Nat) :
    (attemptEvents engine request b n).filterMap Event.slept? = [] := by
  have hnone : (exchange engine request (backendAfter engine request b (n - 1)) n).events.filterMap
      Event.slept? = [] := List.filterMap_eq_nil_iff.mpr fun e he => (h _ _ e he).2
  simp only [attemptEvents, List.filterMap_cons, slept?_sent, hnone]

theorem pauseEvents_sent (n : Nat) :
    (pauseEvents engine request s n).filterMap Event.sent? = [] := by
  unfold pauseEvents
  split <;> rfl

/-- A retried attempt is followed by the warning about its own error and delay, then the sleep. -/
theorem pauseEvents_retried {n : Nat} (hn : 0 < n) (hr : RetriedUpTo engine request s.backend n)
    (hd : (delayBefore engine s.drawn n).isSome) :
    ∃ e delay, outcome engine request s.backend n = .failed e ∧
      delayBefore engine s.drawn n = some delay ∧ pauseEvents engine request s n =
        [.logged ⟨.warning, retryText n engine.policy.maxAttempts e delay⟩, .slept delay] := by
  obtain ⟨e, he, -⟩ := (isRetryable_iff _).mp (hr n hn (by omega))
  obtain ⟨delay, hdelay⟩ := Option.isSome_iff_exists.mp hd
  exact ⟨e, delay, he, hdelay, by simp [pauseEvents, he, hdelay]⟩

theorem retriesTrace_sent (h : IsQuiet engine request) (n : Nat) :
    (retriesTrace engine request s n).filterMap Event.sent? = List.replicate n request := by
  induction n with
  | zero => rfl
  | succ n ih =>
    rw [retriesTrace_succ, List.filterMap_append, List.filterMap_append, ih,
      h.attemptEvents_sent, pauseEvents_sent, List.append_nil, ← List.replicate_succ']

theorem retriesTrace_slept (h : IsQuiet engine request) (n : Nat)
    (hr : RetriedUpTo engine request s.backend n)
    (hd : ∀ j, 0 < j → j ≤ n → (delayBefore engine s.drawn j).isSome) :
    ((retriesTrace engine request s n).filterMap Event.slept?).map some =
      (List.range n).map fun i => delayBefore engine s.drawn (i + 1) := by
  induction n with
  | zero => rfl
  | succ n ih =>
    obtain ⟨e, delay, -, hdelay, hpause⟩ :=
      pauseEvents_retried (by omega) hr (hd (n + 1) (by omega) (by omega))
    have hlast := ih (hr.mono (by omega)) fun j hj hn => hd j hj (by omega)
    rw [retriesTrace_succ, List.filterMap_append, List.filterMap_append, List.map_append, hlast,
      h.attemptEvents_slept, hpause, List.range_succ, List.map_append]
    simp [List.filterMap_cons, hdelay]

theorem logged_sent (entries : List Log.Entry) :
    (entries.map Event.logged).filterMap Event.sent? = [] := by
  simp [List.filterMap_map, Function.comp_def]

theorem logged_slept (entries : List Log.Entry) :
    (entries.map Event.logged).filterMap Event.slept? = [] := by
  simp [List.filterMap_map, Function.comp_def]

/-- Sending a request makes exactly `n` attempts, comes to `ending`, and reports `last` at the end.
The events are given in full; what a backend that is quiet lets one count is said beside them. -/
structure MakesAttempts (engine : Engine σ) (request : Request) (s : Standing σ) (n : Nat)
    (ending : Ending) (last : List Log.Entry) : Prop where
  result : (send engine request s).result = ending
  events : (send engine request s).events = attemptsTrace engine request s n ++ last.map .logged
  state : (send engine request s).state =
    ⟨backendAfter engine request s.backend n, s.drawn + (n - 1)⟩
  /-- The pause after each attempt but the last: one warning, and the sleep that it announces. -/
  pauses : ∀ j, 0 < j → j < n → ∃ e delay, outcome engine request s.backend j = .failed e ∧
    delayBefore engine s.drawn j = some delay ∧ pauseEvents engine request s j =
      [.logged ⟨.warning, retryText j engine.policy.maxAttempts e delay⟩, .slept delay]
  sends : IsQuiet engine request →
    (send engine request s).events.filterMap Event.sent? = List.replicate n request
  sleeps : IsQuiet engine request →
    ((send engine request s).events.filterMap Event.slept?).map some =
      (List.range (n - 1)).map fun i => delayBefore engine s.drawn (i + 1)

/-- The counts and pauses of a run follow from its events. -/
theorem makesAttempts_of_send {n : Nat} {ending : Ending} {last : List Log.Entry}
    (hr : RetriedUpTo engine request s.backend n)
    (hd : ∀ j, 0 < j → j ≤ n → (delayBefore engine s.drawn j).isSome)
    (h : send engine request s = ⟨ending, attemptsTrace engine request s (n + 1) ++
      last.map .logged, ⟨backendAfter engine request s.backend (n + 1), s.drawn + n⟩⟩) :
    MakesAttempts engine request s (n + 1) ending last where
  result := by rw [h]
  events := by rw [h]
  state := by rw [h]; rfl
  pauses := fun j hj hn =>
    pauseEvents_retried hj (hr.mono (by omega)) (hd j hj (by omega))
  sends := fun hq => by
    rw [h]
    simp only [attemptsTrace, Nat.add_sub_cancel, List.filterMap_append, logged_sent,
      retriesTrace_sent hq, hq.attemptEvents_sent, List.append_nil, ← List.replicate_succ']
  sleeps := fun hq => by
    rw [h]
    simp only [attemptsTrace, Nat.add_sub_cancel, List.filterMap_append, logged_slept,
      hq.attemptEvents_slept, List.append_nil, retriesTrace_slept hq n hr hd]

/-- The first outcome that is not worth another attempt ends the run as it is; if the policy allows
no further attempt, the last error is wrapped. Delays are only asked for where one is slept. -/
theorem send_attempts (engine : Engine σ) (request : Request) (s : Standing σ)
    (hM : 1 ≤ engine.policy.maxAttempts)
    (hd : ∀ j, 0 < j → j < engine.policy.maxAttempts → RetriedUpTo engine request s.backend j →
      (delayBefore engine s.drawn j).isSome) :
    (∀ k, 0 < k → k ≤ engine.policy.maxAttempts →
      RetriedUpTo engine request s.backend (k - 1) →
      (outcome engine request s.backend k).isRetryable = false →
      MakesAttempts engine request s k (outcome engine request s.backend k)
        (closing (outcome engine request s.backend k))) ∧
    (RetriedUpTo engine request s.backend engine.policy.maxAttempts →
      ∃ e, outcome engine request s.backend engine.policy.maxAttempts = .failed e ∧
        MakesAttempts engine request s engine.policy.maxAttempts
          (.failed (.exhausted e engine.policy.maxAttempts))
          [⟨.error, exhaustedText engine.policy.maxAttempts e⟩]) := by
  constructor
  · intro k hk hkM hr hstop
    obtain ⟨n, rfl⟩ : ∃ n, k = n + 1 := ⟨k - 1, by omega⟩
    rw [Nat.add_sub_cancel] at hr
    have hdelays : ∀ j, 0 < j → j ≤ n → (delayBefore engine s.drawn j).isSome :=
      fun j hj hn => hd j hj (by omega) (hr.mono hn)
    apply makesAttempts_of_send hr hdelays
    have hleft : engine.policy.maxAttempts - 1 = engine.policy.maxAttempts - 1 - n + n := by omega
    rw [send, hleft, attemptsFrom_retries _ n hr hdelays, attemptsFrom_stop hstop]
    simp only [attemptsTrace, Nat.add_sub_cancel, List.append_assoc]
  · intro hr
    obtain ⟨n, hn⟩ : ∃ n, engine.policy.maxAttempts = n + 1 :=
      ⟨engine.policy.maxAttempts - 1, by omega⟩
    obtain ⟨e, he, hretry⟩ := (isRetryable_iff _).mp (hr _ hM (Nat.le_refl _))
    refine ⟨e, he, ?_⟩
    have hretries : RetriedUpTo engine request s.backend n := hr.mono (by omega)
    have hdelays : ∀ j, 0 < j → j ≤ n → (delayBefore engine s.drawn j).isSome :=
      fun j hj hjn => hd j hj (by omega) (hr.mono (by omega))
    have hrun := attemptsFrom_retries 0 n hretries hdelays
    rw [Nat.zero_add, attemptsFrom_exhausted (hn ▸ he) hretry, hn] at hrun
    rw [hn]
    apply makesAttempts_of_send hretries hdelays
    rw [send, hn, Nat.add_sub_cancel, hrun]
    simp only [attemptsTrace, Nat.add_sub_cancel, List.append_assoc, List.map_cons, List.map_nil]

/-- An infinite factor is its own power, so its growth is never too large for a float. -/
theorem power?_infinite {factor : Float} {exponent : Int} (hf : Number.isFinite factor = false)
    (he : ((Number.ofInt? exponent).bind Number.toInt?).isSome) :
    (RetryPolicy.power? factor exponent).isSome := by
  obtain ⟨n, hn⟩ := Option.isSome_iff_exists.mp he
  obtain ⟨x, hx, hxn⟩ := Option.bind_eq_some_iff.mp hn
  have hgrows : Number.outgrows factor n = false := by
    unfold Number.isFinite at hf
    unfold Number.outgrows
    cases hp : Number.parts factor with
    | finite negative m q => simp [hp] at hf
    | infinite negative => rfl
    | nan => rfl
  simp [RetryPolicy.power?, hx, hxn, hgrows]

/-- A first attempt that runs out of time, and a second that is answered. -/
theorem send_attempts_second :
    let engine : Engine Replay :=
      ⟨Replay.transport, { factor := 1.0 / 0.0 }, .independent, none, fun _ => 0.0⟩
    let request : Request := ⟨"", [], false⟩
    let s : Standing Replay := ⟨.inOrder [.silent, .envelope .null], 0⟩
    1 ≤ engine.policy.maxAttempts ∧
      (∀ j, 0 < j → j < engine.policy.maxAttempts → RetriedUpTo engine request s.backend j →
        (delayBefore engine s.drawn j).isSome) ∧
      RetriedUpTo engine request s.backend 1 ∧
      MakesAttempts engine request s 2 (.envelope .null) [] := by
  intro engine request s
  have hd : ∀ j, 0 < j → j < engine.policy.maxAttempts → RetriedUpTo engine request s.backend j →
      (delayBefore engine s.drawn j).isSome := by
    intro j hj hM hr
    have hj1 : j = 1 := by
      have hnot : ¬ 2 ≤ j := fun h2 => Bool.noConfusion (hr 2 (by omega) h2)
      omega
    subst hj1
    have hpower : (RetryPolicy.power? (1.0 / 0.0) 0).isSome :=
      power?_infinite (by decide) (by decide +kernel)
    simpa [delayBefore, RetryPolicy.delay?_eq] using hpower
  have hretried : RetriedUpTo engine request s.backend 1 := by
    intro j hj h1
    have hj1 : j = 1 := by omega
    subst hj1
    rfl
  have h := (send_attempts engine request s (by decide) hd).1 2 (by omega) (by decide) hretried rfl
  exact ⟨by decide, hd, hretried, h⟩

end Execution

end Retrieval
