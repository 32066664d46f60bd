import Retrieval.Proofs.Attempts
import Retrieval.Proofs.Exchanges

/-!
How the attempts at a request end, over any backend and over the client. Main statements: they end
with the first attempt that is not worth another one, with the last that the policy allows, or with
a delay that is too large; and over the client the attempt of a number is told by the exchange of
that number, which is worth another attempt exactly if its error is.
-/

namespace Retrieval

namespace Execution

variable {σ : Type} {engine : Engine σ} {request : Request} {s : Standing σ}

/-- A delay that is too large breaks off the run before a random number is drawn. -/
theorem attemptsFrom_overflow {left n : Nat} {e : QueryError}
    (he : outcome engine request s.backend (n + 1) = .failed e) (hr : e.isRetryable = true)
    (hd : delayBefore engine s.drawn (n + 1) = none) :
    attemptsFrom engine request (left + 1) (n + 1) (standingAfter engine request s n) =
      ⟨.broken .misuse, attemptEvents engine request s.backend (n + 1),
        ⟨backendAfter engine request s.backend (n + 1), s.drawn + n⟩⟩ := by
  have hdelay (st : Standing σ) : delayFor engine (n + 1) st = ⟨none, [], st⟩ := by
    have hpower : RetryPolicy.power? engine.policy.factor (((n + 1 : Nat) : Int) - 1) = none := by
      simpa [delayBefore, RetryPolicy.delay?_eq] using hd
    unfold delayFor
    rw [hpower]
    rfl
  rw [attemptsFrom]
  simp only [Run.bind_apply, attempt_standingAfter, he, hr, Bool.not_true, Bool.false_eq_true,
    if_false, hdelay, Run.pure_apply, List.append_nil]

/-- How the attempts at a request end: with the first that is not worth another one, with the last
that the policy allows, or broken off by a delay that is too large. -/
inductive EndsAs (engine : Engine σ) (request : Request) (b : σ) (last : Nat) : Ending → Prop
  | stopped {k : Nat} : k < last → RetriedUpTo engine request b k →
      (outcome engine request b (k + 1)).isRetryable = false →
      EndsAs engine request b last (outcome engine request b (k + 1))
  | exhausted {e : QueryError} : RetriedUpTo engine request b last →
      EndsAs engine request b last (.failed (.exhausted e engine.policy.maxAttempts))
  | overflow : EndsAs engine request b last (.broken .misuse)

theorem RetriedUpTo.succ {b : σ} {n : Nat} (h : RetriedUpTo engine request b n)
    (hlast : (outcome engine request b (n + 1)).isRetryable = true) :
    RetriedUpTo engine request b (n + 1) := by
  intro j hj hn
  by_cases hj' : j = n + 1
  · rw [hj', hlast]
  · exact h j hj (by omega)

/-- The attempts that follow others, all of which were retried. -/
theorem endsAs_attemptsFrom (left n : Nat) (h : RetriedUpTo engine request s.backend n) :
    EndsAs engine request s.backend (n + 1 + left)
      (attemptsFrom engine request left (n + 1) (standingAfter engine request s n)).result := by
  induction left generalizing n with
  | zero =>
    cases hr : (outcome engine request s.backend (n + 1)).isRetryable with
    | false =>
      rw [attemptsFrom_stop hr]
      exact .stopped (by omega) h hr
    | true =>
      obtain ⟨e, he, hretry⟩ := (isRetryable_iff _).mp hr
      rw [attemptsFrom_exhausted he hretry]
      exact .exhausted (h.succ hr)
  | succ left ih =>
    cases hr : (outcome engine request s.backend (n + 1)).isRetryable with
    | false =>
      rw [attemptsFrom_stop hr]
      exact .stopped (by omega) h hr
    | true =>
      obtain ⟨e, he, hretry⟩ := (isRetryable_iff _).mp hr
      cases hd : delayBefore engine s.drawn (n + 1) with
      | none =>
        rw [attemptsFrom_overflow he hretry hd]
        exact .overflow
      | some delay =>
        rw [attemptsFrom_retry he hretry hd, show n + 1 + (left + 1) = n + 1 + 1 + left by omega]
        exact ih (n + 1) (h.succ hr)

theorem endsAs_send (request : Request) (hmost : 1 ≤ engine.policy.maxAttempts) (s : Standing σ) :
    EndsAs engine request s.backend engine.policy.maxAttempts (send engine request s).result := by
  have hnone : RetriedUpTo engine request s.backend 0 := fun j hj hn => by omega
  have h := endsAs_attemptsFrom (engine.policy.maxAttempts - 1) 0 hnone
  rw [show 0 + 1 + (engine.policy.maxAttempts - 1) = engine.policy.maxAttempts by omega] at h
  exact h

end Execution

namespace Http

/-- An exchange that is worth another attempt: no answer at all, an answer whose status says so, or
one that is no failure but not JSON. -/
def Exchange.IsTransient : Exchange → Prop
  | .timedOut _ => True
  | .failed _ => True
  | .answered a => a.status = 408 ∨ a.status = 429 ∨ 500 ≤ a.status ∨
      a.status < 300 ∧ ∀ v, Json.decodeBody a.body ≠ .ok v

end Http

theorem isRetryable_ofStatus_iff (status : Nat) :
    (BackendKind.ofStatus status).isRetryable = true ↔
      status = 408 ∨ status = 429 ∨ 500 ≤ status := by
  by_cases hknown : status ∈ [401, 403, 404, 408, 422, 429]
  · simp only [List.mem_cons, List.not_mem_nil, or_false] at hknown
    obtain rfl | rfl | rfl | rfl | rfl | rfl := hknown <;> decide
  · simp only [List.mem_cons, List.not_mem_nil, or_false] at hknown
    have hlookup : BackendKind.ofKnown.lookup (status : Int) = none := by
      refine List.lookup_eq_none_iff.mpr fun known hmem => ?_
      simp only [BackendKind.ofKnown, List.mem_cons, List.not_mem_nil, or_false] at hmem
      obtain rfl | rfl | rfl | rfl | rfl | rfl := hmem <;> simp <;> omega
    rw [BackendKind.ofStatus, hlookup, serverStatus]
    dsimp only
    split
    · exact ⟨fun _ => by omega, fun _ => rfl⟩
    · exact ⟨nofun, fun h => by omega⟩

namespace Http.Client

variable {c : Client} {url : Address}

theorem dataOf_cases (body : String) : dataOf body = .error .misuse ∨
    (∃ v, dataOf body = .ok (some v) ∧ Json.decodeBody body = .ok v) ∨
    dataOf body = .ok none ∧ ∀ v, Json.decodeBody body ≠ .ok v := by
  unfold dataOf
  cases Json.decodeBody body with
  | ok v => exact .inr (.inl ⟨v, rfl, rfl⟩)
  | error e =>
    cases e with
    | tooDeep => exact .inl rfl
    | _ => exact .inr (.inr ⟨rfl, nofun⟩)

theorem exists_of_failureOf_eq_query {address : String} {a : Answer} {e : QueryError}
    (h : failureOf address a = .query e) :
    ∃ detail, e = .backend (BackendError.ofStatus a.status detail address) := by
  unfold failureOf at h
  obtain hdata | ⟨v, hdata, -⟩ | ⟨hdata, -⟩ := dataOf_cases a.body
  · rw [hdata] at h
    cases h
  · rw [hdata] at h
    exact ⟨_, (Failure.query.inj h).symm⟩
  · rw [hdata] at h
    exact ⟨_, (Failure.query.inj h).symm⟩

/-- An answer that is no failure is an error of queries only if it is not JSON. -/
theorem readAnswer_failed {a : Answer} {e : QueryError} (h : readAnswer a = .error (.query e)) :
    e.isRetryable = true ∧ ∀ v, Json.decodeBody a.body ≠ .ok v := by
  unfold readAnswer at h
  obtain hdata | ⟨v, hdata, -⟩ | ⟨hdata, hbody⟩ := dataOf_cases a.body
  · rw [hdata] at h
    cases h
  · rw [hdata] at h
    cases v <;> cases h
  · rw [hdata] at h
    cases h
    exact ⟨rfl, hbody⟩

theorem readAnswer_read {a : Answer} {v : Value} (h : readAnswer a = .ok v) :
    ∃ w, Json.decodeBody a.body = .ok w := by
  unfold readAnswer at h
  obtain hdata | ⟨w, -, hbody⟩ | ⟨hdata, -⟩ := dataOf_cases a.body
  · rw [hdata] at h
    cases h
  · exact ⟨w, hbody⟩
  · rw [hdata] at h
    cases h

/-- Only an answer that reached some address is read. -/
theorem isAbsolute_of_readExchange {a : Answer}
    (h : c.readExchange url (.answered a) ≠ .error (.unknownAddress url.text)) :
    url.isAbsolute = true := by
  cases habsolute : url.isAbsolute with
  | true => rfl
  | false => exact absurd (by simp [readExchange, habsolute]) h

/-- An error of queries that the client makes of an exchange is worth another attempt exactly if the
exchange is; if not, it carries the failing status of an answer. -/
theorem readExchange_failed {x : Exchange} {e : QueryError}
    (h : c.readExchange url x = .error (.query e)) :
    e.isRetryable = true ∧ x.IsTransient ∨
      e.isRetryable = false ∧ ¬ x.IsTransient ∧ ∃ a be, x = .answered a ∧ 300 ≤ a.status ∧
        e = .backend be ∧ be.status = .int a.status := by
  cases x with
  | timedOut cause =>
    cases h
    exact .inl ⟨rfl, trivial⟩
  | failed cause =>
    cases h
    exact .inl ⟨rfl, trivial⟩
  | answered a =>
    rw [readExchange_answered (isAbsolute_of_readExchange (by rw [h]; simp))] at h
    split at h
    · next hstatus =>
      obtain ⟨detail, rfl⟩ := exists_of_failureOf_eq_query (Except.error.inj h)
      have hkind := isRetryable_ofStatus_iff a.status
      cases hretry : (BackendKind.ofStatus a.status).isRetryable with
      | true =>
        obtain hs | hs | hs := hkind.mp hretry
        · exact .inl ⟨hretry, .inl hs⟩
        · exact .inl ⟨hretry, .inr (.inl hs)⟩
        · exact .inl ⟨hretry, .inr (.inr (.inl hs))⟩
      | false =>
        refine .inr ⟨hretry, fun htransient => ?_, a, _, rfl, hstatus, rfl, rfl⟩
        have hnot : ¬ (a.status = 408 ∨ a.status = 429 ∨ 500 ≤ a.status) := fun hs => by
          rw [hkind.mpr hs] at hretry
          cases hretry
        obtain hs | hs | hs | ⟨hs, -⟩ := htransient <;> omega
    · next hstatus =>
      obtain ⟨hretry, hbody⟩ := readAnswer_failed h
      exact .inl ⟨hretry, .inr (.inr (.inr ⟨by omega, hbody⟩))⟩

/-- Only an answer that is no failure, and is JSON, is read as an envelope. -/
theorem readExchange_read {x : Exchange} {v : Value} (h : c.readExchange url x = .ok v) :
    ¬ x.IsTransient ∧ ∃ a, x = .answered a ∧ a.status < 300 := by
  cases x with
  | timedOut cause => cases h
  | failed cause => cases h
  | answered a =>
    rw [readExchange_answered (isAbsolute_of_readExchange (by rw [h]; simp))] at h
    split at h
    · cases h
    · next hstatus =>
      obtain ⟨w, hw⟩ := readAnswer_read h
      refine ⟨?_, a, rfl, by omega⟩
      rintro (hs | hs | hs | ⟨-, hbody⟩)
      · omega
      · omega
      · omega
      · exact hbody w hw

end Http.Client

namespace Execution

open Http (Client Link Address Exchange)
open Http.Client (CanPost)

/-- How an attempt ends by what the client answers. -/
def endOfReading : Except Failure Value → Ending
  | .ok v => .envelope v
  | .error (.query e) => .failed e
  | .error cause => .broken cause

theorem endingOf_replyOf (limit : Option Float) (x : Except Failure Value) :
    endingOf limit (Client.replyOf x) = endOfReading x := by
  cases x with
  | ok v => rfl
  | error cause => cases cause <;> rfl

section Client

variable {engine : Engine Link} {request : Request} {c : Client} {link : Link} {url : Address}

theorem exchange_transport (ht : engine.transport = c.transport) (b : Link) (n : Nat) :
    (exchange engine request b n).result =
        Client.replyOf (c.send request (engine.policy.attemptTimeout.map .float) b).result ∧
      (exchange engine request b n).state =
        (c.send request (engine.policy.attemptTimeout.map .float) b).state := by
  rw [exchange, ht]
  exact ⟨rfl, rfl⟩

/-- Each attempt takes one exchange. -/
theorem backendAfter_of_canPost (ht : engine.transport = c.transport) (hopen : link.isOpen = true)
    (hpost : CanPost c link.credentials link.credentials url) (n : Nat) :
    backendAfter engine request link n = { link with exchanges := link.exchanges.drop n } := by
  induction n with
  | zero => rfl
  | succ n ih =>
    rw [backendAfter, (exchange_transport ht _ _).2, ih]
    have hrest : ({ link with exchanges := link.exchanges.drop n } : Link).isOpen = true := hopen
    rw [(Client.send_of_canPost hrest hpost).2, List.tail_drop]

/-- An attempt ends as the client reads its exchange. -/
theorem outcome_of_canPost (ht : engine.transport = c.transport) (hopen : link.isOpen = true)
    (hpost : CanPost c link.credentials link.credentials url) (n : Nat) :
    outcome engine request link (n + 1) = endOfReading (c.readNext url link.exchanges[n]?) := by
  have hrest : ({ link with exchanges := link.exchanges.drop n } : Link).isOpen = true := hopen
  rw [outcome, (exchange_transport ht _ _).1, endingOf_replyOf, Nat.add_sub_cancel,
    backendAfter_of_canPost ht hopen hpost, (Client.send_of_canPost hrest hpost).1, List.head?_drop]

theorem outcome_of_not_canPost (ht : engine.transport = c.transport) (hopen : link.isOpen = true)
    (hnot : ∀ next url, ¬ CanPost c link.credentials next url) :
    outcome engine request link 1 = .broken .misuse := by
  rw [outcome, (exchange_transport ht _ _).1, endingOf_replyOf]
  exact congrArg endOfReading (Client.send_of_not_canPost hopen hnot)

end Client

end Execution

end Retrieval
