import Retrieval.Proofs.Policies
import Retrieval.Proofs.Serving

/-!
Services that run. Whatever a service answers, only the exchanges of its link get fewer. Main
statement: a service that has started runs, and goes on running through any calls.
-/

namespace Retrieval

namespace Run

variable {σ α β : Type} {p : σ → Prop}

/-- A run that keeps a property of the state. -/
def Keeps (p : σ → Prop) (r : Run σ α) : Prop := ∀ s, p s → p (r s).state

theorem keeps_pure (a : α) : Keeps p (pure a : Run σ α) := fun _ h => h

theorem keeps_get : Keeps p (get : Run σ σ) := fun _ h => h

theorem keeps_emit (e : Event) : Keeps p (emit e : Run σ Unit) := fun _ h => h

theorem keeps_log (level : Log.Level) (text : String) : Keeps p (log level text : Run σ Unit) :=
  keeps_emit _

theorem keeps_logAll (entries : List Log.Entry) : Keeps p (logAll entries : Run σ Unit) :=
  fun _ h => h

theorem Keeps.bind {r : Run σ α} {f : α → Run σ β} (hr : Keeps p r) (hf : ∀ a, Keeps p (f a)) :
    Keeps p (r >>= f) := fun s h => hf _ _ (hr s h)

end Run

namespace Http

/-- A link that is open, with credentials that are the same after each request. -/
structure Link.IsReady (link : Link) : Prop where
  isOpen : link.isOpen = true
  steady : ∀ value next, link.credentials.header? = some (value, next) → next = link.credentials

namespace Client

open Run (Keeps)

theorem keeps_exchange : Keeps Link.IsReady exchange := by
  intro link h
  unfold exchange
  simp only [Run.bind_apply, Run.get]
  cases link.exchanges with
  | nil => exact h
  | cons e rest => exact ⟨h.isOpen, h.steady⟩

theorem keeps_authorize : Keeps Link.IsReady authorize := by
  intro link h
  unfold authorize
  simp only [Run.bind_apply, Run.get]
  cases hheader : link.credentials.header? with
  | none => exact h
  | some found =>
    obtain ⟨value, next⟩ := found
    obtain rfl := h.steady value next hheader
    exact h

theorem keeps_settle (url : String) (isChecked : Bool) (e : Exchange) :
    Keeps Link.IsReady (settle url isChecked e) := by
  cases e with
  | timedOut cause => exact Run.keeps_pure _
  | failed cause => exact Run.keeps_pure _
  | answered a =>
    rw [settle]
    split
    · exact (Run.keeps_log _ _).bind fun _ => Run.keeps_pure _
    · exact Run.keeps_pure _

theorem keeps_deliver (url : String) (isChecked : Bool) (p : Prepared) :
    Keeps Link.IsReady (deliver url isChecked p) := by
  refine (Run.keeps_emit _).bind fun _ => keeps_exchange.bind fun next => ?_
  split
  · exact Run.keeps_pure _
  · split
    · exact keeps_settle _ _ _
    · exact Run.keeps_pure _
  · exact keeps_settle _ _ _

theorem keeps_request (c : Client) (call : Call) : Keeps Link.IsReady (c.request call) := by
  refine Run.keeps_get.bind fun link => ?_
  split
  · exact Run.keeps_pure _
  · split
    · exact Run.keeps_pure _
    · refine keeps_authorize.bind fun header => ?_
      split
      · exact Run.keeps_pure _
      · dsimp only
        split
        · exact Run.keeps_pure _
        · exact keeps_deliver _ _ _

theorem keeps_healthcheck (c : Client) : Keeps Link.IsReady c.healthcheck := keeps_request c _

theorem keeps_transport (c : Client) (r : Request) (n : Nat) (limit : Option Float) :
    Keeps Link.IsReady (c.transport r n limit) :=
  ((keeps_request c _).bind fun _ => Run.keeps_pure _).bind fun _ => Run.keeps_pure _

end Client

end Http

namespace Execution

open Run (Keeps)

variable {σ : Type} {p : σ → Prop} {engine : Engine σ}

/-- A property of the backend, as one of the standing. -/
abbrev OfBackend (p : σ → Prop) (s : Standing σ) : Prop := p s.backend

theorem keeps_attempt (h : ∀ r n limit, Keeps p (engine.transport r n limit)) (request : Request)
    (n : Nat) : Keeps (OfBackend p) (attempt engine request n) := by
  have hwithin : Keeps (OfBackend p) (Run.within Standing.backend
      (fun b s => { s with backend := b })
      (engine.transport request n engine.policy.attemptTimeout)) :=
    fun s hs => h request n engine.policy.attemptTimeout s.backend hs
  exact (Run.keeps_emit _).bind fun _ => hwithin.bind fun _ => Run.keeps_pure _

theorem keeps_delayFor (n : Nat) : Keeps (OfBackend p) (delayFor engine n) := by
  unfold delayFor
  split
  · exact Run.keeps_pure _
  · exact fun _ h => h

theorem keeps_attemptsFrom (h : ∀ r n limit, Keeps p (engine.transport r n limit))
    (request : Request) (left n : Nat) :
    Keeps (OfBackend p) (attemptsFrom engine request left n) := by
  induction left generalizing n with
  | zero =>
    rw [attemptsFrom]
    refine (keeps_attempt h request n).bind fun ending => ?_
    split
    · exact Run.keeps_pure _
    · exact Run.keeps_pure _
    · split
      · exact (Run.keeps_log _ _).bind fun _ => Run.keeps_pure _
      · exact (Run.keeps_log _ _).bind fun _ => Run.keeps_pure _
  | succ left ih =>
    rw [attemptsFrom]
    refine (keeps_attempt h request n).bind fun ending => ?_
    split
    · exact Run.keeps_pure _
    · exact Run.keeps_pure _
    · split
      · exact (Run.keeps_log _ _).bind fun _ => Run.keeps_pure _
      · refine (keeps_delayFor n).bind fun delay => ?_
        split
        · exact Run.keeps_pure _
        · exact (Run.keeps_log _ _).bind fun _ => (Run.keeps_emit _).bind fun _ => ih (n + 1)

theorem keeps_send (h : ∀ r n limit, Keeps p (engine.transport r n limit)) (request : Request) :
    Keeps (OfBackend p) (send engine request) := keeps_attemptsFrom h request _ _

theorem keeps_sendAll (h : ∀ r n limit, Keeps p (engine.transport r n limit))
    (requests : List Request) : Keeps (OfBackend p) (sendAll engine requests) := by
  induction requests with
  | nil => exact Run.keeps_pure _
  | cons request rest ih =>
    exact (keeps_send h request).bind fun _ => ih.bind fun _ => Run.keeps_pure _

theorem keeps_finish (m : Member) (multiplexed : Bool) (ending : Ending) :
    Keeps (OfBackend p) (finish m multiplexed ending) := by
  cases ending with
  | envelope v => exact (Run.keeps_logAll _).bind fun _ => Run.keeps_pure _
  | failed e => exact Run.keeps_pure _
  | broken cause => exact Run.keeps_pure _

theorem keeps_execute (h : ∀ r n limit, Keeps p (engine.transport r n limit)) (subject : Subject) :
    Keeps (OfBackend p) (execute engine subject) := by
  unfold execute
  split
  · exact Run.keeps_pure _
  · refine (Run.keeps_logAll _).bind fun _ => ?_
    split
    · exact Run.keeps_pure _
    · split
      · exact Run.keeps_pure _
      · exact (keeps_send h _).bind fun _ => keeps_finish _ _ _

theorem keeps_executeBatch (h : ∀ r n limit, Keeps p (engine.transport r n limit))
    (strategy : BatchStrategy) (subjects : List Subject) :
    Keeps (OfBackend p) (executeBatch engine strategy subjects) := by
  intro s hs
  cases hplan : Compilation.compileBatch (clausesOf subjects) strategy with
  | ok plan =>
    rw [(executeBatch_of_plan engine hplan s).2.state]
    exact keeps_sendAll h plan.requests s hs
  | error v =>
    rw [(executeBatch_uncompiled engine hplan s).2.state]
    exact hs

end Execution

namespace Api

open Run (Keeps)
open Execution (OfBackend)
open Http (Client Link)

/-- A service that runs: its queries go through its own client, and at least one attempt is allowed
for each. -/
structure IsRunning (s : Service) (st : Standing Link) : Prop where
  transport : s.engine.transport = s.client.transport
  most : 1 ≤ s.engine.policy.maxAttempts
  link : st.backend.IsReady

section Serving

variable {s : Service} {p : Link → Prop}

theorem keeps_serveQuery (h : ∀ r n limit, Keeps p (s.engine.transport r n limit))
    (b : QueryBody) : Keeps (OfBackend p) (serveQuery s b) := by
  have hrun : Keeps (OfBackend p) (runQuery s b) := by
    unfold runQuery
    split
    · exact Run.keeps_pure _
    · exact Execution.keeps_execute h _
  refine (Run.keeps_log _ _).bind fun _ => hrun.bind fun outcome => ?_
  split
  · exact (Run.keeps_log _ _).bind fun _ => Run.keeps_pure _
  · exact (Run.keeps_log _ _).bind fun _ => Run.keeps_pure _
  · exact Run.keeps_pure _

theorem keeps_serveBatch (h : ∀ r n limit, Keeps p (s.engine.transport r n limit))
    (b : BatchBody) : Keeps (OfBackend p) (serveBatch s b) := by
  have hrun (strategy : Option BatchStrategy) (queries : List Query) :
      Keeps (OfBackend p) (runBatch s strategy queries) := by
    unfold runBatch
    split
    · exact Run.keeps_pure _
    · exact Execution.keeps_executeBatch h _ _
  refine (Run.keeps_log _ _).bind fun _ => ?_
  split
  · exact Run.keeps_pure _
  · refine (hrun _ _).bind fun outcome => ?_
    split
    · exact Run.keeps_pure _
    · exact Run.keeps_pure _

theorem keeps_serveBody {α : Type} (c : Call) (read : Schema.Reader α) {serve : α → Served}
    (h : ∀ b, Keeps (OfBackend p) (serve b)) :
    Keeps (OfBackend p) (serveBody s c read serve) := by
  unfold serveBody
  split
  · exact Run.keeps_pure _
  · unfold serveContent
    split
    · exact Run.keeps_pure _
    · exact Run.keeps_pure _
    · split
      · exact Run.keeps_pure _
      · exact h _

theorem keeps_serve (h : ∀ r n limit, Keeps p (s.engine.transport r n limit)) (c : Call) :
    Keeps (OfBackend p) (serve s c) := by
  unfold serve
  split
  · exact Run.keeps_pure _
  · dsimp only
    split
    · exact Run.keeps_pure _
    · split
      · exact Run.keeps_pure _
      · split
        · exact Run.keeps_pure _
        · split
          · exact keeps_serveBody c _ (keeps_serveQuery h)
          · exact keeps_serveBody c _ (keeps_serveBatch h)
          · exact Run.keeps_pure _

end Serving

/-- The standing after some calls. -/
def standingThrough (s : Service) (st : Standing Link) : List Call → Standing Link
  | [] => st
  | c :: rest => standingThrough s (serve s c st).state rest

/-- A service that runs goes on running, whatever call it answers. -/
theorem IsRunning.serve {s : Service} {st : Standing Link} (h : IsRunning s st) (c : Call) :
    IsRunning s (serve s c st).state where
  transport := h.transport
  most := h.most
  link :=
    keeps_serve (fun r n limit => h.transport ▸ Client.keeps_transport _ r n limit) c st h.link

theorem IsRunning.through {s : Service} {st : Standing Link} (h : IsRunning s st)
    (calls : List Call) : IsRunning s (standingThrough s st calls) := by
  induction calls generalizing st with
  | nil => exact h
  | cons c rest ih => exact ih (h.serve c)

theorem one_le_maxAttempts_of_ofSettings {settings : Settings} {policy : RetryPolicy}
    (h : RetryPolicy.ofSettings settings = .ok policy) : 1 ≤ policy.maxAttempts := by
  unfold RetryPolicy.ofSettings at h
  -- the numbers that the settings give are peeled off one by one
  iterate 6
    replace h := bind_eq_ok_iff.mp h
    obtain ⟨_, -, h⟩ := h
  dsimp only at h
  split at h
  all_goals
    cases hread : RetryPolicy.read _ with
    | valid read =>
      rw [hread] at h
      obtain rfl := Except.ok.inj h
      exact (RetryPolicy.isSound_of_read hread).attempts
    | invalid issues =>
      rw [hread] at h
      cases h

/-- Credentials that are no source of tokens are the same after each request. -/
theorem steady_of_ne_rotating {credentials next : Credentials} {value : Option String}
    (hne : ∀ tokens, credentials ≠ .rotating tokens)
    (h : credentials.header? = some (value, next)) : next = credentials := by
  cases credentials with
  | none => exact (Prod.mk.inj (Option.some.inj h)).2.symm
  | basic username password =>
    rw [Credentials.header?] at h
    split at h
    · exact (Prod.mk.inj (Option.some.inj h)).2.symm
    · cases h
  | bearer token => exact (Prod.mk.inj (Option.some.inj h)).2.symm
  | rotating tokens => exact absurd rfl (hne tokens)

theorem ofSettings_ne_rotating (settings : Settings) (start : String) (tokens : List String) :
    Credentials.ofSettings settings start ≠ .rotating tokens := by
  unfold Credentials.ofSettings
  dsimp only
  split
  · nofun
  · split <;> nofun

theorem isReady_initial (settings : Settings) (exchanges : List Http.Exchange) :
    (initial settings exchanges).backend.IsReady where
  isOpen := rfl
  steady _ _ := steady_of_ne_rotating (ofSettings_ne_rotating settings _)

/-- What settings give a service, if the backend is ready. -/
def startParts (settings : Settings) (ready : Except Failure Http.Answer) :
    Except Failure (Registry × RetryPolicy × BatchStrategy) := do
  let _ ← ready
  let registry ← (Registry.ofSettings settings).mapError .setting
  let policy ← RetryPolicy.ofSettings settings
  return (registry, policy, ← BatchStrategy.ofSettings settings)

/-- How a start goes on once the backend has been asked. -/
def startAfter (settings : Settings) (random : Nat → Float) (client : Client)
    (ready : Except Failure Http.Answer) : Run (Standing Link) (Except Failure Service) :=
  match startParts settings ready with
  | .error e => return .error e
  | .ok (registry, policy, strategy) => do
    Run.log .info (readyText registry)
    return .ok ⟨settings, client, ⟨client.transport, policy, strategy, some registry, random⟩⟩

theorem start_eq (settings : Settings) (random : Nat → Float) (client : Client) :
    start settings random client =
      (if settings.flagOr "QUERY_HEALTHCHECK_ON_BOOT" true then
        Run.within Standing.backend (fun b s => { s with backend := b }) client.healthcheck
      else pure (.ok ⟨200, ""⟩)) >>= startAfter settings random client := by
  unfold start
  cases settings.flagOr "QUERY_HEALTHCHECK_ON_BOOT" true <;> rfl

theorem keeps_start (settings : Settings) (random : Nat → Float) (client : Client) :
    Keeps (OfBackend Http.Link.IsReady) (start settings random client) := by
  have hcheck : Keeps (OfBackend Http.Link.IsReady) (Run.within Standing.backend
      (fun b s => { s with backend := b }) client.healthcheck) :=
    fun st hst => Client.keeps_healthcheck client st.backend hst
  rw [start_eq]
  refine Run.Keeps.bind ?_ fun ready => ?_
  · split
    · exact hcheck
    · exact Run.keeps_pure _
  · unfold startAfter
    split
    · exact Run.keeps_pure _
    · exact (Run.keeps_log _ _).bind fun _ => Run.keeps_pure _

/-- What a start leads to goes through the client, by the policy of the settings. -/
theorem exists_of_startAfter {settings : Settings} {random : Nat → Float} {client : Client}
    {ready : Except Failure Http.Answer} {st : Standing Link} {s : Service}
    (h : (startAfter settings random client ready st).result = .ok s) :
    s.engine.transport = s.client.transport ∧
      RetryPolicy.ofSettings settings = .ok s.engine.policy := by
  unfold startAfter at h
  cases hparts : startParts settings ready with
  | error e =>
    rw [hparts] at h
    cases h
  | ok parts =>
    obtain ⟨registry, policy, strategy⟩ := parts
    rw [hparts] at h
    obtain rfl := Except.ok.inj h
    obtain ⟨_, -, hparts⟩ := bind_eq_ok_iff.mp hparts
    obtain ⟨_, -, hparts⟩ := bind_eq_ok_iff.mp hparts
    obtain ⟨_, hpolicy, hparts⟩ := bind_eq_ok_iff.mp hparts
    obtain ⟨_, -, hparts⟩ := bind_eq_ok_iff.mp hparts
    cases hparts
    exact ⟨rfl, hpolicy⟩

/-- A service that has started runs. -/
theorem isRunning_start {settings : Settings} {random : Nat → Float} {client : Client}
    {exchanges : List Http.Exchange} {s : Service}
    (h : (start settings random client (initial settings exchanges)).result = .ok s) :
    IsRunning s (start settings random client (initial settings exchanges)).state := by
  have hready := keeps_start settings random client _ (isReady_initial settings exchanges)
  rw [start_eq] at h
  obtain ⟨htransport, hpolicy⟩ := exists_of_startAfter h
  exact ⟨htransport, one_le_maxAttempts_of_ofSettings hpolicy, hready⟩

end Api

end Retrieval
