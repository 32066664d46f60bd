import Retrieval.Proofs.Endings
import Retrieval.Proofs.Running

/-!
Failures as the service tells them. The error of a query comes about in one of four ways: the query
is refused, its attempts are used up, an answer is a failure, or an answer cannot be read. Main
statement: if the error can be told at all, the status of the answer is the one for the way in which
it came about, and never one of success.
-/

namespace Retrieval

namespace Api

open Execution
open Http (Client Link Exchange)
open Http.Client (CanPost)
open Value (levels)

/-- How the error of a query comes about, when so many attempts are allowed and the network does
what is given. -/
inductive Arises (most : Nat) (xs : List Exchange) : QueryError → Prop
  | configuration (cause : ConfigurationError) : Arises most xs (.configuration cause)
  | exhausted (last : QueryError) : (∀ n < most, ∃ x, xs[n]? = some x ∧ x.IsTransient) →
      Arises most xs (.exhausted last most)
  | refused {k : Nat} {a : Http.Answer} {e : BackendError} : k < most →
      (∀ n < k, ∃ x, xs[n]? = some x ∧ x.IsTransient) → xs[k]? = some (.answered a) →
      ¬ (Exchange.answered a).IsTransient → 300 ≤ a.status → e.status = .int a.status →
      e.kind.isRetryable = false → Arises most xs (.backend e)
  | unreadable {k : Nat} {a : Http.Answer} (cause : ResponseError) : k < most →
      (∀ n < k, ∃ x, xs[n]? = some x ∧ x.IsTransient) → xs[k]? = some (.answered a) →
      ¬ (Exchange.answered a).IsTransient → a.status < 300 → Arises most xs (.response cause)

variable {s : Service} {st : Standing Link} {request : Request} {url : Http.Address}

/-- What the client can post stays so from one attempt to the next. -/
theorem IsRunning.canPost (h : IsRunning s st) {next : Credentials}
    (hpost : CanPost s.client st.backend.credentials next url) :
    CanPost s.client st.backend.credentials st.backend.credentials url := by
  obtain ⟨value, hheader, hascii⟩ := hpost.header
  obtain rfl := h.link.steady value next hheader
  exact ⟨⟨value, hheader, hascii⟩, hpost.target⟩

/-- The exchanges of attempts that are retried are worth another attempt. -/
theorem isTransient_of_retried (h : IsRunning s st)
    (hpost : CanPost s.client st.backend.credentials st.backend.credentials url) {n : Nat}
    (hretried : RetriedUpTo s.engine request st.backend n) :
    ∀ k < n, ∃ x, st.backend.exchanges[k]? = some x ∧ x.IsTransient := by
  intro k hk
  obtain ⟨e, he, hretry⟩ := (isRetryable_iff _).mp (hretried (k + 1) (by omega) (by omega))
  rw [outcome_of_canPost h.transport h.link.isOpen hpost] at he
  cases hx : st.backend.exchanges[k]? with
  | none =>
    rw [hx] at he
    cases he
  | some x =>
    rw [hx, Client.readNext] at he
    cases hread : s.client.readExchange url x with
    | ok v =>
      rw [hread] at he
      cases he
    | error cause =>
      rw [hread] at he
      cases cause with
      | query e' =>
        obtain rfl : e' = e := Ending.failed.inj he
        obtain ⟨-, htransient⟩ | ⟨hnot, -⟩ := Client.readExchange_failed hread
        · exact ⟨x, rfl, htransient⟩
        · rw [hretry] at hnot
          cases hnot
      | _ => cases he

theorem exists_of_errorOf_eq_query {collection : String} {fault : Envelope.Fault} {e : QueryError}
    (h : errorOf collection fault = .query e) : ∃ cause, e = .response cause := by
  cases fault with
  | tooLarge => cases h
  | _ => exact ⟨_, (Failure.query.inj h).symm⟩

/-- An attempt that is not retried, and leads to an error of the query. -/
theorem arises_of_stopped (h : IsRunning s st)
    (hpost : CanPost s.client st.backend.credentials st.backend.credentials url) {k : Nat}
    (hk : k < s.engine.policy.maxAttempts)
    (hretried : RetriedUpTo s.engine request st.backend k)
    (hstop : (outcome s.engine request st.backend (k + 1)).isRetryable = false) {m : Member}
    {multiplexed : Bool} {e : QueryError}
    (herror : resultOf m multiplexed (outcome s.engine request st.backend (k + 1)) =
      .error (.query e)) :
    Arises s.engine.policy.maxAttempts st.backend.exchanges e := by
  have hbefore := isTransient_of_retried h hpost hretried
  rw [outcome_of_canPost h.transport h.link.isOpen hpost] at hstop herror
  cases hx : st.backend.exchanges[k]? with
  | none =>
    rw [hx] at herror
    cases herror
  | some x =>
    rw [hx, Client.readNext] at hstop herror
    cases hread : s.client.readExchange url x with
    | ok v =>
      obtain ⟨hnot, a, rfl, hstatus⟩ := Client.readExchange_read hread
      rw [hread] at herror
      cases hout : (Envelope.normalize m multiplexed v).outcome with
      | ok r => simp [endOfReading, resultOf, hout, Except.mapError] at herror
      | error fault =>
        have hfault : errorOf m.collection fault = .query e := by
          simpa [endOfReading, resultOf, hout, Except.mapError] using herror
        obtain ⟨cause, rfl⟩ := exists_of_errorOf_eq_query hfault
        exact .unreadable cause hk hbefore hx hnot hstatus
    | error cause =>
      rw [hread] at hstop herror
      cases cause with
      | query e' =>
        obtain rfl : e' = e := Failure.query.inj (Except.error.inj herror)
        obtain ⟨hretry, -⟩ | ⟨hnot, htransient, a, be, rfl, hstatus, rfl, hcode⟩ :=
          Client.readExchange_failed hread
        · have hcontra : e'.isRetryable = false := hstop
          rw [hretry] at hcontra
          cases hcontra
        · exact .refused hk hbefore hx htransient hstatus hcode hnot
      | _ => cases herror

/-- An error that a request ends in comes about in one of the known ways. -/
theorem arises_of_send (h : IsRunning s st) {m : Member} {multiplexed : Bool} {e : QueryError}
    (herror : resultOf m multiplexed (send s.engine request st).result = .error (.query e)) :
    Arises s.engine.policy.maxAttempts st.backend.exchanges e := by
  have hends := endsAs_send request h.most st
  by_cases hpost : ∃ next url, CanPost s.client st.backend.credentials next url
  · obtain ⟨next, url, hpost⟩ := hpost
    have hpost := h.canPost hpost
    generalize (send s.engine request st).result = ending at hends herror
    cases hends with
    | stopped hk hretried hstop => exact arises_of_stopped h hpost hk hretried hstop herror
    | exhausted hretried =>
      cases herror
      exact .exhausted _ (isTransient_of_retried h hpost hretried)
    | overflow => cases herror
  · -- nothing can be posted, so the first attempt breaks off and none is retried
    have hfirst : outcome s.engine request st.backend 1 = .broken .misuse :=
      outcome_of_not_canPost h.transport h.link.isOpen fun next url hp => hpost ⟨next, url, hp⟩
    have hnever : ∀ n, 1 ≤ n → ¬ RetriedUpTo s.engine request st.backend n := by
      intro n hn hretried
      have hretry := hretried 1 (by omega) hn
      rw [hfirst] at hretry
      cases hretry
    generalize (send s.engine request st).result = ending at hends herror
    cases hends with
    | @stopped k hk hretried hstop =>
      cases k with
      | zero =>
        rw [hfirst] at herror
        cases herror
      | succ k => exact absurd hretried (hnever _ (by omega))
    | exhausted hretried => exact absurd hretried (hnever _ h.most)
    | overflow => cases herror

/-- How a status accounts for the error of a query, over so many attempts and what the network
does. -/
structure IsAccountOf (most : Nat) (xs : List Exchange) (e : QueryError) (status : Nat) : Prop where
  failing : status < 200 ∨ 300 ≤ status
  configuration : ∀ cause, e = .configuration cause → status = 400
  exhausted : status = 503 ↔ (∀ cause, e ≠ .configuration cause) ∧
    ∀ n < most, ∃ x, xs[n]? = some x ∧ x.IsTransient
  unreadable : ∀ cause, e = .response cause → status = 502
  passedOn : (∀ cause, e ≠ .configuration cause) → (∀ cause, e ≠ .response cause) → status ≠ 503 →
    ∃ k a, k < most ∧ (∀ n < k, ∃ x, xs[n]? = some x ∧ x.IsTransient) ∧
      xs[k]? = some (.answered a) ∧ 300 ≤ a.status ∧ status = a.status
  wrapped : e.isRetryable = false

variable {most : Nat} {xs : List Exchange} {e : QueryError}

/-- Not all exchanges are worth another attempt if one is not. -/
theorem not_all_transient {k : Nat} {x : Exchange} (hk : k < most) (hx : xs[k]? = some x)
    (hnot : ¬ x.IsTransient) : ¬ ∀ n < most, ∃ x, xs[n]? = some x ∧ x.IsTransient := by
  intro hall
  obtain ⟨y, hy, htransient⟩ := hall k hk
  obtain rfl : x = y := Option.some.inj (hx.symm.trans hy)
  exact hnot htransient

theorem Arises.isAccountOf (h : Arises most xs e) : IsAccountOf most xs e (statusOf e).toNat := by
  cases h with
  | configuration cause =>
    rw [show (statusOf (.configuration cause)).toNat = 400 from rfl]
    exact {
      failing := by decide
      configuration := fun _ _ => rfl
      exhausted := ⟨fun h => absurd h (by decide), fun h => absurd rfl (h.1 cause)⟩
      unreadable := nofun
      passedOn := fun h => absurd rfl (h cause)
      wrapped := rfl }
  | exhausted last hall =>
    rw [show (statusOf (.exhausted last most)).toNat = 503 from rfl]
    exact {
      failing := by decide
      configuration := nofun
      exhausted := ⟨fun _ => ⟨nofun, hall⟩, fun _ => rfl⟩
      unreadable := nofun
      passedOn := fun _ _ h => absurd rfl h
      wrapped := rfl }
  | @refused k a be hk hbefore hx hnot hstatus hcode hretry =>
    have hstatusOf : (statusOf (.backend be)).toNat = a.status := by
      simp only [statusOf, hcode]
      rw [if_neg (by omega), Int.toNat_natCast]
    rw [hstatusOf]
    exact {
      failing := .inr hstatus
      configuration := nofun
      exhausted := ⟨fun h503 => absurd (.inr (.inr (.inl (by omega)))) hnot,
        fun h => absurd h.2 (not_all_transient hk hx hnot)⟩
      unreadable := nofun
      passedOn := fun _ _ _ => ⟨k, a, hk, hbefore, hx, hstatus, rfl⟩
      wrapped := hretry }
  | unreadable cause hk _ hx hnot _ =>
    rw [show (statusOf (.response cause)).toNat = 502 from rfl]
    exact {
      failing := by decide
      configuration := nofun
      exhausted := ⟨fun h => absurd h (by decide),
        fun h => absurd h.2 (not_all_transient hk hx hnot)⟩
      unreadable := fun _ _ => rfl
      passedOn := fun _ h => absurd rfl (h cause)
      wrapped := rfl }

/-- An error that can be told in a response: its words are characters throughout, and so are those
of its detail, which is not too deep. -/
def CanBeTold (e : QueryError) : Prop :=
  Text.isEncodable e.message = true ∧ levels (backendDetail e) ≤ maxLevels ∧
    Json.IsSendable (withoutOddNumbers (backendDetail e))

/-- What is told of an error. -/
def errorBody (e : QueryError) : Value :=
  .map [("type", .text e.name), ("message", .text e.message), ("status_code", backendStatus e),
    ("detail", withoutOddNumbers (backendDetail e))]

theorem isEncodable_name (e : QueryError) : Text.isEncodable e.name = true := by
  cases e with
  | backend e =>
    have hkind (kind : BackendKind) : Text.isEncodable kind.name = true := by
      cases kind <;> decide
    exact hkind e.kind
  | _ =>
    rw [QueryError.name]
    decide

theorem isSendable_errorBody_iff (hstatus : Json.IsSendable (backendStatus e)) :
    Json.IsSendable (errorBody e) ↔ Text.isEncodable e.message = true ∧
      Json.IsSendable (withoutOddNumbers (backendDetail e)) := by
  have htype : Text.isEncodable "type" = true := by decide
  have hmessage : Text.isEncodable "message" = true := by decide
  have hcode : Text.isEncodable "status_code" = true := by decide
  have hdetail : Text.isEncodable "detail" = true := by decide
  rw [errorBody, Json.isSendable_map_iff]
  simp only [List.forall_mem_cons, htype, hmessage, hcode, hdetail, Json.isSendable_text_iff,
    isEncodable_name, hstatus, true_and]
  exact ⟨fun h => ⟨h.1, h.2.1⟩, fun h => ⟨h.1, h.2, List.forall_mem_nil _⟩⟩

/-- There is a response to an error exactly if the error can be told. -/
theorem errorResponse_eq_ok_iff (hstatus : Json.IsSendable (backendStatus e)) {r : Response} :
    errorResponse e = .ok r ↔ CanBeTold e ∧ r = ⟨(statusOf e).toNat, errorBody e⟩ := by
  by_cases hlevels : levels (backendDetail e) ≤ maxLevels
  · have hdata : errorResponse e = Response.ofData (statusOf e).toNat (errorBody e) := by
      unfold errorResponse errorData looseData
      rw [if_pos hlevels]
      rfl
    rw [hdata, ofData_eq_ok_iff, isSendable_errorBody_iff hstatus, CanBeTold]
    simp only [hlevels, true_and]
  · have hdata : errorResponse e = .error .tooNested := by
      unfold errorResponse errorData looseData
      rw [if_neg hlevels]
      rfl
    rw [hdata]
    exact ⟨nofun, fun h => absurd h.1.2.1 hlevels⟩

theorem Arises.isSendable_status (h : Arises most xs e) : Json.IsSendable (backendStatus e) := by
  cases h with
  | refused _ _ _ _ _ hcode =>
    rw [backendStatus, hcode]
    exact Json.isSendable_int _
  | _ => exact Json.isSendable_null

/-- An error that a query in the body of a call runs to comes about in one of the known ways. -/
theorem arises_of_runQuery {c : Call} {b : QueryBody} (h : IsRunning s st) (hbrings : Brings c b)
    (hfail : (runQuery s b st).result = .error (.query e)) :
    Arises s.engine.policy.maxAttempts st.backend.exchanges e := by
  have hruns := hbrings.runsTo s st
  generalize (runQuery s b st).result = outcome at hruns hfail
  cases hruns with
  | @unassembled be hassemble =>
    cases be with
    | misuse => cases hfail
    | refused cause =>
      cases hfail
      exact .configuration cause
  | incomplete hassemble hcomplete =>
    cases hfail
    exact .configuration _
  | uncompiled hassemble hcomplete hcompile hlimit =>
    exact absurd (Except.error.inj hfail) (toFailure_ne_query hlimit e)
  | sent hassemble hcomplete hcompile => exact arises_of_send h hfail

/-- A query that ends in an error is answered exactly if the error can be told, and the status of
the answer accounts for the error; it is never one of success. -/
theorem failure_answered (s : Service) (c : Call) (b : QueryBody) (st : Standing Link)
    (e : QueryError) (hrunning : IsRunning s st) (hposes : PosesQuery s c b)
    (hfail : (runQuery s b st).result = .error (.query e)) :
    ((∃ r, (serve s c st).result = .ok r) ↔ CanBeTold e) ∧
      ∀ r, (serve s c st).result = .ok r → r.body = errorBody e ∧
        IsAccountOf s.engine.policy.maxAttempts st.backend.exchanges e r.status := by
  have harises := arises_of_runQuery hrunning hposes.brings hfail
  have hserve : (serve s c st).result = errorResponse e := by
    rw [serve_of_posesQuery hposes, serveQuery_result, hfail]
    rfl
  have hanswer := fun r => errorResponse_eq_ok_iff harises.isSendable_status (r := r)
  rw [hserve]
  constructor
  · exact ⟨fun ⟨r, hr⟩ => ((hanswer r).mp hr).1, fun htold => ⟨_, (hanswer _).mpr ⟨htold, rfl⟩⟩⟩
  · intro r hr
    obtain ⟨-, rfl⟩ := (hanswer r).mp hr
    exact ⟨rfl, harises.isAccountOf⟩

/-- A query ends in the error of its first exchange if that is not worth another attempt. -/
theorem runQuery_stopped {b : QueryBody} {q : Query} {clause : Clause} {x : Exchange}
    {rest : List Exchange} (h : IsRunning s st)
    (hpost : CanPost s.client st.backend.credentials st.backend.credentials url)
    (hassemble : b.assemble s.engine.registry = .ok q) (hcomplete : q.complete = .ok clause)
    (hcompile : Compilation.compile clause = .ok request)
    (hnext : st.backend.exchanges = x :: rest)
    (hread : s.client.readExchange url x = .error (.query e)) (hretry : e.isRetryable = false) :
    (runQuery s b st).result = .error (.query e) := by
  have hfirst : outcome s.engine request st.backend 1 = .failed e := by
    rw [outcome_of_canPost h.transport h.link.isOpen hpost, hnext, List.getElem?_cons_zero,
      Client.readNext, hread]
    rfl
  have hsend : (send s.engine request st).result = .failed e := by
    have hstop : (outcome s.engine request st.backend (0 + 1)).isRetryable = false := by
      rw [hfirst]
      exact hretry
    exact (congrArg Course.result (attemptsFrom_stop hstop)).trans hfirst
  have hsubject : (Subject.query q).complete = .ok clause := hcomplete
  unfold runQuery
  rw [hassemble]
  dsimp only
  rw [execute_of_compile s.engine hsubject hcompile, hsend]
  rfl

def keySettings : Settings := ⟨[("APP_API_KEY", "test-key")]⟩

def keyHeaders : Entries String := [("X-API-Key", "test-key")]

/-- A call that carries a key and brings data. -/
def keyedCall (path : String) (es : Entries Value) : Call :=
  ⟨"POST", path, keyHeaders, .data (.map es)⟩

theorem isAuthorized_key : isAuthorized keySettings keyHeaders = .ok true := by
  have hexpected : keySettings.text keySetting none = .ok "test-key" := by rfl
  have hprovided : header? "x-api-key" keyHeaders = some "test-key" := by decide +kernel
  unfold isAuthorized
  rw [hexpected, hprovided]
  rfl

/-- A call with the key poses what can be read in its data. -/
theorem poses_keyedCall {α : Type} {path : String} {es : Entries Value} {route : Route}
    {read : Schema.Reader α} {b : α} (hsettings : s.settings = keySettings)
    (hpath : (Route.path? path).map Route.ofPath = some route)
    (hsendable : Json.IsSendable (.map es)) (hread : read (.map es) = .valid b) :
    Poses s (keyedCall path es) route read b where
  route := by
    obtain ⟨p, hp, rfl⟩ := Option.map_eq_some_iff.mp hpath
    have hheaders : (keyHeaders.all fun h =>
        Http.Call.isAscii h.1 && Http.Call.isAscii h.2) = true := by
      decide
    obtain ⟨text, htext, hencodable⟩ := hsendable
    unfold Call.route keyedCall
    simp only [hp, hheaders, if_true, Payload.check, htext, hencodable]
    rfl
  method := by
    have hupper : Text.upper "POST" = "POST" := by decide
    exact hupper
  authorized := hsettings ▸ isAuthorized_key
  content := by
    have hkind : header? "content-type" keyHeaders = none := by decide +kernel
    refine ⟨.data (.map es), ?_, hread⟩
    unfold contentOf isJson keyedCall
    rw [hkind]
    rfl

/-- A service with a key, over a client that does not ask twice for the same. -/
def authorsService : Service :=
  ⟨keySettings, Client.localClient,
    ⟨Client.localClient.transport, {}, .independent, none, fun _ => 0.0⟩⟩

/-- A call for the names of authors, by its fields, and the query in its body. -/
def authorsFields : Entries Value :=
  [("collection", .text "Author"), ("select", .list [.text "name"])]

def authorsCall : Call := keyedCall "/query" authorsFields

def authorsBody : QueryBody :=
  ⟨"Author", ["name"], none, none, none, false, none, [], none, none, none, none⟩

theorem isSendable_authorsFields : Json.IsSendable (.map authorsFields) := by
  simp only [authorsFields, Json.isSendable_map_iff, Json.isSendable_list_iff,
    Json.isSendable_text_iff, List.forall_mem_cons, List.not_mem_nil, false_implies, implies_true,
    and_true]
  decide

theorem posesQuery_authors : PosesQuery authorsService authorsCall authorsBody :=
  poses_keyedCall rfl (by decide +kernel) isSendable_authorsFields rfl

/-- A standing of the service over a network that answers once. -/
def authorsStanding (a : Http.Answer) : Standing Link := ⟨Client.answering a, 0⟩

theorem isRunning_authors (a : Http.Answer) : IsRunning authorsService (authorsStanding a) where
  transport := rfl
  most := by decide
  link := ⟨rfl, fun _ _ => steady_of_ne_rotating (by simp [authorsStanding, Client.answering])⟩

theorem runQuery_authors {a : Http.Answer} {v : Option Value} (hstatus : a.status = 404)
    (hdata : Client.dataOf a.body = .ok v) :
    (runQuery authorsService authorsBody (authorsStanding a)).result = .error (.query (.backend
      (BackendError.ofStatus 404 (v.getD (.text a.body)) "http://backend.test/v1/graphql"))) := by
  obtain ⟨url, habsolute, hpost⟩ := Client.canPost_localClient
  have hassembled : (match authorsBody.assemble none with
      | .ok q => q.complete.isOk && (Compilation.compile q.clause).isOk
      | .error _ => false) = true := by decide +kernel
  cases hassemble : authorsBody.assemble none with
  | error e => simp [hassemble] at hassembled
  | ok q =>
    cases hcomplete : q.complete with
    | error e => simp [hassemble, hcomplete, Except.isOk, Except.toBool] at hassembled
    | ok clause =>
      obtain rfl := complete_eq_ok hcomplete
      obtain ⟨request, hrequest⟩ : ∃ request, Compilation.compile q.clause = .ok request := by
        cases hcompile : Compilation.compile q.clause with
        | error e => simp [hassemble, hcompile, Except.isOk, Except.toBool] at hassembled
        | ok request => exact ⟨request, rfl⟩
      have hread : Client.localClient.readExchange url (.answered a) = .error (.query (.backend
          (BackendError.ofStatus 404 (v.getD (.text a.body))
            "http://backend.test/v1/graphql"))) := by
        have haddress : Client.localClient.address Client.localClient.endpoint =
            "http://backend.test/v1/graphql" := by decide +kernel
        rw [Client.readExchange_answered habsolute, if_pos (by omega), Client.failureOf, hdata,
          hstatus, haddress]
        rfl
      exact runQuery_stopped (s := authorsService) (isRunning_authors a) hpost hassemble hcomplete
        hrequest rfl hread rfl

/-- What is not JSON is no data. -/
theorem dataOf_gone : Client.dataOf "gone" = .ok none := by
  have hread : (match Client.dataOf "gone" with
      | .ok none => true
      | .ok (some _) => false
      | .error _ => false) = true := by decide +kernel
  split at hread
  · assumption
  · cases hread
  · cases hread

/-- An object whose message is half of a pair. -/
def halfMessage : String := "\x7b\"message\":\"\\ud800\"\x7d"

theorem dataOf_halfMessage : ∃ v, Client.dataOf halfMessage = .ok (some v) ∧
    ¬ Json.IsSendable (withoutOddNumbers v) := by
  have hread : ((Client.dataOf halfMessage).toOption.join.any fun v =>
      !(Json.encode? (withoutOddNumbers v)).any Text.isEncodable) = true := by decide +kernel
  cases hdata : Client.dataOf halfMessage with
  | error e =>
    rw [hdata] at hread
    cases hread
  | ok found =>
    rw [hdata] at hread
    cases found with
    | none => cases hread
    | some v =>
      refine ⟨v, rfl, ?_⟩
      rintro ⟨s, hs, hencodable⟩
      have hnot : (!(Json.encode? (withoutOddNumbers v)).any Text.isEncodable) = true := hread
      rw [hs, Option.any_some, hencodable] at hnot
      cases hnot

/-- That there are no authors is answered with the status of the backend. If the backend says so
with half of a pair, there is no answer. -/
theorem failure_answered_authors :
    (∃ r, (serve authorsService authorsCall (authorsStanding ⟨404, "gone"⟩)).result = .ok r ∧
      r.status = 404) ∧
    ¬ ∃ r, (serve authorsService authorsCall (authorsStanding ⟨404, halfMessage⟩)).result =
      .ok r := by
  constructor
  · obtain ⟨htold, haccount⟩ := failure_answered _ _ _ _ _ (isRunning_authors ⟨404, "gone"⟩)
      posesQuery_authors (runQuery_authors rfl dataOf_gone)
    obtain ⟨r, hr⟩ := htold.mpr
      ⟨by decide +kernel, by decide, (Json.isSendable_text_iff _).mpr (by decide)⟩
    obtain ⟨-, haccount⟩ := haccount r hr
    refine ⟨r, hr, ?_⟩
    have hnot : ¬ (Exchange.answered ⟨404, "gone"⟩).IsTransient := by simp [Exchange.IsTransient]
    have hne : r.status ≠ 503 := fun h503 =>
      not_all_transient (k := 0) (by decide) rfl hnot (haccount.exhausted.mp h503).2
    obtain ⟨k, a, -, -, hx, -, hstatus⟩ := haccount.passedOn nofun nofun hne
    rw [hstatus]
    cases k with
    | zero => rw [← Exchange.answered.inj (Option.some.inj hx)]
    | succ k => cases hx
  · obtain ⟨v, hdata, hnot⟩ := dataOf_halfMessage
    have htold := (failure_answered _ _ _ _ _ (isRunning_authors ⟨404, halfMessage⟩)
      posesQuery_authors (runQuery_authors rfl hdata)).1
    rw [htold]
    exact fun h => hnot h.2.2

end Api

end Retrieval
