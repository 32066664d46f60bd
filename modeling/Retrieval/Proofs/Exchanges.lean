import Retrieval.Http.Client
import Retrieval.Proofs.Sendable
import Retrieval.Proofs.Traversal

/-!
What the client makes of an exchange with the backend. A request that can be posted takes one
exchange, and what the client answers is told by that exchange alone. Main statement: it answers
with an envelope or with an error of queries, unless an answer has too many levels, or is JSON but
no object where one is wanted; then what escapes is no error of queries.
-/

namespace Retrieval.Http.Client

open Call (isAscii)

/-- The address that requests are posted to, if the settings of the client give one. -/
def target? (c : Client) : Option Address :=
  (Address.ofText? (c.address c.endpoint)).bind Address.nowhere.seenFrom?

/-- A request can be posted: the credentials give a header within ASCII, and leave some for the next
request; and there is an address. -/
structure CanPost (c : Client) (credentials next : Credentials) (url : Address) : Prop where
  header : ∃ value, credentials.header? = some (value, next) ∧ value.all isAscii = true
  target : c.target? = some url

/-- The call that posts a request. -/
def posting (c : Client) (r : Request) (limit : Option Value) : Call where
  method := .text "POST"
  content := .text r.body
  endpoint := .text c.endpoint
  headers := .map [("Content-Type", .text "application/json")]
  isChecked := true
  limit

/-- The header of an authorization, if there is one. -/
def ownHeaders (value : Option String) : Entries String :=
  value.toList.map fun value => ("Authorization", value)

/-- The headers that a request is posted with. -/
def postHeaders (value : Option String) : Entries String :=
  Entries.merge (ownHeaders value) [("Content-Type", "application/json")]

variable {c : Client} {r : Request} {limit : Option Value} {value : Option String}

theorem all_postHeaders (value : Option String) :
    ((postHeaders value).all fun h => isAscii h.1 && isAscii h.2) = value.all isAscii := by
  have hkind : isAscii "application/json" = true := by decide
  have hname : isAscii "Content-Type" = true := by decide
  have hown : isAscii "Authorization" = true := by decide
  cases value with
  | none => simp [postHeaders, ownHeaders, Entries.merge, Entries.set, hkind, hname]
  | some v => simp [postHeaders, ownHeaders, Entries.merge, Entries.set, hkind, hname, hown]

theorem headersOver_posting (value : Option String) :
    (c.posting r limit).headersOver (ownHeaders value) =
      if value.all isAscii then .ok (postHeaders value) else .error .misuse := by
  rw [← all_postHeaders]
  rfl

/-- A request becomes a message exactly if it can be posted. -/
theorem prepare_posting (r : Request) (limit : Option Value) {url : Address}
    (hascii : value.all isAscii = true) (htarget : c.target? = some url) : ∃ p,
    (c.posting r limit).prepare (c.address c.endpoint) (ownHeaders value) c.limit = .ok p ∧
      p.sent.url = url.text ∧ p.isAbsolute = url.isAbsolute := by
  obtain ⟨given, hgiven, hseen⟩ := Option.bind_eq_some_iff.mp htarget
  have hbody : (c.posting r limit).body = .ok (r.body, none) := by
    unfold Call.body posting
    dsimp only
    rw [if_pos (isEncodable_body r)]
  unfold Call.prepare
  rw [headersOver_posting, if_pos hascii, ok_bind, hgiven]
  simp only [Call.orMisuse, ok_bind, hseen]
  rw [hbody]
  exact ⟨_, rfl, rfl, rfl⟩

theorem prepare_posting_error (h : value.all isAscii = false ∨ c.target? = none) :
    (c.posting r limit).prepare (c.address c.endpoint) (ownHeaders value) c.limit =
      .error .misuse := by
  unfold Call.prepare
  rw [headersOver_posting]
  cases hascii : value.all isAscii with
  | false => rfl
  | true =>
    have hnone : c.target? = none := h.resolve_left (by simp [hascii])
    rw [if_pos rfl, ok_bind]
    cases hgiven : Address.ofText? (c.address c.endpoint) with
    | none => rfl
    | some given =>
      have hseen : Address.nowhere.seenFrom? given = none := by
        simpa [target?, hgiven] using hnone
      simp only [Call.orMisuse, ok_bind, hseen]
      rfl

/-- What the client makes of an exchange, once a request has been posted. -/
def readExchange (c : Client) (url : Address) : Exchange → Except Failure Value
  | .timedOut cause => .error (.query (.transport (.timedOut (c.address c.endpoint) cause)))
  | .failed cause => .error (.query (.transport (.failed (c.address c.endpoint) cause)))
  | .answered a =>
    if !url.isAbsolute then .error (.unknownAddress url.text)
    else if 300 ≤ a.status then .error (failureOf (c.address c.endpoint) a)
    else readAnswer a

/-- What the client makes of what the network does next; a network that does nothing breaks off. -/
def readNext (c : Client) (url : Address) : Option Exchange → Except Failure Value
  | none => .error .misuse
  | some e => c.readExchange url e

variable {link : Link} {next : Credentials} {url : Address}

/-- The end of a message that is ready. -/
theorem deliver_posting {p : Prepared} (hurl : p.sent.url = url.text)
    (habsolute : p.isAbsolute = url.isAbsolute) (link : Link) :
    (deliver (c.address c.endpoint) true p link).result.bind readAnswer =
        c.readNext url link.exchanges.head? ∧
      (deliver (c.address c.endpoint) true p link).state =
        { link with exchanges := link.exchanges.tail } := by
  unfold deliver exchange
  cases hnext : link.exchanges with
  | nil =>
    simp only [Run.bind_apply, Run.emit_apply, Run.get, hnext, Run.pure_apply]
    exact ⟨rfl, by rw [List.tail_nil, ← hnext]⟩
  | cons e rest =>
    simp only [Run.bind_apply, Run.emit_apply, Run.get, hnext, Run.set, Run.pure_apply]
    cases e with
    | timedOut cause => exact ⟨rfl, rfl⟩
    | failed cause => exact ⟨rfl, rfl⟩
    | answered a =>
      dsimp only [List.head?_cons, readNext]
      rw [habsolute, hurl]
      cases hkind : url.isAbsolute with
      | false => simp [readExchange, hkind, Except.bind]
      | true =>
        by_cases hstatus : 300 ≤ a.status
        · simp [settle, readExchange, hkind, hstatus, Except.bind, Run.log]
        · simp [settle, readExchange, hkind, hstatus, Except.bind]

/-- With a header for it, a request leads to the delivery of its message. -/
theorem request_posting (hopen : link.isOpen = true)
    (hheader : link.credentials.header? = some (value, next)) :
    c.request (c.posting r limit) link =
      match (c.posting r limit).prepare (c.address c.endpoint) (ownHeaders value) c.limit with
      | .error e => ⟨.error e, [], { link with credentials := next }⟩
      | .ok p => deliver (c.address c.endpoint) true p { link with credentials := next } := by
  have hendpoint : (c.posting r limit).endpoint.text? = some c.endpoint := rfl
  have hauthorize : authorize link = ⟨some value, [], { link with credentials := next }⟩ := by
    unfold authorize
    simp [Run.get, hheader, Run.set]
  have hget : (Run.get : Run Link Link) link = ⟨link, [], link⟩ := rfl
  unfold request
  simp only [Run.bind_apply, hget, hopen, Bool.not_true, Bool.false_eq_true, if_false, hendpoint,
    hauthorize, List.nil_append]
  rw [show (value.toList.map fun v => ("Authorization", v)) = ownHeaders value from rfl]
  cases (c.posting r limit).prepare (c.address c.endpoint) (ownHeaders value) c.limit with
  | error e => rfl
  | ok p => rfl

theorem send_apply (link : Link) : c.send r limit link =
    ⟨(c.request (c.posting r limit) link).result.bind readAnswer,
      (c.request (c.posting r limit) link).events ++ [],
      (c.request (c.posting r limit) link).state⟩ := rfl

/-- A request that can be posted takes one exchange, and its end is told by that exchange. -/
theorem send_of_canPost (hopen : link.isOpen = true) (h : CanPost c link.credentials next url) :
    (c.send r limit link).result = c.readNext url link.exchanges.head? ∧
      (c.send r limit link).state =
        { link with credentials := next, exchanges := link.exchanges.tail } := by
  obtain ⟨value, hheader, hascii⟩ := h.header
  obtain ⟨p, hp, hurl, habsolute⟩ := prepare_posting r limit hascii h.target
  have hend := deliver_posting (c := c) hurl habsolute { link with credentials := next }
  rw [send_apply, request_posting hopen hheader, hp]
  exact hend

/-- Without a header or an address, a request breaks off. -/
theorem send_of_not_canPost (hopen : link.isOpen = true)
    (h : ∀ next url, ¬ CanPost c link.credentials next url) :
    (c.send r limit link).result = .error .misuse := by
  rw [send_apply]
  cases hheader : link.credentials.header? with
  | none =>
    have hauthorize : authorize link = ⟨none, [], link⟩ := by
      unfold authorize
      simp [Run.get, hheader]
    have hendpoint : (c.posting r limit).endpoint.text? = some c.endpoint := rfl
    have hget : (Run.get : Run Link Link) link = ⟨link, [], link⟩ := rfl
    unfold request
    simp only [Run.bind_apply, hget, hopen, Bool.not_true, Bool.false_eq_true, if_false, hendpoint,
      hauthorize]
    rfl
  | some found =>
    obtain ⟨value, next⟩ := found
    have hnot : value.all isAscii = false ∨ c.target? = none := by
      cases hascii : value.all isAscii with
      | false => exact .inl rfl
      | true =>
        refine .inr (Option.eq_none_iff_forall_ne_some.mpr fun url htarget => ?_)
        exact h next url ⟨⟨value, hheader, hascii⟩, htarget⟩
    rw [request_posting hopen hheader, prepare_posting_error hnot]
    rfl

/-- What an answer says about a failure: its data, or its text if it is no data. -/
def IsDetail (body : String) (detail : Value) : Prop :=
  Json.decodeBody body = .ok detail ∨
    ∃ e, Json.decodeBody body = .error e ∧ detail = .text body

/-- An end of a request that its exchange accounts for: an envelope with data and errors, or an
error of queries. -/
inductive IsTold (c : Client) : Exchange → Except Failure Value → Prop
  | timedOut (cause : String) : IsTold c (.timedOut cause)
      (.error (.query (.transport (.timedOut (c.address c.endpoint) cause))))
  | failed (cause : String) : IsTold c (.failed cause)
      (.error (.query (.transport (.failed (c.address c.endpoint) cause))))
  | refused {a : Answer} {detail : Value} : 300 ≤ a.status → IsDetail a.body detail →
      IsTold c (.answered a) (.error (.query (.backend
        (BackendError.ofStatus a.status detail (c.address c.endpoint)))))
  | unread {a : Answer} {e : QueryError} : a.status < 300 →
      (∀ raw, Json.decodeBody a.body ≠ .ok (.map raw)) → IsTold c (.answered a) (.error (.query e))
  | envelope {a : Answer} {raw es : Entries Value} : a.status < 300 →
      Json.decodeBody a.body = .ok (.map raw) → Entries.contains "data" es = true →
      Entries.contains "errors" es = true → IsTold c (.answered a) (.ok (.map es))

/-- A failure that is no error of queries, and so escapes those who expect one. -/
def Escapes {α : Type} (x : Except Failure α) : Prop :=
  ∃ cause, x = .error cause ∧ ∀ e, cause ≠ .query e

/-- The client can tell an exchange: nothing is asked of a network that fails, but an answer must
not have too many levels, and one that is no failure must be an object if it is JSON at all. -/
def CanTell (url : Address) : Exchange → Prop
  | .answered a => url.isAbsolute = true ∧ Json.decodeBody a.body ≠ .error .tooDeep ∧
      (a.status < 300 → ∀ v, Json.decodeBody a.body = .ok v → ∃ raw, v = .map raw)
  | _ => True

theorem dataOf_ok {body : String} {v : Value} (h : Json.decodeBody body = .ok v) :
    dataOf body = .ok (some v) := by
  rw [dataOf, h]

theorem dataOf_none {body : String} {e : Json.DecodeError} (h : Json.decodeBody body = .error e)
    (hdepth : Json.decodeBody body ≠ .error .tooDeep) : dataOf body = .ok none := by
  rw [dataOf, h]
  cases e with
  | tooDeep => exact absurd h hdepth
  | _ => rfl

theorem isTold_failureOf {a : Answer} (hstatus : 300 ≤ a.status)
    (hdepth : Json.decodeBody a.body ≠ .error .tooDeep) :
    IsTold c (.answered a) (.error (failureOf (c.address c.endpoint) a)) := by
  unfold failureOf
  cases hbody : Json.decodeBody a.body with
  | ok v =>
    rw [dataOf_ok hbody]
    exact .refused hstatus (.inl hbody)
  | error e =>
    rw [dataOf_none hbody hdepth]
    exact .refused hstatus (.inr ⟨e, hbody, rfl⟩)

theorem contains_envelopeOf (raw : Entries Value) : ∃ es, envelopeOf raw = .map es ∧
    Entries.contains "data" es = true ∧ Entries.contains "errors" es = true := by
  refine ⟨_, rfl, ?_, ?_⟩
  · rw [Entries.contains, Entries.get?_append]
    rfl
  · rw [Entries.contains, Entries.get?_append]
    rfl

theorem isTold_readAnswer {a : Answer} (hstatus : a.status < 300)
    (hdepth : Json.decodeBody a.body ≠ .error .tooDeep)
    (hobject : ∀ v, Json.decodeBody a.body = .ok v → ∃ raw, v = .map raw) :
    IsTold c (.answered a) (readAnswer a) := by
  unfold readAnswer
  cases hbody : Json.decodeBody a.body with
  | ok v =>
    obtain ⟨raw, rfl⟩ := hobject v hbody
    obtain ⟨es, hes, hdata, herrors⟩ := contains_envelopeOf raw
    rw [dataOf_ok hbody]
    dsimp only
    rw [hes]
    exact .envelope hstatus hbody hdata herrors
  | error e =>
    rw [dataOf_none hbody hdepth]
    refine .unread hstatus fun raw hraw => ?_
    rw [hbody] at hraw
    cases hraw

theorem readExchange_answered (habsolute : url.isAbsolute = true) (a : Answer) :
    c.readExchange url (.answered a) =
      if 300 ≤ a.status then .error (failureOf (c.address c.endpoint) a) else readAnswer a := by
  simp [readExchange, habsolute]

/-- What the client cannot tell escapes as a failure that is no error of queries. -/
theorem escapes_readExchange {e : Exchange} (h : ¬ CanTell url e) :
    Escapes (c.readExchange url e) := by
  cases e with
  | timedOut cause => exact absurd trivial h
  | failed cause => exact absurd trivial h
  | answered a =>
    cases habsolute : url.isAbsolute with
    | false =>
      simp only [readExchange, habsolute, Bool.not_false, if_true]
      exact ⟨_, rfl, nofun⟩
    | true =>
      rw [readExchange_answered habsolute]
      by_cases hdepth : Json.decodeBody a.body = .error .tooDeep
      · have hdata : dataOf a.body = .error .misuse := by rw [dataOf, hdepth]
        split
        · exact ⟨.misuse, by rw [failureOf, hdata], nofun⟩
        · exact ⟨.misuse, by rw [readAnswer, hdata], nofun⟩
      · have hobject : ¬ (a.status < 300 →
            ∀ v, Json.decodeBody a.body = .ok v → ∃ raw, v = .map raw) :=
          fun hobject => h ⟨habsolute, hdepth, hobject⟩
        simp only [Classical.not_imp, Classical.not_forall] at hobject
        obtain ⟨hstatus, v, hv, hnot⟩ := hobject
        rw [if_neg (by omega), readAnswer, dataOf_ok hv]
        cases v with
        | map raw => exact absurd ⟨raw, rfl⟩ hnot
        | _ => exact ⟨.misuse, rfl, nofun⟩

/-- An exchange over an open link is told as an envelope or as an error of queries if the request
can be posted and the client can tell the exchange; if not, what escapes is no error of queries. -/
theorem send_told (c : Client) (r : Request) (limit : Option Value) (link : Link) (e : Exchange)
    (rest : List Exchange) (hopen : link.isOpen = true) (hnext : link.exchanges = e :: rest) :
    (∀ next url, CanPost c link.credentials next url → CanTell url e →
      IsTold c e (c.send r limit link).result) ∧
    ((∀ next url, CanPost c link.credentials next url → ¬ CanTell url e) →
      Escapes (c.send r limit link).result) := by
  constructor
  · intro next url hpost htell
    rw [(send_of_canPost hopen hpost).1, hnext, List.head?_cons, readNext]
    cases e with
    | timedOut cause => exact .timedOut cause
    | failed cause => exact .failed cause
    | answered a =>
      obtain ⟨habsolute, hdepth, hobject⟩ := htell
      rw [readExchange_answered habsolute]
      by_cases hstatus : 300 ≤ a.status
      · rw [if_pos hstatus]
        exact isTold_failureOf hstatus hdepth
      · rw [if_neg hstatus]
        exact isTold_readAnswer (by omega) hdepth (hobject (by omega))
  · intro h
    by_cases hpost : ∃ next url, CanPost c link.credentials next url
    · obtain ⟨next, url, hpost⟩ := hpost
      rw [(send_of_canPost hopen hpost).1, hnext, List.head?_cons, readNext]
      exact escapes_readExchange (h next url hpost)
    · rw [send_of_not_canPost hopen fun next url hp => hpost ⟨next, url, hp⟩]
      exact ⟨.misuse, rfl, nofun⟩

/-- A client of a backend at some address. -/
def localClient : Client := ⟨"http://backend.test", "/v1/graphql", .float 30.0⟩

/-- A link on which the network answers once. -/
def answering (a : Answer) : Link := ⟨true, .bearer "key", [.answered a]⟩

theorem canPost_localClient : ∃ url, url.isAbsolute = true ∧
    CanPost localClient (.bearer "key") (.bearer "key") url := by
  have htarget : (localClient.target?).any Address.isAbsolute = true := by decide +kernel
  cases hurl : localClient.target? with
  | none => simp [hurl] at htarget
  | some url => exact ⟨url, by simpa [hurl] using htarget, ⟨_, rfl, by decide⟩, hurl⟩

/-- A request for the names of all authors. -/
def namesRequest : Request := ⟨"\x7b Get \x7b Author \x7b name \x7d \x7d \x7d", [], false⟩

/-- An empty list is told as what a busy backend says, but not in the place of an envelope. -/
theorem send_told_busy :
    IsTold localClient (.answered ⟨503, "[]"⟩)
      (localClient.send namesRequest none (answering ⟨503, "[]"⟩)).result ∧
    Escapes (localClient.send namesRequest none (answering ⟨200, "[]"⟩)).result := by
  obtain ⟨url, habsolute, hpost⟩ := canPost_localClient
  have hread : ((Json.decodeBody "[]").toOption.any fun v => v.entries?.isNone) = true := by
    decide +kernel
  obtain ⟨v, hlist, hnot⟩ : ∃ v, Json.decodeBody "[]" = .ok v ∧ v.entries?.isNone = true := by
    cases hbody : Json.decodeBody "[]" with
    | error e =>
      rw [hbody] at hread
      cases hread
    | ok v =>
      rw [hbody] at hread
      exact ⟨v, rfl, hread⟩
  constructor
  · refine (send_told localClient namesRequest none (answering ⟨503, "[]"⟩) _ [] rfl rfl).1 _ _
      hpost ?_
    exact ⟨habsolute, by simp [hlist], fun hlt => absurd hlt (by decide)⟩
  · refine (send_told localClient namesRequest none (answering ⟨200, "[]"⟩) _ [] rfl rfl).2 ?_
    rintro _ _ _ ⟨-, -, hobject⟩
    obtain ⟨raw, rfl⟩ := hobject (by decide) _ hlist
    cases hnot

end Retrieval.Http.Client
