import Retrieval.Proofs.Batch
import Retrieval.Proofs.Compiling
import Retrieval.Proofs.Sendable

/-!
How a call is served. A call that carries the key and poses something is answered by the handler of
its route, whatever else it holds. Main statement: what a query runs to is read from the end of its
request, and is the result of the query alone, not of the log entries that it leaves.
-/

namespace Retrieval

namespace Execution

open Compilation (compile memberOf)

variable {σ : Type}

/-- What the end of its request makes of a query that is run alone. -/
def resultOf (m : Member) (multiplexed : Bool) : Ending → Except Failure QueryResult
  | .envelope v => (Envelope.normalize m multiplexed v).outcome.mapError (errorOf m.collection)
  | .failed e => .error (.query e)
  | .broken cause => .error cause

theorem finish_result (m : Member) (multiplexed : Bool) (ending : Ending) (s : σ) :
    (finish m multiplexed ending s).result = resultOf m multiplexed ending := by
  cases ending with
  | envelope v => exact congrArg Course.result (readMember_apply m multiplexed v s)
  | failed e => rfl
  | broken cause => rfl

/-- A query that can be run is read from the end of the one request that it is sent with. -/
theorem execute_of_compile (engine : Engine σ) {subject : Subject} {c : Clause} {request : Request}
    (hcomplete : subject.complete = .ok c) (hcompile : compile c = .ok request) (s : Standing σ) :
    (execute engine subject s).result =
      resultOf (memberOf c c.collection) false (send engine request s).result := by
  have hrequest : request.members = [memberOf c c.collection] ∧ request.multiplexed = false := by
    rw [Compilation.compile_eq] at hcompile
    obtain ⟨body, -, rfl⟩ := map_eq_ok_iff.mp hcompile
    exact ⟨rfl, rfl⟩
  unfold execute
  rw [hcomplete]
  simp only [Run.bind_apply, Run.logAll, hcompile, hrequest.1, hrequest.2, finish_result]

/-- A clause that does not compile breaks off before anything is sent. -/
theorem execute_of_uncompiled (engine : Engine σ) {subject : Subject} {c : Clause}
    {e : CompileError} (hcomplete : subject.complete = .ok c) (hcompile : compile c = .error e)
    (s : Standing σ) : (execute engine subject s).result = .error e.toFailure := by
  unfold execute
  rw [hcomplete]
  simp only [Run.bind_apply, Run.logAll, hcompile, Run.pure_apply]

theorem execute_of_refused (engine : Engine σ) {subject : Subject} {e : ConfigurationError}
    (hcomplete : subject.complete = .error e) (s : Standing σ) :
    (execute engine subject s).result = .error (.query (.configuration e)) := by
  unfold execute
  rw [hcomplete]
  rfl

end Execution

namespace Api

open Retrieval.Http (Link)

/-- A call brings something in its body to a route that takes bodies, with the key. -/
structure Poses {α : Type} (s : Service) (c : Call) (route : Route) (read : Schema.Reader α)
    (b : α) : Prop where
  route : c.route = .ok route
  method : Text.upper c.method = "POST"
  authorized : isAuthorized s.settings c.headers = .ok true
  content : ∃ content, contentOf c = .ok content ∧ readContent read content = .valid b

/-- A call for one query. -/
abbrev PosesQuery (s : Service) (c : Call) (b : QueryBody) : Prop := Poses s c .query readQuery b

/-- A call for a batch. -/
abbrev PosesBatch (s : Service) (c : Call) (b : BatchBody) : Prop := Poses s c .batch readBatch b

variable {s : Service} {c : Call}

theorem check_of_route {route : Route} (h : c.route = .ok route) : c.payload.check = .ok () := by
  unfold Call.route at h
  split at h
  · cases h
  · split at h
    · obtain ⟨_, hcheck, -⟩ := map_eq_ok_iff.mp h
      exact hcheck
    · cases h

theorem Poses.serveBody_eq {α : Type} {route : Route} {read : Schema.Reader α} {b : α}
    (h : Poses s c route read b) (serve : α → Served) : serveBody s c read serve = serve b := by
  obtain ⟨content, hcontent, hread⟩ := h.content
  unfold serveBody serveContent
  rw [hcontent]
  dsimp only
  rw [h.authorized]
  dsimp only
  rw [hread]

theorem isWithoutData_post {route : Route} (h : route = .query ∨ route = .batch) :
    isWithoutData c "POST" route = false := by
  have hinquiry : isInquiry c "POST" = false := by
    have hmethod : ("POST" == "OPTIONS") = false := by decide
    rw [isInquiry, hmethod, Bool.false_and, Bool.false_and]
  unfold isWithoutData
  rw [hinquiry]
  obtain rfl | rfl := h <;> decide

/-- A call that poses a query is answered with what becomes of that query. -/
theorem serve_of_posesQuery {b : QueryBody} (h : PosesQuery s c b) :
    serve s c = serveQuery s b := by
  unfold serve
  rw [h.route]
  simp only [h.method, isWithoutData_post (c := c) (.inl rfl)]
  exact h.serveBody_eq _

/-- A call that poses a batch is answered with what becomes of that batch. -/
theorem serve_of_posesBatch {b : BatchBody} (h : PosesBatch s c b) :
    serve s c = serveBatch s b := by
  unfold serve
  rw [h.route]
  simp only [h.method, isWithoutData_post (c := c) (.inr rfl)]
  exact h.serveBody_eq _

theorem PosesQuery.brings {b : QueryBody} (h : PosesQuery s c b) : Brings c b := by
  obtain ⟨content, hcontent, hread⟩ := h.content
  exact .single (check_of_route h.route) hcontent hread

theorem PosesBatch.brings {b : BatchBody} (h : PosesBatch s c b) {q : QueryBody}
    (hq : q ∈ b.queries) : Brings c q := by
  obtain ⟨content, hcontent, hread⟩ := h.content
  exact .batch (check_of_route h.route) hcontent hread hq

/-- The response to a query by what it runs to. -/
def responseTo : Except Failure QueryResult → Except Failure Response
  | .ok r => resultResponse r
  | .error (.query e) => errorResponse e
  | .error e => .error e

theorem serveQuery_result (b : QueryBody) (st : Standing Link) :
    (serveQuery s b st).result = responseTo (runQuery s b st).result := by
  unfold serveQuery
  simp only [Run.bind_apply, Run.log, Run.emit_apply]
  cases hrun : (runQuery s b st).result with
  | ok r => simp [responseTo]
  | error e => cases e <;> simp [responseTo]

/-- What a query in the body of a call runs to: a failure to put it together, a refusal, a limit of
its document, or what is read from the end of its request. -/
inductive RunsTo (s : Service) (b : QueryBody) (st : Standing Link) :
    Except Failure QueryResult → Prop
  | unassembled {e : BuildError} : b.assemble s.engine.registry = .error e →
      RunsTo s b st (.error e.toFailure)
  | incomplete {q : Query} {e : ConfigurationError} : b.assemble s.engine.registry = .ok q →
      q.complete = .error e → RunsTo s b st (.error (.query (.configuration e)))
  | uncompiled {q : Query} {clause : Clause} {e : CompileError} :
      b.assemble s.engine.registry = .ok q → q.complete = .ok clause →
      Compilation.compile clause = .error e → (∀ cause, e ≠ .violation cause) →
      RunsTo s b st (.error e.toFailure)
  | sent {q : Query} {clause : Clause} {request : Request} :
      b.assemble s.engine.registry = .ok q → q.complete = .ok clause →
      Compilation.compile clause = .ok request →
      RunsTo s b st (Execution.resultOf (Compilation.memberOf clause clause.collection) false
        (Execution.send s.engine request st).result)

/-- What breaks off at a limit is no error of the query. -/
theorem toFailure_ne_query {e : CompileError} (h : ∀ cause, e ≠ .violation cause)
    (error : QueryError) : e.toFailure ≠ .query error := by
  cases e with
  | violation cause => exact absurd rfl (h cause)
  | integerTooLong => exact nofun
  | tooNested => exact nofun

theorem complete_eq_ok {c d : Clause} (h : c.complete = .ok d) : d = c := by
  unfold Clause.complete at h
  split at h
  · cases h
  · exact (Except.ok.inj h).symm

theorem Brings.runsTo {b : QueryBody} (h : Brings c b) (s : Service) (st : Standing Link) :
    RunsTo s b st (runQuery s b st).result := by
  unfold runQuery
  cases hassemble : b.assemble s.engine.registry with
  | error e => exact .unassembled hassemble
  | ok q =>
    dsimp only
    cases hcomplete : q.complete with
    | error e =>
      have hsubject : (Subject.query q).complete = .error e := hcomplete
      rw [Execution.execute_of_refused s.engine hsubject st]
      exact .incomplete hassemble hcomplete
    | ok clause =>
      have hsubject : (Subject.query q).complete = .ok clause := hcomplete
      obtain rfl := complete_eq_ok hcomplete
      have hbuilt := Clause.IsBuilt.received h hassemble
      cases hcompile : Compilation.compile q.clause with
      | error e =>
        rw [Execution.execute_of_uncompiled s.engine hsubject hcompile st]
        exact .uncompiled hassemble hcomplete hcompile (hbuilt.ne_violation hcompile)
      | ok request =>
        rw [Execution.execute_of_compile s.engine hsubject hcompile st]
        exact .sent hassemble hcomplete hcompile

end Api

end Retrieval
