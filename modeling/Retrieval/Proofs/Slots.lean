import Retrieval.Proofs.Endings
import Retrieval.Proofs.Isolation
import Retrieval.Proofs.Running

/-!
The slots that a backend without memory leaves to the queries of a batch. A query has its slot from
its own body alone, whether it runs in a batch or by itself, and a batch that is run one query at a
time is answered with these slots. If the backend speaks as a client does, no slot with an error has
the status of success.
-/

namespace Retrieval

namespace Execution

variable {σ : Type} {engine : Engine σ} {answer : Request → Nat → Reply}

/-- A backend that speaks as a client does: an error of queries is no effect that breaks off, and
one that is not worth another attempt has no status of success. -/
structure IsSpoken (answer : Request → Nat → Reply) : Prop where
  broken : ∀ request n e, answer request n ≠ .broken (.query e)
  refused : ∀ request n e, answer request n = .failed e → e.isRetryable = false →
    Api.statusOf e ≠ 200

/-- Whatever the network does, the client speaks so. -/
theorem isSpoken_readExchange (c : Http.Client) (url : Http.Address)
    (network : Request → Nat → Http.Exchange) :
    IsSpoken fun request n => Http.Client.replyOf (c.readExchange url (network request n)) where
  broken request n e h := by
    cases hread : c.readExchange url (network request n) with
    | ok v =>
      rw [hread] at h
      cases h
    | error cause =>
      rw [hread] at h
      cases cause <;> cases h
  refused request n e h hretry := by
    cases hread : c.readExchange url (network request n) with
    | ok v =>
      rw [hread] at h
      cases h
    | error cause =>
      rw [hread] at h
      cases cause with
      | query e' =>
        obtain rfl : e' = e := Reply.failed.inj h
        obtain ⟨hagain, -⟩ | ⟨-, -, a, be, -, hstatus, rfl, hcode⟩ :=
          Http.Client.readExchange_failed hread
        · rw [hagain] at hretry
          cases hretry
        · simp only [Api.statusOf, hcode]
          split <;> omega
      | _ => cases h

/-- The end of attempts at a backend that speaks so is no error of queries that breaks off, and an
error at the end has no status of success. -/
def EndsSpoken : Ending → Prop
  | .envelope _ => True
  | .failed e => Api.statusOf e ≠ 200
  | .broken cause => ∀ e, cause ≠ .query e

/-- The same of a slot, or of what breaks off in the place of one. -/
def SlotSpoken : Except Failure Slot → Prop
  | .ok (.ok _) => True
  | .ok (.error e) => Api.statusOf e ≠ 200
  | .error cause => ∀ e, cause ≠ .query e

theorem EndsSpoken.slotOf {ending : Ending} (h : EndsSpoken ending) (m : Member)
    (multiplexed : Bool) : SlotSpoken (slotOf m multiplexed ending) := by
  cases ending with
  | broken cause => exact h
  | failed e => exact h
  | envelope v =>
    rw [Execution.slotOf]
    cases (Envelope.normalize m multiplexed v).outcome with
    | ok r => trivial
    | error fault =>
      cases fault with
      | tooLarge =>
        intro e he
        cases he
      | _ => exact (by decide : (502 : Int) ≠ 200)

theorem endsSpoken_endFrom (h : IsSpoken answer) (request : Request) (left n : Nat) :
    EndsSpoken (endFrom engine answer request left n) := by
  have hstop (n : Nat) (hn : (replied engine answer request n).isRetryable = false) :
      EndsSpoken (replied engine answer request n) := by
    unfold replied at hn ⊢
    cases hreply : answer request n with
    | envelope v => trivial
    | failed e =>
      rw [hreply] at hn
      exact h.refused request n e hreply hn
    | broken cause => exact fun e he => h.broken request n e (he ▸ hreply)
    | silent =>
      rw [hreply] at hn
      unfold endingOf at hn ⊢
      cases hlimit : engine.policy.attemptTimeout with
      | none => exact fun e => nofun
      | some seconds =>
        rw [hlimit] at hn
        cases hn
  -- an attempt that is retried leaves the end to the next; the last one is wrapped
  induction left generalizing n with
  | zero =>
    cases hr : (replied engine answer request n).isRetryable with
    | false => exact endFrom_stop hr ▸ hstop n hr
    | true =>
      obtain ⟨e, he, hretry⟩ := (isRetryable_iff _).mp hr
      rw [endFrom_last he hretry]
      exact (by decide : (503 : Int) ≠ 200)
  | succ left ih =>
    cases hr : (replied engine answer request n).isRetryable with
    | false => exact endFrom_stop hr ▸ hstop n hr
    | true =>
      obtain ⟨e, he, hretry⟩ := (isRetryable_iff _).mp hr
      rw [endFrom_retry he hretry]
      split
      · exact ih (n + 1)
      · exact fun e => nofun

end Execution

namespace Api

open Execution
open Http (Client Link)

/-- The slot of a query in the body of a call, which breaks off if the query has no reading. -/
def bodySlot (s : Service) (answer : Request → Nat → Reply) (b : QueryBody) : Except Failure Slot :=
  match b.assemble s.engine.registry with
  | .error .misuse => .error .misuse
  | .error (.refused e) => .ok (.error (.configuration e))
  | .ok q => subjectSlot s.engine answer (.query q)

variable {s : Service} {answer : Request → Nat → Reply}

theorem assembleAll_cons_refused {b : QueryBody} {e : ConfigurationError} {bodies : List QueryBody}
    {registry : Option Registry} (h : b.assemble registry = .error (.refused e)) :
    assembleAll registry (b :: bodies) = (assembleAll registry bodies).map (.error e :: ·) := by
  rw [assembleAll, h]

theorem assembleAll_cons_ok {b : QueryBody} {q : Query} {bodies : List QueryBody}
    {registry : Option Registry} (h : b.assemble registry = .ok q) :
    assembleAll registry (b :: bodies) = (assembleAll registry bodies).map (.ok q :: ·) := by
  rw [assembleAll, h]

theorem assembleAll_cons_misuse {b : QueryBody} {bodies : List QueryBody}
    {registry : Option Registry} (h : b.assemble registry = .error .misuse) :
    assembleAll registry (b :: bodies) = .error .misuse := by
  rw [assembleAll, h]

theorem map_assembled_cons (q : Query) (inputs : List (Except ConfigurationError Query)) :
    (assembled (.ok q :: inputs)).map Subject.query =
      .query q :: (assembled inputs).map Subject.query := rfl

/-- The queries that can be put together take slots of their own, the others their errors. -/
theorem mapM_bodySlot_iff (bodies : List QueryBody) (slots : List Slot) :
    bodies.mapM (bodySlot s answer) = .ok slots ↔
      ∃ inputs ran, assembleAll s.engine.registry bodies = .ok inputs ∧
        ((assembled inputs).map Subject.query).mapM (subjectSlot s.engine answer) = .ok ran ∧
        placeSlots inputs ran = slots := by
  induction bodies generalizing slots with
  | nil =>
    constructor
    · intro h
      obtain rfl := Except.ok.inj h
      exact ⟨[], [], rfl, rfl, rfl⟩
    · rintro ⟨_, _, ⟨⟩, ⟨⟩, rfl⟩
      rfl
  | cons b rest ih =>
    rw [List.mapM_cons, bodySlot]
    cases hassemble : b.assemble s.engine.registry with
    | error be =>
      cases be with
      | misuse =>
        rw [assembleAll_cons_misuse hassemble]
        refine ⟨nofun, ?_⟩
        rintro ⟨_, _, ⟨⟩, -, -⟩
      | refused e =>
        -- no query is run for a refused body: its slot is put in afterwards
        simp only [assembleAll_cons_refused hassemble, ok_bind, bind_eq_ok_iff, map_eq_ok_iff, ih]
        constructor
        · rintro ⟨_, ⟨inputs, ran, hinputs, hran, rfl⟩, ⟨⟩⟩
          exact ⟨_, ran, ⟨inputs, hinputs, rfl⟩, hran, rfl⟩
        · rintro ⟨_, ran, ⟨inputs, hinputs, rfl⟩, hran, rfl⟩
          exact ⟨_, ⟨inputs, ran, hinputs, hran, rfl⟩, rfl⟩
    | ok q =>
      simp only [assembleAll_cons_ok hassemble, bind_eq_ok_iff, map_eq_ok_iff, ih]
      constructor
      · rintro ⟨slot, hslot, _, ⟨inputs, ran, hinputs, hran, rfl⟩, ⟨⟩⟩
        refine ⟨_, slot :: ran, ⟨inputs, hinputs, rfl⟩, ?_, rfl⟩
        rw [map_assembled_cons, List.mapM_cons, hslot, hran]
        rfl
      · rintro ⟨_, ran, ⟨inputs, hinputs, rfl⟩, hran, rfl⟩
        rw [map_assembled_cons, List.mapM_cons, bind_eq_ok_iff] at hran
        obtain ⟨slot, hslot, hran⟩ := hran
        obtain ⟨others, hothers, hran⟩ := bind_eq_ok_iff.mp hran
        cases hran
        exact ⟨slot, hslot, _, ⟨inputs, others, hinputs, hothers, rfl⟩, rfl⟩

/-- What becomes of the queries of a batch that is run one by one. -/
theorem runBatch_eq_ok_iff (h : IsMemoryless s.engine answer) (queries : List Query)
    (st : Standing Link) (ran : List Slot) :
    (runBatch s (some .independent) queries st).result = .ok ran ↔
      (queries.map Subject.query).mapM (subjectSlot s.engine answer) = .ok ran := by
  unfold runBatch
  cases queries with
  | nil => exact Iff.rfl
  | cons q rest => exact executeBatch_independent_iff h _ _ _

/-- A batch that is run one by one is answered with the slots of its queries, and breaks off if one
of them does. -/
theorem serveBatch_result (h : IsMemoryless s.engine answer) {b : BatchBody}
    (hstrategy : b.strategy = some .independent) (st : Standing Link) :
    (∀ slots, b.queries.mapM (bodySlot s answer) = .ok slots →
      (serveBatch s b st).result = batchResponse slots) ∧
    ((∀ slots, b.queries.mapM (bodySlot s answer) ≠ .ok slots) →
      ∃ cause, (serveBatch s b st).result = .error cause) := by
  unfold serveBatch
  simp only [Run.bind_apply, Run.log, Run.emit_apply, hstrategy]
  constructor
  · intro slots hslots
    obtain ⟨inputs, ran, hinputs, hran, rfl⟩ := (mapM_bodySlot_iff _ _).mp hslots
    rw [hinputs]
    have hrun := (runBatch_eq_ok_iff h (assembled inputs) st ran).mpr hran
    simp only [Run.bind_apply, hrun]
    rfl
  · intro hnone
    cases hinputs : assembleAll s.engine.registry b.queries with
    | error cause => exact ⟨cause, rfl⟩
    | ok inputs =>
      simp only [Run.bind_apply]
      cases hrun : (runBatch s (some .independent) (assembled inputs) st).result with
      | error cause => exact ⟨cause, by simp⟩
      | ok ran =>
        have hran := (runBatch_eq_ok_iff h (assembled inputs) st ran).mp hrun
        exact absurd ((mapM_bodySlot_iff _ _).mpr ⟨inputs, ran, hinputs, hran, rfl⟩) (hnone _)

/-- What a query comes to that is run alone, by what it comes to in a batch. -/
def resultOfSlot : Except Failure Slot → Except Failure QueryResult
  | .ok (.ok r) => .ok r
  | .ok (.error e) => .error (.query e)
  | .error cause => .error cause

theorem resultOf_eq (m : Member) (multiplexed : Bool) (ending : Ending) :
    resultOf m multiplexed ending = resultOfSlot (slotOf m multiplexed ending) := by
  cases ending with
  | broken cause => rfl
  | failed e => rfl
  | envelope v =>
    rw [resultOf, slotOf]
    cases (Envelope.normalize m multiplexed v).outcome with
    | ok r => rfl
    | error fault => cases fault <;> rfl

variable {c : Call} {b : QueryBody}

theorem bodySlot_of_assemble {q : Query} (h : b.assemble s.engine.registry = .ok q) :
    bodySlot s answer b = subjectSlot s.engine answer (.query q) := by
  rw [bodySlot, h]

theorem subjectSlot_of_compile {q : Query} {clause : Clause} {request : Request}
    (hcomplete : q.complete = .ok clause) (hcompile : Compilation.compile clause = .ok request) :
    subjectSlot s.engine answer (.query q) =
      slotOf (Compilation.memberOf clause clause.collection) false
        (endOf s.engine answer request) := by
  have hsubject : (Subject.query q).complete = .ok clause := hcomplete
  rw [subjectSlot, hsubject]
  dsimp only
  rw [clauseSlot, hcompile]

theorem subjectSlot_of_uncompiled {q : Query} {clause : Clause} {e : CompileError}
    (hcomplete : q.complete = .ok clause) (hcompile : Compilation.compile clause = .error e) :
    subjectSlot s.engine answer (.query q) = .error e.toFailure := by
  have hsubject : (Subject.query q).complete = .ok clause := hcomplete
  rw [subjectSlot, hsubject]
  dsimp only
  rw [clauseSlot, hcompile]

/-- Over a backend without memory a query runs to its slot, whatever ran before. -/
theorem runQuery_eq_bodySlot (h : IsMemoryless s.engine answer) (hbrings : Brings c b)
    (st : Standing Link) :
    (runQuery s b st).result = resultOfSlot (bodySlot s answer b) := by
  have hruns := hbrings.runsTo s st
  generalize (runQuery s b st).result = outcome at hruns
  cases hruns with
  | @unassembled e hassemble =>
    rw [bodySlot, hassemble]
    cases e <;> rfl
  | @incomplete q e hassemble hcomplete =>
    have hsubject : (Subject.query q).complete = .error e := hcomplete
    rw [bodySlot_of_assemble hassemble, subjectSlot, hsubject]
    rfl
  | uncompiled hassemble hcomplete hcompile =>
    rw [bodySlot_of_assemble hassemble, subjectSlot_of_uncompiled hcomplete hcompile]
    rfl
  | sent hassemble hcomplete hcompile =>
    rw [bodySlot_of_assemble hassemble, subjectSlot_of_compile hcomplete hcompile, resultOf_eq,
      send_result h]

theorem slotSpoken_bodySlot (hspoken : IsSpoken answer) (hbrings : Brings c b) :
    SlotSpoken (bodySlot s answer b) := by
  rw [bodySlot]
  cases hassemble : b.assemble s.engine.registry with
  | error e =>
    cases e with
    | misuse => exact fun e => nofun
    | refused e => exact (by decide : (400 : Int) ≠ 200)
  | ok q =>
    dsimp only
    cases hcomplete : q.complete with
    | error e =>
      have hsubject : (Subject.query q).complete = .error e := hcomplete
      rw [subjectSlot, hsubject]
      exact (by decide : (400 : Int) ≠ 200)
    | ok clause =>
      obtain rfl := complete_eq_ok hcomplete
      have hbuilt := Clause.IsBuilt.received hbrings hassemble
      cases hcompile : Compilation.compile q.clause with
      | error e =>
        rw [subjectSlot_of_uncompiled hcomplete hcompile]
        exact toFailure_ne_query (hbuilt.ne_violation hcompile)
      | ok request =>
        rw [subjectSlot_of_compile hcomplete hcompile]
        exact (endsSpoken_endFrom hspoken request _ 1).slotOf _ _

/-- The response to a query that is run alone, by its slot. -/
def slotResponse : Slot → Except Failure Response
  | .ok r => resultResponse r
  | .error e => errorResponse e

/-- A query is answered by its slot, whatever was answered before. -/
theorem serveQuery_eq_bodySlot (h : IsMemoryless s.engine answer) (hspoken : IsSpoken answer)
    (hbrings : Brings c b) (st : Standing Link) :
    (serveQuery s b st).result = bodySlot s answer b >>= slotResponse := by
  have hslot := slotSpoken_bodySlot (s := s) hspoken hbrings
  rw [serveQuery_result, runQuery_eq_bodySlot h hbrings]
  cases hbody : bodySlot s answer b with
  | ok slot => cases slot <;> rfl
  | error cause =>
    rw [hbody] at hslot
    cases cause with
    | query e => exact absurd rfl (hslot e)
    | _ => rfl

end Api

end Retrieval
