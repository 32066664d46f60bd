import Retrieval.Proofs.Attempts
import Retrieval.Proofs.Batch
import Retrieval.Proofs.Scores

/-!
Batches of single requests to a backend without memory, whose reply to an attempt is told by the
request and the number of the attempt. The slot of a query is then a function of the query alone.
What is not contained in a slot is a clause that does not compile: it breaks off the whole batch, as
does a delay that grows too large for a float.
-/

namespace Retrieval

namespace Execution

open Compilation (compile compileBatch memberOf memberIn placeIn)
open Envelope (SectionFits)

variable {σ : Type} (engine : Engine σ) (answer : Request → Nat → Reply) (request : Request)

/-- The backend replies to an attempt by its request and its number. -/
def IsMemoryless : Prop := ∀ request n b, (exchange engine request b n).result = answer request n

/-- What the attempt of number `n` comes to. -/
def replied (n : Nat) : Ending := endingOf engine.policy.attemptTimeout (answer request n)

/-- The growth of the delay before retry `n` fits into a float. -/
def hasDelay (n : Nat) : Bool := (RetryPolicy.power? engine.policy.factor (n - 1)).isSome

/-- How the attempts from a number on end, `left` of which may follow the first. -/
def endFrom : (left number : Nat) → Ending
  | left, n =>
    match replied engine answer request n with
    | .envelope v => .envelope v
    | .broken cause => .broken cause
    | .failed e =>
      if !e.isRetryable then .failed e
      else
        match left with
        | 0 => .failed (.exhausted e engine.policy.maxAttempts)
        | left + 1 => if hasDelay engine n then endFrom left (n + 1) else .broken .misuse

/-- How the attempts at a request end. -/
def endOf : Ending := endFrom engine answer request (engine.policy.maxAttempts - 1) 1

/-- No attempt is retried after a delay that is too large. -/
def DelaysFit : Prop :=
  ∀ k, 1 ≤ k → k < engine.policy.maxAttempts →
    (∀ j, 1 ≤ j → j ≤ k → (replied engine answer request j).isRetryable = true) →
    hasDelay engine k = true

/-- The slot of a clause that is sent alone. -/
def clauseSlot (c : Clause) : Except Failure Slot :=
  match compile c with
  | .error e => .error e.toFailure
  | .ok request => slotOf (memberOf c c.collection) false (endOf engine answer request)

/-- The slot of a query that is sent alone, or refused before. -/
def subjectSlot (x : Subject) : Except Failure Slot :=
  match x.complete with
  | .error e => .ok (.error (.configuration e))
  | .ok c => clauseSlot engine answer c

variable {engine answer request}

theorem attempt_result (h : IsMemoryless engine answer) (n : Nat) (s : Standing σ) :
    (attempt engine request n s).result = replied engine answer request n :=
  congrArg (endingOf engine.policy.attemptTimeout) (h request n s.backend)

theorem isSome_delayFor (n : Nat) (s : Standing σ) :
    (delayFor engine n s).result.isSome = hasDelay engine n := by
  unfold delayFor hasDelay
  cases h : RetryPolicy.power? engine.policy.factor (n - 1) with
  | none => rfl
  | some power => simp [draw, Run.get, Run.set, RetryPolicy.delay?_eq, h]

theorem attemptsFrom_result (h : IsMemoryless engine answer) (left n : Nat) (s : Standing σ) :
    (attemptsFrom engine request left n s).result = endFrom engine answer request left n := by
  induction left generalizing n s with
  | zero =>
    rw [attemptsFrom, endFrom]
    simp only [Run.bind_apply, attempt_result h]
    cases replied engine answer request n with
    | envelope v => rfl
    | broken cause => rfl
    | failed e => cases hr : e.isRetryable <;> simp [hr]
  | succ left ih =>
    rw [attemptsFrom, endFrom]
    simp only [Run.bind_apply, attempt_result h]
    cases replied engine answer request n with
    | envelope v => rfl
    | broken cause => rfl
    | failed e =>
      cases hr : e.isRetryable with
      | false => simp [hr]
      | true =>
        have hdelay : (delayFor engine n (attempt engine request n s).state).result.isSome =
          hasDelay engine n := isSome_delayFor n _
        cases hd : (delayFor engine n (attempt engine request n s).state).result with
        | none =>
          rw [hd] at hdelay
          simp [hr, hd, ← hdelay]
        | some delay =>
          rw [hd] at hdelay
          simp [hr, hd, ← hdelay, ih]

theorem send_result (h : IsMemoryless engine answer) (s : Standing σ) :
    (send engine request s).result = endOf engine answer request :=
  attemptsFrom_result h _ 1 s

theorem endFrom_stop {left n : Nat} (h : (replied engine answer request n).isRetryable = false) :
    endFrom engine answer request left n = replied engine answer request n := by
  rw [endFrom]
  cases hn : replied engine answer request n with
  | envelope v => rfl
  | broken cause => rfl
  | failed e =>
    have hr : e.isRetryable = false := by simpa [hn, Ending.isRetryable] using h
    simp [hr]

theorem endFrom_last {n : Nat} {e : QueryError}
    (hn : replied engine answer request n = .failed e) (hr : e.isRetryable = true) :
    endFrom engine answer request 0 n = .failed (.exhausted e engine.policy.maxAttempts) := by
  rw [endFrom, hn]
  simp [hr]

theorem endFrom_retry {left n : Nat} {e : QueryError}
    (hn : replied engine answer request n = .failed e) (hr : e.isRetryable = true) :
    endFrom engine answer request (left + 1) n =
      if hasDelay engine n then endFrom engine answer request left (n + 1)
      else .broken .misuse := by
  rw [endFrom, hn]
  simp [hr]

/-- Attempts that the backend does not break off are broken off by a delay only. -/
theorem endFrom_unbroken_iff (h : ∀ n cause, replied engine answer request n ≠ .broken cause)
    (left n : Nat) : (∀ cause, endFrom engine answer request left n ≠ .broken cause) ↔
      ∀ k, n ≤ k → k < n + left →
        (∀ j, n ≤ j → j ≤ k → (replied engine answer request j).isRetryable = true) →
        hasDelay engine k = true := by
  induction left generalizing n with
  | zero =>
    refine ⟨fun _ k hk hlt => by omega, fun _ => ?_⟩
    cases hr : (replied engine answer request n).isRetryable with
    | false =>
      rw [endFrom_stop hr]
      exact h n
    | true =>
      obtain ⟨e, he, hretry⟩ := (isRetryable_iff _).mp hr
      rw [endFrom_last he hretry]
      exact fun cause => Ending.noConfusion
  | succ left ih =>
    cases hr : (replied engine answer request n).isRetryable with
    | false =>
      rw [endFrom_stop hr]
      refine ⟨fun _ k hk _ hall => ?_, fun _ => h n⟩
      exact absurd (hall n (by omega) hk) (by simp [hr])
    | true =>
      obtain ⟨e, he, hretry⟩ := (isRetryable_iff _).mp hr
      rw [endFrom_retry he hretry]
      cases hd : hasDelay engine n with
      | false =>
        refine ⟨fun hb => absurd rfl (hb .misuse), fun hall => ?_⟩
        have hn : ∀ j, n ≤ j → j ≤ n → (replied engine answer request j).isRetryable = true := by
          intro j hj hjn
          obtain rfl : j = n := by omega
          exact hr
        exact absurd (hall n (by omega) (by omega) hn) (by simp [hd])
      | true =>
        rw [if_pos rfl, ih]
        -- attempt `n` is retried with a delay that fits, so only later attempts matter
        constructor
        · intro hall k hk hlt hj
          by_cases hkn : k = n
          · rw [hkn, hd]
          · exact hall k (by omega) (by omega) fun j hjn hjk => hj j (by omega) hjk
        · intro hall k hk hlt hj
          refine hall k (by omega) (by omega) fun j hjn hjk => ?_
          by_cases hj' : j = n
          · rw [hj', hr]
          · exact hj j (by omega) hjk

/-- An envelope at the end is the reply to some attempt. -/
theorem exists_replied_of_endFrom {v : Value} (left n : Nat)
    (h : endFrom engine answer request left n = .envelope v) :
    ∃ k, replied engine answer request k = .envelope v := by
  induction left generalizing n with
  | zero =>
    cases hr : (replied engine answer request n).isRetryable with
    | false => exact ⟨n, endFrom_stop hr ▸ h⟩
    | true =>
      obtain ⟨e, he, hretry⟩ := (isRetryable_iff _).mp hr
      rw [endFrom_last he hretry] at h
      cases h
  | succ left ih =>
    cases hr : (replied engine answer request n).isRetryable with
    | false => exact ⟨n, endFrom_stop hr ▸ h⟩
    | true =>
      obtain ⟨e, he, hretry⟩ := (isRetryable_iff _).mp hr
      rw [endFrom_retry he hretry] at h
      cases hd : hasDelay engine n with
      | false => simp [hd] at h
      | true =>
        rw [hd, if_pos rfl] at h
        exact ih (n + 1) h

theorem sendAll_result (h : IsMemoryless engine answer) (requests : List Request)
    (s : Standing σ) : (sendAll engine requests s).result =
      requests.map fun request => (request, endOf engine answer request) := by
  induction requests generalizing s with
  | nil => rfl
  | cons request rest ih =>
    rw [List.map_cons, ← ih (send engine request s).state, ← send_result h s]
    rfl

/-- The place of a clause that is sent alone holds the slot of that clause. -/
theorem mapM_placeSlot {clauses : List Clause} {plan : BatchPlan}
    (hplan : compileBatch clauses .independent = .ok plan) :
    plan.slots.mapM (placeSlot (plan.requests.map fun request =>
      (request, endOf engine answer request))) = clauses.mapM (clauseSlot engine answer) := by
  have hmap : plan.slots.map (placeSlot (plan.requests.map fun request =>
      (request, endOf engine answer request))) = clauses.map (clauseSlot engine answer) := by
    rw [Compilation.slots_of_compileBatch hplan]
    -- the traversals agree position by position; request `k` has clause `k` as its only member
    apply List.ext_getElem?
    intro k
    rw [List.getElem?_map, List.getElem?_map, List.getElem?_map]
    cases hk : clauses[k]? with
    | none =>
      have hlen := List.getElem?_eq_none_iff.mp hk
      rw [List.getElem?_eq_none (by simpa using hlen)]
      rfl
    | some c =>
      have hlt := (List.getElem?_eq_some_iff.mp hk).1
      obtain ⟨sole, hsole, hmember, hmode⟩ := Compilation.place_of_compileBatch hplan hk
      obtain ⟨request, hrequest, hcompile⟩ := Compilation.compile_of_compileBatch hplan hk
      obtain rfl : sole = request := Option.some.inj (hsole.symm.trans hrequest)
      have hmember : sole.members[0]? = some (memberOf c c.collection) := hmember
      have hmode : sole.multiplexed = false := hmode
      rw [List.getElem?_range hlt]
      simp [placeIn, placeSlot, memberAt?, hrequest, hmember, clauseSlot, hcompile, hmode]
  calc plan.slots.mapM (placeSlot _) = (plan.slots.map (placeSlot _)).mapM id := by
        rw [List.mapM_map]; rfl
    _ = (clauses.map (clauseSlot engine answer)).mapM id := by rw [hmap]
    _ = clauses.mapM (clauseSlot engine answer) := by rw [List.mapM_map]; rfl

theorem mapM_subjectSlot (subjects : List Subject) :
    subjects.mapM (subjectSlot engine answer) =
      ((clausesOf subjects).mapM (clauseSlot engine answer)).map
        (fillIn (subjects.map Subject.complete)) := by
  induction subjects with
  | nil => rfl
  | cons x rest ih =>
    rw [List.mapM_cons, ih, subjectSlot, List.map_cons]
    cases hx : x.complete with
    | error e =>
      rw [clausesOf_cons_error hx]
      cases (clausesOf rest).mapM (clauseSlot engine answer) <;> rfl
    | ok c =>
      rw [clausesOf_cons_ok hx, List.mapM_cons]
      dsimp only
      cases clauseSlot engine answer c with
      | error e => rfl
      | ok slot => cases (clausesOf rest).mapM (clauseSlot engine answer) <;> rfl

/-- A batch of single requests comes to a list exactly if every query has a slot of its own, and
then that is the list. -/
theorem executeBatch_independent_iff (h : IsMemoryless engine answer) (subjects : List Subject)
    (s : Standing σ) (slots : List Slot) :
    (executeBatch engine .independent subjects s).result = .ok slots ↔
      subjects.mapM (subjectSlot engine answer) = .ok slots := by
  cases hplan : compileBatch (clausesOf subjects) .independent with
  | ok plan =>
    rw [(executeBatch_of_plan engine hplan s).1, sendAll_result h, mapM_placeSlot hplan,
      mapM_subjectSlot]
  | error v =>
    rw [(executeBatch_uncompiled engine hplan s).1, mapM_subjectSlot]
    refine ⟨fun hok => (by cases hok), fun hok => ?_⟩
    obtain ⟨ran, hran, -⟩ := map_eq_ok_iff.mp hok
    have hall : ∀ c ∈ clausesOf subjects, ∃ request, compile c = .ok request := by
      intro c hc
      obtain ⟨slot, hslot⟩ := (exists_mapM_eq_ok_iff _ _).mp ⟨ran, hran⟩ c hc
      unfold clauseSlot at hslot
      cases hcompile : compile c with
      | ok request => exact ⟨request, rfl⟩
      | error v => simp [hcompile] at hslot
    obtain ⟨plan, hok⟩ := (Compilation.exists_compileBatch_iff _ .independent).mpr hall
    simp [hplan] at hok

/-- A clause whose failures stay in its slot: it compiles, and no delay of its retries is too
large. -/
def IsContained (engine : Engine σ) (answer : Request → Nat → Reply) (c : Clause) : Prop :=
  ∃ request, compile c = .ok request ∧ DelaysFit engine answer request

/-- The backend replies with an error, or with an answer whose scores fit. -/
def AnswersFit (answer : Request → Nat → Reply) : Prop :=
  ∀ request n, (∃ e, answer request n = .failed e) ∨
    ∃ v, answer request n = .envelope v ∧ ∀ m ∈ request.members, SectionFits m v

theorem replied_unbroken (h : AnswersFit answer) (n : Nat) (cause : Failure) :
    replied engine answer request n ≠ .broken cause := by
  unfold replied
  obtain ⟨e, he⟩ | ⟨v, hv, -⟩ := h request n
  · rw [he]
    exact Ending.noConfusion
  · rw [hv]
    exact Ending.noConfusion

theorem sectionFits_of_endOf (h : AnswersFit answer) {v : Value}
    (hend : endOf engine answer request = .envelope v) : ∀ m ∈ request.members,
      SectionFits m v := by
  obtain ⟨k, hk⟩ := exists_replied_of_endFrom _ _ hend
  unfold replied at hk
  obtain ⟨e, he⟩ | ⟨w, hw, hfits⟩ := h request k
  · rw [he] at hk
    cases hk
  · rw [hw] at hk
    obtain rfl := Ending.envelope.inj hk
    exact hfits

theorem exists_clauseSlot_iff (h : AnswersFit answer) (c : Clause) :
    (∃ slot, clauseSlot engine answer c = .ok slot) ↔ IsContained engine answer c := by
  unfold clauseSlot IsContained
  cases hcompile : compile c with
  | error v => simp
  | ok request =>
    have hdelays : (∀ cause, endOf engine answer request ≠ .broken cause) ↔
        DelaysFit engine answer request := by
      refine (endFrom_unbroken_iff (replied_unbroken h) _ 1).trans ?_
      constructor
      · intro hall k hk hlt
        exact hall k hk (by omega)
      · intro hall k hk hlt
        exact hall k hk (by omega)
    have hslot : (∃ slot, slotOf (memberOf c c.collection) false (endOf engine answer request) =
        .ok slot) ↔ ∀ cause, endOf engine answer request ≠ .broken cause := by
      cases hend : endOf engine answer request with
      | broken cause => simp [slotOf]
      | failed e => simp [slotOf]
      | envelope v =>
        refine ⟨fun _ cause => Ending.noConfusion, fun _ => ?_⟩
        have hmember : memberOf c c.collection ∈ request.members := by
          rw [Compilation.compile_eq] at hcompile
          obtain ⟨body, -, rfl⟩ := map_eq_ok_iff.mp hcompile
          exact List.mem_singleton.mpr rfl
        exact exists_slotOf_envelope
          (Envelope.fits_normalize (sectionFits_of_endOf h hend _ hmember))
    rw [hslot, hdelays]
    simp

/-- A batch of single requests comes to a list exactly if the failures of its clauses stay in their
slots. -/
theorem exists_slots_iff (h : IsMemoryless engine answer) (hanswers : AnswersFit answer)
    (subjects : List Subject) (s : Standing σ) :
    (∃ slots, (executeBatch engine .independent subjects s).result = .ok slots) ↔
      ∀ c ∈ clausesOf subjects, IsContained engine answer c := by
  simp only [executeBatch_independent_iff h, exists_mapM_eq_ok_iff]
  constructor
  · intro hall c hc
    obtain ⟨x, hx, hcomplete⟩ := mem_clausesOf.mp hc
    have hslot := hall x hx
    rw [subjectSlot, hcomplete] at hslot
    exact (exists_clauseSlot_iff hanswers c).mp hslot
  · intro hall x hx
    rw [subjectSlot]
    cases hcomplete : x.complete with
    | error e => exact ⟨_, rfl⟩
    | ok c =>
      have hc := mem_clausesOf.mpr ⟨x, hx, hcomplete⟩
      exact (exists_clauseSlot_iff hanswers c).mpr (hall c hc)

/-- Another query in the place of one changes the slot in that place only. -/
theorem slots_set (h : IsMemoryless engine answer) {subjects : List Subject} {p : Nat}
    {x : Subject} {s s' : Standing σ} {slots slots' : List Slot}
    (hslots : (executeBatch engine .independent subjects s).result = .ok slots)
    (hslots' : (executeBatch engine .independent (subjects.set p x) s').result = .ok slots') :
    slots.length = subjects.length ∧ slots'.length = subjects.length ∧
      ∀ q, q ≠ p → slots'[q]? = slots[q]? := by
  rw [executeBatch_independent_iff h] at hslots hslots'
  have hlength := length_of_mapM_eq_ok hslots
  have hlength' := length_of_mapM_eq_ok hslots'
  rw [List.length_set] at hlength'
  refine ⟨hlength, hlength', fun q hq => ?_⟩
  cases hy : subjects[q]? with
  | none =>
    have hle := List.getElem?_eq_none_iff.mp hy
    rw [List.getElem?_eq_none (by omega), List.getElem?_eq_none (by omega)]
  | some y =>
    have hy' : (subjects.set p x)[q]? = some y := by
      rw [List.getElem?_set_ne (Ne.symm hq), hy]
    obtain ⟨slot, hslot, hget⟩ := getElem?_of_mapM_eq_ok hslots hy
    obtain ⟨slot', hslot', hget'⟩ := getElem?_of_mapM_eq_ok hslots' hy'
    rw [hget, hget', Except.ok.inj (hslot'.symm.trans hslot)]

/-- To a backend without memory, a batch of single requests comes to a list exactly if every clause
compiles and no retry waits too long for a float. Then another query in the place of one changes the
slot in that place only; a clause that does not compile breaks off the batch. -/
theorem independent_isolated (engine : Engine σ) (answer : Request → Nat → Reply)
    (hmemoryless : IsMemoryless engine answer) (hanswers : AnswersFit answer) :
    (∀ subjects s, (∃ slots, (executeBatch engine .independent subjects s).result = .ok slots) ↔
      ∀ c ∈ clausesOf subjects, IsContained engine answer c) ∧
    (∀ subjects s, (∃ c ∈ clausesOf subjects, ∀ request, compile c ≠ .ok request) →
      ∃ e : CompileError,
        (executeBatch engine .independent subjects s).result = .error e.toFailure) ∧
    ∀ subjects p x s s' slots slots',
      (executeBatch engine .independent subjects s).result = .ok slots →
      (executeBatch engine .independent (subjects.set p x) s').result = .ok slots' →
      slots.length = subjects.length ∧ slots'.length = subjects.length ∧
        ∀ q, q ≠ p → slots'[q]? = slots[q]? := by
  refine ⟨exists_slots_iff hmemoryless hanswers, ?_, ?_⟩
  · rintro subjects s ⟨c, hc, hcompile⟩
    cases hplan : compileBatch (clausesOf subjects) .independent with
    | error e => exact ⟨e, (executeBatch_uncompiled engine hplan s).1⟩
    | ok plan =>
      obtain ⟨request, hrequest⟩ :=
        (Compilation.exists_compileBatch_iff _ .independent).mp ⟨plan, hplan⟩ c hc
      exact absurd hrequest (hcompile request)
  · intro subjects p x s s' slots slots' hslots hslots'
    exact slots_set hmemoryless hslots hslots'

/-- A clause whose filter compares with an object that no part of the library can read. -/
def unreadableClause : Clause :=
  { collection := "B", filter := some (.leaf ⟨"x", []⟩ .equal .foreign) }

/-- Beside a clause that does not compile a query has no slot; beside one that is refused it has. -/
theorem independent_isolated_unreadable :
    (¬ ∃ slots, (executeBatch emptyAnswers .independent
      [.clause { collection := "A" }, .clause unreadableClause] ⟨(), 0⟩).result = .ok slots) ∧
    ∃ slots, (executeBatch emptyAnswers .independent
      [.clause { collection := "A" }, .other .null] ⟨(), 0⟩).result = .ok slots := by
  have hanswers : AnswersFit fun _ _ => .envelope (.map []) := by
    intro request n
    refine .inr ⟨_, rfl, fun m _ es items hes hitems item hitem => ?_⟩
    obtain rfl := Value.map.inj hes
    obtain rfl : [] = items := Except.ok.inj hitems
    cases hitem
  obtain ⟨hlist, hbroken, -⟩ := independent_isolated emptyAnswers _ (fun _ _ _ => rfl) hanswers
  constructor
  · rintro ⟨slots, hslots⟩
    have hcompile : ∃ e, compile unreadableClause = .error e := ⟨_, rfl⟩
    obtain ⟨w, hw⟩ := hcompile
    obtain ⟨e, he⟩ := hbroken [.clause { collection := "A" }, .clause unreadableClause] ⟨(), 0⟩
      ⟨unreadableClause, by simp [mem_clausesOf, Subject.complete], by simp [hw]⟩
    rw [he] at hslots
    cases hslots
  · rw [hlist]
    intro c hc
    obtain rfl : c = { collection := "A" } := by
      simpa [clausesOf, Subject.complete, Except.toOption] using hc
    refine ⟨_, rfl, fun k hk _ hretried => ?_⟩
    cases hretried 1 (by omega) hk

end Execution

end Retrieval
