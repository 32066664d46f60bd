import Retrieval.Execution.Batch
import Retrieval.Proofs.Members

/-!
What a batch comes to, for any backend and any way in which its queries fail. Three countings meet
here: the positions of the queries, the clauses that can be run, and the places in the plan. Main
statement: the slot at a position is read from the end of the request that carries that query's own
member, however many queries before it were refused.
-/

namespace Retrieval

namespace Run

variable {σ α β : Type}

/-- A run that leaves log entries only. -/
def OnlyLogs (r : Run σ α) : Prop :=
  ∀ s, (r s).state = s ∧ ∃ entries : List Log.Entry, (r s).events = entries.map .logged

theorem onlyLogs_pure (a : α) : OnlyLogs (pure a : Run σ α) := fun _ => ⟨rfl, [], rfl⟩

theorem onlyLogs_log (level : Log.Level) (text : String) :
    OnlyLogs (log level text : Run σ Unit) := fun _ => ⟨rfl, [⟨level, text⟩], rfl⟩

theorem OnlyLogs.bind {r : Run σ α} {f : α → Run σ β} (hr : OnlyLogs r)
    (hf : ∀ a, OnlyLogs (f a)) : OnlyLogs (r >>= f) := by
  intro s
  obtain ⟨hs, es, he⟩ := hr s
  obtain ⟨ht, fs, hg⟩ := hf (r s).result (r s).state
  exact ⟨ht.trans hs, es ++ fs, by simp [he, hg]⟩

end Run

/-- The clauses among some subjects, those that cannot be run being left out. -/
def clausesOf (subjects : List Subject) : List Clause :=
  subjects.filterMap fun x => x.complete.toOption

/-- How many of the first `p` subjects can be run. -/
def acceptedBefore (subjects : List Subject) (p : Nat) : Nat := (clausesOf (subjects.take p)).length

namespace Execution

open Compilation (compileBatch compileMember placeIn aliasIn memberIn requestCount)

variable {σ : Type}

/-- What the end of its request makes of a query. -/
def slotOf (m : Member) (multiplexed : Bool) : Ending → Except Failure Slot
  | .broken cause => .error cause
  | .failed e => .ok (.error e)
  | .envelope v =>
    match (Envelope.normalize m multiplexed v).outcome with
    | .ok r => .ok (.ok r)
    | .error fault =>
      match errorOf m.collection fault with
      | .query e => .ok (.error e)
      | e => .error e

/-- What the ends of the requests make of the query at a place of the plan. -/
def placeSlot (ends : List (Request × Ending)) (place : Nat × Nat) : Except Failure Slot :=
  match memberAt? ends place with
  | none => .error .misuse
  | some (request, ending, m) => slotOf m request.multiplexed ending

theorem readMember_apply (m : Member) (multiplexed : Bool) (v : Value) (s : σ) :
    readMember m multiplexed v s =
      ⟨(Envelope.normalize m multiplexed v).outcome.mapError (errorOf m.collection),
        (Envelope.normalize m multiplexed v).entries.map .logged, s⟩ := by
  simp [readMember, Run.logAll]

theorem settle_result (position : Nat) (m : Member) (multiplexed : Bool) (ending : Ending) (s : σ) :
    (settle position m multiplexed ending s).result = slotOf m multiplexed ending := by
  cases ending with
  | broken cause => rfl
  | failed e => rfl
  | envelope v =>
    simp only [settle, slotOf, Run.bind_apply, readMember_apply]
    cases (Envelope.normalize m multiplexed v).outcome with
    | ok r => rfl
    | error fault =>
      have hmap : (Except.error fault : Except Envelope.Fault QueryResult).mapError
          (errorOf m.collection) = .error (errorOf m.collection fault) := rfl
      rw [hmap]
      cases he : errorOf m.collection fault <;> simp [he]

theorem settle_onlyLogs (position : Nat) (m : Member) (multiplexed : Bool) (ending : Ending) :
    Run.OnlyLogs (settle (σ := σ) position m multiplexed ending) := by
  cases ending with
  | broken cause => exact Run.onlyLogs_pure _
  | failed e => exact Run.onlyLogs_pure _
  | envelope v =>
    refine Run.OnlyLogs.bind (fun s => ⟨by rw [readMember_apply], _, by rw [readMember_apply]⟩) ?_
    intro read
    split
    · exact Run.onlyLogs_pure _
    · exact (Run.onlyLogs_log _ _).bind fun _ => Run.onlyLogs_pure _
    · exact Run.onlyLogs_pure _

theorem settleAll_result (ends : List (Request × Ending)) (places : List (Nat × Nat × Nat))
    (s : σ) : (settleAll ends places s).result = (places.map (·.2)).mapM (placeSlot ends) := by
  induction places generalizing s with
  | nil => rfl
  | cons x rest ih =>
    obtain ⟨position, place⟩ := x
    rw [settleAll, List.map_cons, List.mapM_cons, placeSlot]
    cases memberAt? ends place with
    | none => rfl
    | some found =>
      obtain ⟨request, ending, m⟩ := found
      simp only [Run.bind_apply, settle_result]
      cases slotOf m request.multiplexed ending with
      | error e => rfl
      | ok slot =>
        simp only [Run.bind_apply, Run.pure_apply, ih]
        cases (rest.map (·.2)).mapM (placeSlot ends) <;> rfl

theorem settleAll_onlyLogs (ends : List (Request × Ending)) (places : List (Nat × Nat × Nat)) :
    Run.OnlyLogs (settleAll (σ := σ) ends places) := by
  induction places with
  | nil => exact Run.onlyLogs_pure _
  | cons x rest ih =>
    obtain ⟨position, place⟩ := x
    rw [settleAll]
    split
    · exact Run.onlyLogs_pure _
    · refine (settle_onlyLogs _ _ _ _).bind fun slot => ?_
      split
      · exact Run.onlyLogs_pure _
      · exact ih.bind fun _ => Run.onlyLogs_pure _

theorem sendAll_requests (engine : Engine σ) (requests : List Request) (s : Standing σ) :
    (sendAll engine requests s).result.map (·.1) = requests := by
  induction requests generalizing s with
  | nil => rfl
  | cons request rest ih => simp [sendAll, ih]

theorem clausesOf_cons_error {x : Subject} {e : ConfigurationError} (h : x.complete = .error e)
    (rest : List Subject) : clausesOf (x :: rest) = clausesOf rest := by
  simp [clausesOf, h, Except.toOption]

theorem clausesOf_cons_ok {x : Subject} {c : Clause} (h : x.complete = .ok c)
    (rest : List Subject) : clausesOf (x :: rest) = c :: clausesOf rest := by
  simp [clausesOf, h, Except.toOption]

theorem map_accepted (n : Nat) (subjects : List Subject) :
    (accepted n (subjects.map Subject.complete)).map (·.2) = clausesOf subjects := by
  induction subjects generalizing n with
  | nil => rfl
  | cons x rest ih =>
    cases hx : x.complete with
    | error e => simp only [List.map_cons, hx, accepted, ih, clausesOf_cons_error hx]
    | ok c => simp only [List.map_cons, hx, accepted, ih, clausesOf_cons_ok hx]

theorem mem_clausesOf {subjects : List Subject} {c : Clause} :
    c ∈ clausesOf subjects ↔ ∃ x ∈ subjects, x.complete = .ok c := by
  have htoOption : ∀ x : Subject, x.complete.toOption = some c ↔ x.complete = .ok c := by
    intro x
    cases x.complete <;> simp [Except.toOption]
  simp only [clausesOf, List.mem_filterMap, htoOption]

/-- The clause of an accepted query stands behind those of the accepted queries before it. -/
theorem clausesOf_getElem? {subjects : List Subject} {p : Nat} {x : Subject} {c : Clause}
    (hx : subjects[p]? = some x) (hc : x.complete = .ok c) :
    (clausesOf subjects)[acceptedBefore subjects p]? = some c := by
  induction subjects generalizing p with
  | nil => simp at hx
  | cons y rest ih =>
    cases p with
    | zero =>
      obtain rfl : y = x := by simpa using hx
      rw [clausesOf_cons_ok hc]
      rfl
    | succ p =>
      have hrest := ih (by simpa using hx)
      rw [acceptedBefore] at hrest ⊢
      cases hy : y.complete with
      | error e => rwa [List.take_succ_cons, clausesOf_cons_error hy, clausesOf_cons_error hy]
      | ok d =>
        rw [List.take_succ_cons, clausesOf_cons_ok hy, clausesOf_cons_ok hy]
        simpa using hrest

/-- A query that cannot be run has its own refusal as its slot; the slot of any other is counted
among those of the queries that were run. -/
theorem fillIn_getElem? {subjects : List Subject} {ran : List Slot} {p : Nat} {x : Subject}
    (h : ran.length = (clausesOf subjects).length) (hx : subjects[p]? = some x) :
    (fillIn (subjects.map Subject.complete) ran)[p]? =
      match x.complete with
      | .error e => some (.error (.configuration e))
      | .ok _ => ran[acceptedBefore subjects p]? := by
  induction subjects generalizing p ran with
  | nil => simp at hx
  | cons y rest ih =>
    rw [List.map_cons]
    cases hy : y.complete with
    | error e =>
      rw [clausesOf_cons_error hy] at h
      rw [fillIn]
      cases p with
      | zero =>
        obtain rfl : y = x := by simpa using hx
        simp [hy]
      | succ p =>
        rw [List.getElem?_cons_succ, ih h (by simpa using hx), acceptedBefore, acceptedBefore,
          List.take_succ_cons, clausesOf_cons_error hy]
    | ok d =>
      rw [clausesOf_cons_ok hy, List.length_cons] at h
      obtain ⟨slot, ran, rfl⟩ := List.exists_cons_of_length_eq_add_one h
      rw [fillIn]
      cases p with
      | zero =>
        obtain rfl : y = x := by simpa using hx
        simp [hy, acceptedBefore, clausesOf]
      | succ p =>
        rw [List.getElem?_cons_succ, ih (by simpa using h) (by simpa using hx), acceptedBefore,
          acceptedBefore, List.take_succ_cons, clausesOf_cons_ok hy]
        rfl

theorem length_fillIn {subjects : List Subject} {ran : List Slot}
    (h : ran.length = (clausesOf subjects).length) :
    (fillIn (subjects.map Subject.complete) ran).length = subjects.length := by
  induction subjects generalizing ran with
  | nil => rfl
  | cons y rest ih =>
    rw [List.map_cons]
    cases hy : y.complete with
    | error e =>
      rw [clausesOf_cons_error hy] at h
      rw [fillIn, List.length_cons, List.length_cons, ih h]
    | ok d =>
      rw [clausesOf_cons_ok hy, List.length_cons] at h
      obtain ⟨slot, ran, rfl⟩ := List.exists_cons_of_length_eq_add_one h
      rw [fillIn, List.length_cons, List.length_cons, ih (by simpa using h)]

/-- A run that sends requests one after another, with nothing but log entries before and after. -/
structure SendsExactly {α : Type} (engine : Engine σ) (requests : List Request) (s : Standing σ)
    (c : Course (Standing σ) α) : Prop where
  events : ∃ before after : List Log.Entry, c.events =
    before.map .logged ++ (sendAll engine requests s).events ++ after.map .logged
  state : c.state = (sendAll engine requests s).state

/-- A plan is sent request by request, and each slot is read at its place. -/
theorem runAccepted_of_plan (engine : Engine σ) {strategy : BatchStrategy}
    {queries : List (Nat × Clause)} {plan : BatchPlan}
    (hplan : compileBatch (queries.map (·.2)) strategy = .ok plan) (s : Standing σ) :
    (runAccepted engine strategy queries s).result =
        plan.slots.mapM (placeSlot (sendAll engine plan.requests s).result) ∧
      SendsExactly engine plan.requests s (runAccepted engine strategy queries s) := by
  unfold runAccepted
  by_cases hempty : queries.isEmpty
  · have hnil : queries = [] := List.isEmpty_iff.mp hempty
    subst hnil
    obtain rfl : plan = ⟨.independent, [], []⟩ := by
      cases strategy <;> exact (Except.ok.inj hplan).symm
    exact ⟨rfl, ⟨[], [], rfl⟩, rfl⟩
  · simp only [if_neg hempty, hplan, Run.bind_apply, Run.logAll]
    have hslots : (((queries.map (·.1)).zip plan.slots).map (·.2)) = plan.slots := by
      have hlength := congrArg List.length (Compilation.slots_of_compileBatch hplan)
      exact List.map_snd_zip (by simpa using Nat.le_of_eq hlength)
    refine ⟨by rw [settleAll_result, hslots], ?_, ?_⟩
    · obtain ⟨after, hafter⟩ := (settleAll_onlyLogs (sendAll engine plan.requests s).result
        ((queries.map (·.1)).zip plan.slots) (sendAll engine plan.requests s).state).2
      exact ⟨Compilation.warningsOf (queries.map (·.2)), after, by
        simp only [hafter, List.append_assoc]⟩
    · exact (settleAll_onlyLogs _ _ _).1

theorem executeBatch_of_plan (engine : Engine σ) {strategy : BatchStrategy}
    {subjects : List Subject} {plan : BatchPlan}
    (hplan : compileBatch (clausesOf subjects) strategy = .ok plan)
    (s : Standing σ) :
    (executeBatch engine strategy subjects s).result =
        (plan.slots.mapM (placeSlot (sendAll engine plan.requests s).result)).map
          (fillIn (subjects.map Subject.complete)) ∧
      SendsExactly engine plan.requests s (executeBatch engine strategy subjects s) := by
  rw [← map_accepted 0] at hplan
  obtain ⟨hresult, ⟨before, after, hevents⟩, hstate⟩ := runAccepted_of_plan engine hplan s
  unfold executeBatch
  simp only [Run.bind_apply, Run.logAll, hresult]
  cases hslots : plan.slots.mapM (placeSlot (sendAll engine plan.requests s).result) with
  | error e =>
    refine ⟨rfl, ⟨rejections 0 (subjects.map Subject.complete) ++ before, after, ?_⟩, hstate⟩
    simp [hevents]
  | ok ran =>
    refine ⟨rfl, ⟨rejections 0 (subjects.map Subject.complete) ++ before,
      after ++ [⟨.info, completeText strategy (fillIn (subjects.map Subject.complete) ran)⟩], ?_⟩,
      hstate⟩
    simp [hevents, Run.log]

/-- A clause that does not compile breaks off the batch before anything is sent. -/
theorem executeBatch_uncompiled (engine : Engine σ) {strategy : BatchStrategy}
    {subjects : List Subject} {e : CompileError}
    (hplan : compileBatch (clausesOf subjects) strategy = .error e) (s : Standing σ) :
    (executeBatch engine strategy subjects s).result = .error e.toFailure ∧
      SendsExactly engine [] s (executeBatch engine strategy subjects s) := by
  rw [← map_accepted 0] at hplan
  have hne : (accepted 0 (subjects.map Subject.complete)).isEmpty = false := by
    cases h : accepted 0 (subjects.map Subject.complete) with
    | nil =>
      rw [h] at hplan
      cases strategy <;> cases hplan
    | cons query rest => rfl
  unfold executeBatch runAccepted
  simp only [hne, Bool.false_eq_true, if_false, Run.bind_apply, Run.pure_apply, Run.logAll, hplan]
  refine ⟨trivial, ⟨rejections 0 (subjects.map Subject.complete) ++
    Compilation.warningsOf ((accepted 0 (subjects.map Subject.complete)).map (·.2)), [], ?_⟩, rfl⟩
  simp [sendAll]

/-- The requests that the queries of a batch are sent with; none if some clause does not compile. -/
def batchRequests (strategy : BatchStrategy) (subjects : List Subject) : List Request :=
  match compileBatch (clausesOf subjects) strategy with
  | .ok plan => plan.requests
  | .error _ => []

/-- The requests of a batch with their ends. -/
def batchEnds (engine : Engine σ) (strategy : BatchStrategy) (subjects : List Subject)
    (s : Standing σ) : List (Request × Ending) :=
  (sendAll engine (batchRequests strategy subjects) s).result

/-- An answer that is read for a member, or refused with an error of the answer. -/
def ReadOrRefused (m : Member) (multiplexed : Bool) (v : Value) : Prop :=
  ∀ fault, (Envelope.normalize m multiplexed v).outcome = .error fault →
    ∃ e, errorOf m.collection fault = .query (.response e)

/-- A slot that holds what the end of its request gives to a member: the error of the request, or
what the answer reads as, or the error of the answer. -/
def Holds (m : Member) (multiplexed : Bool) (slot : Slot) : Ending → Prop
  | .broken _ => False
  | .failed e => slot = .error e
  | .envelope v =>
    (∃ r, (Envelope.normalize m multiplexed v).outcome = .ok r ∧ slot = .ok r) ∨
      ∃ fault e, (Envelope.normalize m multiplexed v).outcome = .error fault ∧
        errorOf m.collection fault = .query (.response e) ∧ slot = .error (.response e)

theorem slotOf_holds {m : Member} {multiplexed : Bool} {ending : Ending}
    (hb : ∀ cause, ending ≠ .broken cause)
    (hr : ∀ v, ending = .envelope v → ReadOrRefused m multiplexed v) :
    ∃ slot, slotOf m multiplexed ending = .ok slot ∧ Holds m multiplexed slot ending := by
  cases ending with
  | broken cause => exact absurd rfl (hb cause)
  | failed e => exact ⟨.error e, rfl, rfl⟩
  | envelope v =>
    cases hout : (Envelope.normalize m multiplexed v).outcome with
    | ok r => exact ⟨.ok r, by simp [slotOf, hout], .inl ⟨r, hout, rfl⟩⟩
    | error fault =>
      obtain ⟨e, he⟩ := hr v rfl fault hout
      exact ⟨.error (.response e), by simp [slotOf, hout, he], .inr ⟨fault, e, hout, he, rfl⟩⟩

/-- An answer that meets no integer too large for a float has a slot. -/
theorem exists_slotOf_envelope {m : Member} {multiplexed : Bool} {v : Value}
    (h : (Envelope.normalize m multiplexed v).outcome ≠ .error .tooLarge) :
    ∃ slot, slotOf m multiplexed (.envelope v) = .ok slot := by
  cases hout : (Envelope.normalize m multiplexed v).outcome with
  | ok r => exact ⟨.ok r, by simp [slotOf, hout]⟩
  | error fault =>
    obtain ⟨e, he⟩ : ∃ e, errorOf m.collection fault = .query e := by
      cases fault with
      | tooLarge => exact absurd hout h
      | _ => exact ⟨_, rfl⟩
    exact ⟨.error e, by simp [slotOf, hout, he]⟩

/-- The place of accepted clause `k` leads to its own member, in the request that carries it. -/
theorem memberAt?_place (engine : Engine σ) {strategy : BatchStrategy} {clauses : List Clause}
    {plan : BatchPlan} (hplan : compileBatch clauses strategy = .ok plan)
    (s : Standing σ) {k : Nat} {c : Clause} (hk : clauses[k]? = some c) :
    ∃ request ending,
      (sendAll engine plan.requests s).result[(placeIn strategy k).1]? =
        some (request, ending) ∧
      request.members[(placeIn strategy k).2]? =
        some (memberIn strategy k c) ∧
      request.multiplexed = (strategy == .multiplexed) ∧
      memberAt? (sendAll engine plan.requests s).result (placeIn strategy k) =
        some (request, ending, memberIn strategy k c) := by
  obtain ⟨request, hrequest, hmember, hmode⟩ := Compilation.place_of_compileBatch hplan hk
  have hsent := hrequest
  rw [← sendAll_requests engine plan.requests s, List.getElem?_map, Option.map_eq_some_iff] at hsent
  obtain ⟨⟨sent, ending⟩, hend, rfl⟩ := hsent
  exact ⟨sent, ending, hend, hmember, hmode, by simp [memberAt?, hend, hmember]⟩

/-- Every query of a batch gets a slot of its own, in order, and the slot of an accepted query is
read from the end of the request that carries its own member. -/
theorem executeBatch_aligned (engine : Engine σ) (strategy : BatchStrategy)
    (subjects : List Subject) (s : Standing σ)
    (hcompile : ∀ c ∈ clausesOf subjects, ∃ request, Compilation.compile c = .ok request)
    (hanswered : ∀ x ∈ batchEnds engine strategy subjects s, ∀ cause, x.2 ≠ .broken cause)
    (hread : ∀ x ∈ batchEnds engine strategy subjects s, ∀ v, x.2 = .envelope v →
      ∀ m ∈ x.1.members, ReadOrRefused m x.1.multiplexed v) :
    ∃ slots, (executeBatch engine strategy subjects s).result = .ok slots ∧
      slots.length = subjects.length ∧
      (∀ (p : Nat) (x : Subject) e, subjects[p]? = some x → x.complete = .error e →
        slots[p]? = some (.error (.configuration e))) ∧
      (∀ (p : Nat) (x : Subject) c, subjects[p]? = some x → x.complete = .ok c →
        ∃ request ending m text slot,
          (batchEnds engine strategy subjects s)[
            (placeIn strategy (acceptedBefore subjects p)).1]? = some (request, ending) ∧
          request.members[(placeIn strategy (acceptedBefore subjects p)).2]? = some m ∧
          compileMember c (aliasIn strategy (acceptedBefore subjects p)) = .ok (m, text) ∧
          slots[p]? = some slot ∧ Holds m (strategy == .multiplexed) slot ending) ∧
      (batchRequests strategy subjects).length =
        requestCount strategy (clausesOf subjects).length ∧
      SendsExactly engine (batchRequests strategy subjects) s
        (executeBatch engine strategy subjects s) := by
  obtain ⟨plan, hplan⟩ := (Compilation.exists_compileBatch_iff _ strategy).mpr hcompile
  have hrequests : batchRequests strategy subjects = plan.requests := by
    rw [batchRequests, hplan]
  simp only [batchEnds, hrequests] at hanswered hread ⊢
  obtain ⟨hresult, hsends⟩ := executeBatch_of_plan engine hplan s
  -- each place of the plan holds the slot of the clause it belongs to
  have hplace : ∀ k c, (clausesOf subjects)[k]? = some c → ∃ request ending slot,
      (sendAll engine plan.requests s).result[(placeIn strategy k).1]? = some (request, ending) ∧
      request.members[(placeIn strategy k).2]? = some (memberIn strategy k c) ∧
      placeSlot (sendAll engine plan.requests s).result (placeIn strategy k) = .ok slot ∧
      Holds (memberIn strategy k c) (strategy == .multiplexed) slot ending := by
    intro k c hk
    obtain ⟨request, ending, hend, hmember, hmode, hat⟩ :=
      memberAt?_place engine hplan s hk
    have hmem := List.mem_of_getElem? hend
    obtain ⟨slot, hslot, hholds⟩ := slotOf_holds (hanswered _ hmem) fun v hv =>
      hread _ hmem v hv _ (List.mem_of_getElem? hmember)
    refine ⟨request, ending, slot, hend, hmember, ?_, hmode ▸ hholds⟩
    rw [placeSlot, hat]
    exact hslot
  have hslots := Compilation.slots_of_compileBatch hplan
  obtain ⟨ran, hran⟩ : ∃ ran,
      plan.slots.mapM (placeSlot (sendAll engine plan.requests s).result) = .ok ran := by
    rw [exists_mapM_eq_ok_iff, hslots]
    intro place hmem
    obtain ⟨k, hk, rfl⟩ := List.mem_map.mp hmem
    have hget := List.getElem?_eq_getElem (List.mem_range.mp hk)
    obtain ⟨-, -, slot, -, -, hslot, -⟩ := hplace k _ hget
    exact ⟨slot, hslot⟩
  have hlength : ran.length = (clausesOf subjects).length := by
    rw [length_of_mapM_eq_ok hran, hslots, List.length_map, List.length_range]
  refine ⟨fillIn (subjects.map Subject.complete) ran, ?_, length_fillIn hlength, ?_, ?_,
    Compilation.length_requests_of_compileBatch hplan, hsends⟩
  · rw [hresult, hran]
    rfl
  · intro p x e hx he
    rw [fillIn_getElem? hlength hx, he]
  · intro p x c hx hc
    have hk := clausesOf_getElem? hx hc
    obtain ⟨request, ending, slot, hend, hmember, hslot, hholds⟩ := hplace _ c hk
    obtain ⟨text, htext⟩ := Compilation.compileMember_of_compileBatch hplan hk
    refine ⟨request, ending, _, text, slot, hend, hmember, htext, ?_, hholds⟩
    have hplaced : plan.slots[acceptedBefore subjects p]? =
        some (placeIn strategy (acceptedBefore subjects p)) := by
      have hlt := (List.getElem?_eq_some_iff.mp hk).1
      simp [hslots, hlt]
    obtain ⟨found, hfound, hget⟩ := getElem?_of_mapM_eq_ok hran hplaced
    rw [fillIn_getElem? hlength hx, hc]
    exact hget.trans (congrArg some (Except.ok.inj (hfound.symm.trans hslot)))

/-- A backend whose answers are all empty. -/
def emptyAnswers : Engine Unit :=
  ⟨fun _ _ _ b => ⟨.envelope (.map []), [], b⟩, {}, .multiplexed, none, fun _ => 0.0⟩

/-- A batch whose second query cannot be run. -/
def mixedSubjects : List Subject :=
  [.clause { collection := "A" }, .other .null, .clause { collection := "B" }]

theorem send_emptyAnswers (request : Request) (s : Standing Unit) :
    (send emptyAnswers request s).result = .envelope (.map []) := by
  unfold send attemptsFrom
  rfl

/-- The batch takes one request, in which the refused query has no alias. -/
theorem batchEnds_mixed : ∃ text, batchEnds emptyAnswers .multiplexed mixedSubjects ⟨(), 0⟩ =
    [(⟨text, [memberIn .multiplexed 0 { collection := "A" },
      memberIn .multiplexed 1 { collection := "B" }], true⟩, .envelope (.map []))] := by
  have hrequests : ∃ text, batchRequests .multiplexed mixedSubjects =
      [⟨text, [memberIn .multiplexed 0 { collection := "A" },
        memberIn .multiplexed 1 { collection := "B" }], true⟩] := ⟨_, rfl⟩
  obtain ⟨text, htext⟩ := hrequests
  exact ⟨text, by simp [batchEnds, htext, sendAll, send_emptyAnswers]⟩

/-- Three slots, the second of which is the refusal of the second query. -/
theorem executeBatch_aligned_mixed : ∃ slots,
    (executeBatch emptyAnswers .multiplexed mixedSubjects ⟨(), 0⟩).result = .ok slots ∧
      slots.length = 3 ∧ slots[1]? = some (.error (.configuration (.notAQuery "NoneType"))) := by
  obtain ⟨text, hends⟩ := batchEnds_mixed
  obtain ⟨slots, hresult, hlength, hrejected, -⟩ :=
    executeBatch_aligned emptyAnswers .multiplexed mixedSubjects ⟨(), 0⟩
      (by
        intro c hc
        obtain rfl | rfl : c = { collection := "A" } ∨ c = { collection := "B" } := by
          simpa [clausesOf, mixedSubjects, Subject.complete, Except.toOption] using hc
        · exact ⟨_, rfl⟩
        · exact ⟨_, rfl⟩)
      (by
        intro x hx cause
        rw [hends, List.mem_singleton] at hx
        rw [hx]
        exact Ending.noConfusion)
      (by
        intro x hx v hv m hm fault hfault
        rw [hends, List.mem_singleton] at hx
        subst hx
        obtain rfl := Ending.envelope.inj hv
        obtain rfl | rfl : m = memberIn .multiplexed 0 { collection := "A" } ∨
            m = memberIn .multiplexed 1 { collection := "B" } := by simpa using hm
        · cases hfault
        · cases hfault)
  exact ⟨slots, hresult, hlength, hrejected 1 _ _ rfl rfl⟩

end Execution

end Retrieval
