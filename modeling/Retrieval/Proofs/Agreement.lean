import Retrieval.Proofs.Failures
import Retrieval.Proofs.Slots

/-!
Batches and single queries. What a query is answered with alone is what its slot in a batch holds,
as a result or as an error, if the batch is run one query at a time over a backend without memory.
A slot has one level more around its result, so not every result that is answered alone fits into a
batch. A query that breaks off alone breaks off the whole batch; only a number that JSON lacks does
not, as it is null there.
-/

namespace Retrieval.Api

open Execution
open Http (Link)
open Value (levels levelsOfEntries)

variable {s : Service} {answer : Request → Nat → Reply} {c : Call} {slot : Slot} {r : Response}
  {v : Value} {slots : List Slot} {answers : List Response}

theorem exists_entries_of_resultData {result : QueryResult} {body : Value}
    (h : resultData result = .ok body) : ∃ es, body = .map es := by
  obtain ⟨loose, -, heq⟩ := bind_eq_ok_iff.mp h
  obtain rfl := Except.ok.inj heq
  cases loose <;> exact ⟨_, rfl⟩

theorem levels_map_le_iff (es : Entries Value) :
    levels (.map es) ≤ maxLevels + 1 ↔ levelsOfEntries es ≤ maxLevels := by
  rw [levels]
  exact Nat.add_le_add_iff_right

/-- A slot tells a result that fits into it, with null for the numbers that JSON lacks. -/
theorem slotData_result_iff {result : QueryResult} :
    slotData (.ok result) = .ok v ↔ ∃ es, resultData result = .ok (.map es) ∧
      levels (.map es) ≤ maxLevels + 1 ∧
      v = .map [("result", .map (entriesWithoutOdd es)), ("error", .null)] := by
  rw [slotData]
  constructor
  · intro h
    obtain ⟨body, hbody, h⟩ := bind_eq_ok_iff.mp h
    obtain ⟨es, rfl⟩ := exists_entries_of_resultData hbody
    obtain ⟨loose, hloose, heq⟩ := bind_eq_ok_iff.mp h
    obtain ⟨hlevels, rfl⟩ := mapEntries_looseData_iff.mp hloose
    exact ⟨es, hbody, (levels_map_le_iff es).mpr hlevels, (Except.ok.inj heq).symm⟩
  · rintro ⟨es, hbody, hlevels, rfl⟩
    have hloose := mapEntries_looseData_iff.mpr ⟨(levels_map_le_iff es).mp hlevels, rfl⟩
    exact bind_eq_ok_iff.mpr ⟨_, hbody, bind_eq_ok_iff.mpr ⟨_, hloose, rfl⟩⟩

theorem slotData_error_iff {e : QueryError} :
    slotData (.error e) = .ok v ↔ ∃ body, errorData e = .ok body ∧
      v = .map [("result", .null), ("error", body)] := by
  rw [slotData]
  constructor
  · intro h
    obtain ⟨body, hbody, heq⟩ := bind_eq_ok_iff.mp h
    exact ⟨body, hbody, (Except.ok.inj heq).symm⟩
  · rintro ⟨body, hbody, rfl⟩
    exact bind_eq_ok_iff.mpr ⟨body, hbody, rfl⟩

theorem isSendable_slot_iff {x y : Value} :
    Json.IsSendable (.map [("result", x), ("error", y)]) ↔
      Json.IsSendable x ∧ Json.IsSendable y := by
  have hresult : Text.isEncodable "result" = true := by decide
  have herror : Text.isEncodable "error" = true := by decide
  rw [Json.isSendable_map_iff]
  simp only [List.forall_mem_cons, hresult, herror, true_and]
  exact ⟨fun h => ⟨h.1, h.2.1⟩, fun h => ⟨h.1, h.2, List.forall_mem_nil _⟩⟩

/-- The slot for what a query is answered with alone. -/
def slotFor (r : Response) : Value :=
  if r.status = 200 then .map [("result", r.body), ("error", .null)]
  else .map [("result", .null), ("error", r.body)]

/-- A response whose result does not have too many levels for a slot. -/
def FitsInside (r : Response) : Prop := r.status = 200 → levels r.body ≤ maxLevels + 1

/-- A slot of a batch tells what a response tells. -/
structure Agrees (slot : Slot) (r : Response) : Prop where
  data : slotData slot = .ok (slotFor r)
  sendable : Json.IsSendable (slotFor r)
  isFailed : slot.isFailed = !decide (r.status = 200)

theorem toNat_statusOf_ne {e : QueryError} (h : SlotSpoken (.ok (.error e))) :
    (statusOf e).toNat ≠ 200 := by
  have hstatus : statusOf e ≠ 200 := h
  omega

/-- A slot agrees with the response to its query alone, if that fits. -/
theorem agrees_of_slotResponse (h : slotResponse slot = .ok r) (hspoken : SlotSpoken (.ok slot))
    (hfits : FitsInside r) : Agrees slot r := by
  cases slot with
  | ok result =>
    obtain ⟨body, hbody, hr⟩ := bind_eq_ok_iff.mp h
    obtain ⟨hsendable, rfl⟩ := ofData_eq_ok_iff.mp hr
    obtain ⟨es, rfl⟩ := exists_entries_of_resultData hbody
    have hslot : slotFor ⟨200, .map es⟩ = .map [("result", .map es), ("error", .null)] := rfl
    have hsome : (Json.encode? (.map es)).isSome = true := by
      obtain ⟨_, hs, -⟩ := hsendable
      rw [hs, Option.isSome_some]
    refine ⟨?_, hslot ▸ isSendable_slot_iff.mpr ⟨hsendable, Json.isSendable_null⟩, rfl⟩
    rw [slotData_result_iff]
    exact ⟨es, hbody, hfits rfl, by rw [hslot, entriesWithoutOdd_of_encode? hsome]⟩
  | error e =>
    obtain ⟨body, hbody, hr⟩ := bind_eq_ok_iff.mp h
    obtain ⟨hsendable, rfl⟩ := ofData_eq_ok_iff.mp hr
    have hne := toNat_statusOf_ne hspoken
    have hslot : slotFor ⟨(statusOf e).toNat, body⟩ = .map [("result", .null), ("error", body)] :=
      if_neg hne
    exact {
      data := slotData_error_iff.mpr ⟨body, hbody, hslot⟩
      sendable := hslot ▸ isSendable_slot_iff.mpr ⟨Json.isSendable_null, hsendable⟩
      isFailed := by simp [Slot.isFailed, hne] }

/-- What can be told in a slot fits into it. -/
theorem fitsInside_of_slotData (h : slotResponse slot = .ok r) (hspoken : SlotSpoken (.ok slot))
    (hdata : slotData slot = .ok v) : FitsInside r := by
  intro hstatus
  cases slot with
  | ok result =>
    obtain ⟨body, hbody, hr⟩ := bind_eq_ok_iff.mp h
    obtain ⟨-, rfl⟩ := ofData_eq_ok_iff.mp hr
    obtain ⟨es, hes, hlevels, -⟩ := slotData_result_iff.mp hdata
    rw [hbody] at hes
    obtain rfl := Except.ok.inj hes
    exact hlevels
  | error e =>
    obtain ⟨body, -, hr⟩ := bind_eq_ok_iff.mp h
    obtain ⟨-, rfl⟩ := ofData_eq_ok_iff.mp hr
    exact absurd hstatus (toNat_statusOf_ne hspoken)

theorem ofData_eq_error {status : Nat} {body : Value} {cause : Failure}
    (h : Response.ofData status body = .error cause) :
    ¬ Json.IsSendable body ∧ (cause ≠ .notFinite → (Json.encode? body).isSome = true) := by
  constructor
  · intro hsendable
    rw [(ofData_eq_ok_iff (r := ⟨status, body⟩)).mpr ⟨hsendable, rfl⟩] at h
    cases h
  · intro hcause
    unfold Response.ofData at h
    cases hs : Json.encode? body with
    | some s => rfl
    | none =>
      rw [hs] at h
      exact absurd (Except.error.inj h).symm hcause

/-- A slot whose query cannot be answered alone cannot be sent, unless all that is wrong is a number
that JSON lacks. -/
theorem not_isSendable_of_slotResponse {cause : Failure} (h : slotResponse slot = .error cause)
    (hcause : cause ≠ .notFinite) (hdata : slotData slot = .ok v) : ¬ Json.IsSendable v := by
  cases slot with
  | ok result =>
    obtain ⟨es, hbody, -, rfl⟩ := slotData_result_iff.mp hdata
    rw [slotResponse, resultResponse, hbody, ok_bind] at h
    obtain ⟨hnot, hsome⟩ := ofData_eq_error h
    rw [entriesWithoutOdd_of_encode? (hsome hcause)]
    exact fun hsendable => hnot (isSendable_slot_iff.mp hsendable).1
  | error e =>
    obtain ⟨body, hbody, rfl⟩ := slotData_error_iff.mp hdata
    rw [slotResponse, errorResponse, hbody, ok_bind] at h
    exact fun hsendable => (ofData_eq_error h).1 (isSendable_slot_iff.mp hsendable).2

/-- The body that answers a batch, by what its queries are answered with alone. -/
def batchBody (answers : List Response) : Value :=
  .map [("results", .list (answers.map slotFor)),
    ("succeeded", .int (answers.countP (·.status = 200) : Nat)),
    ("failed", .int (answers.countP (·.status ≠ 200) : Nat))]

theorem isSendable_batchBody (h : List.Forall₂ Agrees slots answers) :
    Json.IsSendable (batchBody answers) := by
  have hresults : Text.isEncodable "results" = true := by decide
  have hsucceeded : Text.isEncodable "succeeded" = true := by decide
  have hfailed : Text.isEncodable "failed" = true := by decide
  have hslots : Json.IsSendable (.list (answers.map slotFor)) := by
    rw [Json.isSendable_list_iff]
    induction h with
    | nil => exact List.forall_mem_nil _
    | cons hslot _ ih => exact List.forall_mem_cons.mpr ⟨hslot.sendable, ih⟩
  rw [batchBody, Json.isSendable_map_iff]
  simp only [List.forall_mem_cons]
  exact ⟨⟨hresults, hslots⟩, ⟨hsucceeded, Json.isSendable_int _⟩, ⟨hfailed, Json.isSendable_int _⟩,
    List.forall_mem_nil _⟩

theorem mapM_slotData_of_agrees (h : List.Forall₂ Agrees slots answers) :
    slots.mapM slotData = .ok (answers.map slotFor) := by
  rw [mapM_eq_ok_iff]
  induction h with
  | nil => rfl
  | cons hslot _ ih => rw [List.map_cons, List.map_cons, List.map_cons, hslot.data, ih]

theorem countP_isFailed_of_agrees (h : List.Forall₂ Agrees slots answers) :
    slots.countP Slot.isFailed = answers.countP (·.status ≠ 200) := by
  induction h with
  | nil => rfl
  | cons hslot _ ih => simp [List.countP_cons, hslot.isFailed, ih]

/-- Every response has the status of success or another. -/
theorem length_eq_countP_status (answers : List Response) :
    answers.length = answers.countP (·.status = 200) + answers.countP (·.status ≠ 200) := by
  rw [List.length_eq_countP_add_countP (fun r : Response => decide (r.status = 200))]
  simp

/-- Slots that agree with responses are told as those. -/
theorem batchResponse_of_agrees (h : List.Forall₂ Agrees slots answers) :
    batchResponse slots = .ok ⟨200, batchBody answers⟩ := by
  have hlength : slots.length = answers.length := h.length_eq
  have hfailed := countP_isFailed_of_agrees h
  have hcount := length_eq_countP_status answers
  have hsucceeded : slots.length - slots.countP Slot.isFailed =
      answers.countP (·.status = 200) := by omega
  unfold batchResponse
  rw [mapM_slotData_of_agrees h, ok_bind, ofData_eq_ok_iff, hsucceeded, hfailed]
  exact ⟨isSendable_batchBody h, rfl⟩

/-- A batch is answered only if each of its slots can be told. -/
theorem exists_slotData_of_batchResponse (h : batchResponse slots = .ok r) (hmem : slot ∈ slots) :
    ∃ v, slotData slot = .ok v ∧ Json.IsSendable v := by
  obtain ⟨datas, hdatas, hr⟩ := bind_eq_ok_iff.mp h
  obtain ⟨hsendable, -⟩ := ofData_eq_ok_iff.mp hr
  obtain ⟨hresults, -⟩ := List.forall_mem_cons.mp ((Json.isSendable_map_iff _).mp hsendable)
  obtain ⟨i, hi⟩ := List.getElem?_of_mem hmem
  obtain ⟨v, hv, hget⟩ := getElem?_of_mapM_eq_ok hdatas hi
  exact ⟨v, hv, (Json.isSendable_list_iff _).mp hresults.2 v (List.mem_of_getElem? hget)⟩

/-- A slot that is answered alone as given, and whose errors have no status of success. -/
structure IsAnsweredAs (slot : Slot) (r : Response) : Prop where
  response : slotResponse slot = .ok r
  spoken : SlotSpoken (.ok slot)

theorem forall₂_agrees (h : List.Forall₂ IsAnsweredAs slots answers)
    (hfits : ∀ a ∈ answers, FitsInside a) : List.Forall₂ Agrees slots answers := by
  induction h with
  | nil => exact .nil
  | cons hslot _ ih =>
    obtain ⟨hfirst, hrest⟩ := List.forall_mem_cons.mp hfits
    exact .cons (agrees_of_slotResponse hslot.response hslot.spoken hfirst) (ih hrest)

theorem forall_fitsInside (h : List.Forall₂ IsAnsweredAs slots answers)
    (hdata : ∀ slot ∈ slots, ∃ v, slotData slot = .ok v) : ∀ a ∈ answers, FitsInside a := by
  induction h with
  | nil => exact List.forall_mem_nil _
  | cons hslot _ ih =>
    obtain ⟨⟨v, hv⟩, hrest⟩ := List.forall_mem_cons.mp hdata
    exact List.forall_mem_cons.mpr
      ⟨fitsInside_of_slotData hslot.response hslot.spoken hv, ih hrest⟩

/-- Slots that are answered alone are answered together exactly if each of the answers fits into
its slot. -/
theorem batchResponse_eq_ok_iff (h : List.Forall₂ IsAnsweredAs slots answers) :
    batchResponse slots = .ok r ↔
      (∀ a ∈ answers, FitsInside a) ∧ r = ⟨200, batchBody answers⟩ := by
  constructor
  · intro hr
    have hfits : ∀ a ∈ answers, FitsInside a := by
      refine forall_fitsInside h fun slot hslot => ?_
      obtain ⟨v, hv, -⟩ := exists_slotData_of_batchResponse hr hslot
      exact ⟨v, hv⟩
    have htold := batchResponse_of_agrees (forall₂_agrees h hfits)
    exact ⟨hfits, Except.ok.inj (hr.symm.trans htold)⟩
  · rintro ⟨hfits, rfl⟩
    exact batchResponse_of_agrees (forall₂_agrees h hfits)

/-- A call for a query alone is answered so. -/
def IsAnswered (s : Service) (q : QueryBody) (r : Response) : Prop :=
  ∃ c st, PosesQuery s c q ∧ (serve s c st).result = .ok r

/-- A call for a query alone breaks off, and not for a number that JSON lacks. -/
def BreaksOff (s : Service) (q : QueryBody) : Prop :=
  ∃ c st cause, PosesQuery s c q ∧ (serve s c st).result = .error cause ∧ cause ≠ .notFinite

theorem serve_eq_bodySlot (h : IsMemoryless s.engine answer) (hspoken : IsSpoken answer)
    {q : QueryBody} (hposes : PosesQuery s c q) (st : Standing Link) :
    (serve s c st).result = bodySlot s answer q >>= slotResponse := by
  rw [serve_of_posesQuery hposes, serveQuery_eq_bodySlot h hspoken hposes.brings]

theorem IsAnswered.exists_slot (h : IsMemoryless s.engine answer) (hspoken : IsSpoken answer)
    {q : QueryBody} (hq : IsAnswered s q r) :
    ∃ slot, bodySlot s answer q = .ok slot ∧ IsAnsweredAs slot r := by
  obtain ⟨c, st, hposes, hr⟩ := hq
  rw [serve_eq_bodySlot h hspoken hposes] at hr
  obtain ⟨slot, hslot, hresponse⟩ := bind_eq_ok_iff.mp hr
  have hslotSpoken := slotSpoken_bodySlot (s := s) hspoken hposes.brings
  exact ⟨slot, hslot, hresponse, hslot ▸ hslotSpoken⟩

theorem exists_slots_of_isAnswered (h : IsMemoryless s.engine answer) (hspoken : IsSpoken answer)
    {bodies : List QueryBody} (hall : List.Forall₂ (IsAnswered s) bodies answers) :
    ∃ slots, bodies.mapM (bodySlot s answer) = .ok slots ∧
      List.Forall₂ IsAnsweredAs slots answers := by
  induction hall with
  | nil => exact ⟨[], rfl, .nil⟩
  | cons hq _ ih =>
    obtain ⟨slot, hslot, hanswered⟩ := hq.exists_slot h hspoken
    obtain ⟨rest, hrest, hothers⟩ := ih
    refine ⟨slot :: rest, ?_, .cons hanswered hothers⟩
    rw [List.mapM_cons, hslot, hrest]
    rfl

/-- A query that breaks off alone has no slot that can be told. -/
theorem BreaksOff.untold (h : IsMemoryless s.engine answer) (hspoken : IsSpoken answer)
    {q : QueryBody} (hq : BreaksOff s q) (hslot : bodySlot s answer q = .ok slot)
    (hdata : slotData slot = .ok v) : ¬ Json.IsSendable v := by
  obtain ⟨c, st, cause, hposes, hr, hcause⟩ := hq
  rw [serve_eq_bodySlot h hspoken hposes, hslot, ok_bind] at hr
  exact not_isSendable_of_slotResponse hr hcause hdata

/-- Over a backend without memory, a batch that is run one query at a time is answered with what its
queries are answered with alone, one slot each, exactly if each of these answers fits into its slot;
a query that breaks off alone breaks off the batch. -/
theorem batch_agrees (s : Service) (answer : Request → Nat → Reply) (c : Call) (b : BatchBody)
    (st : Standing Link) (hmemoryless : IsMemoryless s.engine answer) (hspoken : IsSpoken answer)
    (hposes : PosesBatch s c b) (hstrategy : b.strategy = some .independent) :
    (∀ answers, List.Forall₂ (IsAnswered s) b.queries answers →
      answers.countP (·.status = 200) + answers.countP (·.status ≠ 200) = b.queries.length ∧
      ∀ r, (serve s c st).result = .ok r ↔
        (∀ a ∈ answers, FitsInside a) ∧ r = ⟨200, batchBody answers⟩) ∧
    ((∃ q ∈ b.queries, BreaksOff s q) → ∃ cause, (serve s c st).result = .error cause) := by
  rw [serve_of_posesBatch hposes]
  obtain ⟨hserved, hbroken⟩ := serveBatch_result hmemoryless hstrategy st
  constructor
  · intro answers hall
    obtain ⟨slots, hslots, hanswered⟩ := exists_slots_of_isAnswered hmemoryless hspoken hall
    rw [← length_eq_countP_status, hall.length_eq, hserved slots hslots]
    exact ⟨rfl, fun r => batchResponse_eq_ok_iff hanswered⟩
  · rintro ⟨q, hq, hbreaks⟩
    -- either some query has no slot at all, or the slot of this one cannot be told
    by_cases hexists : ∃ slots, b.queries.mapM (bodySlot s answer) = .ok slots
    · obtain ⟨slots, hslots⟩ := hexists
      rw [hserved slots hslots]
      cases hresponse : batchResponse slots with
      | error cause => exact ⟨cause, rfl⟩
      | ok r =>
        obtain ⟨i, hi⟩ := List.getElem?_of_mem hq
        obtain ⟨slot, hslot, hget⟩ := getElem?_of_mapM_eq_ok hslots hi
        obtain ⟨v, hv, hsendable⟩ :=
          exists_slotData_of_batchResponse hresponse (List.mem_of_getElem? hget)
        exact absurd hsendable (hbreaks.untold hmemoryless hspoken hslot hv)
    · exact hbroken fun slots hslots => hexists ⟨slots, hslots⟩

/-- An object with one author. -/
def adaText : String :=
  "\x7b\"data\":\x7b\"Get\":\x7b\"Author\":[\x7b\"name\":\"Ada\"\x7d]\x7d\x7d\x7d"

/-- What a client makes of a backend that says the same, whatever it is asked. -/
def adaReply : Request → Nat → Reply :=
  let url := Http.Client.localClient.target?.getD Http.Address.nowhere
  fun _ _ => Http.Client.replyOf (Http.Client.localClient.readExchange url
    (.answered ⟨200, adaText⟩))

/-- A service over that backend, which remembers nothing. -/
def adaService : Service :=
  ⟨keySettings, Http.Client.localClient,
    ⟨fun request n _ link => ⟨adaReply request n, [], link⟩, {}, .independent, none, fun _ => 0.0⟩⟩

/-- A query without a name of a collection. -/
def namelessFields : Entries Value := [("collection", .text ""), ("select", .list [.text "name"])]

def namelessBody : QueryBody := { authorsBody with collection := "" }

/-- A query with an option that has the name of an argument. -/
def doubledFields : Entries Value :=
  authorsFields ++ [("generate", .map [("type", .text "from_one"), ("prompt", .text "p"),
    ("options", .map [("prompt", .text "q")])])]

def doubledBody : QueryBody :=
  { authorsBody with
    generate := some ⟨.perRecord, some "p", none, none, none, none, [("prompt", .text "q")]⟩ }

/-- A batch of the query for authors and another. -/
def pairFields (es : Entries Value) : Entries Value :=
  [("queries", .list [.map authorsFields, .map es]), ("strategy", .text "independent")]

def pairCall (es : Entries Value) : Call := keyedCall "/query/batch" (pairFields es)

def idle : Standing Link := ⟨⟨true, .bearer "key", []⟩, 0⟩

theorem isSendable_namelessFields : Json.IsSendable (.map namelessFields) := by
  simp only [namelessFields, Json.isSendable_map_iff, Json.isSendable_list_iff,
    Json.isSendable_text_iff, List.forall_mem_cons, List.not_mem_nil, false_implies, implies_true,
    and_true]
  decide

theorem isSendable_doubledFields : Json.IsSendable (.map doubledFields) := by
  simp only [doubledFields, authorsFields, List.cons_append, List.nil_append,
    Json.isSendable_map_iff, Json.isSendable_list_iff, Json.isSendable_text_iff,
    List.forall_mem_cons, List.not_mem_nil, false_implies, implies_true, and_true]
  decide

theorem posesBatch_pair {es : Entries Value} {q : QueryBody}
    (hsendable : Json.IsSendable (.map es))
    (hread : readBatch (.map (pairFields es)) = .valid ⟨[authorsBody, q], some .independent⟩) :
    PosesBatch adaService (pairCall es) ⟨[authorsBody, q], some .independent⟩ := by
  have hqueries : Text.isEncodable "queries" = true := by decide
  have hstrategy : Text.isEncodable "strategy" = true ∧ Text.isEncodable "independent" = true := by
    decide
  refine poses_keyedCall rfl (by decide +kernel) ?_ hread
  simp only [pairFields, Json.isSendable_map_iff (_ :: _), Json.isSendable_list_iff,
    Json.isSendable_text_iff, List.forall_mem_cons, List.not_mem_nil, false_implies, implies_true,
    and_true]
  exact ⟨⟨hqueries, isSendable_authorsFields, hsendable⟩, hstrategy⟩

theorem isAnswered_authors : ∃ r, r.status = 200 ∧ FitsInside r ∧
    IsAnswered adaService authorsBody r := by
  have hposes : PosesQuery adaService authorsCall authorsBody :=
    poses_keyedCall rfl (by decide +kernel) isSendable_authorsFields rfl
  have hserved : (match (serveQuery adaService authorsBody idle).result with
      | .ok r => decide (r.status = 200) && decide (levels r.body ≤ maxLevels + 1)
      | .error _ => false) = true := by decide +kernel
  cases hr : (serveQuery adaService authorsBody idle).result with
  | error e => simp [hr] at hserved
  | ok r =>
    simp only [hr, Bool.and_eq_true, decide_eq_true_eq] at hserved
    exact ⟨r, hserved.1, fun _ => hserved.2, _, _, hposes, serve_of_posesQuery hposes ▸ hr⟩

theorem isAnswered_nameless : ∃ r, r.status = 400 ∧ IsAnswered adaService namelessBody r := by
  have hposes : PosesQuery adaService (keyedCall "/query" namelessFields) namelessBody :=
    poses_keyedCall rfl (by decide +kernel) isSendable_namelessFields rfl
  have hserved : (match (serveQuery adaService namelessBody idle).result with
      | .ok r => decide (r.status = 400)
      | .error _ => false) = true := by decide +kernel
  cases hr : (serveQuery adaService namelessBody idle).result with
  | error e => simp [hr] at hserved
  | ok r =>
    simp only [hr, decide_eq_true_eq] at hserved
    exact ⟨r, hserved, _, _, hposes, serve_of_posesQuery hposes ▸ hr⟩

theorem breaksOff_doubled : BreaksOff adaService doubledBody := by
  have hposes : PosesQuery adaService (keyedCall "/query" doubledFields) doubledBody :=
    poses_keyedCall rfl (by decide +kernel) isSendable_doubledFields rfl
  have hserved : (match (serveQuery adaService doubledBody idle).result with
      | .error .misuse => true
      | _ => false) = true := by decide +kernel
  cases hr : (serveQuery adaService doubledBody idle).result with
  | ok r => simp [hr] at hserved
  | error cause =>
    refine ⟨_, _, cause, hposes, serve_of_posesQuery hposes ▸ hr, ?_⟩
    rintro rfl
    simp [hr] at hserved

/-- A query without a collection leaves the other of its batch alone; one with an option that
doubles an argument does not. -/
theorem batch_agrees_ada :
    (∃ a e, a.status = 200 ∧ e.status = 400 ∧
      (serve adaService (pairCall namelessFields) idle).result = .ok ⟨200, batchBody [a, e]⟩) ∧
    ∃ cause, (serve adaService (pairCall doubledFields) idle).result = .error cause := by
  have hspoken : IsSpoken adaReply := isSpoken_readExchange _ _ fun _ _ => .answered _
  constructor
  · obtain ⟨a, ha, hfits, hauthors⟩ := isAnswered_authors
    obtain ⟨e, he, hnameless⟩ := isAnswered_nameless
    have hposes := posesBatch_pair (q := namelessBody) isSendable_namelessFields rfl
    have hagrees := (batch_agrees adaService adaReply _ _ idle (fun _ _ _ => rfl) hspoken hposes
      rfl).1 [a, e] (.cons hauthors (.cons hnameless .nil))
    have hall : ∀ r ∈ [a, e], FitsInside r := by
      simp only [List.forall_mem_cons]
      exact ⟨hfits, fun h => by omega, List.forall_mem_nil _⟩
    exact ⟨a, e, ha, he, (hagrees.2 _).mpr ⟨hall, rfl⟩⟩
  · have hposes := posesBatch_pair (q := doubledBody) isSendable_doubledFields rfl
    exact (batch_agrees adaService adaReply _ _ idle (fun _ _ _ => rfl) hspoken hposes rfl).2
      ⟨doubledBody, by simp, breaksOff_doubled⟩

end Retrieval.Api
