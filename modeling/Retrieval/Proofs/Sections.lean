import Retrieval.Proofs.Batch
import Retrieval.Proofs.Combination
import Retrieval.Proofs.Scores

/-!
An answer to several members at once, in which each member has a section of its own. What stands in
one section is read for its own member only. Main statement: whatever is put in the place of one
section, the slots of all other queries stay as they are. What is not contained in a slot is the
score of a record that is an integer too large for a float: it breaks off the whole batch.
-/

namespace Retrieval

namespace Envelope

variable {m n : Member}

/-- An answer whose data, sections and extensions can be looked into. -/
structure HasBlocks (es : Entries Value) : Prop where
  data : IsFields (Entries.get? "data" es)
  sections : ∀ operation : Operation, IsFields (Entries.get? operation.name (inside "data" es))
  extensions : IsFields (Entries.get? "extensions" es)

/-- What stands in the place of a member's section. -/
def sectionAt (m : Member) (es : Entries Value) : Option Value :=
  Entries.get? m.resultKey (inside m.operation.name (inside "data" es))

/-- An answer with a value in the place of a member's section. -/
def withSection (m : Member) (v : Value) (es : Entries Value) : Entries Value :=
  let data := inside "data" es
  let sections := inside m.operation.name data
  Entries.set "data" (.map (Entries.set m.operation.name
    (.map (Entries.set m.resultKey v sections)) data)) es

theorem inside_withSection_data (m : Member) (v : Value) (es : Entries Value) :
    inside "data" (withSection m v es) = Entries.set m.operation.name
      (.map (Entries.set m.resultKey v (inside m.operation.name (inside "data" es))))
      (inside "data" es) := by
  rw [inside, withSection, Entries.get?_set_same]
  rfl

theorem get?_withSection_other {name : String} (h : name ≠ "data") (v : Value)
    (es : Entries Value) : Entries.get? name (withSection m v es) = Entries.get? name es :=
  Entries.get?_set_other _ _ h

/-- The section that was put in is the one that stands there. -/
theorem sectionAt_withSection (m : Member) (v : Value) (es : Entries Value) :
    sectionAt m (withSection m v es) = some v := by
  rw [sectionAt, inside_withSection_data, inside, Entries.get?_set_same, fieldsIn,
    Entries.get?_set_same]

/-- The sections under other keys stay. -/
theorem sectionAt_withSection_other (h : n.resultKey ≠ m.resultKey) (v : Value)
    (es : Entries Value) : sectionAt n (withSection m v es) = sectionAt n es := by
  rw [sectionAt, inside_withSection_data, inside]
  by_cases hname : n.operation.name = m.operation.name
  · rw [hname, Entries.get?_set_same, fieldsIn, Entries.get?_set_other _ _ h, sectionAt, hname]
  · rw [Entries.get?_set_other _ _ hname]
    rfl

theorem HasBlocks.withSection {es : Entries Value} (h : HasBlocks es) (m : Member) (v : Value) :
    HasBlocks (withSection m v es) where
  data := .inr (.inr ⟨_, Entries.get?_set_same _ _ _⟩)
  sections := by
    intro operation
    rw [inside_withSection_data]
    by_cases hname : operation.name = m.operation.name
    · rw [hname, Entries.get?_set_same]
      exact .inr (.inr ⟨_, rfl⟩)
    · rw [Entries.get?_set_other _ _ hname]
      exact h.sections operation
  extensions := by
    rw [get?_withSection_other (by decide)]
    exact h.extensions

/-- What is read in the place of a section depends on what stands there. -/
def readSection (m : Member) : Option Value → Reading (List Value)
  | none => .ok []
  | some (.seq .list items) => .ok items
  | some v =>
    if v.isTruthy then .error (.notAList m.operation.name m.resultKey v.kindName) else .ok []

theorem section?_of_hasBlocks {es : Entries Value} (h : HasBlocks es) (m : Member) :
    (section? m es) = readSection m (sectionAt m es) := by
  unfold section?
  rw [blockAt_of_isFields h.data, ok_bind, blockAt_of_isFields (h.sections m.operation), ok_bind,
    sectionAt]
  unfold readSection
  rfl

theorem errorsFor_withSection (n : Member) (multiplexed : Bool) (v : Value)
    (es : Entries Value) :
    errorsFor n multiplexed (withSection m v es) = errorsFor n multiplexed es := by
  rw [errorsFor, elementsAt, get?_withSection_other (by decide), ← elementsAt, ← errorsFor]

theorem totalsOf_withSection (v : Value) (es : Entries Value) :
    totalsOf (withSection m v es) = totalsOf es := by
  rw [totalsOf, blockAt, get?_withSection_other (by decide), ← blockAt, ← totalsOf]

/-- A section is not looked at when the answer is read for another member. -/
theorem normalize_withSection_other {es : Entries Value} (h : HasBlocks es)
    (hkey : n.resultKey ≠ m.resultKey) (v : Value) (multiplexed : Bool) :
    normalize n multiplexed (.map (withSection m v es)) = normalize n multiplexed (.map es) := by
  have hsection : (section? n (withSection m v es)) = section? n es := by
    rw [section?_of_hasBlocks (h.withSection m v), section?_of_hasBlocks h,
      sectionAt_withSection_other hkey]
  have hparts : partsOf n multiplexed (.map (withSection m v es)) =
      partsOf n multiplexed (.map es) := by
    rw [partsOf, fieldsOf, ok_bind, errorsFor_withSection, hsection, totalsOf_withSection]
    rfl
  rw [normalize, hparts, ← normalize]

/-- A sequence meets an integer too large for a float in its first part or in its second. -/
theorem bind_eq_tooLarge_iff {α β : Type} {r : Reading α} {f : α → Reading β} :
    (r >>= f) = .error .tooLarge ↔
      r = .error .tooLarge ∨ ∃ a, r = .ok a ∧ f a = .error .tooLarge := by
  cases r with
  | error fault =>
    have hbind : ((.error fault : Reading α) >>= f) = .error fault := rfl
    simp [hbind]
  | ok a => simp [ok_bind]

/-- A traversal meets such an integer at the first element that cannot be read. -/
theorem mapM_eq_tooLarge_iff {α β : Type} (f : α → Reading β) (xs : List α) :
    xs.mapM f = .error .tooLarge ↔ ∃ before x after, xs = before ++ x :: after ∧
      (∀ b ∈ before, ∃ y, f b = .ok y) ∧ f x = .error .tooLarge := by
  induction xs with
  | nil => simp [pure, Except.pure]
  | cons x rest ih =>
    rw [List.mapM_cons, bind_eq_tooLarge_iff]
    constructor
    · rintro (hx | ⟨y, hy, hrest⟩)
      · exact ⟨[], x, rest, rfl, by simp, hx⟩
      · obtain hrest | ⟨ys, -, hpure⟩ := bind_eq_tooLarge_iff.mp hrest
        · obtain ⟨before, z, after, rfl, hbefore, hz⟩ := ih.mp hrest
          exact ⟨x :: before, z, after, rfl, List.forall_mem_cons.mpr ⟨⟨y, hy⟩, hbefore⟩, hz⟩
        · cases hpure
    · rintro ⟨before, z, after, heq, hbefore, hz⟩
      cases before with
      | nil =>
        obtain ⟨rfl, -⟩ := List.cons.inj heq
        exact .inl hz
      | cons b before =>
        obtain ⟨rfl, rfl⟩ := List.cons.inj heq
        obtain ⟨⟨y, hy⟩, hbefore⟩ := List.forall_mem_cons.mp hbefore
        refine .inr ⟨y, hy, bind_eq_tooLarge_iff.mpr (.inl (ih.mpr ?_))⟩
        exact ⟨before, z, after, rfl, hbefore, hz⟩

theorem readScore_eq_tooLarge_iff (v : Value) :
    readScore v = .error .tooLarge ↔ ∃ n, v = .int n ∧ Number.ofInt? n = none := by
  cases v with
  | int n => cases h : Number.ofInt? n <;> simp [readScore, h]
  | _ => simp [readScore]

/-- A record is too large to be read exactly if its score is. -/
theorem readRecord_eq_tooLarge_iff {selection : SelectionTree} {item : Entries Value} :
    readRecord selection item = .error .tooLarge ↔ ¬ ItemFits item := by
  constructor
  · exact fun h hfits => fits_readRecord hfits h
  · intro h
    obtain ⟨additional, hadditional, n, hn, hlarge⟩ : ∃ additional,
        blockAt additionalField item = .ok additional ∧
          ∃ n, field "score" additional = .int n ∧ Number.ofInt? n = none := by
      simpa [ItemFits, ScoreFits] using h
    have hne : additional.isEmpty = false := by
      cases additional with
      | nil => simp [field] at hn
      | cons e rest => rfl
    have hmetadata : readMetadata additional = .error .tooLarge := by
      rw [readMetadata, hne, hn]
      have hscore := (readScore_eq_tooLarge_iff (.int n)).mpr ⟨n, rfl, hlarge⟩
      exact bind_eq_tooLarge_iff.mpr (.inl hscore)
    rw [readRecord, hadditional, ok_bind]
    exact bind_eq_tooLarge_iff.mpr (.inl hmetadata)

/-- The records of a section are read up to one whose score is an integer too large for a float. -/
def MeetsHugeScore (m : Member) (multiplexed : Bool) (es : Entries Value) : Prop :=
  m.operation = .get ∧ (∃ errors, errorsFor m multiplexed es = .ok errors) ∧
    ∃ items before item after, readSection m (sectionAt m es) = .ok items ∧
      mappings items = before ++ item :: after ∧
      (∀ b ∈ before, ∃ r, readRecord m.selection b = .ok r) ∧ ¬ ItemFits item

theorem readParts_eq_tooLarge_iff {m : Member} {errors : List ReportedError} {items : List Value}
    {totals : Value} :
    readParts m (errors, items, totals) = .error .tooLarge ↔ m.operation = .get ∧
      ∃ before item after, mappings items = before ++ item :: after ∧
        (∀ b ∈ before, ∃ r, readRecord m.selection b = .ok r) ∧ ¬ ItemFits item := by
  unfold readParts
  cases hop : m.operation with
  | aggregate =>
    have hfits : (accountOf m errors (readItems readGroup 0 items)
        (finishGroups m totals)).outcome ≠ .error .tooLarge :=
      fits_accountOf_groups errors items totals
    simpa using hfits
  | get =>
    simp only [accountOf_outcome, readItems_outcome, bind_eq_tooLarge_iff, mapM_eq_tooLarge_iff,
      readRecord_eq_tooLarge_iff]
    constructor
    · rintro (h | ⟨raw, -, h⟩)
      · exact ⟨trivial, h⟩
      · exact absurd h (fits_finishRecords _ raw _)
    · exact fun h => .inl h.2

/-- Reading a member breaks off exactly at a score too large for a float. -/
theorem normalize_eq_tooLarge_iff {es : Entries Value} (h : HasBlocks es) (m : Member)
    (multiplexed : Bool) : (normalize m multiplexed (.map es)).outcome = .error .tooLarge ↔
      MeetsHugeScore m multiplexed es := by
  have htotals : ∃ totals, totalsOf es = .ok totals := by
    rw [totalsOf, blockAt_of_isFields h.extensions]
    exact ⟨_, rfl⟩
  obtain ⟨totals, htotals⟩ := htotals
  have hparts : partsOf m multiplexed (.map es) = (do
      let errors ← errorsFor m multiplexed es
      let items ← readSection m (sectionAt m es)
      return (errors, items, totals)) := by
    rw [partsOf, fieldsOf, ok_bind, htotals, section?_of_hasBlocks h]
    rfl
  rw [normalize_outcome, bind_eq_tooLarge_iff, or_iff_right (fits_partsOf _), hparts]
  constructor
  · rintro ⟨parts, hread, hlarge⟩
    obtain ⟨errors, herrors, hread⟩ := bind_eq_ok_iff.mp hread
    obtain ⟨items, hitems, hread⟩ := bind_eq_ok_iff.mp hread
    obtain rfl := Except.ok.inj hread
    obtain ⟨hop, before, item, after, hrest⟩ := readParts_eq_tooLarge_iff.mp hlarge
    exact ⟨hop, ⟨errors, herrors⟩, items, before, item, after, hitems, hrest⟩
  · rintro ⟨hop, ⟨errors, herrors⟩, items, before, item, after, hitems, hrest⟩
    refine ⟨(errors, items, totals), ?_, readParts_eq_tooLarge_iff.mpr ⟨hop, _, _, _, hrest⟩⟩
    rw [herrors, ok_bind, hitems]
    rfl

end Envelope

namespace Execution

open Compilation (compile compileBatch placeIn memberIn)
open Envelope (HasBlocks MeetsHugeScore withSection)

variable {σ : Type} {engine engine' : Engine σ} {subjects : List Subject} {s s' : Standing σ}
  {es : Entries Value}

/-- The backend's last reply to the one request of a batch is an answer. -/
def IsAnswered (engine : Engine σ) (subjects : List Subject) (s : Standing σ)
    (es : Entries Value) : Prop :=
  ∀ x ∈ batchEnds engine .multiplexed subjects s, x.2 = .envelope (.map es)

/-- The member of the accepted query of number `k` in a combined request. -/
def sharedSlot (es : Entries Value) (k : Nat) (c : Clause) : Except Failure Slot :=
  slotOf (memberIn .multiplexed k c) true (.envelope (.map es))

/-- A slot is only missing if the reading breaks off; any other fault is an error of the answer. -/
theorem slotOf_envelope_cases (m : Member) (multiplexed : Bool) (v : Value) :
    ((Envelope.normalize m multiplexed v).outcome = .error .tooLarge ∧
        slotOf m multiplexed (.envelope v) = .error .misuse) ∨
      ((Envelope.normalize m multiplexed v).outcome ≠ .error .tooLarge ∧
        ∃ slot, slotOf m multiplexed (.envelope v) = .ok slot ∧
          Holds m multiplexed slot (.envelope v)) := by
  by_cases h : (Envelope.normalize m multiplexed v).outcome = .error .tooLarge
  · exact .inl ⟨h, by simp [slotOf, h, errorOf]⟩
  · refine .inr ⟨h, slotOf_holds (fun _ => Ending.noConfusion) fun w hw fault hfault => ?_⟩
    obtain rfl := Ending.envelope.inj hw
    cases fault with
    | tooLarge => exact absurd hfault h
    | _ => exact ⟨_, rfl⟩

theorem exists_sharedSlot_iff (hes : HasBlocks es) (k : Nat) (c : Clause) :
    (∃ slot, sharedSlot es k c = .ok slot) ↔
      ¬ MeetsHugeScore (memberIn .multiplexed k c) true es := by
  rw [← Envelope.normalize_eq_tooLarge_iff hes, sharedSlot]
  obtain ⟨hlarge, hslot⟩ | ⟨hfits, slot, hslot, -⟩ :=
    slotOf_envelope_cases (memberIn .multiplexed k c) true (.map es)
  · simp [hlarge, hslot]
  · simp [hfits, hslot]

/-- In a combined request the place of a clause holds what the answer gives to its member. -/
theorem placeSlot_shared {plan : BatchPlan}
    (hplan : compileBatch (clausesOf subjects) .multiplexed = .ok plan)
    (hanswer : IsAnswered engine subjects s es) {k : Nat} {c : Clause}
    (hk : (clausesOf subjects)[k]? = some c) :
    placeSlot (sendAll engine plan.requests s).result (placeIn .multiplexed k) =
      sharedSlot es k c := by
  obtain ⟨request, ending, hend, -, hmode, hat⟩ := memberAt?_place engine hplan s hk
  have hmem : (request, ending) ∈ batchEnds engine .multiplexed subjects s := by
    rw [batchEnds, batchRequests, hplan]
    exact List.mem_of_getElem? hend
  obtain rfl : ending = .envelope (.map es) := hanswer _ hmem
  rw [placeSlot, hat, sharedSlot]
  exact congrArg (slotOf _ · _) hmode

/-- Accepted queries are counted apart. -/
theorem acceptedBefore_lt {i j : Nat} {x : Subject} {c : Clause} (hij : i < j)
    (hx : subjects[i]? = some x) (hc : x.complete = .ok c) :
    acceptedBefore subjects i < acceptedBefore subjects j := by
  have hbegins : clausesOf (subjects.take (i + 1)) <+: clausesOf (subjects.take j) :=
    (List.take_prefix_take_left (by omega)).filterMap _
  have hnext : clausesOf (subjects.take (i + 1)) = clausesOf (subjects.take i) ++ [c] := by
    rw [List.take_add_one, hx, clausesOf, List.filterMap_append]
    simp [clausesOf, hc, Except.toOption]
  have hlength := hbegins.length_le
  rw [hnext, List.length_append, List.length_singleton] at hlength
  exact hlength

theorem acceptedBefore_ne {i j : Nat} {x y : Subject} {c d : Clause} (hij : i ≠ j)
    (hx : subjects[i]? = some x) (hc : x.complete = .ok c) (hy : subjects[j]? = some y)
    (hd : y.complete = .ok d) : acceptedBefore subjects i ≠ acceptedBefore subjects j := by
  obtain hlt | hlt := Nat.lt_or_gt_of_ne hij
  · exact Nat.ne_of_lt (acceptedBefore_lt hlt hx hc)
  · exact Nat.ne_of_gt (acceptedBefore_lt hlt hy hd)

/-- The slot of a query does not change with the section of another one. -/
theorem sharedSlot_withSection (hes : HasBlocks es) {k l : Nat} (hkl : k ≠ l) (c d : Clause)
    (v : Value) : sharedSlot (withSection (memberIn .multiplexed l d) v es) k c =
      sharedSlot es k c := by
  have hkey : (memberIn .multiplexed k c).resultKey ≠ (memberIn .multiplexed l d).resultKey := by
    simpa [memberIn, Compilation.aliasIn, Compilation.memberOf_resultKey] using
      Compilation.slotAlias_ne hkl
  rw [sharedSlot, slotOf, Envelope.normalize_withSection_other hes hkey v true, ← slotOf,
    ← sharedSlot]

section

variable (hcompile : ∀ c ∈ clausesOf subjects, ∃ request, compile c = .ok request)

include hcompile

/-- A combined batch comes to a list exactly if every accepted query has a slot in the answer. -/
theorem exists_slots_shared_iff (hanswer : IsAnswered engine subjects s es) :
    (∃ slots, (executeBatch engine .multiplexed subjects s).result = .ok slots) ↔
      ∀ k c, (clausesOf subjects)[k]? = some c → ∃ slot, sharedSlot es k c = .ok slot := by
  obtain ⟨plan, hplan⟩ := (Compilation.exists_compileBatch_iff _ .multiplexed).mpr hcompile
  have hslots := Compilation.slots_of_compileBatch hplan
  rw [(executeBatch_of_plan engine hplan s).1]
  simp only [map_eq_ok_iff]
  have hran :
      (∃ ran, plan.slots.mapM (placeSlot (sendAll engine plan.requests s).result) = .ok ran) ↔
        ∀ k c, (clausesOf subjects)[k]? = some c → ∃ slot, sharedSlot es k c = .ok slot := by
    rw [exists_mapM_eq_ok_iff, hslots]
    constructor
    · intro hall k c hk
      rw [← placeSlot_shared hplan hanswer hk]
      have hlt := (List.getElem?_eq_some_iff.mp hk).1
      exact hall _ (List.mem_map.mpr ⟨k, List.mem_range.mpr hlt, rfl⟩)
    · intro hall place hmem
      obtain ⟨k, hk, rfl⟩ := List.mem_map.mp hmem
      have hget := List.getElem?_eq_getElem (List.mem_range.mp hk)
      rw [placeSlot_shared hplan hanswer hget]
      exact hall k _ hget
  rw [← hran]
  constructor
  · rintro ⟨-, ran, hok, -⟩
    exact ⟨ran, hok⟩
  · rintro ⟨ran, hok⟩
    exact ⟨_, ran, hok, rfl⟩

/-- The slots of a combined batch: a refused query has its refusal, and an accepted one what the
answer gives to its member. -/
theorem slots_shared (hanswer : IsAnswered engine subjects s es) {slots : List Slot}
    (h : (executeBatch engine .multiplexed subjects s).result = .ok slots) :
    slots.length = subjects.length ∧ ∀ (p : Nat) (x : Subject), subjects[p]? = some x →
      (∀ e, x.complete = .error e → slots[p]? = some (.error (.configuration e))) ∧
      ∀ c, x.complete = .ok c → ∃ slot,
        sharedSlot es (acceptedBefore subjects p) c = .ok slot ∧ slots[p]? = some slot := by
  obtain ⟨plan, hplan⟩ := (Compilation.exists_compileBatch_iff _ .multiplexed).mpr hcompile
  have hplaces := Compilation.slots_of_compileBatch hplan
  rw [(executeBatch_of_plan engine hplan s).1] at h
  obtain ⟨ran, hran, rfl⟩ := map_eq_ok_iff.mp h
  have hlength : ran.length = (clausesOf subjects).length := by
    rw [length_of_mapM_eq_ok hran, hplaces, List.length_map, List.length_range]
  refine ⟨length_fillIn hlength, fun p x hx => ⟨fun e he => ?_, fun c hc => ?_⟩⟩
  · rw [fillIn_getElem? hlength hx, he]
  · have hk := clausesOf_getElem? hx hc
    have hplace : plan.slots[acceptedBefore subjects p]? =
        some (placeIn .multiplexed (acceptedBefore subjects p)) := by
      simp [hplaces, (List.getElem?_eq_some_iff.mp hk).1]
    obtain ⟨slot, hslot, hget⟩ := getElem?_of_mapM_eq_ok hran hplace
    rw [placeSlot_shared hplan hanswer hk] at hslot
    refine ⟨slot, hslot, ?_⟩
    rw [fillIn_getElem? hlength hx, hc]
    exact hget

end

/-- A combined batch comes to a list exactly if no section is read up to a score too large for a
float. Then any value in the place of one section changes the slot of its own query only: that slot
holds what the value reads as, or an error of the answer. -/
theorem sections_isolated (subjects : List Subject)
    (hcompile : ∀ c ∈ clausesOf subjects, ∃ request, compile c = .ok request)
    (es : Entries Value) (hes : HasBlocks es) :
    (∀ (engine : Engine σ) s, IsAnswered engine subjects s es →
      ((∃ slots, (executeBatch engine .multiplexed subjects s).result = .ok slots) ↔
        ∀ k c, (clausesOf subjects)[k]? = some c →
          ¬ MeetsHugeScore (memberIn .multiplexed k c) true es)) ∧
    ∀ (j : Nat) x c m v, subjects[j]? = some x → x.complete = .ok c →
      m = memberIn .multiplexed (acceptedBefore subjects j) c →
      ∀ (engine engine' : Engine σ) s s' slots,
        IsAnswered engine subjects s es → IsAnswered engine' subjects s' (withSection m v es) →
        (executeBatch engine .multiplexed subjects s).result = .ok slots →
        ((∃ slots', (executeBatch engine' .multiplexed subjects s').result = .ok slots') ↔
          ¬ MeetsHugeScore m true (withSection m v es)) ∧
        ∀ slots', (executeBatch engine' .multiplexed subjects s').result = .ok slots' →
          slots.length = subjects.length ∧ slots'.length = subjects.length ∧
          (∀ i, i ≠ j → slots'[i]? = slots[i]?) ∧
          ∃ slot, slots'[j]? = some slot ∧
            Holds m true slot (.envelope (.map (withSection m v es))) := by
  refine ⟨fun engine s hanswer => ?_, ?_⟩
  · simp only [exists_slots_shared_iff hcompile hanswer, exists_sharedSlot_iff hes]
  · rintro j x c m v hx hc rfl engine engine' s s' slots hanswer hanswer' hslots
    have hes' := hes.withSection (memberIn .multiplexed (acceptedBefore subjects j) c) v
    have hj := clausesOf_getElem? hx hc
    constructor
    · rw [exists_slots_shared_iff hcompile hanswer', ← exists_sharedSlot_iff hes']
      refine ⟨fun hall => hall _ c hj, fun hown k d hk => ?_⟩
      by_cases hkj : k = acceptedBefore subjects j
      · subst hkj
        obtain rfl : c = d := Option.some.inj (hj.symm.trans hk)
        exact hown
      · rw [sharedSlot_withSection hes hkj]
        exact (exists_slots_shared_iff hcompile hanswer).mp ⟨slots, hslots⟩ k d hk
    · intro slots' hslots'
      obtain ⟨hlength, hget⟩ := slots_shared hcompile hanswer hslots
      obtain ⟨hlength', hget'⟩ := slots_shared hcompile hanswer' hslots'
      refine ⟨hlength, hlength', fun i hij => ?_, ?_⟩
      · cases hy : subjects[i]? with
        | none =>
          have hle := List.getElem?_eq_none_iff.mp hy
          rw [List.getElem?_eq_none (by omega), List.getElem?_eq_none (by omega)]
        | some y =>
          cases hcomplete : y.complete with
          | error e => rw [(hget i y hy).1 e hcomplete, (hget' i y hy).1 e hcomplete]
          | ok d =>
            obtain ⟨slot, hslot, hat⟩ := (hget i y hy).2 d hcomplete
            obtain ⟨slot', hslot', hat'⟩ := (hget' i y hy).2 d hcomplete
            rw [sharedSlot_withSection hes (acceptedBefore_ne hij hy hcomplete hx hc)] at hslot'
            rw [hat, hat', Except.ok.inj (hslot.symm.trans hslot')]
      · obtain ⟨slot, hslot, hat⟩ := (hget' j x hx).2 c hc
        obtain ⟨-, hbroken⟩ | ⟨-, read, hread, hholds⟩ := slotOf_envelope_cases
          (memberIn .multiplexed (acceptedBefore subjects j) c) true
          (.map (withSection (memberIn .multiplexed (acceptedBefore subjects j) c) v es))
        · rw [sharedSlot, hbroken] at hslot
          cases hslot
        · rw [sharedSlot, hread] at hslot
          obtain rfl := Except.ok.inj hslot
          exact ⟨read, hat, hholds⟩

/-- A backend that gives the same answer to everything. -/
def answering (es : Entries Value) : Engine Unit :=
  { emptyAnswers with transport := fun _ _ _ b => ⟨.envelope (.map es), [], b⟩ }

theorem isAnswered_answering (subjects : List Subject) (es : Entries Value) (s : Standing Unit) :
    IsAnswered (answering es) subjects s es := by
  have hsend : ∀ request s, (send (answering es) request s).result = .envelope (.map es) := by
    intro request s
    unfold send attemptsFrom
    rfl
  unfold IsAnswered batchEnds
  generalize batchRequests .multiplexed subjects = requests
  induction requests generalizing s with
  | nil => intro x hx; cases hx
  | cons request rest ih =>
    intro x hx
    obtain rfl | hrest := List.mem_cons.mp hx
    · exact hsend request s
    · exact ih _ x hrest

/-- Two queries that get one answer together. -/
def twoSubjects : List Subject := [.clause { collection := "A" }, .clause { collection := "B" }]

/-- A record with a score of 401 digits. -/
def hugeScoreSection : Value :=
  .list [.map [("_additional", .map [("score", .int (Int.pow 10 400))])]]

/-- A score too large for a float breaks off the batch; a section that is no list does not. -/
theorem sections_isolated_hugeScore : ∃ slots,
    (executeBatch (answering []) .multiplexed twoSubjects ⟨(), 0⟩).result = .ok slots ∧
    (¬ ∃ slots', (executeBatch (answering (withSection (memberIn .multiplexed 1
      { collection := "B" }) hugeScoreSection [])) .multiplexed twoSubjects ⟨(), 0⟩).result =
        .ok slots') ∧
    ∃ slots' e, (executeBatch (answering (withSection (memberIn .multiplexed 1
      { collection := "B" }) (.int 5) [])) .multiplexed twoSubjects ⟨(), 0⟩).result =
        .ok slots' ∧ slots'[0]? = slots[0]? ∧ slots'[1]? = some (.error (.response e)) := by
  have hclauses : clausesOf twoSubjects = [{ collection := "A" }, { collection := "B" }] := rfl
  have hes : HasBlocks [] := ⟨.inl rfl, fun _ => .inl rfl, .inl rfl⟩
  obtain ⟨hlist, hisolated⟩ := sections_isolated (σ := Unit) twoSubjects (by
    intro c hc
    obtain rfl | rfl : c = { collection := "A" } ∨ c = { collection := "B" } := by
      simpa [hclauses] using hc
    · exact ⟨_, rfl⟩
    · exact ⟨_, rfl⟩) [] hes
  have hempty : ∀ m : Member, ¬ MeetsHugeScore m true [] := by
    rintro m ⟨-, -, items, before, item, after, hitems, hsplit, -⟩
    obtain rfl := Except.ok.inj hitems
    simp [Envelope.mappings] at hsplit
  obtain ⟨slots, hslots⟩ := (hlist _ _ (isAnswered_answering twoSubjects [] ⟨(), 0⟩)).mpr
    fun _ _ _ => hempty _
  have hput := fun v => hisolated 1 (.clause { collection := "B" }) { collection := "B" } _ v
    rfl rfl rfl (answering [])
    (answering (withSection (memberIn .multiplexed 1 { collection := "B" }) v []))
    ⟨(), 0⟩ ⟨(), 0⟩ slots (isAnswered_answering _ _ _) (isAnswered_answering _ _ _) hslots
  refine ⟨slots, hslots, ?_, ?_⟩
  · rw [(hput hugeScoreSection).1, Classical.not_not]
    have hlarge : Number.ofInt? (Int.pow 10 400) = none :=
      Option.isNone_iff_eq_none.mp (by decide +kernel)
    refine ⟨rfl, ⟨[], rfl⟩, _, [], _, [], rfl, rfl, by simp, fun hfits => ?_⟩
    have hscore := hfits _ rfl _ rfl
    rw [hlarge] at hscore
    cases hscore
  · obtain ⟨hiff, hrest⟩ := hput (.int 5)
    obtain ⟨slots', hslots'⟩ := hiff.mpr (by
      rintro ⟨-, -, items, -, -, -, hitems, -⟩
      cases hitems)
    obtain ⟨-, -, hothers, slot, hslot, hholds⟩ := hrest slots' hslots'
    obtain ⟨r, hr, -⟩ | ⟨fault, e, -, -, rfl⟩ := hholds
    · cases hr
    · exact ⟨slots', e, hslots', hothers 0 (by decide), hslot⟩

end Execution

end Retrieval
