import Retrieval.Proofs.Reports

/-!
Answers of a wrong shape. On the way to a member's section stand the data and the block of its
operation. Main statement: a part on the way that is no mapping, or a section that is no list, is an
error of the answer if it counts as present; false, zero and what is empty count as absent, and then
the result is empty.
-/

namespace Retrieval

namespace Envelope

variable {m : Member} {multiplexed : Bool} {es : Entries Value}

/-- The way to the section of a member comes to an end: at a part on the way with one property, or
at the section with another. -/
inductive Meets (m : Member) (es : Entries Value) (part last : Option Value → Prop) : Prop
  | data : part (Entries.get? "data" es) → Meets m es part last
  | block {data : Entries Value} : Entries.get? "data" es = some (.map data) →
      part (Entries.get? m.operation.name data) → Meets m es part last
  | last {data block : Entries Value} : Entries.get? "data" es = some (.map data) →
      Entries.get? m.operation.name data = some (.map block) →
      last (Entries.get? m.resultKey block) → Meets m es part last

/-- What counts as absent: nothing, null, or a value that is false, zero or empty. -/
def CountsAsAbsent (v : Option Value) : Prop := ∀ w, v = some w → w.isTruthy = false

def IsNoMapping (v : Option Value) : Prop :=
  ∃ w, v = some w ∧ w.isTruthy = true ∧ ∀ fields, w ≠ .map fields

def IsNoList (v : Option Value) : Prop :=
  ∃ w, v = some w ∧ w.isTruthy = true ∧ ∀ items, w ≠ .list items

/-- The way to the section, or the section, has a shape that cannot be read. -/
abbrev IsMisshapen (m : Member) (es : Entries Value) : Prop := Meets m es IsNoMapping IsNoList

/-- The section counts as absent, or a part on the way to it does. -/
abbrev HasNothing (m : Member) (es : Entries Value) : Prop :=
  Meets m es CountsAsAbsent CountsAsAbsent

/-- The section is a list of items. -/
abbrev HasItems (m : Member) (es : Entries Value) (items : List Value) : Prop :=
  Meets m es (fun _ => False) (· = some (.list items))

theorem block_of_countsAsAbsent {v : Option Value} (h : CountsAsAbsent v) : block v = .ok [] := by
  cases v with
  | none => rfl
  | some w =>
    have hw := h w rfl
    cases w with
    | map fields =>
      obtain rfl : fields = [] := by simpa [Value.isTruthy] using hw
      rfl
    | _ => simp [block, hw]

theorem block_of_isNoMapping {v : Option Value} (h : IsNoMapping v) :
    block v = .error .unreadable := by
  obtain ⟨w, rfl, htruthy, hmap⟩ := h
  cases w with
  | map fields => exact absurd rfl (hmap fields)
  | _ => simp [block, htruthy]

theorem countsAsAbsent_or_isNoMapping (v : Option Value) :
    CountsAsAbsent v ∨ IsNoMapping v ∨ ∃ fields, v = some (.map fields) := by
  cases v with
  | none => exact .inl fun _ hv => by cases hv
  | some w =>
    cases htruthy : w.isTruthy with
    | false => exact .inl fun _ hv => Option.some.inj hv ▸ htruthy
    | true =>
      cases w with
      | map fields => exact .inr (.inr ⟨fields, rfl⟩)
      | _ => exact .inr (.inl ⟨_, rfl, htruthy, by simp⟩)

theorem countsAsAbsent_or_isNoList (v : Option Value) :
    CountsAsAbsent v ∨ IsNoList v ∨ ∃ items, items ≠ [] ∧ v = some (.list items) := by
  cases v with
  | none => exact .inl fun _ hv => by cases hv
  | some w =>
    cases htruthy : w.isTruthy with
    | false => exact .inl fun _ hv => Option.some.inj hv ▸ htruthy
    | true =>
      by_cases hlist : ∃ items, w = .list items
      · obtain ⟨items, rfl⟩ := hlist
        exact .inr (.inr ⟨items, by simpa [Value.list, Value.isTruthy] using htruthy, rfl⟩)
      · exact .inr (.inl ⟨w, rfl, htruthy, fun items hw => hlist ⟨items, hw⟩⟩)

/-- Every answer is of one of three shapes. -/
theorem shape_cases (m : Member) (es : Entries Value) :
    IsMisshapen m es ∨ HasNothing m es ∨ ∃ items, items ≠ [] ∧ HasItems m es items := by
  obtain h | h | ⟨data, hdata⟩ := countsAsAbsent_or_isNoMapping (Entries.get? "data" es)
  · exact .inr (.inl (.data h))
  · exact .inl (.data h)
  obtain h | h | ⟨block, hblock⟩ :=
    countsAsAbsent_or_isNoMapping (Entries.get? m.operation.name data)
  · exact .inr (.inl (.block hdata h))
  · exact .inl (.block hdata h)
  obtain h | h | ⟨items, hne, hitems⟩ :=
    countsAsAbsent_or_isNoList (Entries.get? m.resultKey block)
  · exact .inr (.inl (.last hdata hblock h))
  · exact .inl (.last hdata hblock h)
  · exact .inr (.inr ⟨items, hne, .last hdata hblock hitems⟩)

/-- What is read in the place of a section, once the way to it has been gone. -/
theorem section?_of_blocks {data sections : Entries Value} (hdata : blockAt "data" es = .ok data)
    (hsections : blockAt m.operation.name data = .ok sections) :
    (section? m es) = readSection m (Entries.get? m.resultKey sections) := by
  unfold section?
  rw [hdata, ok_bind, hsections, ok_bind]
  unfold readSection
  rfl

theorem readSection_of_countsAsAbsent {v : Option Value} (h : CountsAsAbsent v) :
    readSection m v = .ok [] := by
  cases v with
  | none => rfl
  | some w =>
    have hw := h w rfl
    cases w with
    | seq kind items =>
      obtain rfl : items = [] := by simpa [Value.isTruthy] using hw
      cases kind <;> rfl
    | _ => simp [readSection, hw]

theorem readSection_of_isNoList {v : Option Value} (h : IsNoList v) :
    ∃ kind, readSection m v = .error (.notAList m.operation.name m.resultKey kind) := by
  obtain ⟨w, rfl, htruthy, hlist⟩ := h
  refine ⟨w.kindName, ?_⟩
  cases w with
  | seq kind items =>
    cases kind with
    | list => exact absurd rfl (hlist items)
    | _ => simp [readSection, htruthy]
  | _ => simp [readSection, htruthy]

theorem blockAt_of_get? {name : String} {fields : Entries Value}
    (h : Entries.get? name es = some (.map fields)) : blockAt name es = .ok fields := by
  rw [blockAt, h]
  rfl

theorem section?_of_isMisshapen (h : IsMisshapen m es) :
    ∃ fault, (section? m es) = .error fault := by
  cases h with
  | data h =>
    have hdata : blockAt "data" es = .error .unreadable := block_of_isNoMapping h
    exact ⟨.unreadable, by rw [section?, hdata]; rfl⟩
  | block hdata h =>
    have hblock : blockAt m.operation.name _ = .error .unreadable := block_of_isNoMapping h
    exact ⟨.unreadable, by rw [section?, blockAt_of_get? hdata, ok_bind, hblock]; rfl⟩
  | last hdata hblock h =>
    obtain ⟨kind, hsection⟩ := readSection_of_isNoList (m := m) h
    exact ⟨_, (section?_of_blocks (blockAt_of_get? hdata) (blockAt_of_get? hblock)).trans hsection⟩

theorem section?_of_hasNothing (h : HasNothing m es) : (section? m es) = .ok [] := by
  cases h with
  | data h => exact section?_of_blocks (block_of_countsAsAbsent h) rfl
  | block hdata h => exact section?_of_blocks (blockAt_of_get? hdata) (block_of_countsAsAbsent h)
  | last hdata hblock h =>
    rw [section?_of_blocks (blockAt_of_get? hdata) (blockAt_of_get? hblock),
      readSection_of_countsAsAbsent h]

/-- The parts of an answer beside the section can be read: its errors, and a total for the member if
there is one. -/
structure HasReadableRest (m : Member) (multiplexed : Bool) (es : Entries Value) : Prop where
  errors : ∃ reports, elementsAt "errors" es = .ok reports ∧
    ∀ v ∈ reports, IsReadable m multiplexed v
  total : ∃ totals total extent, totalsOf es = .ok totals ∧ totalOf m totals = .ok total ∧
    extentOf 0 total = .ok extent

/-- Without items there is nothing that reading could fail at. -/
theorem exists_readParts_nil (errors : List ReportedError) {totals total : Value} {extent : Extent}
    (htotal : totalOf m totals = .ok total) (hextent : extentOf 0 total = .ok extent) :
    ∃ r, readParts m (errors, [], totals) = .ok r := by
  unfold readParts
  cases m.operation with
  | aggregate =>
    have hgroups : groupResult m.collection total [] (errors ++ []) =
        .ok (.groups ⟨m.collection, [], extent, errors ++ []⟩) := by
      unfold groupResult
      have hsum : sumOfCounts [] = none := rfl
      rw [hsum]
      cases total <;> (dsimp only [List.length_nil]; rw [hextent]; rfl)
    refine ⟨.groups ⟨m.collection, [], extent, errors ++ []⟩, ?_⟩
    rw [accountOf_outcome]
    exact (finishGroups_outcome ..).trans (by rw [htotal]; exact hgroups)
  | get =>
    have hgenerated : ∀ plan, ∃ generated, (readGenerated m [] plan).outcome = .ok generated := by
      intro plan
      cases plan <;> exact ⟨_, rfl⟩
    have hrecords : ∃ r, recordResult m total [] (errors ++ []) = .ok r := by
      unfold recordResult
      rw [List.length_nil, hextent, ok_bind]
      cases m.generation with
      | none => exact ⟨_, rfl⟩
      | some plan =>
        obtain ⟨generated, hplan⟩ := hgenerated plan
        dsimp only
        rw [hplan]
        exact ⟨_, rfl⟩
    obtain ⟨r, hr⟩ := hrecords
    refine ⟨r, ?_⟩
    rw [accountOf_outcome]
    exact (finishRecords_outcome ..).trans (by rw [htotal]; exact hr)

/-- The errors are read before the section, so the fault may be one of theirs. -/
theorem exists_fault_of_isMisshapen (multiplexed : Bool) (h : IsMisshapen m es) : ∃ fault,
    (normalize m multiplexed (.map es)).outcome = .error fault ∧ fault ≠ .tooLarge := by
  obtain ⟨fault, hsection⟩ := section?_of_isMisshapen h
  obtain ⟨first, hfirst⟩ : ∃ first, partsOf m multiplexed (.map es) = .error first := by
    unfold partsOf
    rw [fieldsOf, ok_bind, hsection]
    cases errorsFor m multiplexed es with
    | error first => exact ⟨first, rfl⟩
    | ok errors => exact ⟨fault, rfl⟩
  have hfits : Fits (partsOf m multiplexed (.map es)) := fits_partsOf _
  exact ⟨first, by rw [normalize_outcome, hfirst]; rfl, fun heq => hfits (heq ▸ hfirst)⟩

theorem exists_empty_of_hasNothing (h : HasNothing m es)
    (hrest : HasReadableRest m multiplexed es) : ∃ r,
    (normalize m multiplexed (.map es)).outcome = .ok r ∧ r.size = 0 := by
  obtain ⟨reports, hreports, hreadable⟩ := hrest.errors
  obtain ⟨errors, herrors⟩ := (exists_readErrors_iff reports).mpr hreadable
  obtain ⟨totals, total, extent, htotals, htotal, hextent⟩ := hrest.total
  obtain ⟨r, hr⟩ := exists_readParts_nil errors htotal hextent
  refine ⟨r, ?_, (isReadFrom_of_readParts hr).size_eq⟩
  rw [normalize_outcome, partsOf_eq hreports (section?_of_hasNothing h) htotals, herrors]
  exact hr

end Envelope

namespace Execution

open Envelope (IsMisshapen HasNothing HasItems HasReadableRest)

variable {σ : Type}

/-- Every fault but one is an error of the answer. -/
theorem exists_errorOf_eq_response {fault : Envelope.Fault} (h : fault ≠ .tooLarge)
    (collection : String) : ∃ e, errorOf collection fault = .query (.response e) := by
  cases fault with
  | tooLarge => exact absurd rfl h
  | _ => exact ⟨_, rfl⟩

/-- A section of a wrong shape, or one that cannot be reached for the shape of a part on the way, is
an error of the answer. One that counts as absent gives a result without items, be it false, zero or
empty; any other is a list of items. -/
theorem misshapen_refused (m : Member) (multiplexed : Bool) (es : Entries Value) (s : σ) :
    (IsMisshapen m es → ∃ e,
      (readMember m multiplexed (.map es) s).result = .error (.query (.response e))) ∧
    (HasNothing m es → HasReadableRest m multiplexed es → ∃ r,
      (readMember m multiplexed (.map es) s).result = .ok r ∧ r.size = 0) ∧
    (IsMisshapen m es ∨ HasNothing m es ∨ ∃ items, items ≠ [] ∧ HasItems m es items) := by
  refine ⟨fun h => ?_, fun h hrest => ?_, Envelope.shape_cases m es⟩
  · obtain ⟨fault, hfault, hne⟩ := Envelope.exists_fault_of_isMisshapen multiplexed h
    obtain ⟨e, he⟩ := exists_errorOf_eq_response hne m.collection
    refine ⟨e, ?_⟩
    rw [readMember_apply, hfault, ← he]
    rfl
  · obtain ⟨r, hr, hsize⟩ := Envelope.exists_empty_of_hasNothing h hrest
    refine ⟨r, ?_, hsize⟩
    rw [readMember_apply, hr]
    rfl

/-- An answer with a value in the place of the authors. -/
def authorsAnswer (v : Value) : Entries Value :=
  [("data", .map [("Get", .map [("Author", v)])])]

/-- A text in the place of the authors is refused; an empty mapping reads as no authors, and so does
a zero in the place of all data. -/
theorem misshapen_refused_author :
    (∃ e, (readMember Envelope.authorMember false (.map (authorsAnswer (.text "none"))) ()).result =
      .error (.query (.response e))) ∧
    (∃ r, (readMember Envelope.authorMember false (.map (authorsAnswer (.map []))) ()).result =
      .ok r ∧ r.size = 0) ∧
    ∃ r, (readMember Envelope.authorMember false (.map [("data", .int 0)]) ()).result = .ok r ∧
      r.size = 0 := by
  have hrest (es : Entries Value) (herrors : Entries.get? "errors" es = none)
      (hextensions : Entries.get? "extensions" es = none) :
      HasReadableRest Envelope.authorMember false es :=
    ⟨⟨[], by rw [Envelope.elementsAt, herrors]; rfl, List.forall_mem_nil _⟩,
      ⟨.null, .null, ⟨0, none⟩, by rw [Envelope.totalsOf, Envelope.blockAt, hextensions]; rfl,
        rfl, rfl⟩⟩
  refine ⟨(misshapen_refused _ _ (authorsAnswer (.text "none")) _).1 ?_,
    (misshapen_refused _ _ (authorsAnswer (.map [])) _).2.1 ?_ (hrest _ rfl rfl),
    (misshapen_refused _ _ [("data", .int 0)] _).2.1 ?_ (hrest _ rfl rfl)⟩
  · exact .last rfl rfl ⟨_, rfl, by decide, by simp [Value.list]⟩
  · exact .last rfl rfl fun w hw => Option.some.inj hw ▸ rfl
  · exact .data fun w hw => Option.some.inj hw ▸ rfl

end Execution

end Retrieval
