import Retrieval.Execution.Single
import Retrieval.Proofs.Reading

/-!
The one fault of an answer that is no error of the answer: an integer that is too large for a float.
Such integers are only met as scores of records, so a section whose scores fit is read or refused.
-/

namespace Retrieval

namespace Envelope

open Schema

variable {α β : Type}

/-- A reading that does not meet an integer too large for a float. -/
def Fits (r : Reading α) : Prop := r ≠ .error .tooLarge

theorem fits_ok (a : α) : Fits (.ok a : Reading α) := by
  intro h
  cases h

theorem fits_error {fault : Fault} (h : fault ≠ .tooLarge) : Fits (.error fault : Reading α) :=
  fun heq => h (Except.error.inj heq)

/-- A sequence fits if its parts do; the second part only has to for what the first one reads. -/
theorem Fits.bind {r : Reading α} {f : α → Reading β} (hr : Fits r)
    (hf : ∀ a, r = .ok a → Fits (f a)) : Fits (r >>= f) := by
  cases r with
  | ok a => exact hf a rfl
  | error fault => exact fun h => hr (congrArg Except.error (Except.error.inj h))

theorem Fits.map {r : Reading α} (hr : Fits r) (f : α → β) : Fits (f <$> r) := by
  cases r with
  | ok a => exact fits_ok _
  | error fault => exact fun h => hr (congrArg Except.error (Except.error.inj h))

theorem Fits.mapM {f : α → Reading β} {xs : List α} (hf : ∀ x ∈ xs, Fits (f x)) :
    Fits (xs.mapM f) := by
  induction xs with
  | nil => exact fits_ok _
  | cons x rest ih =>
    rw [List.mapM_cons]
    have hrest := ih fun y hy => hf y (List.mem_cons_of_mem _ hy)
    exact (hf x (by simp)).bind fun _ _ => hrest.bind fun _ _ => fits_ok _

theorem fits_checked (c : Checked α) : Fits (checked c) := by
  cases c with
  | valid a => exact fits_ok a
  | invalid issues => exact fits_error Fault.noConfusion

theorem fits_block (v : Option Value) : Fits (block v) := by
  unfold block
  split
  · exact fits_ok _
  · exact fits_ok _
  · split
    · exact fits_error Fault.noConfusion
    · exact fits_ok _

theorem fits_elements (v : Option Value) : Fits (elements v) := by
  unfold elements
  split
  · exact fits_ok _
  · split
    · exact fits_ok _
    · split
      · exact fits_ok _
      · exact fits_error Fault.noConfusion

theorem fits_fieldsOf (v : Value) : Fits (fieldsOf v) := by
  unfold fieldsOf
  split
  · exact fits_ok _
  · exact fits_error Fault.noConfusion

variable {m : Member} {multiplexed : Bool}

theorem fits_readError (v : Value) : Fits (readError m multiplexed v) := by
  unfold readError
  split
  · refine (fits_elements _).bind fun path _ => ?_
    split
    · exact fits_ok _
    · exact (fits_block _).bind fun _ _ => (fits_checked _).map some
  · exact fits_ok _

theorem fits_readErrors (vs : List Value) : Fits (readErrors m multiplexed vs) := by
  induction vs with
  | nil => exact fits_ok _
  | cons v rest ih =>
    exact (fits_readError v).bind fun _ _ => ih.bind fun _ _ => fits_ok _

theorem fits_section? (es : Entries Value) : Fits (section? m es) := by
  unfold section?
  refine (fits_block _).bind fun _ _ => (fits_block _).bind fun _ _ => ?_
  split
  · exact fits_ok _
  · exact fits_ok _
  · split
    · exact fits_error Fault.noConfusion
    · exact fits_ok _

theorem fits_partsOf (v : Value) : Fits (partsOf m multiplexed v) :=
  (fits_fieldsOf v).bind fun es _ =>
    ((fits_elements _).bind fun _ _ => fits_readErrors _).bind fun _ _ =>
      (fits_section? es).bind fun _ _ =>
        ((fits_block _).bind fun _ _ => fits_ok _).bind fun _ _ => fits_ok _

theorem fits_totalOf (totals : Value) : Fits (totalOf m totals) :=
  (fits_block _).bind fun _ _ => fits_ok _

theorem fits_readGroup (item : Entries Value) : Fits (readGroup item) :=
  (fits_block _).bind fun _ _ => (fits_elements _).bind fun _ _ =>
    (fits_block _).bind fun _ _ => fits_checked _

theorem fits_readCorrection (v : Value) : Fits (readCorrection v) :=
  (fits_fieldsOf v).bind fun _ _ => fits_checked _

theorem fits_readSpellCheck (v : Value) : Fits (readSpellCheck v) :=
  (fits_fieldsOf v).bind fun _ _ => (fits_elements _).bind fun _ _ =>
    (Fits.mapM fun c _ => fits_readCorrection c).bind fun _ _ => fits_checked _

theorem fits_rerankBlock (additional : Entries Value) : Fits (rerankBlock additional) := by
  unfold rerankBlock
  split <;> exact fits_block _

/-- A value that is no integer too large for a float. -/
def ScoreFits (v : Value) : Prop := ∀ n, v = .int n → (Number.ofInt? n).isSome

theorem fits_readScore {v : Value} (h : ScoreFits v) : Fits (readScore v) := by
  cases v with
  | int n =>
    obtain ⟨x, hx⟩ := Option.isSome_iff_exists.mp (h n rfl)
    rw [readScore, hx]
    exact fits_ok _
  | _ => exact fits_ok _

theorem fits_readMetadata {additional : Entries Value} (h : ScoreFits (field "score" additional)) :
    Fits (readMetadata additional) := by
  unfold readMetadata
  split
  · exact fits_ok _
  · exact (fits_readScore h).bind fun _ _ => (fits_rerankBlock additional).bind fun _ _ =>
      (fits_elements _).bind fun _ _ => (Fits.mapM fun c _ => fits_readSpellCheck c).bind
        fun _ _ => (fits_checked _).bind fun _ _ => fits_ok _

/-- An item whose score, if it has one, fits. -/
def ItemFits (item : Entries Value) : Prop :=
  ∀ additional, blockAt additionalField item = .ok additional →
    ScoreFits (field "score" additional)

theorem fits_readRecord {selection : SelectionTree} {item : Entries Value} (h : ItemFits item) :
    Fits (readRecord selection item) :=
  (fits_block _).bind fun additional hadditional =>
    (fits_readMetadata (h additional hadditional)).bind fun _ _ => fits_ok _

theorem fits_readEntry (chat : Option (List ChatMessage)) (r : RawRecord) :
    Fits (readEntry chat r) := by
  have hmessage : ∀ message, Fits (fillMessage r.record.properties message) := by
    intro message
    unfold fillMessage
    split
    · exact fits_ok _
    · exact fits_error Fault.noConfusion
  refine (fits_block _).bind fun generated _ => ?_
  cases chat with
  | none => exact (fits_ok none).bind fun _ _ => fits_checked _
  | some messages =>
    exact ((Fits.mapM fun message _ => hmessage message).map some).bind fun _ _ => fits_checked _

theorem fits_readOverAll (raw : List RawRecord) : Fits (readOverAll raw) := by
  induction raw with
  | nil => exact fits_ok _
  | cons r rest ih =>
    refine (fits_block _).bind fun generated _ => ?_
    dsimp only
    split
    · split
      · exact ih
      · exact fits_checked _
    · split
      · exact ih
      · exact fits_checked _

theorem fits_readSources (records : List Record) (v : Value) : Fits (readSources records v) := by
  unfold readSources
  split
  · exact fits_ok _
  · split
    · exact fits_error Fault.noConfusion
    · split
      · exact fits_ok _
      · exact fits_error Fault.noConfusion

theorem fits_readAnswer (records : List Record) (raw : List RawRecord) :
    Fits (readAnswer records raw) := by
  induction raw with
  | nil => exact fits_ok _
  | cons r rest ih =>
    refine (fits_block _).bind fun answer _ => ?_
    split
    · exact ih
    · exact (fits_readSources records _).bind fun _ _ => fits_checked _

theorem fits_readGenerated (raw : List RawRecord) (plan : GenerationPlan) :
    Fits (readGenerated m raw plan).outcome := by
  have hper : ∀ chat, Fits (readGenerated.perRecord m raw chat).outcome := by
    intro chat
    have hentries : Fits (raw.mapM (readEntry chat)) := Fits.mapM fun r _ => fits_readEntry chat r
    unfold readGenerated.perRecord
    cases h : raw.mapM (readEntry chat) with
    | ok entries => exact fits_ok _
    | error fault => exact fits_error fun heq => hentries (heq ▸ h)
  cases plan with
  | perRecord => exact hper none
  | perRecordChat messages => exact hper (some messages)
  | overAll => exact fits_readOverAll raw
  | answer => exact fits_readAnswer _ raw

theorem fits_groupResult (collection : String) (total : Value) (groups : List Group)
    (errors : List ReportedError) : Fits (groupResult collection total groups errors) :=
  (fits_checked _).bind fun _ _ => fits_ok _

theorem fits_recordResult (total : Value) (raw : List RawRecord) (errors : List ReportedError) :
    Fits (recordResult m total raw errors) := by
  refine (fits_checked _).bind fun extent _ => ?_
  cases m.generation with
  | none => exact (fits_ok none).bind fun _ _ => fits_ok _
  | some plan => exact ((fits_readGenerated raw plan).map some).bind fun _ _ => fits_ok _

theorem fits_finishRecords (totals : Value) (raw : List RawRecord) (errors : List ReportedError) :
    Fits (finishRecords m totals raw errors).outcome := by
  rw [finishRecords_outcome]
  exact (fits_totalOf _).bind fun _ _ => fits_recordResult _ _ _

/-- Groups have no scores. -/
theorem fits_accountOf_groups (errors : List ReportedError) (items : List Value) (totals : Value) :
    Fits (accountOf m errors (readItems readGroup 0 items) (finishGroups m totals)).outcome := by
  rw [accountOf_outcome, readItems_outcome]
  refine (Fits.mapM fun item _ => fits_readGroup item).bind fun groups _ => ?_
  rw [finishGroups_outcome]
  exact (fits_totalOf _).bind fun _ _ => fits_groupResult _ _ _ _

/-- A section whose scores fit, in an answer that has one. -/
def SectionFits (m : Member) (v : Value) : Prop :=
  ∀ es items, v = .map es → section? m es = .ok items → ∀ item ∈ mappings items, ItemFits item

/-- A member whose section has no score too large for a float is read, or refused with an error of
the answer. -/
theorem fits_normalize {v : Value} (h : SectionFits m v) :
    Fits (normalize m multiplexed v).outcome := by
  rw [normalize_outcome]
  refine (fits_partsOf v).bind fun parts hparts => ?_
  -- the items that are read are those of the section
  have hitems : ∀ item ∈ mappings parts.2.1, ItemFits item := by
    obtain ⟨es, hes, hparts⟩ := bind_eq_ok_iff.mp hparts
    obtain ⟨errors, -, hparts⟩ := bind_eq_ok_iff.mp hparts
    obtain ⟨items, hitems, hparts⟩ := bind_eq_ok_iff.mp hparts
    obtain ⟨totals, -, hparts⟩ := bind_eq_ok_iff.mp hparts
    obtain rfl := Except.ok.inj hparts
    cases v with
    | map fs =>
      obtain rfl := Except.ok.inj hes
      exact h _ _ rfl hitems
    | _ => cases hes
  unfold readParts
  split
  · exact fits_accountOf_groups _ _ _
  · rw [accountOf_outcome, readItems_outcome]
    exact (Fits.mapM fun item hmem => fits_readRecord (hitems item hmem)).bind fun raw _ =>
      fits_finishRecords _ _ _

end Envelope

end Retrieval
