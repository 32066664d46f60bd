import Retrieval.Proofs.Bounds
import Retrieval.Proofs.Sections
import Retrieval.Result.Data

/-!
Items of a section that are no mappings. Main statement: they change nothing but the errors of a
result, which end with one error for each such item that no reported error is about.
-/

namespace Retrieval

/-- A result with these errors and no others. -/
def QueryResult.withErrors (errors : List ReportedError) : QueryResult → QueryResult
  | .records r => .records { r with errors }
  | .groups r => .groups { r with errors }

@[simp] theorem QueryResult.errors_withErrors (errors : List ReportedError) (r : QueryResult) :
    (r.withErrors errors).errors = errors := by
  cases r <;> rfl

@[simp] theorem QueryResult.withErrors_withErrors (errors others : List ReportedError)
    (r : QueryResult) : (r.withErrors others).withErrors errors = r.withErrors errors := by
  cases r <;> rfl

namespace Envelope

open Schema

variable {m : Member} {multiplexed : Bool} {es : Entries Value}

theorem checked_eq_ok_iff {α : Type} {c : Checked α} {a : α} :
    checked c = .ok a ↔ c = .valid a := by
  cases c <;> simp [checked]

theorem readStep_eq_name_iff {v : Value} {s : String} :
    readStep v = .valid (.name s) ↔ v.text? = some s := by
  cases v with
  | text t => simp [readStep, Value.text?]
  | word t => simp [readStep, Value.text?]
  | int n => simp [readStep, Value.text?]
  | _ =>
    simp only [readStep, Value.text?]
    split <;> simp

/-- A reported mapping is read up to its path if it is an error of another member, else whole. -/
theorem readError_map_eq_ok_iff {found : Option ReportedError} :
    readError m multiplexed (.map es) = .ok found ↔ ∃ path, elementsAt "path" es = .ok path ∧
      ((isForeign m multiplexed path = true ∧ found = none) ∨
        isForeign m multiplexed path = false ∧ ∃ extensions steps code,
          blockAt "extensions" es = .ok extensions ∧ items readStep path = .valid steps ∧
            optional text (field "code" extensions) = .valid code ∧
              found = some ⟨messageOf es, steps, code⟩) := by
  rw [readError, bind_eq_ok_iff]
  refine exists_congr fun path => and_congr_right fun _ => ?_
  cases hforeign : isForeign m multiplexed path with
  | true => simp [pure, Except.pure, eq_comm]
  | false =>
    simp only [Bool.false_eq_true, if_false, false_and, false_or, true_and, bind_eq_ok_iff]
    refine exists_congr fun extensions => ?_
    constructor
    · rintro ⟨hextensions, hread⟩
      obtain ⟨e, hchecked, rfl⟩ := map_eq_ok_iff.mp hread
      obtain ⟨_, code, hsteps, hcode, rfl⟩ := seq_eq_valid_iff.mp (checked_eq_ok_iff.mp hchecked)
      obtain ⟨steps, hpath, rfl⟩ := map_eq_valid_iff.mp hsteps
      exact ⟨steps, code, hextensions, under_eq_valid_iff.mp hpath,
        given_eq_valid_iff.mp hcode, rfl⟩
    · rintro ⟨steps, code, hextensions, hsteps, hcode, rfl⟩
      refine ⟨hextensions, map_eq_ok_iff.mpr ⟨_, checked_eq_ok_iff.mpr ?_, rfl⟩⟩
      rw [given, hsteps, hcode]
      rfl

/-- A reported error whose path, as it is read, begins with the place of an item. -/
def IsAt (m : Member) (index : Nat) (v : Value) : Prop :=
  ∃ es path steps, v = .map es ∧ elementsAt "path" es = .ok path ∧
    items readStep path = .valid steps ∧ itemPath m index <+: steps

/-- An error of another member is at no item. -/
theorem not_itemPath_isPrefix_of_isForeign {path : List Value} {steps : List ErrorStep}
    (h : isForeign m multiplexed path = true) (hsteps : items readStep path = .valid steps)
    (index : Nat) : ¬ itemPath m index <+: steps := by
  rintro ⟨rest, rfl⟩
  obtain ⟨-, hkey⟩ := (Bool.and_eq_true _ _).mp h
  have hread := items_eq_valid_iff.mp hsteps
  match path, hkey with
  | first :: key :: more, hkey =>
    have hname : readStep key = .valid (.name m.resultKey) := by
      simp only [itemPath, List.map_cons, List.cons_append, List.cons.injEq] at hread
      exact hread.2.1
    exact absurd (readStep_eq_name_iff.mp hname) (by simpa using hkey)

/-- Whether a reported error is at an item shows in what is read of it. -/
theorem isAt_iff_of_readError {v : Value} {found : Option ReportedError}
    (h : readError m multiplexed v = .ok found) (index : Nat) :
    IsAt m index v ↔ ∃ e, found = some e ∧ itemPath m index <+: e.path := by
  cases v with
  | map es =>
    obtain ⟨path, hpath, ⟨hforeign, rfl⟩ | ⟨-, _, steps, code, -, hsteps, -, rfl⟩⟩ :=
      readError_map_eq_ok_iff.mp h
    · constructor
      · rintro ⟨_, path', steps, ⟨⟩, hpath', hsteps, hprefix⟩
        obtain rfl := Except.ok.inj (hpath.symm.trans hpath')
        exact absurd hprefix (not_itemPath_isPrefix_of_isForeign hforeign hsteps index)
      · rintro ⟨e, he, -⟩
        cases he
    · constructor
      · rintro ⟨_, path', steps', ⟨⟩, hpath', hsteps', hprefix⟩
        obtain rfl := Except.ok.inj (hpath.symm.trans hpath')
        obtain rfl := Checked.valid.inj (hsteps.symm.trans hsteps')
        exact ⟨_, rfl, hprefix⟩
      · rintro ⟨_, ⟨⟩, hprefix⟩
        exact ⟨es, path, steps, rfl, hpath, hsteps, hprefix⟩
  | _ =>
    obtain rfl := Except.ok.inj h
    simp [IsAt, itemPath]

theorem readErrors_cons_eq_ok_iff {v : Value} {vs : List Value} {errors : List ReportedError} :
    readErrors m multiplexed (v :: vs) = .ok errors ↔ ∃ found rest,
      readError m multiplexed v = .ok found ∧ readErrors m multiplexed vs = .ok rest ∧
        errors = found.toList ++ rest := by
  simp only [readErrors, bind_eq_ok_iff]
  constructor
  · rintro ⟨found, hfound, rest, hrest, heq⟩
    exact ⟨found, rest, hfound, hrest, (Except.ok.inj heq).symm⟩
  · rintro ⟨found, rest, hfound, hrest, rfl⟩
    exact ⟨found, hfound, rest, hrest, rfl⟩

/-- A step of a path is a text, or else denotes an integer. -/
def IsStepFrom (v : Value) : ErrorStep → Prop
  | .name s => v.text? = some s
  | .index n => v.text? = none ∧ integer v = .valid n

theorem isStepFrom_of_readStep {v : Value} {step : ErrorStep} (h : readStep v = .valid step) :
    IsStepFrom v step := by
  cases step with
  | name s => exact readStep_eq_name_iff.mp h
  | index n =>
    cases v with
    | text s => cases h
    | word s => cases h
    | int k =>
      cases h
      exact ⟨rfl, rfl⟩
    | _ =>
      simp only [readStep] at h
      split at h
      · next k hk => exact ⟨rfl, hk.trans (congrArg _ (ErrorStep.index.inj (Checked.valid.inj h)))⟩
      · cases h

theorem forall₂_isStepFrom {path : List Value} {steps : List ErrorStep}
    (h : items readStep path = .valid steps) : List.Forall₂ IsStepFrom path steps := by
  have heach := items_eq_valid_iff.mp h
  rw [← List.forall₂_eq_eq_eq, List.forall₂_map_left_iff, List.forall₂_map_right_iff] at heach
  exact heach.imp fun _ _ => isStepFrom_of_readStep

theorem eq_text?_of_optional {v : Value} {code : Option String}
    (h : optional text v = .valid code) : code = v.text? := by
  cases v with
  | null | text s | word s =>
    cases h
    rfl
  | _ => cases h

/-- An error keeps the message, the path and the code of a report. One that is no mapping is all
message. -/
def IsKeptAs : Value → ReportedError → Prop
  | .map es, e => e.message = messageOf es ∧
      (∃ path, elementsAt "path" es = .ok path ∧ List.Forall₂ IsStepFrom path e.path) ∧
      ∃ extensions, blockAt "extensions" es = .ok extensions ∧
        e.code = (field "code" extensions).text?
  | v, e => e = ⟨v.display, [], none⟩

/-- Whether a report is that of another member. -/
def isOfOthers (m : Member) (multiplexed : Bool) : Value → Bool
  | .map es => (elementsAt "path" es).toOption.any (isForeign m multiplexed)
  | _ => false

/-- A report that is read for a member is kept, unless it is that of another member. -/
theorem readError_cases {v : Value} {found : Option ReportedError}
    (h : readError m multiplexed v = .ok found) :
    (isOfOthers m multiplexed v = true ∧ found = none) ∨
      isOfOthers m multiplexed v = false ∧ ∃ e, found = some e ∧ IsKeptAs v e := by
  cases v with
  | map es =>
    obtain ⟨path, hpath, hread⟩ := readError_map_eq_ok_iff.mp h
    have howner : isOfOthers m multiplexed (.map es) = isForeign m multiplexed path := by
      rw [isOfOthers, hpath]
      rfl
    rw [howner]
    obtain ⟨hforeign, rfl⟩ | ⟨hown, extensions, steps, code, hextensions, hsteps, hcode, rfl⟩ :=
      hread
    · exact .inl ⟨hforeign, rfl⟩
    · exact .inr ⟨hown, _, rfl, rfl, ⟨path, hpath, forall₂_isStepFrom hsteps⟩, extensions,
        hextensions, eq_text?_of_optional hcode⟩
  | _ =>
    obtain rfl := Except.ok.inj h
    exact .inr ⟨rfl, _, rfl, rfl⟩

/-- The errors that are read for a member are the reports in their order, those of other members
left out. -/
theorem forall₂_isKeptAs {vs : List Value} {errors : List ReportedError}
    (h : readErrors m multiplexed vs = .ok errors) :
    List.Forall₂ IsKeptAs (vs.filter fun v => !isOfOthers m multiplexed v) errors := by
  induction vs generalizing errors with
  | nil =>
    obtain rfl := Except.ok.inj h
    exact .nil
  | cons v rest ih =>
    obtain ⟨found, more, hfound, hmore, rfl⟩ := readErrors_cons_eq_ok_iff.mp h
    obtain ⟨hothers, rfl⟩ | ⟨hown, e, rfl, hkept⟩ := readError_cases hfound
    · rw [List.filter_cons_of_neg (by simp [hothers])]
      exact ih hmore
    · rw [List.filter_cons_of_pos (by simp [hown])]
      exact .cons hkept (ih hmore)

theorem isReported_iff {errors : List ReportedError} {index : Nat} :
    isReported m errors index = true ↔ ∃ e ∈ errors, itemPath m index <+: e.path := by
  have hlength : (itemPath m index).length = 3 := rfl
  simp only [isReported, List.any_eq_true, decide_eq_true_eq, List.prefix_iff_eq_take, hlength,
    eq_comm (a := itemPath m index)]

/-- An item counts as reported if one of the reported errors is at it. -/
theorem isReported_iff_of_readErrors {vs : List Value} {errors : List ReportedError}
    (h : readErrors m multiplexed vs = .ok errors) (index : Nat) :
    isReported m errors index = true ↔ ∃ v ∈ vs, IsAt m index v := by
  rw [isReported_iff]
  induction vs generalizing errors with
  | nil =>
    obtain rfl := Except.ok.inj h
    simp
  | cons v vs ih =>
    obtain ⟨found, rest, hfound, hrest, rfl⟩ := readErrors_cons_eq_ok_iff.mp h
    simp only [List.mem_cons, or_and_right, exists_or, exists_eq_left,
      isAt_iff_of_readError hfound, ← ih hrest, List.mem_append, Option.mem_toList]

/-- The items that are no mappings, with their positions from `n` on. -/
def strays (n : Nat) (items : List Value) : List (Nat × Value) :=
  ((items.zipIdx n).filter fun x => x.1.entries?.isNone).map Prod.swap

/-- The items that are mappings. -/
def kept (items : List Value) : List Value := items.filter fun v => v.entries?.isSome

theorem mem_strays_iff {i : Nat} {v : Value} {items : List Value} :
    (i, v) ∈ strays 0 items ↔ items[i]? = some v ∧ v.entries? = none := by
  constructor
  · intro h
    obtain ⟨⟨w, j⟩, hmem, ⟨⟩⟩ := List.mem_map.mp h
    obtain ⟨hmem, hnone⟩ := List.mem_filter.mp hmem
    exact ⟨List.mk_mem_zipIdx_iff_getElem?.mp hmem, Option.isNone_iff_eq_none.mp hnone⟩
  · rintro ⟨hmem, hnone⟩
    exact List.mem_map_of_mem (f := Prod.swap) (List.mem_filter.mpr
      ⟨List.mk_mem_zipIdx_iff_getElem?.mpr hmem, Option.isNone_iff_eq_none.mpr hnone⟩)

/-- The positions of the strays increase. -/
theorem pairwise_strays (n : Nat) (items : List Value) :
    (strays n items).Pairwise fun x y => x.1 < y.1 := by
  have hpositions : (items.zipIdx n).Pairwise fun x y => x.2 < y.2 := by
    rw [← List.pairwise_map, List.zipIdx_map_snd]
    exact List.pairwise_lt_range'
  exact List.pairwise_map.mpr (hpositions.filter _)

/-- Reading that comes to an end has passed by all strays. -/
theorem readItems_dropped {α : Type} {read : Entries Value → Reading α} {n : Nat}
    {items : List Value} {parts : List α} (h : (readItems read n items).outcome = .ok parts) :
    (readItems read n items).dropped = strays n items := by
  induction items generalizing n parts with
  | nil => rfl
  | cons v rest ih =>
    cases v with
    | map es =>
      rw [readItems] at h ⊢
      cases hread : read es with
      | error fault => simp [hread] at h
      | ok a =>
        rw [hread] at h
        obtain ⟨others, hothers, -⟩ := map_eq_ok_iff.mp h
        exact ih hothers
    | _ => exact congrArg (_ :: ·) (ih h)

theorem mappings_kept (items : List Value) : mappings (kept items) = mappings items := by
  unfold mappings kept
  rw [List.filterMap_filter]
  congr 1
  funext v
  cases v <;> rfl

theorem strays_kept (items : List Value) : strays 0 (kept items) = [] := by
  refine List.eq_nil_iff_forall_not_mem.mpr ?_
  rintro ⟨i, v⟩ hmem
  obtain ⟨hget, hnone⟩ := mem_strays_iff.mp hmem
  have hkept := (List.mem_filter.mp (List.mem_of_getElem? hget)).2
  rw [hnone] at hkept
  exact absurd hkept Bool.false_ne_true

/-- Mappings and strays together are all items. -/
theorem length_mappings_add_strays (items : List Value) :
    (mappings items).length + (strays 0 items).length = items.length := by
  have hstrays : (strays 0 items).length = items.countP fun v => v.entries?.isNone := by
    have hvalues := List.countP_map (p := fun v => v.entries?.isNone) (f := Prod.fst)
      (l := items.zipIdx)
    rw [List.zipIdx_map_fst] at hvalues
    rw [strays, List.length_map, ← List.countP_eq_length_filter, hvalues]
    rfl
  rw [hstrays, mappings, List.length_filterMap_eq_countP,
    List.length_eq_countP_add_countP fun v : Value => v.entries?.isSome]
  congr 2
  funext v
  cases v <;> rfl

theorem groupResult_withErrors (collection : String) (total : Value) (groups : List Group)
    (errors : List ReportedError) :
    groupResult collection total groups errors =
      (groupResult collection total groups []).map (QueryResult.withErrors errors) := by
  unfold groupResult
  dsimp only
  generalize extentOf groups.length _ = extent
  cases extent <;> rfl

theorem recordResult_withErrors (total : Value) (raw : List RawRecord)
    (errors : List ReportedError) :
    recordResult m total raw errors =
      (recordResult m total raw []).map (QueryResult.withErrors errors) := by
  unfold recordResult
  cases extentOf raw.length total with
  | error fault => rfl
  | ok extent =>
    cases m.generation with
    | none => rfl
    | some plan => cases h : (readGenerated m raw plan).outcome <;> simp [h, Except.map] <;> rfl

/-- If errors only pass through the rest of the reading, then strays add to them and do no more. -/
theorem accountOf_kept {α : Type} {read : Entries Value → Reading α}
    {finish : List α → List ReportedError → Account QueryResult}
    (hfinish : ∀ parts errors, (finish parts errors).outcome =
      (finish parts []).outcome.map (QueryResult.withErrors errors))
    (errors : List ReportedError) (items : List Value) :
    (accountOf m errors (readItems read 0 items) finish).outcome =
      (accountOf m [] (readItems read 0 (kept items)) finish).outcome.map
        (QueryResult.withErrors (errors ++ droppedErrors m errors (strays 0 items))) := by
  rw [accountOf_outcome, accountOf_outcome, readItems_outcome, readItems_outcome, mappings_kept]
  cases hparts : (mappings items).mapM read with
  | error fault => rfl
  | ok parts =>
    have hall : (readItems read 0 items).dropped = strays 0 items :=
      readItems_dropped ((readItems_outcome ..).trans hparts)
    have hkept : (readItems read 0 (kept items)).dropped = [] := by
      rw [readItems_dropped ((readItems_outcome ..).trans (mappings_kept items ▸ hparts)),
        strays_kept]
    rw [ok_bind, ok_bind, hall, hkept, hfinish]
    rfl

/-- Errors and strays show in the errors of a result only. -/
theorem readParts_eq (errors : List ReportedError) (items : List Value) (totals : Value) :
    readParts m (errors, items, totals) = (readParts m ([], kept items, totals)).map
      (QueryResult.withErrors (errors ++ droppedErrors m errors (strays 0 items))) := by
  unfold readParts
  cases m.operation with
  | aggregate =>
    refine accountOf_kept (fun groups others => ?_) errors items
    rw [finishGroups_outcome, finishGroups_outcome]
    cases totalOf m totals with
    | error fault => rfl
    | ok total => exact groupResult_withErrors ..
  | get =>
    refine accountOf_kept (fun raw others => ?_) errors items
    rw [finishRecords_outcome, finishRecords_outcome]
    cases totalOf m totals with
    | error fault => rfl
    | ok total => exact recordResult_withErrors ..

theorem exists_of_get?_inside {name key : String} {v : Value}
    (h : Entries.get? key (inside name es) = some v) :
    ∃ fs, Entries.get? name es = some (.map fs) ∧ Entries.get? key fs = some v := by
  unfold inside at h
  match hpart : Entries.get? name es, h with
  | some (.map fs), h => exact ⟨fs, rfl, h⟩

/-- A list that stands in the place of a section is read. -/
theorem section?_of_sectionAt {items : List Value} (h : sectionAt m es = some (.list items)) :
    (section? m es) = .ok items := by
  obtain ⟨sections, hsections, hitems⟩ := exists_of_get?_inside h
  obtain ⟨data, hdata, hsections⟩ := exists_of_get?_inside hsections
  rw [section?, blockAt, hdata, block, ok_bind, blockAt, hsections, block, ok_bind, hitems]
  rfl

/-- The places of the strays that no reported error is about. -/
def unreported (m : Member) (errors : List ReportedError) (items : List Value) : List Nat :=
  ((strays 0 items).map Prod.fst).filter fun i => !isReported m errors i

theorem droppedErrors_strays (errors : List ReportedError) (items : List Value) :
    droppedErrors m errors (strays 0 items) =
      (unreported m errors items).map fun i => droppedError m i (items.getD i .null) := by
  have hitem : ∀ x ∈ strays 0 items, items.getD x.1 .null = x.2 := by
    rintro ⟨i, v⟩ hmem
    rw [List.getD_eq_getElem?_getD, (mem_strays_iff.mp hmem).1, Option.getD_some]
  unfold unreported droppedErrors
  generalize strays 0 items = dropped at hitem ⊢
  induction dropped with
  | nil => rfl
  | cons x rest ih =>
    obtain ⟨hx, hrest⟩ := List.forall_mem_cons.mp hitem
    rw [List.filterMap_cons, ih hrest, List.map_cons, List.filter_cons]
    cases hreported : isReported m errors x.1 <;> simp [hreported, ← hx]

theorem mem_unreported_iff {errors : List ReportedError} {items : List Value} {i : Nat} :
    i ∈ unreported m errors items ↔
      (∃ v, items[i]? = some v ∧ v.entries? = none) ∧ isReported m errors i = false := by
  simp [unreported, mem_strays_iff]

theorem pairwise_unreported (errors : List ReportedError) (items : List Value) :
    (unreported m errors items).Pairwise (· < ·) :=
  (List.pairwise_map.mpr (pairwise_strays 0 items)).filter _

theorem exists_of_recordResult {total : Value} {raw : List RawRecord}
    {errors : List ReportedError} {r : QueryResult} (h : recordResult m total raw errors = .ok r) :
    ∃ extent generated,
      r = .records ⟨m.collection, raw.map RawRecord.record, extent, generated, errors⟩ ∧
        ∀ g ∈ generated, ∃ plan, (readGenerated m raw plan).outcome = .ok g := by
  unfold recordResult at h
  obtain ⟨extent, -, h⟩ := bind_eq_ok_iff.mp h
  cases hplan : m.generation with
  | none =>
    rw [hplan] at h
    exact ⟨extent, none, (Except.ok.inj h).symm, by simp⟩
  | some plan =>
    rw [hplan] at h
    obtain ⟨generated, hgenerated, h⟩ := bind_eq_ok_iff.mp h
    obtain ⟨g, hg, rfl⟩ := map_eq_ok_iff.mp hgenerated
    exact ⟨extent, some g, (Except.ok.inj h).symm, by simpa using ⟨plan, hg⟩⟩

theorem record_of_readEntry {chat : Option (List ChatMessage)} {r : RawRecord}
    {e : GeneratedEntry} (h : readEntry chat r = .ok e) : e.record = r.record := by
  have hread {result error : Value} {prompt : Option (List ChatMessage)}
      (h : checked ((fun result error => GeneratedEntry.mk r.record result error prompt)
        <$> given "result" (optional text) result <*> given "error" (optional text) error) =
          .ok e) : e.record = r.record := by
    obtain ⟨_, _, hresult, -, rfl⟩ := seq_eq_valid_iff.mp (checked_eq_ok_iff.mp h)
    obtain ⟨_, -, rfl⟩ := map_eq_valid_iff.mp hresult
    rfl
  obtain ⟨generated, -, h⟩ := bind_eq_ok_iff.mp h
  cases chat with
  | none => exact hread h
  | some messages =>
    obtain ⟨prompt, -, h⟩ := bind_eq_ok_iff.mp h
    exact hread h

theorem readOverAll_ne {entries : List GeneratedEntry} (raw : List RawRecord) :
    readOverAll raw ≠ .ok (.perRecord entries) := by
  have hread {result error : Value} : checked (Generated.overAll
      <$> given "result" (optional text) result <*> given "error" (optional text) error) ≠
        .ok (.perRecord entries) := by
    intro h
    obtain ⟨_, _, hresult, -, heq⟩ := seq_eq_valid_iff.mp (checked_eq_ok_iff.mp h)
    obtain ⟨_, -, rfl⟩ := map_eq_valid_iff.mp hresult
    cases heq
  induction raw with
  | nil => exact fun h => nomatch h
  | cons r rest ih =>
    intro h
    obtain ⟨generated, -, h⟩ := bind_eq_ok_iff.mp h
    dsimp only at h
    split at h <;> split at h
    all_goals first | exact ih h | exact hread h

theorem readAnswer_ne {entries : List GeneratedEntry} (records : List Record)
    (raw : List RawRecord) : readAnswer records raw ≠ .ok (.perRecord entries) := by
  intro h
  induction raw with
  | nil => cases h
  | cons r rest ih =>
    obtain ⟨answer, -, h⟩ := bind_eq_ok_iff.mp h
    split at h
    · exact ih h
    · obtain ⟨sources, -, h⟩ := bind_eq_ok_iff.mp h
      obtain ⟨_, _, htext, -, heq⟩ := seq_eq_valid_iff.mp (checked_eq_ok_iff.mp h)
      obtain ⟨_, -, rfl⟩ := map_eq_valid_iff.mp htext
      cases heq

/-- Texts generated for single records stand in the order of the records. -/
theorem records_of_readGenerated {raw : List RawRecord} {plan : GenerationPlan}
    {entries : List GeneratedEntry}
    (h : (readGenerated m raw plan).outcome = .ok (.perRecord entries)) :
    entries.map GeneratedEntry.record = raw.map RawRecord.record := by
  have hchat {chat : Option (List ChatMessage)}
      (h : (readGenerated.perRecord m raw chat).outcome = .ok (.perRecord entries)) :
      raw.mapM (readEntry chat) = .ok entries := by
    unfold readGenerated.perRecord at h
    cases hentries : raw.mapM (readEntry chat) with
    | error fault => simp [hentries] at h
    | ok others => simpa [hentries] using h
  have hrecords {chat : Option (List ChatMessage)}
      (h : raw.mapM (readEntry chat) = .ok entries) :
      entries.map GeneratedEntry.record = raw.map RawRecord.record :=
    map_eq_of_mapM_eq_ok (fun _ _ => record_of_readEntry) h
  cases plan with
  | perRecord => exact hrecords (hchat h)
  | perRecordChat messages => exact hrecords (hchat h)
  | overAll => exact absurd h (readOverAll_ne raw)
  | answer => exact absurd h (readAnswer_ne _ raw)

/-- A result holds what mappings are read as, one by one and in their order. Texts that are
generated for single records go with the records. -/
def IsReadFrom (m : Member) (found : List (Entries Value)) : QueryResult → Prop
  | .groups r => found.mapM readGroup = .ok r.groups
  | .records r => ∃ raw, found.mapM (readRecord m.selection) = .ok raw ∧
      r.records = raw.map RawRecord.record ∧
      ∀ entries, r.generated = some (.perRecord entries) →
        entries.map GeneratedEntry.record = r.records

theorem IsReadFrom.size_eq {found : List (Entries Value)} {r : QueryResult}
    (h : IsReadFrom m found r) : r.size = found.length := by
  cases r with
  | groups r => exact length_of_mapM_eq_ok h
  | records r =>
    obtain ⟨raw, hraw, hrecords, -⟩ := h
    rw [QueryResult.size, hrecords, List.length_map, length_of_mapM_eq_ok hraw]

theorem IsReadFrom.withErrors {found : List (Entries Value)} {r : QueryResult}
    (h : IsReadFrom m found r) (errors : List ReportedError) :
    IsReadFrom m found (r.withErrors errors) := by
  cases r <;> exact h

theorem isReadFrom_of_readParts {errors : List ReportedError} {items : List Value} {totals : Value}
    {r : QueryResult} (h : readParts m (errors, items, totals) = .ok r) :
    IsReadFrom m (mappings items) r := by
  unfold readParts at h
  cases hop : m.operation with
  | aggregate =>
    rw [hop] at h
    dsimp only at h
    rw [accountOf_outcome, readItems_outcome] at h
    obtain ⟨groups, hgroups, h⟩ := bind_eq_ok_iff.mp h
    rw [finishGroups_outcome] at h
    obtain ⟨total, -, h⟩ := bind_eq_ok_iff.mp h
    obtain ⟨extent, -, h⟩ := bind_eq_ok_iff.mp h
    obtain rfl := Except.ok.inj h
    exact hgroups
  | get =>
    rw [hop] at h
    dsimp only at h
    rw [accountOf_outcome, readItems_outcome] at h
    obtain ⟨raw, hraw, h⟩ := bind_eq_ok_iff.mp h
    rw [finishRecords_outcome] at h
    obtain ⟨total, -, h⟩ := bind_eq_ok_iff.mp h
    obtain ⟨extent, generated, rfl, hplan⟩ := exists_of_recordResult h
    refine ⟨raw, hraw, rfl, ?_⟩
    rintro entries rfl
    obtain ⟨plan, hgenerated⟩ := hplan _ rfl
    exact records_of_readGenerated hgenerated

/-- The items of an answer, and what its mappings are read as besides any errors. -/
structure HasBody (m : Member) (es : Entries Value) (items : List Value) (bare : QueryResult) :
    Prop where
  section_eq : (section? m es) = .ok items
  exists_totals : ∃ totals, totalsOf es = .ok totals ∧
    readParts m ([], kept items, totals) = .ok bare

/-- The errors are added to what the mappings are read as, and then one for each stray that none of
them is about. -/
theorem HasBody.normalize_eq {reports items : List Value} {bare : QueryResult}
    (h : HasBody m es items bare) (hreports : elementsAt "errors" es = .ok reports) :
    (normalize m multiplexed (.map es)).outcome =
      (readErrors m multiplexed reports).map fun errors =>
        bare.withErrors (errors ++ droppedErrors m errors (strays 0 items)) := by
  obtain ⟨totals, htotals, hbare⟩ := h.exists_totals
  rw [normalize_outcome, partsOf_eq hreports h.section_eq htotals]
  cases readErrors m multiplexed reports with
  | error fault => rfl
  | ok errors =>
    have hparts : readParts m (errors, items, totals) = _ := readParts_eq ..
    rw [hbare] at hparts
    exact hparts

/-- All parts of an answer with a result can be reached. -/
theorem exists_hasBody {r : QueryResult} (h : (normalize m multiplexed (.map es)).outcome = .ok r) :
    ∃ reports errors items bare, elementsAt "errors" es = .ok reports ∧
      readErrors m multiplexed reports = .ok errors ∧ HasBody m es items bare ∧
        r = bare.withErrors (errors ++ droppedErrors m errors (strays 0 items)) := by
  rw [normalize_outcome] at h
  obtain ⟨_, hparts, hr⟩ := bind_eq_ok_iff.mp h
  obtain ⟨_, hfields, hparts⟩ := bind_eq_ok_iff.mp hparts
  obtain rfl := Except.ok.inj hfields
  obtain ⟨errors, herrors, hparts⟩ := bind_eq_ok_iff.mp hparts
  obtain ⟨items, hitems, hparts⟩ := bind_eq_ok_iff.mp hparts
  obtain ⟨totals, htotals, rfl⟩ := map_eq_ok_iff.mp hparts
  obtain ⟨reports, hreports, herrors⟩ := bind_eq_ok_iff.mp herrors
  rw [readParts_eq] at hr
  obtain ⟨bare, hbare, hr⟩ := map_eq_ok_iff.mp hr
  exact ⟨reports, errors, items, bare, hreports, herrors, ⟨hitems, totals, htotals, hbare⟩,
    hr.symm⟩

theorem HasBody.isReadFrom {items : List Value} {bare : QueryResult} (h : HasBody m es items bare) :
    IsReadFrom m (mappings items) bare := by
  obtain ⟨totals, -, hbare⟩ := h.exists_totals
  exact mappings_kept items ▸ isReadFrom_of_readParts hbare

/-- Without its strays an answer has the same body. -/
theorem HasBody.withSection_kept {items : List Value} {bare : QueryResult}
    (h : HasBody m es items bare) :
    HasBody m (withSection m (.list (kept items)) es) (kept items) bare := by
  obtain ⟨totals, htotals, hbare⟩ := h.exists_totals
  have htwice : kept (kept items) = kept items := by simp [kept]
  exact ⟨section?_of_sectionAt (sectionAt_withSection ..), totals,
    (totalsOf_withSection ..).trans htotals, by rw [htwice, hbare]⟩

/-- Items that are no mappings leave a result as it is without them, but for its errors. Those are
the reports that are not those of other members, as they are, and then one error for each such item
that no report is about, in the order of the items. -/
theorem dropped_accounted {items : List Value} {r : QueryResult}
    (hitems : sectionAt m es = some (.list items))
    (hread : (normalize m multiplexed (.map es)).outcome = .ok r) :
    ∃ (reports : List Value) (clean : QueryResult) (places : List Nat),
      elementsAt "errors" es = .ok reports ∧
      (normalize m multiplexed (.map (withSection m (.list (kept items)) es))).outcome =
        .ok clean ∧
      List.Forall₂ IsKeptAs (reports.filter fun v => !isOfOthers m multiplexed v) clean.errors ∧
      r = clean.withErrors
        (clean.errors ++ places.map fun i => droppedError m i (items.getD i .null)) ∧
      places.Pairwise (· < ·) ∧
      (∀ i, i ∈ places ↔ (∃ v, items[i]? = some v ∧ v.entries? = none) ∧
        ∀ v ∈ reports, ¬ IsAt m i v) ∧
      r.size + (strays 0 items).length = items.length ∧ IsReadFrom m (mappings items) r := by
  obtain ⟨reports, errors, found, bare, hreports, herrors, hbody, rfl⟩ := exists_hasBody hread
  obtain rfl : items = found :=
    Except.ok.inj ((section?_of_sectionAt hitems).symm.trans hbody.section_eq)
  have hclean : (normalize m multiplexed (.map (withSection m (.list (kept items)) es))).outcome =
      .ok (bare.withErrors errors) := by
    have hreports' : elementsAt "errors" (withSection m (.list (kept items)) es) = .ok reports := by
      rw [elementsAt, get?_withSection_other (by decide), ← elementsAt, hreports]
    rw [hbody.withSection_kept.normalize_eq hreports', herrors, strays_kept]
    exact congrArg (fun others => Except.ok (bare.withErrors others)) (List.append_nil errors)
  have hreadFrom := hbody.isReadFrom.withErrors
    (errors ++ droppedErrors m errors (strays 0 items))
  refine ⟨reports, bare.withErrors errors, unreported m errors items, hreports, hclean,
    ?_, ?_, pairwise_unreported .., ?_, ?_, hreadFrom⟩
  · rw [QueryResult.errors_withErrors]
    exact forall₂_isKeptAs herrors
  · rw [QueryResult.withErrors_withErrors, QueryResult.errors_withErrors, droppedErrors_strays]
  · intro i
    rw [mem_unreported_iff, ← Bool.not_eq_true, isReported_iff_of_readErrors herrors]
    simp
  · rw [hreadFrom.size_eq, length_mappings_add_strays]

/-- A member that asks for a text for each author. -/
def authorMember : Member :=
  Compilation.memberOf { collection := "Author",
                         generation := some (.perRecord (.text "Who?") ⟨none, none, none, none⟩) }
    "Author"

/-- One author between two items that are no records; the first of them is reported. -/
def brokenAnswer : Entries Value :=
  [("data", .map [("Get", .map [("Author",
      .list [.null, .map [("name", .text "Ada")], .int 3])])]),
    ("errors", .list [.map [("message", .text "lost"),
      ("path", .list [.text "Get", .text "Author", .int 0])]])]

/-- The item that is not reported gets an error, and the author stays with what was generated. -/
theorem dropped_accounted_author : ∃ r,
    sectionAt authorMember brokenAnswer =
      some (.list [.null, .map [("name", .text "Ada")], .int 3]) ∧
    (normalize authorMember false (.map brokenAnswer)).outcome = .ok r ∧ r.size = 1 ∧
    r.errors.map ReportedError.path =
      [[.name "Get", .name "Author", .index 0], [.name "Get", .name "Author", .index 2]] := by
  have hread : ∃ r, (normalize authorMember false (.map brokenAnswer)).outcome = .ok r ∧
      r.errors.map ReportedError.path =
        [[.name "Get", .name "Author", .index 0], [.name "Get", .name "Author", .index 2]] :=
    ⟨_, rfl, rfl⟩
  obtain ⟨r, hr, hpaths⟩ := hread
  obtain ⟨_, _, _, _, _, _, _, _, _, hsize, _⟩ := dropped_accounted (m := authorMember) rfl hr
  exact ⟨r, rfl, hr, by simpa [strays, Value.entries?] using hsize, hpaths⟩

end Envelope

end Retrieval
