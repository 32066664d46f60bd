import Retrieval.Proofs.Members
import Retrieval.Proofs.Reading

/-!
One answer to several members against several answers to one member each. The answers are put
together under the aliases of their members. Main statement: reading a member from the whole comes
to what reading it from its own answer comes to, the errors being those of the own answer with the
alias in the place of the collection.
-/

namespace Retrieval

/-- A path with another name in the second place, if the name to replace stands there. -/
def renamedPath (old new : String) : List ErrorStep → List ErrorStep
  | first :: .name s :: rest => first :: .name (if s = old then new else s) :: rest
  | path => path

/-- An error with another name in the second place of its path. -/
def ReportedError.renamed (old new : String) (e : ReportedError) : ReportedError :=
  { e with path := renamedPath old new e.path }

/-- A result with other errors. -/
def QueryResult.mapErrors (f : ReportedError → ReportedError) : QueryResult → QueryResult
  | .records r => .records { r with errors := r.errors.map f }
  | .groups r => .groups { r with errors := r.errors.map f }

namespace Envelope

open Schema
open Compilation

variable {m n : Member} {key name : String}

/-- Two members that ask for the same, perhaps under different keys. -/
structure Alike (m n : Member) : Prop where
  operation : m.operation = n.operation
  collection : m.collection = n.collection
  selection : m.selection = n.selection
  generation : m.generation = n.generation

theorem alike_memberOf (c : Clause) (key other : String) :
    Alike (memberOf c key) (memberOf c other) := by
  unfold memberOf
  cases c.aggregate <;> exact ⟨rfl, rfl, rfl, rfl⟩

/-- An error whose path starts at a member. -/
def IsReportOf (m : Member) (v : Value) : Prop :=
  ∃ es rest, v = .map es ∧ Entries.get? "path" es =
    some (.seq .list (.text m.operation.name :: .text m.resultKey :: rest))

/-- An error with another name in the second place of its path. -/
def renamedReport (name : String) : Value → Value
  | .map es =>
    match Entries.get? "path" es with
    | some (.seq .list (first :: _ :: rest)) =>
      .map (Entries.set "path" (.seq .list (first :: .text name :: rest)) es)
    | _ => .map es
  | v => v

theorem renamedReport_of_path {es : Entries Value} {first second : Value} {rest : List Value}
    (h : Entries.get? "path" es = some (.seq .list (first :: second :: rest))) :
    renamedReport name (.map es) =
      .map (Entries.set "path" (.seq .list (first :: .text name :: rest)) es) := by
  simp only [renamedReport, h]

/-- What an error tells beside its message and the first two steps of its path. -/
def readRest (rest : List Value) (es : Entries Value) :
    Reading (List ErrorStep × Option String) := do
  let extensions ← blockAt "extensions" es
  checked (Prod.mk <$> (itemsFrom readStep 2 rest).under (.field "path")
    <*> given "code" (optional text) (field "code" extensions))

/-- An error, put together from what was read. -/
def reportOf (operation key : String) (es : Entries Value)
    (rest : List ErrorStep × Option String) : ReportedError :=
  ⟨messageOf es, .name operation :: .name key :: rest.1, rest.2⟩

theorem items_names (operation key : String) (rest : List Value) :
    items readStep (.text operation :: .text key :: rest) =
      (fun steps => .name operation :: .name key :: steps) <$> itemsFrom readStep 2 rest := by
  unfold items
  rw [itemsFrom, itemsFrom]
  cases itemsFrom readStep 2 rest <;> rfl

/-- An error that starts at a member is read for that member; it is skipped for another one. -/
theorem readError_report {multiplexed : Bool} {es : Entries Value} {operation : String}
    {rest : List Value} (hpath : Entries.get? "path" es =
      some (.seq .list (.text operation :: .text key :: rest))) :
    readError m multiplexed (.map es) =
      if multiplexed && key != m.resultKey then .ok none
      else (readRest rest es).map fun more => some (reportOf operation key es more) := by
  have helements : elementsAt "path" es = .ok (.text operation :: .text key :: rest) := by
    rw [elementsAt, hpath]
    rfl
  have hforeign : isForeign m multiplexed (.text operation :: .text key :: rest) =
      (multiplexed && key != m.resultKey) := rfl
  rw [readError, helements, ok_bind, hforeign]
  cases multiplexed && key != m.resultKey with
  | true => rfl
  | false =>
    rw [if_neg Bool.false_ne_true, if_neg Bool.false_ne_true, readRest, items_names]
    cases blockAt "extensions" es with
    | error fault => rfl
    | ok extensions =>
      rw [ok_bind, ok_bind]
      generalize given "code" (optional text) (field "code" extensions) = code
      cases itemsFrom readStep 2 rest <;> cases code <;> rfl

theorem readRest_set (rest : List Value) (path : Value) (es : Entries Value) :
    readRest rest (Entries.set "path" path es) = readRest rest es := by
  unfold readRest blockAt
  rw [Entries.get?_set_other _ _ (by decide)]

theorem messageOf_set (path : Value) (es : Entries Value) :
    messageOf (Entries.set "path" path es) = messageOf es := by
  rw [messageOf, messageOf, Entries.get?_set_other _ _ (by decide)]

/-- An error whose path was read to start at a member. -/
def StartsAt (m : Member) (e : ReportedError) : Prop :=
  ∃ steps, e.path = .name m.operation.name :: .name m.resultKey :: steps

/-- Under the key of `m` the errors of `n` are read as before, with that key in their paths. -/
theorem readErrors_renamed {vs : List Value} (h : ∀ v ∈ vs, IsReportOf n v) :
    readErrors m true (vs.map (renamedReport m.resultKey)) =
      (readErrors n false vs).map (List.map (ReportedError.renamed n.resultKey m.resultKey)) := by
  induction vs with
  | nil => rfl
  | cons v vs ih =>
    obtain ⟨es, rest, rfl, hpath⟩ := h v (by simp)
    rw [List.map_cons, renamedReport_of_path hpath, readErrors, readErrors,
      readError_report hpath, readError_report (Entries.get?_set_same ..),
      ih fun w hw => h w (by simp [hw]), readRest_set]
    simp only [bne_self_eq_false, Bool.and_false, Bool.false_eq_true, if_false]
    cases readRest rest es with
    | error fault => rfl
    | ok more =>
      cases readErrors n false vs with
      | error fault => rfl
      | ok errors =>
        simp [ok_bind, Except.map, reportOf, messageOf_set, ReportedError.renamed, renamedPath,
          pure, Except.pure]

theorem startsAt_of_readErrors {vs : List Value} {errors : List ReportedError}
    (h : ∀ v ∈ vs, IsReportOf n v) (hread : readErrors n false vs = .ok errors) :
    ∀ e ∈ errors, StartsAt n e := by
  induction vs generalizing errors with
  | nil =>
    obtain rfl : [] = errors := Except.ok.inj hread
    simp
  | cons v vs ih =>
    obtain ⟨es, rest, rfl, hpath⟩ := h v (by simp)
    rw [readErrors, readError_report hpath] at hread
    obtain ⟨first, hfirst, hread⟩ := bind_eq_ok_iff.mp hread
    obtain ⟨others, hothers, hread⟩ := bind_eq_ok_iff.mp hread
    obtain ⟨more, -, rfl⟩ := map_eq_ok_iff.mp hfirst
    obtain rfl := Except.ok.inj hread
    intro e he
    obtain rfl | he := List.mem_cons.mp he
    · exact ⟨more.1, rfl⟩
    · exact ih (fun w hw => h w (by simp [hw])) hothers e he

theorem isReported_renamed {errors : List ReportedError} (hop : m.operation = n.operation)
    (h : ∀ e ∈ errors, StartsAt n e) (index : Nat) :
    isReported m (errors.map (ReportedError.renamed n.resultKey m.resultKey)) index =
      isReported n errors index := by
  induction errors with
  | nil => rfl
  | cons e errors ih =>
    obtain ⟨steps, hpath⟩ := h e (by simp)
    have hrest := ih fun f hf => h f (by simp [hf])
    have hhead : ((e.renamed n.resultKey m.resultKey).path.take 3 = itemPath m index) =
        (e.path.take 3 = itemPath n index) := by
      simp [ReportedError.renamed, renamedPath, hpath, itemPath, hop]
    rw [isReported] at hrest ⊢
    rw [isReported] at hrest ⊢
    simp only [List.map_cons, List.any_cons, hrest, hhead]

theorem itemPath_renamed (hop : m.operation = n.operation) (index : Nat) :
    itemPath m index = renamedPath n.resultKey m.resultKey (itemPath n index) := by
  simp [itemPath, renamedPath, hop]

theorem droppedError_renamed (hop : m.operation = n.operation) (index : Nat) (item : Value) :
    droppedError m index item =
      (droppedError n index item).renamed n.resultKey m.resultKey := by
  unfold droppedError
  rw [itemPath_renamed hop]
  dsimp only [ReportedError.renamed]

theorem droppedErrors_renamed {errors : List ReportedError} (hop : m.operation = n.operation)
    (h : ∀ e ∈ errors, StartsAt n e) (dropped : List (Nat × Value)) :
    droppedErrors m (errors.map (ReportedError.renamed n.resultKey m.resultKey)) dropped =
      (droppedErrors n errors dropped).map (ReportedError.renamed n.resultKey m.resultKey) := by
  unfold droppedErrors
  rw [List.map_filterMap]
  congr 1
  funext x
  obtain ⟨index, item⟩ := x
  simp only [isReported_renamed hop h]
  cases isReported n errors index with
  | true => rfl
  | false => simp only [Bool.false_eq_true, if_false, Option.map_some, droppedError_renamed hop]

theorem groupResult_mapErrors (f : ReportedError → ReportedError) (collection : String)
    (total : Value) (groups : List Group) (errors : List ReportedError) :
    groupResult collection total groups (errors.map f) =
      (groupResult collection total groups errors).map (QueryResult.mapErrors f) := by
  unfold groupResult
  dsimp only
  generalize extentOf groups.length _ = extent
  cases extent <;> rfl

theorem readGenerated_alike (h : Alike m n) (raw : List RawRecord) (plan : GenerationPlan) :
    readGenerated m raw plan = readGenerated n raw plan := by
  unfold readGenerated readGenerated.perRecord failedWarnings
  rw [h.collection]

theorem recordResult_mapErrors (h : Alike m n) (f : ReportedError → ReportedError)
    (total : Value) (raw : List RawRecord) (errors : List ReportedError) :
    recordResult m total raw (errors.map f) =
      (recordResult n total raw errors).map (QueryResult.mapErrors f) := by
  unfold recordResult
  rw [h.collection, h.generation]
  cases extentOf raw.length total with
  | error fault => rfl
  | ok extent =>
    cases n.generation with
    | none => rfl
    | some plan =>
      simp only [readGenerated_alike h]
      cases (readGenerated n raw plan).outcome <;> rfl

/-- Members that ask for the same read the same from the same items, if they have the same total and
add the same errors up to their names. -/
theorem readParts_alike (h : Alike m n) {f : ReportedError → ReportedError}
    {errors : List ReportedError} {items : List Value} {totals others : Value}
    (hdropped : ∀ dropped, droppedErrors m (errors.map f) dropped =
      (droppedErrors n errors dropped).map f)
    (htotal : totalOf m totals = totalOf n others) :
    readParts m (errors.map f, items, totals) =
      (readParts n (errors, items, others)).map (QueryResult.mapErrors f) := by
  unfold readParts
  rw [h.operation]
  cases n.operation with
  | aggregate =>
    simp only [accountOf_outcome, finishGroups_outcome, hdropped, htotal, h.collection,
      ← List.map_append, groupResult_mapErrors]
    cases (readItems readGroup 0 items).outcome with
    | error fault => rfl
    | ok groups => cases totalOf n others <;> rfl
  | get =>
    simp only [accountOf_outcome, finishRecords_outcome, hdropped, htotal, h.selection,
      ← List.map_append, recordResult_mapErrors h]
    cases (readItems (readRecord n.selection) 0 items).outcome with
    | error fault => rfl
    | ok raw => cases totalOf n others <;> rfl

/-- An error that starts at a member is skipped for a member with another key. -/
theorem readErrors_renamed_foreign {vs : List Value} (h : ∀ v ∈ vs, IsReportOf n v)
    (hkey : name ≠ m.resultKey) : readErrors m true (vs.map (renamedReport name)) = .ok [] := by
  apply readErrors_foreign
  intro w hw
  obtain ⟨v, hv, rfl⟩ := List.mem_map.mp hw
  obtain ⟨es, rest, rfl, hpath⟩ := h v hv
  rw [renamedReport_of_path hpath, readError_report (Entries.get?_set_same ..)]
  simp [hkey]

/-- An answer to one clause alone. Its parts can be looked into where a reading looks into them, and
its errors are those of the clause. -/
structure SoleAnswer where
  clause : Clause
  fields : Entries Value
  data : IsFields (Entries.get? "data" fields)
  block : IsFields (Entries.get? (memberOf clause clause.collection).operation.name
    (inside "data" fields))
  items : IsItems (Entries.get? clause.collection
    (inside (memberOf clause clause.collection).operation.name (inside "data" fields)))
  extensions : IsFields (Entries.get? "extensions" fields)
  totals : IsFields (Entries.get? "totals" (inside "extensions" fields))
  errors : IsItems (Entries.get? "errors" fields)
  reports : ∀ v ∈ itemsIn (Entries.get? "errors" fields),
    IsReportOf (memberOf clause clause.collection) v

namespace SoleAnswer

variable (a : SoleAnswer)

def member : Member := memberOf a.clause a.clause.collection

/-- What stands in the answer for the items of the clause. -/
def itemsPart : Option Value :=
  Entries.get? a.clause.collection (inside a.member.operation.name (inside "data" a.fields))

/-- What stands in the answer for the total of the clause. -/
def totalPart : Option Value :=
  Entries.get? a.clause.collection (inside "totals" (inside "extensions" a.fields))

def errorParts : List Value := itemsIn (Entries.get? "errors" a.fields)

theorem isReportOf : ∀ v ∈ a.errorParts, IsReportOf a.member v := a.reports

/-- The items of the clause as part of the block of an operation. -/
def itemsFor (operation : Operation) : Option Value :=
  if a.member.operation = operation then a.itemsPart else none

end SoleAnswer

/-- Values under the aliases of the positions from `start` on. -/
def aliased {α : Type} (f : α → Option Value) (start : Nat) : List α → Entries Value
  | [] => []
  | x :: rest => ((f x).map fun v => (slotAlias start, v)).toList ++ aliased f (start + 1) rest

/-- The errors of answers, with aliases in the place of the collections. -/
def aliasedErrors (start : Nat) : List SoleAnswer → List Value
  | [] => []
  | a :: rest =>
    a.errorParts.map (renamedReport (slotAlias start)) ++ aliasedErrors (start + 1) rest

/-- The data of answers put together: each section under its alias in the block of its operation. -/
def combinedData (answers : List SoleAnswer) : Entries Value :=
  [(Operation.get.name, .map (aliased (SoleAnswer.itemsFor · .get) 0 answers)),
    (Operation.aggregate.name, .map (aliased (SoleAnswer.itemsFor · .aggregate) 0 answers))]

/-- Answers to single clauses put together into one. -/
def combined (answers : List SoleAnswer) : Entries Value :=
  [("data", .map (combinedData answers)),
    ("errors", .seq .list (aliasedErrors 0 answers)),
    ("extensions", .map [("totals", .map (aliased SoleAnswer.totalPart 0 answers))])]

/-- Aliases of earlier positions are not among those from a position on. -/
theorem get?_aliased_lt {α : Type} (f : α → Option Value) {i start : Nat} (h : i < start)
    (xs : List α) : Entries.get? (slotAlias i) (aliased f start xs) = none := by
  induction xs generalizing start with
  | nil => rfl
  | cons x rest ih =>
    have hne : slotAlias start ≠ slotAlias i := slotAlias_ne (by omega)
    have hrest : Entries.get? (slotAlias i) (aliased f (start + 1) rest) = none := ih (by omega)
    cases hx : f x <;> simp [aliased, hx, Entries.get?, hne, hrest]

theorem get?_aliased {α : Type} (f : α → Option Value) (start i : Nat) (xs : List α) :
    Entries.get? (slotAlias (start + i)) (aliased f start xs) = xs[i]?.bind f := by
  induction xs generalizing start i with
  | nil => rfl
  | cons x rest ih =>
    cases i with
    | zero =>
      have hrest := get?_aliased_lt f (Nat.lt_add_one start) rest
      cases hx : f x <;> simp [aliased, hx, Entries.get?, hrest]
    | succ i =>
      have hne : slotAlias start ≠ slotAlias (start + (i + 1)) := slotAlias_ne (by omega)
      have hrest := ih (start + 1) i
      rw [show start + 1 + i = start + (i + 1) by omega] at hrest
      cases hx : f x <;> simp [aliased, hx, Entries.get?, hne, hrest]

theorem readErrors_aliased_lt {i start : Nat} (h : i < start) (hkey : m.resultKey = slotAlias i)
    (answers : List SoleAnswer) : readErrors m true (aliasedErrors start answers) = .ok [] := by
  induction answers generalizing start with
  | nil => rfl
  | cons a rest ih =>
    have hne : slotAlias start ≠ m.resultKey := hkey ▸ slotAlias_ne (by omega)
    rw [aliasedErrors, readErrors_append, readErrors_renamed_foreign a.isReportOf hne,
      ih (by omega)]
    rfl

/-- Among the errors of all answers, a member finds those of its own answer. -/
theorem readErrors_aliased {start i : Nat} {answers : List SoleAnswer} {a : SoleAnswer}
    (hkey : m.resultKey = slotAlias (start + i)) (ha : answers[i]? = some a) :
    readErrors m true (aliasedErrors start answers) =
      (readErrors a.member false a.errorParts).map
        (List.map (ReportedError.renamed a.member.resultKey m.resultKey)) := by
  induction answers generalizing start i with
  | nil => simp at ha
  | cons b rest ih =>
    rw [aliasedErrors, readErrors_append]
    cases i with
    | zero =>
      obtain rfl : b = a := by simpa using ha
      -- the own errors come first, and all errors after them are foreign
      have hown : slotAlias start = m.resultKey := hkey.symm
      rw [hown, readErrors_aliased_lt (Nat.lt_add_one start) hkey,
        readErrors_renamed b.isReportOf]
      cases readErrors b.member false b.errorParts with
      | error fault => rfl
      | ok errors => exact congrArg Except.ok (List.append_nil _)
    | succ i =>
      have hne : slotAlias start ≠ m.resultKey := hkey ▸ slotAlias_ne (by omega)
      rw [show start + (i + 1) = start + 1 + i by omega] at hkey
      have hrest := ih hkey (by simpa using ha)
      rw [readErrors_renamed_foreign b.isReportOf hne, hrest]
      cases readErrors a.member false a.errorParts <;> rfl

theorem partsOf_sole (a : SoleAnswer) :
    partsOf a.member false (.map a.fields) =
      (readErrors a.member false a.errorParts).map fun errors =>
        (errors, itemsIn a.itemsPart, field "totals" (inside "extensions" a.fields)) := by
  have hkey : a.member.resultKey = a.clause.collection := memberOf_resultKey a.clause
  have hitems : (section? a.member a.fields) = .ok (itemsIn a.itemsPart) := by
    have h := section?_of_isItems (m := a.member) (blockAt_of_isFields a.data)
      (blockAt_of_isFields a.block)
    rw [hkey] at h
    exact h a.items
  have htotals : totalsOf a.fields = .ok (field "totals" (inside "extensions" a.fields)) := by
    rw [totalsOf, blockAt_of_isFields a.extensions]
    rfl
  exact partsOf_eq (elements_of_isItems a.errors) hitems htotals

theorem totalOf_sole (a : SoleAnswer) :
    totalOf a.member (field "totals" (inside "extensions" a.fields)) =
      .ok (a.totalPart.getD .null) := by
  have hkey : a.member.resultKey = a.clause.collection := memberOf_resultKey a.clause
  rw [totalOf, block_field a.totals, hkey]
  rfl

theorem blockAt_combinedData (answers : List SoleAnswer) (operation : Operation) :
    blockAt operation.name (combinedData answers) =
      .ok (aliased (SoleAnswer.itemsFor · operation) 0 answers) := by
  cases operation <;> rfl

section

variable {answers : List SoleAnswer} {i : Nat} {a : SoleAnswer} (ha : answers[i]? = some a)
  (hkey : m.resultKey = slotAlias i)

include ha hkey

theorem get?_aliased_zero (f : SoleAnswer → Option Value) :
    Entries.get? m.resultKey (aliased f 0 answers) = f a := by
  have h := get?_aliased f 0 i answers
  rwa [Nat.zero_add, ha, ← hkey] at h

/-- The parts of the whole that concern a member are those of its own answer. -/
theorem partsOf_combined (hop : m.operation = a.member.operation) :
    partsOf m true (.map (combined answers)) =
      (readErrors a.member false a.errorParts).map fun errors =>
        (errors.map (ReportedError.renamed a.member.resultKey m.resultKey), itemsIn a.itemsPart,
          .map (aliased SoleAnswer.totalPart 0 answers)) := by
  have hblock := blockAt_combinedData answers m.operation
  have hpart : Entries.get? m.resultKey
      (aliased (SoleAnswer.itemsFor · m.operation) 0 answers) = a.itemsPart := by
    rw [get?_aliased_zero ha hkey, hop]
    exact if_pos rfl
  have hdata : blockAt "data" (combined answers) = .ok (combinedData answers) := rfl
  have hitems : (section? m (combined answers)) = .ok (itemsIn a.itemsPart) := by
    have h := section?_of_isItems hdata hblock (by rw [hpart]; exact a.items)
    rwa [hpart] at h
  have herrors : elementsAt "errors" (combined answers) = .ok (aliasedErrors 0 answers) :=
    elementsAt_of_get? rfl
  rw [← Nat.zero_add i] at hkey
  rw [partsOf_eq herrors hitems rfl, readErrors_aliased hkey ha]
  cases readErrors a.member false a.errorParts <;> rfl

theorem totalOf_combined :
    totalOf m (.map (aliased SoleAnswer.totalPart 0 answers)) = .ok (a.totalPart.getD .null) := by
  rw [totalOf, block, ok_bind, field, get?_aliased_zero ha hkey]
  rfl

/-- Reading a member from the whole comes to what reading it from its own answer comes to. -/
theorem normalize_combined (h : Alike m a.member) :
    (normalize m true (.map (combined answers))).outcome =
      (normalize a.member false (.map a.fields)).outcome.map
        (QueryResult.mapErrors (ReportedError.renamed a.member.resultKey m.resultKey)) := by
  rw [normalize_outcome, normalize_outcome, partsOf_sole, partsOf_combined ha hkey h.operation]
  cases herrors : readErrors a.member false a.errorParts with
  | error fault => rfl
  | ok errors =>
    have hstarts := startsAt_of_readErrors a.isReportOf herrors
    exact readParts_alike h (droppedErrors_renamed h.operation hstarts)
      ((totalOf_combined ha hkey).trans (totalOf_sole a).symm)

end

/-- Under either strategy every clause of a batch reads the same from the backend, if the one answer
of the combined request is what the answers of the single requests make together: the readings fail
together, and the results differ in the names of their errors only. -/
theorem strategies_agree (answers : List SoleAnswer) (hne : answers ≠ [])
    (hcompile : ∀ a ∈ answers, ∃ request, compile a.clause = .ok request) :
    ∃ together apart request,
      compileBatch (answers.map SoleAnswer.clause) .multiplexed = .ok together ∧
      compileBatch (answers.map SoleAnswer.clause) .independent = .ok apart ∧
      together.requests = [request] ∧ request.multiplexed = true ∧
      ∀ i a, answers[i]? = some a → ∃ m sole n,
        request.members[i]? = some m ∧ m.resultKey = slotAlias i ∧
        apart.requests[i]? = some sole ∧ sole.multiplexed = false ∧
        sole.member = .ok n ∧ n.resultKey = a.clause.collection ∧
        (normalize m true (.map (combined answers))).outcome =
          (normalize n false (.map a.fields)).outcome.map
            (QueryResult.mapErrors (ReportedError.renamed a.clause.collection (slotAlias i))) := by
  have hclause : ∀ (i : Nat) (a : SoleAnswer), answers[i]? = some a →
      (answers.map SoleAnswer.clause)[i]? = some a.clause := by
    intro i a ha
    rw [List.getElem?_map, ha]
    rfl
  have hclauses : ∀ c ∈ answers.map SoleAnswer.clause, ∃ request, compile c = .ok request := by
    intro c hc
    obtain ⟨a, ha, rfl⟩ := List.mem_map.mp hc
    exact hcompile a ha
  obtain ⟨together, htogether⟩ := (exists_compileBatch_iff _ .multiplexed).mpr hclauses
  obtain ⟨apart, hapart⟩ := (exists_compileBatch_iff _ .independent).mpr hclauses
  have hcount := length_requests_of_compileBatch htogether
  have hpos := List.length_pos_iff.mpr hne
  obtain ⟨request, hrequest⟩ : ∃ request, together.requests = [request] := by
    apply List.length_eq_one_iff.mp
    rw [hcount, List.length_map, requestCount]
    omega
  have hplace : ∀ i a, answers[i]? = some a →
      request.members[i]? = some (memberOf a.clause (slotAlias i)) ∧
        request.multiplexed = true := by
    intro i a ha
    obtain ⟨found, hfound, hmember, hmode⟩ := place_of_compileBatch htogether (hclause i a ha)
    obtain rfl : request = found := by simpa [hrequest, placeIn] using hfound
    exact ⟨hmember, hmode⟩
  refine ⟨together, apart, request, htogether, hapart, hrequest, ?_, ?_⟩
  · have hfirst := List.getElem?_eq_getElem hpos
    exact (hplace 0 _ hfirst).2
  · intro i a ha
    obtain ⟨sole, hsole, hcompiled⟩ := compile_of_compileBatch hapart (hclause i a ha)
    rw [compile_eq] at hcompiled
    obtain ⟨body, -, rfl⟩ := map_eq_ok_iff.mp hcompiled
    refine ⟨memberOf a.clause (slotAlias i), requestOf a.clause body, a.member, (hplace i a ha).1,
      memberOf_resultKey _, hsole, rfl, rfl, memberOf_resultKey _, ?_⟩
    have h := normalize_combined ha (memberOf_resultKey a.clause)
      (alike_memberOf a.clause (slotAlias i) a.clause.collection)
    rwa [memberOf_resultKey, SoleAnswer.member, memberOf_resultKey] at h

/-- An answer with one item and an error about it. -/
def reportedAnswer : SoleAnswer where
  clause := { collection := "A" }
  fields := [("data", .map [("Get", .map [("A", .seq .list [.null])])]),
    ("errors", .seq .list [.map [("message", .text "lost"),
      ("path", .seq .list [.text "Get", .text "A", .int 0])]])]
  data := .inr (.inr ⟨_, rfl⟩)
  block := .inr (.inr ⟨_, rfl⟩)
  items := .inr (.inr ⟨_, rfl⟩)
  extensions := .inl rfl
  totals := .inl rfl
  errors := .inr (.inr ⟨_, rfl⟩)
  reports := by
    intro v hv
    obtain rfl := List.mem_singleton.mp hv
    exact ⟨_, [.int 0], rfl, rfl⟩

/-- Two clauses with the same collection: the second finds its own error under its own alias. -/
theorem strategies_agree_twice : ∃ m n r,
    m.resultKey = "q1" ∧ n.resultKey = "A" ∧
      (normalize n false (.map reportedAnswer.fields)).outcome = .ok r ∧
      (normalize m true (.map (combined [reportedAnswer, reportedAnswer]))).outcome =
        .ok (r.mapErrors (ReportedError.renamed "A" "q1")) ∧
      r.errors.map ReportedError.path = [[.name "Get", .name "A", .index 0]] := by
  obtain ⟨_, apart, _, _, hapart, _, _, h⟩ :=
    strategies_agree [reportedAnswer, reportedAnswer] (by simp) (by
      intro a ha
      obtain rfl : a = reportedAnswer := by simpa using ha
      exact ⟨_, rfl⟩)
  obtain ⟨m, sole, n, _, hm, hsole, _, hmember, hn, heq⟩ := h 1 reportedAnswer rfl
  have hcompiled : ∃ plan, compileBatch [reportedAnswer.clause, reportedAnswer.clause]
      .independent = .ok plan ∧ plan.requests.map (·.member) =
        [.ok reportedAnswer.member, .ok reportedAnswer.member] := ⟨_, rfl, rfl⟩
  obtain ⟨plan, hplan, hmembers⟩ := hcompiled
  obtain rfl := Except.ok.inj (hapart.symm.trans hplan)
  have hget := congrArg (·[1]?) hmembers
  simp only [List.getElem?_map, hsole, Option.map_some, hmember] at hget
  obtain rfl : n = reportedAnswer.member := Except.ok.inj (Option.some.inj hget)
  have hread : ∃ r, (normalize reportedAnswer.member false (.map reportedAnswer.fields)).outcome =
      .ok r ∧ r.errors.map ReportedError.path = [[.name "Get", .name "A", .index 0]] :=
    ⟨_, rfl, rfl⟩
  obtain ⟨r, hr, hpath⟩ := hread
  exact ⟨m, _, r, hm, hn, hr, by rw [heq, hr]; rfl, hpath⟩

end Envelope

end Retrieval
