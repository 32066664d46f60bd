import Retrieval.Proofs.Documents

/-!
Which clauses compile. All that a clause hands to its document can be expressed, but for the values
that its filter compares with; its numbers may be too long, and there may be no room for its filter
or its selected paths. Main statements: a clause that follows the rules compiles exactly if its
filter compares with values that can be expressed, its numbers are short and it has room; and a
clause with such a filter fails for no fault of its own.
-/

namespace Retrieval

open Literal

/-- How the text of a generation directive is made. -/
def Generation.options : Generation → GenerationOptions
  | .perRecord _ options => options
  | .overAll _ _ options => options
  | .ask _ _ options => options

/-- The numbers that a clause writes. -/
def Clause.counts (c : Clause) : List Nat :=
  c.limit.toList ++ c.offset.toList
    ++ c.groupBy.elim [] (fun g => g.maxGroups :: g.objectsPerGroup.toList)
    ++ c.generation.elim [] (fun g => g.options.maxTokens.toList)

/-- A clause without integers that have too many digits. -/
structure Clause.HasShortNumbers (c : Clause) : Prop where
  counts : ∀ n ∈ c.counts, n < Number.leastLong
  filter : ∀ p, c.filter = some p → (Compilation.ofPredicate p).Everywhere Value.IsShort

/-- A clause with room for its filter and its selected paths. -/
structure Clause.HasRoom (c : Clause) : Prop where
  filter : ∀ p, c.filter = some p → (Compilation.ofPredicate p).levels ≤ Compilation.maxLevels
  selection : ∀ p ∈ c.selection, p.segments.length ≤ Compilation.maxLevels

namespace Compilation

@[simp] theorem renders_texts (xs : List String) : (texts xs).Renders := by simp [texts]

@[simp] theorem fits_texts (room : Nat) (xs : List String) : (texts xs).Fits (room + 2) := by
  simp [texts]

@[simp] theorem areRenderable_entry {α : Type} (key : String) (x? : Option α) (f : α → Value) :
    AreRenderable (entry key (x?.map f)) ↔ ∀ x ∈ x?, (f x).Renders := by
  cases x? <;> simp [entry]

@[simp] theorem areWithin_entry {α : Type} (room : Nat) (key : String) (x? : Option α)
    (f : α → Value) : AreWithin room (entry key (x?.map f)) ↔ ∀ x ∈ x?, (f x).Fits room := by
  cases x? <;> simp [entry]

@[simp] theorem areRenderable_textsEntry (key : String) (xs : List String) :
    AreRenderable (textsEntry key xs) := by
  unfold textsEntry
  split <;> simp

@[simp] theorem areWithin_textsEntry (room : Nat) (key : String) (xs : List String) :
    AreWithin (room + 2) (textsEntry key xs) := by
  unfold textsEntry
  split <;> simp

@[simp] theorem areRenderable_countEntry (key : String) (n : Option Nat) :
    AreRenderable (countEntry key n) := by
  rw [countEntry, areRenderable_entry]
  simp

@[simp] theorem areWithin_countEntry (room : Nat) (key : String) (n : Option Nat) :
    AreWithin (room + 1) (countEntry key n) ↔ ∀ k ∈ n, k < Number.leastLong := by
  cases n <;> simp [countEntry, entry]

/-- A comparison with a value that can be expressed. Whether a field is null is asked as a boolean,
whatever the value is. -/
def HasLiteral (l : FieldPath × Comparison × Value) : Prop := l.2.1 = .isNull ∨ l.2.2.Renders

theorem renders_typedValue_iff (path : FieldPath) (comparison : Comparison) (v : Value) :
    (typedValue comparison v).2.Renders ↔ HasLiteral (path, comparison, v) := by
  unfold typedValue HasLiteral
  split
  · simp
  · next hnull => simp [show comparison ≠ .isNull from hnull]
  · next hnull _ => simp [show comparison ≠ .isNull from hnull]

mutual

theorem renders_ofPredicate_iff (p : Predicate) :
    (ofPredicate p).Renders ↔ ∀ l ∈ p.leaves, HasLiteral l := by
  cases p with
  | leaf path comparison value =>
    have hvalue := renders_typedValue_iff path comparison value
    rw [ofPredicate, Value.renders_map]
    simp [Predicate.leaves, hvalue]
  | group connective operands =>
    have hoperands := renders_ofPredicates_iff operands
    rw [ofPredicate, Value.renders_map]
    simp [Predicate.leaves, hoperands]

theorem renders_ofPredicates_iff (ps : List Predicate) :
    (∀ v ∈ ofPredicates ps, v.Renders) ↔ ∀ l ∈ Predicate.leavesOf ps, HasLiteral l := by
  cases ps with
  | nil => simp [ofPredicates, Predicate.leavesOf]
  | cons p rest =>
    rw [ofPredicates, Predicate.leavesOf, List.forall_mem_cons, List.forall_mem_append,
      renders_ofPredicate_iff p, renders_ofPredicates_iff rest]

end

theorem areRenderable_filterArgument_iff (c : Clause) :
    AreRenderable (filterArgument c) ↔ ∀ l ∈ Predicate.leavesIn c.filter, HasLiteral l := by
  rw [filterArgument, areRenderable_entry]
  cases c.filter <;> simp [Predicate.leavesIn, renders_ofPredicate_iff]

@[simp] theorem areRenderable_ofSearch (s : Search) : AreRenderable (ofSearch s).2 := by
  cases s with
  | nearVector source distance => cases source <;> simp [ofSearch]
  | _ => simp [ofSearch]

@[simp] theorem areWithin_ofSearch (room : Nat) (s : Search) :
    AreWithin (room + 2) (ofSearch s).2 := by
  cases s with
  | nearVector source distance => cases source <;> simp [ofSearch]
  | _ => simp [ofSearch]

@[simp] theorem areRenderable_searchArgument (c : Clause) : AreRenderable (searchArgument c) := by
  unfold searchArgument
  cases c.search with
  | none => simp
  | some s => cases c.spellCheck <;> cases c.filter <;> simp

@[simp] theorem areWithin_searchArgument (room : Nat) (c : Clause) :
    AreWithin (room + 3) (searchArgument c) := by
  unfold searchArgument
  cases c.search with
  | none => simp
  | some s => cases c.spellCheck <;> cases c.filter <;> simp

@[simp] theorem areRenderable_groupArgument (c : Clause) : AreRenderable (groupArgument c) := by
  rw [groupArgument, areRenderable_entry]
  intro g _
  rw [Value.renders_map, areRenderable_append, areRenderable_entry]
  simp

@[simp] theorem areWithin_groupArgument (room : Nat) (c : Clause) :
    AreWithin (room + 3) (groupArgument c) ↔
      ∀ n ∈ c.groupBy.elim [] (fun g => g.maxGroups :: g.objectsPerGroup.toList),
        n < Number.leastLong := by
  rw [groupArgument]
  cases c.groupBy with
  | none => simp [entry]
  | some g =>
    obtain ⟨property, maxGroups, perGroup⟩ := g
    cases perGroup <;> simp [entry]

@[simp] theorem areRenderable_sortArgument (c : Clause) : AreRenderable (sortArgument c) := by
  unfold sortArgument
  split <;> simp

@[simp] theorem areWithin_sortArgument (room : Nat) (c : Clause) :
    AreWithin (room + 4) (sortArgument c) := by
  unfold sortArgument
  split <;> simp

/-- The arguments of a root field can be expressed exactly if the values of its filter can. -/
theorem areRenderable_arguments_iff (c : Clause) (key : String) :
    AreRenderable (memberOf c key).arguments ↔
      ∀ l ∈ Predicate.leavesIn c.filter, HasLiteral l := by
  unfold memberOf
  cases c.aggregate with
  | none => simp [getArguments, areRenderable_filterArgument_iff]
  | some a => simp [aggregateArguments, areRenderable_filterArgument_iff]

@[simp] theorem areRenderable_ofOptions (o : GenerationOptions) : AreRenderable (ofOptions o) := by
  unfold ofOptions
  dsimp only
  split <;> simp

@[simp] theorem areWithin_ofOptions (room : Nat) (o : GenerationOptions) :
    AreWithin (room + 2) (ofOptions o) ↔ ∀ n ∈ o.maxTokens, n < Number.leastLong := by
  unfold ofOptions
  dsimp only
  split
  · next hempty =>
    cases htokens : o.maxTokens with
    | none => simp
    | some n => simp [htokens, countEntry, entry] at hempty
  · simp

@[simp] theorem areRenderable_ofPrompt (name : String) (p : Prompt) :
    AreRenderable (ofPrompt name p) := by
  cases p <;> simp [ofPrompt, ofMessage]

@[simp] theorem areWithin_ofPrompt (room : Nat) (name : String) (p : Prompt) :
    AreWithin (room + 3) (ofPrompt name p) := by
  cases p <;> simp [ofPrompt, ofMessage]

/-- A generation directive has a text exactly if the number in its options is short. -/
theorem exists_generationField_iff (g : Generation) : (∃ text, generationField g = .ok text) ↔
    ∀ n ∈ g.options.maxTokens, n < Number.leastLong := by
  cases g <;>
    exact exists_bind_pure_iff.trans ((Literal.exists_arguments_iff _ _).trans (by
      simp [maxLevels, Generation.options]))

theorem exists_rerankTexts (c : Clause) : ∃ texts, rerankTexts c = .ok texts := by
  unfold rerankTexts
  cases c.rerank with
  | none => exact ⟨[], rfl⟩
  | some r =>
    exact exists_bind_pure_iff.mpr ((Literal.exists_arguments_iff _ _).mpr (by simp [maxLevels]))

theorem exists_generationTexts_iff (c : Clause) : (∃ texts, generationTexts c = .ok texts) ↔
    ∀ n ∈ c.generation.elim [] (fun g => g.options.maxTokens.toList),
      n < Number.leastLong := by
  unfold generationTexts
  cases c.generation with
  | none => simp
  | some g => simpa using exists_bind_pure_iff.trans (exists_generationField_iff g)

theorem exists_additionalFields_iff (c : Clause) :
    (∃ texts, additionalFields c = .ok texts) ↔ ∃ texts, generationTexts c = .ok texts := by
  unfold additionalFields
  rw [exists_bind_bind_iff, and_iff_left (exists_rerankTexts c)]

theorem exists_selectedFields_iff (paths : List FieldPath) :
    (∃ texts, selectedFields paths = .ok texts) ↔
      ∀ p ∈ paths, p.segments.length ≤ maxLevels := by
  simp [selectedFields_eq_ok_iff]

/-- A query for records has fields exactly if its generated part has a text and its paths have
room. -/
theorem exists_getFields_iff (c : Clause) : (∃ texts, getFields c = .ok texts) ↔
    (∀ n ∈ c.generation.elim [] (fun g => g.options.maxTokens.toList),
      n < Number.leastLong) ∧ ∀ p ∈ c.selection, p.segments.length ≤ maxLevels := by
  unfold getFields
  rw [exists_bind_bind_iff, exists_additionalFields_iff, exists_generationTexts_iff,
    exists_selectedFields_iff]

theorem areWithin_filterArgument_iff (room : Nat) (c : Clause) :
    AreWithin room (filterArgument c) ↔ ∀ p, c.filter = some p → (ofPredicate p).Fits room := by
  rw [filterArgument, areWithin_entry]
  simp [Option.mem_def]

/-- The fields and the arguments of a clause that follows the rules are within the limits exactly if
the clause is. What the clause may not have beside statistics has no limits. -/
theorem hasShortNumbers_and_hasRoom_iff {c : Clause} (h : c.IsConsistent) :
    (c.HasShortNumbers ∧ c.HasRoom) ↔ (∃ texts, fieldTexts c = .ok texts) ∧
      AreWithin maxLevels (memberOf c c.collection).arguments := by
  have hlevels : maxLevels = 252 + 4 := rfl
  have hparts : (c.HasShortNumbers ∧ c.HasRoom) ↔ (∀ n ∈ c.counts, n < Number.leastLong) ∧
      (∀ p, c.filter = some p → (ofPredicate p).Fits maxLevels) ∧
      ∀ p ∈ c.selection, p.segments.length ≤ maxLevels :=
    ⟨fun ⟨hshort, hroom⟩ =>
      ⟨hshort.counts, fun p hp => ⟨hshort.filter p hp, hroom.filter p hp⟩, hroom.selection⟩,
     fun ⟨hcounts, hfilter, hselection⟩ =>
      ⟨⟨hcounts, fun p hp => (hfilter p hp).1⟩, ⟨fun p hp => (hfilter p hp).2, hselection⟩⟩⟩
  rw [hparts, Clause.counts]
  simp only [List.forall_mem_append]
  cases haggregate : c.aggregate with
  | none =>
    have hfields : fieldTexts c = getFields c := by rw [fieldTexts, haggregate]
    have harguments : (memberOf c c.collection).arguments = getArguments c := by
      rw [memberOf, haggregate]
    rw [hfields, harguments, exists_getFields_iff, getArguments]
    simp only [areWithin_append, areWithin_filterArgument_iff, hlevels, areWithin_searchArgument,
      areWithin_groupArgument, areWithin_sortArgument, areWithin_countEntry, Option.mem_toList,
      Option.mem_def, and_true]
    tauto
  | some a =>
    obtain ⟨hgeneration, -, -, hgroup, hoffset, hselection, -⟩ := h.aggregate (by simp [haggregate])
    have hfields : ∃ texts, fieldTexts c = .ok texts := by
      rw [fieldTexts, haggregate]
      exact ⟨_, rfl⟩
    have harguments : (memberOf c c.collection).arguments = aggregateArguments c a := by
      rw [memberOf, haggregate]
    rw [harguments, aggregateArguments, hgeneration, hgroup, hoffset, hselection]
    simp [areWithin_filterArgument_iff, hlevels, hfields, and_comm]

/-- A clause that follows the rules compiles exactly if its filter compares with values that can be
expressed, its numbers are short and it has room. What it searches for is of no concern. -/
theorem exists_compile_iff_hasRoom {c : Clause} (h : c.IsLawful) :
    (∃ request, compile c = .ok request) ↔
      (∀ l ∈ Predicate.leavesIn c.filter, HasLiteral l) ∧ c.HasShortNumbers ∧ c.HasRoom := by
  have hne : ¬ c.collection.isEmpty = true := fun heq =>
    h.collection_ne (String.isEmpty_iff.mp heq)
  rw [exists_compile_iff, bodyText, if_neg hne, exists_bind_bind_iff, Literal.exists_arguments_iff,
    areRenderable_arguments_iff, hasShortNumbers_and_hasRoom_iff h.toIsConsistent]
  exact and_left_comm

/-- A clause that compiles does so with any search that it may have. -/
theorem exists_compile_of_search {c d : Clause} (hc : c.IsLawful) (hd : d.IsLawful)
    {search : Option Search} (hsearch : d = { c with search })
    (h : ∃ request, compile c = .ok request) : ∃ request, compile d = .ok request := by
  obtain ⟨hliterals, hshort, hroom⟩ := (exists_compile_iff_hasRoom hc).mp h
  subst hsearch
  exact (exists_compile_iff_hasRoom hd).mpr ⟨hliterals, ⟨hshort.counts, hshort.filter⟩,
    ⟨hroom.filter, hroom.selection⟩⟩

theorem noViolation_generationTexts (c : Clause) : NoViolation (generationTexts c) := by
  have hfield (g : Generation) : NoViolation (generationField g) := by
    cases g <;> exact (noViolation_arguments _ (by simp)).bind fun _ => noViolation_ok _
  unfold generationTexts
  cases c.generation with
  | none => exact noViolation_ok _
  | some g => exact (hfield g).bind fun _ => noViolation_ok _

theorem noViolation_selectedFields (paths : List FieldPath) :
    NoViolation (selectedFields paths) := by
  unfold selectedFields
  split
  · exact noViolation_ok _
  · exact noViolation_tooNested

theorem noViolation_fieldTexts (c : Clause) : NoViolation (fieldTexts c) := by
  have hadditional : NoViolation (additionalFields c) := by
    obtain ⟨texts, htexts⟩ := exists_rerankTexts c
    refine (noViolation_generationTexts c).bind fun _ => ?_
    rw [htexts]
    exact noViolation_ok _
  unfold fieldTexts
  cases c.aggregate with
  | none =>
    exact hadditional.bind fun _ => (noViolation_selectedFields _).bind fun _ => noViolation_ok _
  | some a => exact noViolation_ok _

/-- A clause with a collection whose filter compares with values that can be expressed has no
fault. -/
theorem noViolation_bodyText {c : Clause} (hcollection : c.collection ≠ "")
    (hliterals : ∀ l ∈ Predicate.leavesIn c.filter, HasLiteral l) : NoViolation (bodyText c) := by
  have hne : ¬ c.collection.isEmpty = true := fun heq => hcollection (String.isEmpty_iff.mp heq)
  have hrenderable := (areRenderable_arguments_iff c c.collection).mpr hliterals
  rw [bodyText, if_neg hne]
  exact (noViolation_fieldTexts c).bind fun _ =>
    (noViolation_arguments _ hrenderable).bind fun _ => noViolation_ok _

theorem noViolation_compile {c : Clause} (h : NoViolation (bodyText c)) :
    NoViolation (compile c) := by
  rw [compile_eq]
  exact h.map

theorem noViolation_compileBatch {clauses : List Clause} (strategy : BatchStrategy)
    (h : ∀ c ∈ clauses, NoViolation (bodyText c)) :
    NoViolation (compileBatch clauses strategy) := by
  rw [compileBatch_eq]
  exact (noViolation_mapM h).map

end Compilation

end Retrieval
