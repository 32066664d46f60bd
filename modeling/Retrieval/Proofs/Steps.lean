import Retrieval.Query.Call
import Retrieval.Proofs.Bounds

/-!
The steps that put a query together. A step reads its arguments by themselves and then writes one
part of the clause, which is kept if it breaks no rule. Main statements: the rules of a clause, one
by one, and for every step either that it never succeeds or the edit that it makes.
-/

namespace Retrieval

namespace Clause

/-- The rules on the combination of parts. -/
structure IsConsistent (c : Clause) : Prop where
  rerank_search : c.rerank.isSome → c.search.isSome
  spellCheck_search : c.spellCheck = true → ∃ s, c.search = some s ∧ s.isTextual = true
  rerank_groupBy : c.rerank.isSome → c.groupBy = none
  aggregate : c.aggregate.isSome → c.generation = none ∧ c.rerank = none ∧ c.sort = [] ∧
    c.groupBy = none ∧ c.offset = none ∧ c.selection = [] ∧ c.spellCheck = false

/-- A field may be named: the collection is open, or it has the field, or the field is internal. -/
def MayName (registry : Option Registry) (collection root : String) : Prop :=
  ∀ known, registry.bind (fun r => r.knownFields (.text collection)) = some known →
    root ∈ known.filterMap Value.text? ∨ root.startsWith "_" = true

theorem aggregateConflicts_eq_nil_iff (c : Clause) : c.aggregateConflicts = [] ↔
    c.generation = none ∧ c.rerank = none ∧ c.sort = [] ∧ c.groupBy = none ∧ c.offset = none ∧
      c.selection = [] ∧ c.spellCheck = false := by
  rw [aggregateConflicts, List.filterMap_eq_nil_iff]
  simp

theorem conflict?_eq_none_iff (c : Clause) : c.conflict? = none ↔ c.IsConsistent := by
  have haggregate := c.aggregateConflicts_eq_nil_iff
  unfold conflict?
  -- the rules are tried in the order of the fields; each one that is broken breaks its field
  split
  · next h =>
    simp only [Bool.and_eq_true, Option.isNone_iff_eq_none] at h
    refine ⟨nofun, fun hc => ?_⟩
    have hsearch := hc.rerank_search h.1
    simp [h.2] at hsearch
  split
  · next h =>
    simp only [Bool.and_eq_true, Option.isNone_iff_eq_none] at h
    refine ⟨nofun, fun hc => ?_⟩
    obtain ⟨s, hs, -⟩ := hc.spellCheck_search h.1
    simp [h.2] at hs
  split
  · next hnot h =>
    refine ⟨fun hnone => ?_, fun hc => ?_⟩
    · rw [Option.map_eq_none_iff] at hnone
      simp [hnone] at h
    · simp only [Bool.and_eq_true, Bool.not_eq_true'] at h
      obtain ⟨s, hs, htextual⟩ := hc.spellCheck_search h.1
      simp [hs, htextual] at h
  split
  · next h =>
    simp only [Bool.and_eq_true] at h
    refine ⟨nofun, fun hc => ?_⟩
    have hgroup := hc.rerank_groupBy h.1
    simp [hgroup] at h
  split
  · next h =>
    simp only [Bool.and_eq_true, Bool.not_eq_true', List.isEmpty_eq_false_iff, ne_eq] at h
    exact ⟨nofun, fun hc => absurd (haggregate.mpr (hc.aggregate h.1)) h.2⟩
  · next hrerank hspell htextual hgroup hparts =>
    refine ⟨fun _ => ⟨?_, ?_, ?_, ?_⟩, fun _ => rfl⟩
    · intro h
      simpa [h, Option.isSome_iff_ne_none] using hrerank
    · intro h
      cases hs : c.search with
      | none => simp [h, hs] at hspell
      | some s => exact ⟨s, rfl, by simpa [h, hs] using htextual⟩
    · intro h
      simpa [h] using hgroup
    · intro h
      exact haggregate.mp (by simpa [h] using hparts)

theorem sortedTexts_eq_nil_iff (xs : List String) : sortedTexts xs = [] ↔ xs = [] := by
  unfold sortedTexts
  constructor
  · intro h
    cases hsorted : xs.mergeSort (fun a b => decide (a ≤ b)) with
    | nil =>
      have hlength := congrArg List.length hsorted
      simpa using hlength
    | cons x rest =>
      rw [hsorted, List.eraseDups_cons] at h
      cases h
  · rintro rfl
    simp

theorem unknownRoots_eq_nil_iff (c : Clause) (known : List String) : c.unknownRoots known = [] ↔
    ∀ root ∈ c.fieldRoots, root ∈ known ∨ root.startsWith "_" = true := by
  rw [unknownRoots, sortedTexts_eq_nil_iff, List.filter_eq_nil_iff]
  refine forall₂_congr fun root _ => ?_
  cases root.startsWith "_" <;> simp

theorem problem?_eq_none_iff (c : Clause) (registry : Option Registry) :
    c.problem? registry = none ↔
      c.IsConsistent ∧ ∀ root ∈ c.fieldRoots, MayName registry c.collection root := by
  rw [← conflict?_eq_none_iff]
  unfold problem? MayName
  cases c.conflict? with
  | some e => simp
  | none =>
    cases registry.bind fun r => r.knownFields (.text c.collection) with
    | none => simp
    | some known =>
      have hroots := c.unknownRoots_eq_nil_iff (known.filterMap Value.text?)
      by_cases hnil : c.unknownRoots (known.filterMap Value.text?) = []
      · simpa [hnil] using hroots.mp hnil
      · simpa [hnil] using mt hroots.mpr hnil

end Clause

namespace Query

/-- The parts of a clause that steps write. -/
inductive Part
  | selection
  | filter
  | search
  | rerank
  | spellCheck
  | groupBy
  | sort
  | limit
  | offset
  | generation
  | aggregate
  deriving DecidableEq, Repr

/-- The parts that steps write, by the names of the steps. -/
def partNames : List (String × Part) :=
  [("select", .selection), ("about", .search), ("match", .search), ("find", .search),
    ("near_vector", .search), ("similar", .search), ("rerank", .rerank),
    ("spell_check", .spellCheck), ("group_by", .groupBy), ("sort", .sort), ("limit", .limit),
    ("offset", .offset), ("generate_from_one", .generation), ("generate_from_many", .generation),
    ("ask", .generation), ("aggregate", .aggregate)]

/-- The part that a step writes, if it writes one. -/
def Call.part? : Call → Option Part
  | .restrict _ => some .filter
  | .method name _ => partNames.lookup name

/-- What a step that succeeds does to a clause. -/
inductive Edit
  | select (paths : List FieldPath)
  | restrict (predicate : Option Predicate)
  | search (search : Search)
  | rerank (rerank : Rerank)
  | spellCheck (enabled : Bool)
  | groupBy (grouping : Grouping)
  | sort (key : SortKey)
  | limit (n : Nat)
  | offset (n : Nat)
  | generation (generation : Generation)
  | aggregate (aggregate : Aggregate)
  | keep

/-- Paths with one more, unless it is one of them. -/
def withPath (selection : List FieldPath) (p : FieldPath) : List FieldPath :=
  if selection.contains p then selection else selection ++ [p]

namespace Edit

def part? : Edit → Option Part
  | .select _ => some .selection
  | .restrict _ => some .filter
  | .search _ => some .search
  | .rerank _ => some .rerank
  | .spellCheck _ => some .spellCheck
  | .groupBy _ => some .groupBy
  | .sort _ => some .sort
  | .limit _ => some .limit
  | .offset _ => some .offset
  | .generation _ => some .generation
  | .aggregate _ => some .aggregate
  | .keep => none

def write : Edit → Clause → Clause
  | .select paths, c => { c with selection := paths.foldl withPath c.selection }
  | .restrict p, c => { c with filter := Predicate.both c.filter p }
  | .search s, c => { c with search := some s }
  | .rerank r, c => { c with rerank := some r }
  | .spellCheck enabled, c => { c with spellCheck := enabled }
  | .groupBy g, c => { c with groupBy := some g }
  | .sort key, c => { c with sort := c.sort ++ [key] }
  | .limit n, c => { c with limit := some n }
  | .offset n, c => { c with offset := some n }
  | .generation g, c => { c with generation := some g }
  | .aggregate a, c => { c with aggregate := some a }
  | .keep, c => c

theorem collection_write (e : Edit) (c : Clause) : (e.write c).collection = c.collection := by
  cases e <;> rfl

/-- Whether the part is already there, for the parts that are written once. -/
def isTaken : Edit → Clause → Bool
  | .search _, c => c.search.isSome
  | .generation _, c => c.generation.isSome
  | .aggregate _, c => c.aggregate.isSome
  | _, _ => false

/-- What the readings of the arguments ensure: paths are plain, filters are lawful, numbers are
within their bounds, and nothing is sorted by an element of a list. -/
def IsLawful : Edit → Prop
  | .select paths => ∀ p ∈ paths, p.IsPlain
  | .restrict p? => ∀ p, p? = some p → p.IsLawful
  | .search s => s.IsBounded
  | .generation g => g.IsBounded
  | .sort key => key.path.IsPlain ∧ key.path.hasIndex = false
  | _ => True

/-- The step from one query to another that an edit allows. -/
structure Makes (e : Edit) (q q' : Query) : Prop where
  free : e.isTaken q.clause = false
  accepted : (e.write q.clause).problem? q.registry = none
  result : q' = { q with clause := e.write q.clause }

end Edit

/-- A way of going on from queries that fails, or makes one edit of a part: from a query that keeps
the rules, what the edit writes is adopted unless the part is taken. Which failure it is depends on
the clause alone. -/
def IsEditing (part? : Option Part) (f : Query → Build Query) : Prop :=
  (∃ failure : Clause → BuildError, ∀ q, f q = .error (failure q.clause)) ∨
    ∃ e : Edit, e.IsLawful ∧ e.part? = part? ∧ ∃ failure : Clause → BuildError,
      ∀ q, q.clause.problem? q.registry = none → f q =
        if e.isTaken q.clause then .error (failure q.clause) else q.adopt (e.write q.clause)

variable {α : Type} {part? : Option Part}

theorem adopt_eq_ok_iff {q q' : Query} {c : Clause} : q.adopt c = .ok q' ↔
    c.problem? q.registry = none ∧ q' = { q with clause := c } := by
  unfold adopt
  cases c.problem? q.registry with
  | some e => simp [refuse]
  | none => simp [eq_comm]

/-- An edit never succeeds, or from a query that keeps the rules it succeeds exactly if the clause
that it writes keeps them too. -/
theorem IsEditing.never_or_makes {f : Query → Build Query} (h : IsEditing part? f) :
    (∀ q q', f q ≠ .ok q') ∨
      ∃ e : Edit, e.IsLawful ∧ e.part? = part? ∧
        ∀ q, q.clause.problem? q.registry = none → ∀ q', f q = .ok q' ↔ e.Makes q q' := by
  obtain ⟨failure, hfailure⟩ | ⟨e, hlawful, hpart, failure, hf⟩ := h
  · refine .inl fun q q' hq => ?_
    rw [hfailure] at hq
    cases hq
  · refine .inr ⟨e, hlawful, hpart, fun q hq q' => ?_⟩
    rw [hf q hq]
    cases hfree : e.isTaken q.clause with
    | true => exact ⟨nofun, fun hmakes => by simp [hmakes.free] at hfree⟩
    | false =>
      rw [if_neg (by simp), adopt_eq_ok_iff]
      exact ⟨fun ⟨haccepted, hresult⟩ => ⟨hfree, haccepted, hresult⟩,
        fun hmakes => ⟨hmakes.accepted, hmakes.result⟩⟩

theorem IsEditing.bind {P : α → Prop} {x : Build α} {f : α → Query → Build Query}
    (hx : Yields P x) (h : ∀ a, P a → IsEditing part? (f a)) :
    IsEditing part? fun q => x >>= fun a => f a q := by
  cases x with
  | error e => exact .inl ⟨fun _ => e, fun _ => rfl⟩
  | ok a => exact h a (hx a rfl)

/-- Reading an argument that any value will do for. -/
theorem IsEditing.read {x : Build α} {f : α → Query → Build Query}
    (h : ∀ a, IsEditing part? (f a)) : IsEditing part? fun q => x >>= fun a => f a q :=
  IsEditing.bind (yields_true x) fun a _ => h a

theorem isEditing_refuse (c : ConfigurationError) : IsEditing part? fun _ => refuse c :=
  .inl ⟨fun _ => .refused c, fun _ => rfl⟩

theorem isEditing_misuse : IsEditing part? fun _ => misuse :=
  .inl ⟨fun _ => .misuse, fun _ => rfl⟩

/-- A step makes an edit if it adopts what the edit writes, for a part that is never taken. -/
theorem isEditing_adopt {e : Edit} (hlawful : e.IsLawful) (hpart : e.part? = part?)
    (hfree : ∀ c, e.isTaken c = false) :
    IsEditing part? fun q => q.adopt (e.write q.clause) :=
  .inr ⟨e, hlawful, hpart, fun _ => .misuse, fun q _ => by simp [hfree]⟩

theorem addPaths_eq (selection : List FieldPath) (raws : List Value) :
    addPaths selection raws = (List.foldl withPath selection) <$> raws.mapM pathOf := by
  induction raws generalizing selection with
  | nil => rfl
  | cons raw rest ih =>
    rw [addPaths, List.mapM_cons]
    cases pathOf raw with
    | error e => rfl
    | ok p =>
      change addPaths (withPath selection p) rest = _
      rw [ih]
      cases rest.mapM pathOf with
      | error e => rfl
      | ok ps => rfl

theorem yields_paths (raws : List Value) :
    Yields (fun ps => ∀ p ∈ ps, p.IsPlain) (raws.mapM pathOf) := by
  induction raws with
  | nil => exact yields_ok (by simp)
  | cons raw rest ih =>
    rw [List.mapM_cons]
    refine (yields_pathOf raw).bind fun p hp => ih.bind fun ps hps => yields_ok ?_
    exact List.forall_mem_cons.mpr ⟨hp, hps⟩

theorem isEditing_select (paths : List Value) :
    IsEditing (some .selection) fun q => q.select paths := by
  unfold select
  split
  · exact isEditing_refuse _
  · simp only [addPaths_eq, bind_map_left]
    exact IsEditing.bind (yields_paths paths) fun ps hps =>
      isEditing_adopt (e := .select ps) hps rfl fun _ => rfl

theorem isEditing_restrict (input : Predicate.Input) :
    IsEditing (some .filter) fun q => q.restrict input :=
  IsEditing.bind (Predicate.yields_normalize input) fun p hp =>
    isEditing_adopt (e := .restrict p) hp rfl fun _ => rfl

theorem isEditing_withSearch (s : Search) (h : s.IsBounded) :
    IsEditing (some .search) fun q => q.withSearch s := by
  let failure (c : Clause) : BuildError :=
    c.search.elim .misuse fun present => .refused (.searchTaken present.kind s.kind)
  refine .inr ⟨.search s, h, rfl, failure, fun q _ => ?_⟩
  unfold withSearch
  cases hsearch : q.clause.search <;> simp [failure, Edit.isTaken, Edit.write, hsearch, refuse]

theorem isEditing_searching {x : Build Search} (hx : Yields Search.IsBounded x) :
    IsEditing (some .search) fun q => x >>= fun s => q.withSearch s :=
  IsEditing.bind hx isEditing_withSearch

theorem isEditing_about (concept certainty : Value) :
    IsEditing (some .search) fun q => q.about concept certainty :=
  isEditing_searching (Search.yields_readAbout concept certainty)

theorem isEditing_words (text properties : Value) :
    IsEditing (some .search) fun q => q.words text properties :=
  IsEditing.read fun ps => isEditing_searching (Search.yields_readWords text ps)

theorem isEditing_hybrid (text alpha fusion weights : Value) :
    IsEditing (some .search) fun q => q.hybrid text alpha fusion weights := by
  have hread (es : List (String × Value)) : IsEditing (some .search) fun q : Query =>
      clausePart "Find" (Search.readHybrid text alpha fusion es) >>= fun s => q.withSearch s :=
    isEditing_searching (Search.yields_readHybrid text alpha fusion es)
  unfold hybrid
  split
  · exact hread []
  · cases weights with
    | map es => exact hread es
    | _ => exact isEditing_misuse

theorem isEditing_nearVector (vector distance id property : Value) :
    IsEditing (some .search) fun q => q.nearVector vector distance id property := by
  have hread (components : Option (List Value)) : IsEditing (some .search) fun q : Query =>
      clausePart "NearVector" (Search.readNearVector components distance id property) >>=
        fun s => q.withSearch s :=
    isEditing_searching (Search.yields_readNearVector components distance id property)
  unfold nearVector
  split
  · exact hread none
  · split
    · exact hread (some _)
    · exact isEditing_misuse

theorem isEditing_similar (id distance : Value) :
    IsEditing (some .search) fun q => q.similar id distance :=
  isEditing_searching (Search.yields_readSimilar id distance)

theorem isEditing_rerank (query property : Value) :
    IsEditing (some .rerank) fun q => q.rerank query property :=
  IsEditing.read fun r => isEditing_adopt (e := .rerank r) trivial rfl fun _ => rfl

theorem isEditing_groupBy (property maxGroups objectsPerGroup : Value) :
    IsEditing (some .groupBy) fun q => q.groupBy property maxGroups objectsPerGroup :=
  IsEditing.read fun g => isEditing_adopt (e := .groupBy g) trivial rfl fun _ => rfl

theorem isEditing_sort (field direction : Value) :
    IsEditing (some .sort) fun q => q.sort field direction := by
  refine IsEditing.bind (yields_pathOf field) fun path hpath => ?_
  cases hindex : path.hasIndex with
  | true => exact isEditing_refuse _
  | false =>
    have hkey : Yields (fun key : SortKey => key.path = path)
        (clausePart "SortEntry" (SortKey.read path direction)) := by
      intro key hkey
      unfold SortKey.read at hkey
      cases hdirection : Schema.given "direction" (Schema.choice directions) direction with
      | valid d =>
        rw [hdirection] at hkey
        obtain rfl := Except.ok.inj hkey
        rfl
      | invalid issues =>
        rw [hdirection] at hkey
        cases hkey
    exact IsEditing.bind hkey fun key hkey =>
      isEditing_adopt (e := .sort key) ⟨hkey ▸ hpath, hkey ▸ hindex⟩ rfl fun _ => rfl

theorem isEditing_limit (n : Value) : IsEditing (some .limit) fun q => q.limit n :=
  IsEditing.read fun n => isEditing_adopt (e := .limit n) trivial rfl fun _ => rfl

theorem isEditing_offset (n : Value) : IsEditing (some .offset) fun q => q.offset n :=
  IsEditing.read fun n => isEditing_adopt (e := .offset n) trivial rfl fun _ => rfl

theorem isEditing_withGeneration (g : Generation) (h : g.IsBounded) :
    IsEditing (some .generation) fun q => q.withGeneration g := by
  exact .inr ⟨.generation g, h, rfl, fun _ => .refused .generationTaken, fun q _ => rfl⟩

theorem yields_optionsOf (es : Entries Value) :
    Yields GenerationOptions.IsBounded (optionsOf es) :=
  (yields_true _).bind fun fields _ => Generation.yields_readOptions fields

theorem isEditing_generateFromOne (prompt messages : Value) (options : Entries Value) :
    IsEditing (some .generation) fun q => q.generateFromOne prompt messages options :=
  IsEditing.read fun chat => IsEditing.bind (yields_optionsOf options) fun _ ho =>
    IsEditing.bind (Generation.yields_readPerRecord ho prompt chat) isEditing_withGeneration

theorem isEditing_generateFromMany (task properties messages : Value) (options : Entries Value) :
    IsEditing (some .generation) fun q => q.generateFromMany task properties messages options :=
  IsEditing.read fun chat => IsEditing.read fun ps =>
    IsEditing.bind (yields_optionsOf options) fun _ ho =>
      IsEditing.bind (Generation.yields_readOverAll ho task chat ps) isEditing_withGeneration

theorem isEditing_ask (question properties : Value) (options : Entries Value) :
    IsEditing (some .generation) fun q => q.ask question properties options :=
  IsEditing.read fun ps => IsEditing.bind (yields_optionsOf options) fun _ ho =>
    IsEditing.bind (Generation.yields_readAsk ho question ps) isEditing_withGeneration

theorem isEditing_aggregate (metrics groupBy : Value) :
    IsEditing (some .aggregate) fun q => q.aggregate metrics groupBy := by
  -- the part is looked at before the arguments are read
  have hguard : ∀ x : Build Aggregate, IsEditing (some .aggregate) fun q : Query =>
      if q.clause.aggregate.isSome then refuse .aggregateTaken
      else x >>= fun a => q.adopt { q.clause with aggregate := some a } := by
    intro x
    cases x with
    | error e =>
      refine .inl ⟨fun c => if c.aggregate.isSome then .refused .aggregateTaken else e, ?_⟩
      intro q
      cases haggregate : q.clause.aggregate <;> simp [haggregate, refuse, bind, Except.bind]
    | ok a =>
      exact .inr ⟨.aggregate a, trivial, rfl, fun _ => .refused .aggregateTaken, fun q _ => rfl⟩
  unfold aggregate
  cases metrics with
  | map es => simpa using hguard (metricLists es >>= fun lists =>
      clausePart "AggregateDirective" (Aggregate.read lists groupBy))
  | _ => exact hguard misuse

theorem isEditing_keep : IsEditing none fun q => .ok q := by
  refine .inr ⟨.keep, trivial, rfl, fun _ => .misuse, fun q hq => ?_⟩
  exact (adopt_eq_ok_iff.mpr ⟨hq, rfl⟩).symm

theorem length_of_fill {named : Entries Value} {parameters : List (String × Option Value)}
    {values : List Value} (h : Signature.fill named parameters = some values) :
    values.length = parameters.length := by
  induction parameters generalizing values with
  | nil =>
    obtain rfl := Option.some.inj h
    rfl
  | cons p rest ih =>
    simp only [Signature.fill, Option.bind_eq_bind, Option.bind_eq_some_iff, Option.pure_def,
      Option.some.injEq] at h
    obtain ⟨v, -, vs, hvs, rfl⟩ := h
    simp [ih hvs]

/-- Every parameter gets a value. -/
theorem length_of_bind {signature : Signature} {a : Arguments} {values : List Value}
    {options : Entries Value} (h : signature.bind a = some (values, options)) :
    values.length = signature.parameters.length := by
  unfold Signature.bind at h
  by_cases hlong : signature.parameters.length < a.positional.length
  · simp [hlong] at h
  · simp only [hlong, if_false, Option.bind_eq_bind] at h
    split at h
    · cases h
    · split at h
      · cases h
      · split at h
        · cases h
        · simp only [Option.pure_def, Option.bind_eq_some_iff, Option.some.injEq,
            Prod.mk.injEq] at h
          obtain ⟨rest, hrest, rfl, -⟩ := h
          rw [List.length_append, length_of_fill hrest, List.length_drop]
          omega

/-- A step other than `collection` never succeeds, or makes one edit of its part. -/
theorem isEditing_applyBound {name : String} {signature : Signature} {values : List Value}
    {options : Entries Value} (hname : name ≠ "collection")
    (hsignature : signatures.lookup name = some signature)
    (hlength : values.length = signature.parameters.length) :
    IsEditing (partNames.lookup name) fun q => q.applyBound name values options := by
  have hmem := mem_of_lookup_eq_some hsignature
  simp only [signatures, List.mem_cons, Prod.mk.injEq, List.not_mem_nil, or_false] at hmem
  rcases hmem with ⟨rfl, rfl⟩ | ⟨rfl, rfl⟩ | ⟨rfl, rfl⟩ | ⟨rfl, rfl⟩ | ⟨rfl, rfl⟩ | ⟨rfl, rfl⟩ |
    ⟨rfl, rfl⟩ | ⟨rfl, rfl⟩ | ⟨rfl, rfl⟩ | ⟨rfl, rfl⟩ | ⟨rfl, rfl⟩ | ⟨rfl, rfl⟩ | ⟨rfl, rfl⟩ |
    ⟨rfl, rfl⟩ | ⟨rfl, rfl⟩ | ⟨rfl, rfl⟩ | ⟨rfl, rfl⟩
  · exact absurd rfl hname
  · match values, hlength with
    | [concept, certainty], _ => exact isEditing_about concept certainty
  · match values, hlength with
    | [text, properties], _ => exact isEditing_words text properties
  · match values, hlength with
    | [text, alpha, fusion, weights], _ => exact isEditing_hybrid text alpha fusion weights
  · match values, hlength with
    | [vector, distance, id, property], _ =>
      exact isEditing_nearVector vector distance id property
  · match values, hlength with
    | [id, distance], _ => exact isEditing_similar id distance
  · match values, hlength with
    | [query, property], _ => exact isEditing_rerank query property
  · match values, hlength with
    | [enabled], _ =>
      exact isEditing_adopt (e := .spellCheck enabled.isTruthy) trivial rfl fun _ => rfl
  · match values, hlength with
    | [property, maxGroups, perGroup], _ => exact isEditing_groupBy property maxGroups perGroup
  · match values, hlength with
    | [field, direction], _ => exact isEditing_sort field direction
  · match values, hlength with
    | [n], _ => exact isEditing_limit n
  · match values, hlength with
    | [n], _ => exact isEditing_offset n
  · match values, hlength with
    | [prompt, messages], _ => exact isEditing_generateFromOne prompt messages options
  · match values, hlength with
    | [task, properties, messages], _ =>
      exact isEditing_generateFromMany task properties messages options
  · match values, hlength with
    | [question, properties], _ => exact isEditing_ask question properties options
  · match values, hlength with
    | [metrics, groupBy], _ => exact isEditing_aggregate metrics groupBy
  · match values, hlength with
    | [], _ => exact isEditing_keep

theorem isEditing_applyNamed (name : String) (a : Arguments) (hname : name ≠ "collection") :
    IsEditing (partNames.lookup name) fun q => q.applyNamed name a := by
  unfold applyNamed
  by_cases hselect : name = "select"
  · subst hselect
    simp only [if_true]
    split
    · exact isEditing_select a.positional
    · exact isEditing_misuse
  simp only [hselect, if_false]
  split
  · exact isEditing_misuse
  next signature hsignature =>
  split
  · exact isEditing_misuse
  next values options hbind =>
  exact isEditing_applyBound hname hsignature (length_of_bind hbind)

theorem answered_iff {x : Build Query} {q : Query} :
    (x.map Answer.query).mapError BuildError.toFailure = .ok (.query q) ↔ x = .ok q := by
  cases x with
  | error e =>
    constructor
    · rintro ⟨⟩
    · rintro ⟨⟩
  | ok r =>
    constructor
    · rintro ⟨⟩
      rfl
    · rintro ⟨⟩
      rfl

/-- Every step goes on from a query in the way of an edit, or it only answers what the clause comes
to, unless it starts a query anew. -/
theorem edits_or_ends (c : Call) (hstart : ∀ a, c ≠ .method "collection" a) :
    (∃ f, IsEditing c.part? f ∧
      ∀ q : Query, q.call c = ((f q).map .query).mapError BuildError.toFailure) ∨
    ∃ end? : Clause → Except Failure Answer,
      (∀ clause next, end? clause ≠ .ok (.query next)) ∧ ∀ q : Query, q.call c = end? q.clause := by
  cases c with
  | restrict inputs =>
    match inputs with
    | [input] => exact .inl ⟨_, isEditing_restrict input, fun q => rfl⟩
    | [] | _ :: _ :: _ => exact .inr ⟨fun _ => .error .misuse, fun _ _ => nofun, fun _ => rfl⟩
  | method name args =>
    by_cases hend : ["validate_complete", "compile", "execute"].contains name = true
    · -- the steps that end a query look at nothing but its clause
      let end? (clause : Clause) := ({ clause } : Query).call (.method name args)
      have hanswer (q : Query) : q.call (.method name args) = end? q.clause := by
        simp only [end?, call, if_pos hend]
        rfl
      refine .inr ⟨end?, fun clause next => ?_, hanswer⟩
      simp only [end?, call, if_pos hend]
      split
      · exact nofun
      split
      · split <;> exact nofun
      split
      · cases ({ clause } : Query).compile <;> exact nofun
      · exact nofun
    · refine .inl ⟨_, isEditing_applyNamed name args fun h => hstart args (h ▸ rfl), fun q => ?_⟩
      rw [call, if_neg hend]

/-- Every step goes on from a query in the way of an edit, or never answers a query, unless it
starts a query anew. -/
theorem exists_isEditing (c : Call) (hstart : ∀ a, c ≠ .method "collection" a) :
    ∃ f, IsEditing c.part? f ∧ ∀ q q' : Query, q.call c = .ok (.query q') ↔ f q = .ok q' := by
  obtain ⟨f, hf, hcall⟩ | ⟨end?, hnever, hcall⟩ := edits_or_ends c hstart
  · exact ⟨f, hf, fun q q' => by rw [hcall, answered_iff]⟩
  · refine ⟨fun _ => misuse, isEditing_misuse, fun q q' => ⟨fun hq => ?_, nofun⟩⟩
    exact absurd (hcall q ▸ hq) (hnever q.clause q')

end Query

end Retrieval
