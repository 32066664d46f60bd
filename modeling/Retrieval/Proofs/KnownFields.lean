import Retrieval.Proofs.Clauses

/-!
What a registry does to the steps of a query. A step on a registered collection is the step on the
open collection, followed by one look at the fields of the clause that comes out. That look passes
over the properties of statistics. Main statement: whatever steps are tried, the clause names known
and internal fields only, its statistics aside; a step that names another field is refused with
exactly the unknown ones, and every other step answers as it does on the open collection.
-/

namespace Retrieval

/-- A comparison of a predicate, however deep it stands, by the path that it reads. -/
inductive Predicate.Compares : Predicate → FieldPath → Prop
  | leaf {path : FieldPath} {comparison : Comparison} {value : Value} :
    Compares (.leaf path comparison value) path
  | operand {connective : Connective} {operands : List Predicate} {p : Predicate}
    {path : FieldPath} : p ∈ operands → Compares p path → Compares (.group connective operands) path

/-- The top-level names of the fields that a clause is about, by the part that names them. -/
inductive Clause.Names (c : Clause) : Query.Part → String → Prop
  | selected {path : FieldPath} : path ∈ c.selection → Names c .selection path.root
  | compared {p : Predicate} {path : FieldPath} : c.filter = some p → p.Compares path →
    Names c .filter path.root
  | sorted {key : SortKey} : key ∈ c.sort → Names c .sort key.path.root
  | grouped {g : Grouping} : c.groupBy = some g → Names c .groupBy g.property
  | measured {a : Aggregate} {property : String} {metrics : List Metric} :
    c.aggregate = some a → (property, metrics) ∈ a.metrics → Names c .aggregate property
  | aggregated {a : Aggregate} {property : String} :
    c.aggregate = some a → a.groupBy = some property → Names c .aggregate property

/-- A name is among the known fields or internal. -/
def Registry.Allows (known : List Value) (root : String) : Prop :=
  root ∈ known.filterMap Value.text? ∨ root.startsWith "_" = true

instance (known : List Value) (root : String) : Decidable (Registry.Allows known root) :=
  inferInstanceAs (Decidable (_ ∨ _))

/-- All names are allowed but for those of statistics, which may be any. -/
def Clause.IsWithin (c : Clause) (known : List Value) : Prop :=
  ∀ part root, part ≠ Query.Part.aggregate → c.Names part root → Registry.Allows known root

namespace Predicate

theorem mem_leavesOf {l : FieldPath × Comparison × Value} {ps : List Predicate} :
    l ∈ leavesOf ps ↔ ∃ p ∈ ps, l ∈ p.leaves := by
  induction ps with
  | nil => simp [leavesOf]
  | cons p ps ih => simp [leavesOf, ih]

theorem Compares.mem_leaves {p : Predicate} {path : FieldPath} (h : p.Compares path) :
    ∃ l ∈ p.leaves, l.1 = path := by
  induction h with
  | @leaf path comparison value => exact ⟨(path, comparison, value), by simp [leaves], rfl⟩
  | operand hmem _ ih =>
    obtain ⟨l, hl, hpath⟩ := ih
    exact ⟨l, mem_leavesOf.mpr ⟨_, hmem, hl⟩, hpath⟩

theorem compares_of_mem_leaves {l : FieldPath × Comparison × Value} :
    (p : Predicate) → l ∈ p.leaves → p.Compares l.1
  | .leaf path comparison value, h => by
    have hl : l = (path, comparison, value) := by simpa [leaves] using h
    exact hl ▸ .leaf
  | .group connective operands, h => by
    obtain ⟨p, hmem, hl⟩ := mem_leavesOf.mp h
    exact .operand hmem (compares_of_mem_leaves p hl)

end Predicate

namespace Clause

/-- The names that are looked up are those of all parts but the statistics. -/
theorem mem_fieldRoots_iff_names {c : Clause} {root : String} :
    root ∈ c.fieldRoots ↔ ∃ part, part ≠ Query.Part.aggregate ∧ c.Names part root := by
  constructor
  · intro h
    simp only [fieldRoots, List.mem_append, List.mem_map, Option.mem_toList,
      Option.map_eq_some_iff] at h
    obtain ((⟨path, hpath, rfl⟩ | ⟨l, hl, rfl⟩) | ⟨key, hkey, rfl⟩) | ⟨g, hg, rfl⟩ := h
    · exact ⟨.selection, by decide, .selected hpath⟩
    · cases hfilter : c.filter with
      | none => simp [hfilter, Predicate.leavesIn] at hl
      | some p =>
        rw [hfilter] at hl
        exact ⟨.filter, by decide, .compared hfilter (p.compares_of_mem_leaves hl)⟩
    · exact ⟨.sort, by decide, .sorted hkey⟩
    · exact ⟨.groupBy, by decide, .grouped hg⟩
  · rintro ⟨part, hpart, hnames⟩
    simp only [fieldRoots, List.mem_append, List.mem_map, Option.mem_toList,
      Option.map_eq_some_iff]
    cases hnames with
    | selected hpath => exact .inl (.inl (.inl ⟨_, hpath, rfl⟩))
    | compared hfilter hcompares =>
      obtain ⟨l, hl, rfl⟩ := hcompares.mem_leaves
      exact .inl (.inl (.inr ⟨l, by rw [hfilter]; exact hl, rfl⟩))
    | sorted hkey => exact .inl (.inr ⟨_, hkey, rfl⟩)
    | grouped hg => exact .inr ⟨_, hg, rfl⟩
    | measured | aggregated => exact absurd rfl hpart

theorem mem_sortedTexts {x : String} {xs : List String} : x ∈ sortedTexts xs ↔ x ∈ xs := by
  rw [sortedTexts, List.mem_eraseDups, List.mem_mergeSort]

/-- The unknown names are those that parts other than the statistics name and that are not
allowed. -/
theorem mem_unknownRoots_iff {c : Clause} {known : List Value} {root : String} :
    root ∈ c.unknownRoots (known.filterMap Value.text?) ↔
      (∃ part, part ≠ Query.Part.aggregate ∧ c.Names part root) ∧
        ¬ Registry.Allows known root := by
  rw [unknownRoots, mem_sortedTexts, List.mem_filter, mem_fieldRoots_iff_names]
  simp [Registry.Allows]

theorem isWithin_iff {c : Clause} {known : List Value} :
    c.IsWithin known ↔ c.unknownRoots (known.filterMap Value.text?) = [] := by
  rw [List.eq_nil_iff_forall_not_mem]
  constructor
  · intro h root hroot
    obtain ⟨⟨part, hpart, hnames⟩, hunknown⟩ := mem_unknownRoots_iff.mp hroot
    exact hunknown (h part root hpart hnames)
  · intro h part root hpart hnames
    by_contra hunknown
    exact h root (mem_unknownRoots_iff.mpr ⟨⟨part, hpart, hnames⟩, hunknown⟩)

end Clause

namespace Query

variable {part? : Option Part} {f : Query → Build Query} {q : Query}

/-- The query on the open collection, where every field may be named. -/
def unregistered (q : Query) : Query := { q with registry := none }

theorem problem?_unregistered (h : q.clause.problem? q.registry = none) :
    q.unregistered.clause.problem? q.unregistered.registry = none := by
  rw [Clause.problem?_eq_none_iff] at h ⊢
  exact ⟨h.1, fun root _ => nofun⟩

/-- The rules on parts come first, so that it does no harm to look at the fields after them. -/
theorem adopt_eq_bind (q : Query) (c : Clause) :
    q.adopt c = q.unregistered.adopt c >>= fun next => q.adopt next.clause := by
  cases hconflict : c.conflict? with
  | some e => simp [adopt, Clause.problem?, hconflict, refuse, bind, Except.bind]
  | none => simp [adopt, Clause.problem?, unregistered, hconflict, bind, Except.bind]

/-- An edit on a registered collection is the edit on the open one, adopted. -/
theorem IsEditing.eq_bind (h : IsEditing part? f) (hq : q.clause.problem? q.registry = none) :
    f q = f q.unregistered >>= fun next => q.adopt next.clause := by
  obtain ⟨failure, hfailure⟩ | ⟨e, -, -, failure, hf⟩ := h
  · rw [hfailure, hfailure]
    rfl
  · rw [hf q hq, hf q.unregistered (problem?_unregistered hq)]
    change (if e.isTaken q.clause then _ else _) =
      (if e.isTaken q.clause then _ else q.unregistered.adopt (e.write q.clause)) >>= _
    cases e.isTaken q.clause with
    | true => rfl
    | false => exact adopt_eq_bind q _

/-- A step that answers no query on the open collection answers the same on a registered one. -/
theorem call_of_ne_query {c : Call} (hq : q.clause.problem? q.registry = none)
    (hstart : ∀ args, c ≠ .method "collection" args)
    (h : ∀ next, q.unregistered.call c ≠ .ok (.query next)) :
    q.call c = q.unregistered.call c := by
  obtain ⟨f, hf, hcall⟩ | ⟨end?, -, hcall⟩ := edits_or_ends c hstart
  · rw [hcall, hcall, hf.eq_bind hq]
    cases hnext : f q.unregistered with
    | error e => rfl
    | ok next => exact absurd (by rw [hcall, hnext]; rfl) (h next)
  · rw [hcall, hcall]
    rfl

/-- A step that answers a query on the open collection has its clause adopted on a registered
one. -/
theorem call_of_query {c : Call} {next : Query} (hq : q.clause.problem? q.registry = none)
    (hstart : ∀ args, c ≠ .method "collection" args)
    (h : q.unregistered.call c = .ok (.query next)) :
    q.call c = ((q.adopt next.clause).map .query).mapError BuildError.toFailure := by
  obtain ⟨f, hf, hcall⟩ | ⟨end?, hnever, hcall⟩ := edits_or_ends c hstart
  · rw [hcall, answered_iff] at h
    rw [hcall, hf.eq_bind hq, h]
    rfl
  · rw [hcall] at h
    exact absurd h (hnever _ next)

/-- Steps keep the registry and the collection, unless they start a query anew. -/
theorem registry_after {calls : List Call} (hq : q.IsSound)
    (hstart : ∀ args, Call.method "collection" args ∉ calls) :
    (q.after calls).registry = q.registry ∧
      (q.after calls).clause.collection = q.clause.collection := by
  have hall : (q.after calls).IsSound ∧ (q.after calls).registry = q.registry ∧
      (q.after calls).clause.collection = q.clause.collection := by
    apply after_of_call (P := fun r => r.IsSound ∧ r.registry = q.registry ∧
      r.clause.collection = q.clause.collection) _ ⟨hq, rfl, rfl⟩
    intro c hc r r' ⟨hr, hregistry, hcollection⟩ hcall
    obtain ⟨f, hf, hiff⟩ := exists_isEditing c fun args h => hstart args (h ▸ hc)
    obtain ⟨e, -, -, hmakes⟩ := hr.exists_makes hf ((hiff r r').mp hcall)
    refine ⟨hr.call hcall, ?_⟩
    rw [hmakes.result]
    exact ⟨hregistry, (e.collection_write r.clause).trans hcollection⟩
  exact hall.2

theorem IsSound.unregistered (h : q.IsSound) : q.unregistered.IsSound :=
  ⟨h.lawful, h.bounded, problem?_unregistered h.accepted⟩

/-- What the look-up makes of a clause that keeps the rules on parts. -/
theorem adopt_of_isConsistent {registry : Registry} {known : List Value} {c : Clause}
    (hregistry : q.registry = some registry)
    (hknown : registry.knownFields (.text c.collection) = some known) (hc : c.IsConsistent) :
    (c.IsWithin known → q.adopt c = .ok { q with clause := c }) ∧
      (¬ c.IsWithin known → q.adopt c =
        refuse (.unknownFields c.collection (c.unknownRoots (known.filterMap Value.text?)))) := by
  have hconflict := (Clause.conflict?_eq_none_iff c).mpr hc
  constructor
  · intro hwithin
    simp [adopt, Clause.problem?, hconflict, hregistry, hknown, Clause.isWithin_iff.mp hwithin]
  · intro hwithin
    have hunknown := mt Clause.isWithin_iff.mpr hwithin
    simp [adopt, Clause.problem?, hconflict, hregistry, hknown, hunknown]

/-- A step that writes statistics names nothing anew that is looked up. -/
theorem isWithin_of_part? {e : Edit} {c : Clause} {known : List Value}
    (he : e.part? = some .aggregate) (h : c.IsWithin known) : (e.write c).IsWithin known := by
  cases e with
  | aggregate a =>
    intro part root hpart hnames
    cases hnames with
    | selected hpath => exact h _ _ hpart (.selected hpath)
    | compared hfilter hcompares => exact h _ _ hpart (.compared hfilter hcompares)
    | sorted hkey => exact h _ _ hpart (.sorted hkey)
    | grouped hg => exact h _ _ hpart (.grouped hg)
    | measured | aggregated => exact absurd rfl hpart
  | _ => cases he

/-- A step on the open collection whose clause the registry accepts. -/
theorem IsSound.exists_makes_unregistered {c : Call} {next : Query} (h : q.IsSound)
    (hstart : ∀ args, c ≠ .method "collection" args)
    (hcall : q.unregistered.call c = .ok (.query next)) :
    ∃ e : Edit, e.part? = c.part? ∧ next = { q.unregistered with clause := e.write q.clause } ∧
      next.clause.IsConsistent := by
  obtain ⟨f, hf, hiff⟩ := exists_isEditing c hstart
  obtain ⟨e, -, hpart, hmakes⟩ := h.unregistered.exists_makes hf ((hiff _ next).mp hcall)
  exact ⟨e, hpart, hmakes.result, (h.unregistered.call hcall).lawful.toIsConsistent⟩

/-- Whatever steps are tried on a registered collection, the clause names known and internal fields
only, its statistics aside. A step answers as on the open collection, unless the clause would name
other fields; then it is refused with exactly those. A step that writes statistics is never refused
for its fields. -/
theorem isWithin_after {name : Value} {registry : Registry} {known : List Value}
    (h : collection name (some registry) = .ok q)
    (hknown : registry.knownFields (.text q.clause.collection) = some known)
    {calls : List Call} (hcalls : ∀ args, Call.method "collection" args ∉ calls) :
    (q.after calls).clause.IsWithin known ∧
      ∀ c : Call, (∀ args, c ≠ .method "collection" args) →
        ((∀ next, (q.after calls).unregistered.call c ≠ .ok (.query next)) →
          (q.after calls).call c = (q.after calls).unregistered.call c) ∧
        ∀ next, (q.after calls).unregistered.call c = .ok (.query next) →
          (next.clause.IsWithin known →
            (q.after calls).call c = .ok (.query { next with registry := some registry })) ∧
          (¬ next.clause.IsWithin known → ∃ unknown,
            (q.after calls).call c = .error
              (.query (.configuration (.unknownFields q.clause.collection unknown))) ∧
            ∀ root, root ∈ unknown ↔
              (∃ part, part ≠ .aggregate ∧ next.clause.Names part root) ∧
                ¬ Registry.Allows known root) ∧
          (c.part? = some .aggregate → next.clause.IsWithin known) := by
  have hsound := (isSound_collection h).after calls
  have hregistry : (q.after calls).registry = some registry := by
    obtain ⟨s, rfl⟩ := exists_eq_of_collection h
    exact (registry_after (isSound_collection h) hcalls).1
  have hcollection := (registry_after (isSound_collection h) hcalls).2
  have hwithin : (q.after calls).clause.IsWithin known := by
    intro part root hpart hnames
    have hroot := Clause.mem_fieldRoots_iff_names.mpr ⟨part, hpart, hnames⟩
    have hallowed := ((Clause.problem?_eq_none_iff _ _).mp hsound.accepted).2 root hroot
    apply hallowed known
    rw [hregistry, hcollection]
    exact hknown
  refine ⟨hwithin, fun c hstart => ⟨call_of_ne_query hsound.accepted hstart, fun next hnext => ?_⟩⟩
  obtain ⟨e, hpart, rfl, hconsistent⟩ := hsound.exists_makes_unregistered hstart hnext
  have hwritten := (e.collection_write (q.after calls).clause).trans hcollection
  obtain ⟨hadopted, hrefused⟩ := adopt_of_isConsistent hregistry (hwritten ▸ hknown) hconsistent
  rw [call_of_query hsound.accepted hstart hnext]
  refine ⟨?_, ?_, fun haggregate => isWithin_of_part? (hpart.trans haggregate) hwithin⟩
  · intro hallowed
    rw [hadopted hallowed, ← hregistry]
    rfl
  · intro hunknown
    refine ⟨_, ?_, fun root => Clause.mem_unknownRoots_iff⟩
    rw [hrefused hunknown]
    rw [← hwritten]
    rfl

/-- A registry with one field of one collection. -/
def namedAuthors : Registry := ⟨[(.text "Author", [.text "name"])]⟩

/-- A filter on a known and an internal field, and one on an unknown field, which is refused. -/
def lookedUp : List Call :=
  [.restrict [.expression (.join .and [.apply "Like" [.text "name", .text "A*"],
      .apply "IsNull" [.text "_hidden", .bool true]])],
    .restrict [.expression (.apply "Equal" [.text "token", .int 1])]]

theorem isWithin_after_namedAuthors :
    ∃ q, collection (.text "Author") (some namedAuthors) = .ok q ∧
      (q.after lookedUp).clause.IsWithin [.text "name"] ∧
      (Predicate.leavesIn (q.after lookedUp).clause.filter).map (·.1.root) = ["name", "_hidden"] ∧
      (∃ unknown, "token" ∈ unknown ∧
        q.call (.method "select" ⟨[.text "name", .text "token"], []⟩) =
          .error (.query (.configuration (.unknownFields "Author" unknown)))) ∧
      ∃ next, next.clause.Names .aggregate "token" ∧
        q.call (.method "aggregate" ⟨[.map [("token", .list [.text "mode"])]], []⟩) =
          .ok (.query next) := by
  have hstart : collection (.text "Author") (some namedAuthors) =
      .ok { clause := { collection := "Author" }, registry := some namedAuthors } := rfl
  have hlater : ∀ args, Call.method "collection" args ∉ lookedUp := by simp [lookedUp]
  have hnone : ∀ args, Call.method "collection" args ∉ ([] : List Call) := by simp
  obtain ⟨-, hsteps⟩ := isWithin_after hstart rfl hnone
  refine ⟨_, hstart, (isWithin_after hstart rfl hlater).1, by decide +kernel, ?_, ?_⟩
  · obtain ⟨-, hselect⟩ := hsteps (.method "select" ⟨[.text "name", .text "token"], []⟩) (by simp)
    obtain ⟨-, hrefused, -⟩ :=
      hselect { clause := { collection := "Author", selection := [⟨"name", []⟩, ⟨"token", []⟩] } } rfl
    have hnamed : Clause.Names { collection := "Author", selection := [⟨"name", []⟩, ⟨"token", []⟩] }
        .selection (FieldPath.root ⟨"token", []⟩) := .selected (by simp)
    have hunknown : ¬ Registry.Allows [.text "name"] "token" := by decide +kernel
    obtain ⟨unknown, hcall, hmem⟩ := hrefused fun h => hunknown (h _ _ (by decide) hnamed)
    exact ⟨unknown, (hmem _).mpr ⟨⟨_, by decide, hnamed⟩, hunknown⟩, hcall⟩
  · obtain ⟨-, haggregate⟩ :=
      hsteps (.method "aggregate" ⟨[.map [("token", .list [.text "mode"])]], []⟩) (by simp)
    obtain ⟨haccepted, -, hwithin⟩ := haggregate _ rfl
    exact ⟨_, .measured rfl (.head _), haccepted (hwithin rfl)⟩

end Query

end Retrieval
