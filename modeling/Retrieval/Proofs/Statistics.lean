import Retrieval.Proofs.Documents
import Retrieval.Proofs.Dropping
import Retrieval.Proofs.ResponseKeys

/-!
Statistics that are asked for and answered. The fields that a document asks about each group tell
the number of its records and its key, and then one property after another. The answer has one value
for each name, so that a property with the name of one of the first two fields shares that field
with it. Main statement: from an answer with exactly the fields that were asked for, each group is
read with its size, its key and, for each property by another name, the one entry with the answer's
values; a property by one of these two names has none.
-/

namespace Retrieval

/-- What has a key of its own is alone under it. -/
theorem Entries.filter_key_eq {α : Type} {key : String} {value : α} {es : Entries α}
    (hnodup : (keys es).Nodup) (hmem : (key, value) ∈ es) :
    es.filter (fun e => e.1 == key) = [(key, value)] := by
  induction es with
  | nil => cases hmem
  | cons e rest ih =>
    obtain ⟨hfirst, hrest⟩ := List.nodup_cons.mp hnodup
    obtain rfl | hmem := List.mem_cons.mp hmem
    · have hnone : rest.filter (fun e => e.1 == key) = [] := by
        rw [List.filter_eq_nil_iff]
        intro other hother hkey
        have hsame : key ∈ keys rest := beq_iff_eq.mp hkey ▸ List.mem_map.mpr ⟨other, hother, rfl⟩
        exact hfirst hsame
      simp [hnone]
    · have hkey : e.1 ≠ key := by
        intro hsame
        exact hfirst (List.mem_map.mpr ⟨_, hmem, hsame.symm⟩)
      simpa [hkey] using ih hrest hmem

namespace Document

/-- What is selected below a field. -/
def Shape.selection : Shape → List Shape
  | .field _ selection => selection

/-- What is selected below a key: fields with one key are answered together. -/
def below (key : String) (shapes : List Shape) : List Shape :=
  (shapes.filter fun s => s.key == key).flatMap Shape.selection

theorem mem_below_iff {key : String} {shapes : List Shape} {inner : Shape} :
    inner ∈ below key shapes ↔ ∃ shape ∈ shapes, shape.key = key ∧ inner ∈ shape.selection := by
  simp [below, and_assoc]

/-- An object with exactly the fields of a selection, each once. -/
structure HasFields (shapes : List Shape) (es : Entries Value) : Prop where
  nodup : (Entries.keys es).Nodup
  mem_keys_iff (key : String) : key ∈ Entries.keys es ↔ key ∈ shapes.map Shape.key

/-- An object of objects with exactly the fields of a selection, each once. -/
structure HasObjects (shapes : List Shape) (es : Entries Value) : Prop
    extends HasFields shapes es where
  object {key : String} {v : Value} : (key, v) ∈ es →
    ∃ inner, v = .map inner ∧ HasFields (below key shapes) inner

end Document

open Document
open Literal (IsName)

namespace Envelope

open Schema
open Compilation hiding groupFields

variable {a : Aggregate} {item : Entries Value} {property : String}

/-- A group as the backend answers it: it has the fields that were asked for, the number of its
records is an integer or unknown, and the path of its key consists of names. -/
structure IsGroupAnswer (a : Aggregate) (item : Entries Value) : Prop where
  objects : HasObjects (aggregateShapes a) item
  count : ∃ n : Option Int, field "count" (inside "meta" item) = n.elim .null .int
  path : a.groupBy.isSome → ∃ names : List String,
    field "path" (inside "groupedBy" item) = .list (names.map .text)

/-- A group that says what its answer says, but for the statistics of a property by the name of a
field that every group has. -/
structure IsGroupOf (a : Aggregate) (item : Entries Value) (g : Group) : Prop where
  count : field "count" (inside "meta" item) = g.count.elim .null .int
  key : g.key = field "value" (inside "groupedBy" item)
  path : a.groupBy.isSome → field "path" (inside "groupedBy" item) = .list (g.path.map .text)
  statistics {property : String} {metrics : List Metric} : (property, metrics) ∈ a.metrics →
    metrics ≠ [] → property ∉ groupFields → ∃ values,
      Entries.get? property item = some (.map values) ∧
        g.statistics.filter (fun e => e.1 == property) = [(property, values)] ∧
          ∀ metric ∈ metrics, ∃ v, Entries.get? metric.name values = some v
  only {e : String × Entries Value} : e ∈ g.statistics → e.1 ∉ groupFields ∧
    ∃ metrics, metrics ≠ [] ∧ (e.1, metrics) ∈ a.metrics

theorem key_metricShape (metric : Metric) : (metricShape metric).key = metric.name := by
  cases metric <;> rfl

theorem mem_aggregateShapes_iff {shape : Shape} : shape ∈ aggregateShapes a ↔
    shape = Shape.over { name := "meta" } ["count"] ∨
      (a.groupBy.isSome ∧ shape = Shape.over { name := "groupedBy" } ["path", "value"]) ∨
        ∃ property metrics, metrics ≠ [] ∧ (property, metrics) ∈ a.metrics ∧
          shape = .field { name := property } (metrics.map metricShape) := by
  unfold aggregateShapes
  rw [List.mem_append, List.mem_append, List.mem_singleton, List.mem_filterMap, or_assoc]
  have hgrouped : (shape ∈ if a.groupBy.isSome
      then [Shape.over { name := "groupedBy" } ["path", "value"]] else []) ↔
        a.groupBy.isSome ∧ shape = Shape.over { name := "groupedBy" } ["path", "value"] := by
    cases a.groupBy <;> simp
  refine or_congr_right (or_congr hgrouped ?_)
  constructor
  · rintro ⟨⟨property, metrics⟩, hmem, hshape⟩
    cases metrics with
    | nil => cases hshape
    | cons metric more =>
      exact ⟨property, _, List.cons_ne_nil _ _, hmem, by simpa using hshape.symm⟩
  · rintro ⟨property, metrics, hne, hmem, rfl⟩
    exact ⟨(property, metrics), hmem, by simp [hne]⟩

/-- The keys of a group are those of the fields of every group and the properties with metrics. -/
theorem mem_keys_aggregateShapes_iff {key : String} :
    key ∈ (aggregateShapes a).map Shape.key ↔
      key = "meta" ∨ (a.groupBy.isSome ∧ key = "groupedBy") ∨
        ∃ metrics, metrics ≠ [] ∧ (key, metrics) ∈ a.metrics := by
  rw [List.mem_map]
  constructor
  · rintro ⟨shape, hshape, rfl⟩
    obtain rfl | ⟨hgrouped, rfl⟩ | ⟨property, metrics, hne, hmem, rfl⟩ :=
      mem_aggregateShapes_iff.mp hshape
    · exact .inl rfl
    · exact .inr (.inl ⟨hgrouped, rfl⟩)
    · exact .inr (.inr ⟨metrics, hne, hmem⟩)
  · rintro (rfl | ⟨hgrouped, rfl⟩ | ⟨metrics, hne, hmem⟩)
    · exact ⟨_, mem_aggregateShapes_iff.mpr (.inl rfl), rfl⟩
    · exact ⟨_, mem_aggregateShapes_iff.mpr (.inr (.inl ⟨hgrouped, rfl⟩)), rfl⟩
    · exact ⟨_, mem_aggregateShapes_iff.mpr (.inr (.inr ⟨key, metrics, hne, hmem, rfl⟩)), rfl⟩

/-- Below a property with metrics each of them has a field. -/
theorem mem_keys_below_of_metric {metrics : List Metric} {metric : Metric}
    (hmem : (property, metrics) ∈ a.metrics) (hmetric : metric ∈ metrics) :
    metric.name ∈ (below property (aggregateShapes a)).map Shape.key := by
  have hshape := mem_aggregateShapes_iff.mpr
    (.inr (.inr ⟨property, metrics, List.ne_nil_of_mem hmetric, hmem, rfl⟩))
  refine List.mem_map.mpr ⟨metricShape metric, ?_, key_metricShape metric⟩
  exact mem_below_iff.mpr ⟨_, hshape, rfl, List.mem_map_of_mem hmetric⟩

/-- Below the key of the groups there is a path only if there are groups. -/
theorem path_not_mem_keys_below (h : a.groupBy.isSome = false) :
    "path" ∉ (below "groupedBy" (aggregateShapes a)).map Shape.key := by
  intro hmem
  obtain ⟨inner, hinner, hpath⟩ := List.mem_map.mp hmem
  obtain ⟨shape, hshape, hkey, hselected⟩ := mem_below_iff.mp hinner
  obtain rfl | ⟨hgrouped, -⟩ | ⟨property, metrics, -, -, rfl⟩ := mem_aggregateShapes_iff.mp hshape
  · exact absurd hkey (by decide)
  · rw [h] at hgrouped
    cases hgrouped
  · obtain ⟨metric, -, rfl⟩ := List.mem_map.mp hselected
    rw [key_metricShape] at hpath
    revert hpath
    cases metric <;> decide

theorem IsGroupAnswer.isFields (h : IsGroupAnswer a item) (key : String) :
    IsFields (Entries.get? key item) := by
  cases hvalue : Entries.get? key item with
  | none => exact .inl rfl
  | some v =>
    obtain ⟨inner, rfl, -⟩ := h.objects.object (Entries.mem_of_get?_eq_some hvalue)
    exact .inr (.inr ⟨inner, rfl⟩)

/-- The path of a group's key is read, and it is empty if there are no groups. -/
theorem IsGroupAnswer.exists_path (h : IsGroupAnswer a item) : ∃ names : List String,
    elementsAt "path" (inside "groupedBy" item) = .ok (names.map .text) ∧
      (a.groupBy.isSome →
        field "path" (inside "groupedBy" item) = .list (names.map .text)) := by
  cases hgrouped : a.groupBy.isSome with
  | true =>
    obtain ⟨names, hnames⟩ := h.path hgrouped
    refine ⟨names, elementsAt_of_get? ?_, fun _ => hnames⟩
    unfold field at hnames
    cases hvalue : Entries.get? "path" (inside "groupedBy" item) with
    | none => rw [hvalue] at hnames; cases hnames
    | some v => rw [hvalue] at hnames; exact congrArg some hnames
  | false =>
    refine ⟨[], ?_, nofun⟩
    have hnone : Entries.get? "path" (inside "groupedBy" item) = none := by
      unfold inside
      cases hvalue : Entries.get? "groupedBy" item with
      | none => rfl
      | some v =>
        obtain ⟨inner, rfl, hinner⟩ := h.objects.object (Entries.mem_of_get?_eq_some hvalue)
        rw [fieldsIn, Entries.get?_eq_none_iff, hinner.mem_keys_iff]
        exact path_not_mem_keys_below hgrouped
    rw [elementsAt, hnone]
    rfl

/-- An answer for a group is read as the fields that it has. -/
theorem IsGroupAnswer.exists_readGroup (h : IsGroupAnswer a item) : ∃ g, readGroup item = .ok g ∧
    field "count" (inside "meta" item) = g.count.elim .null .int ∧
    g.key = field "value" (inside "groupedBy" item) ∧
    (a.groupBy.isSome → field "path" (inside "groupedBy" item) = .list (g.path.map .text)) ∧
    g.statistics = statisticsOf item := by
  obtain ⟨n, hcount⟩ := h.count
  obtain ⟨names, helements, hpath⟩ := h.exists_path
  refine ⟨⟨_, names, n, statisticsOf item⟩, ?_, hcount, rfl, hpath, rfl⟩
  have hnames : items text (names.map .text) = .valid names := by
    rw [items_eq_valid_iff, List.map_map]
    rfl
  have hsize :
      given "count" (optional integer) (field "count" (inside "meta" item)) = .valid n := by
    rw [hcount]
    cases n <;> rfl
  rw [readGroup, blockAt_of_isFields (h.isFields _), ok_bind, helements, ok_bind,
    blockAt_of_isFields (h.isFields _), ok_bind, hnames, hsize]
  rfl

theorem mem_statisticsOf_iff {values : Entries Value} : (property, values) ∈ statisticsOf item ↔
    (property, .map values) ∈ item ∧ property ∉ groupFields := by
  rw [statisticsOf, List.mem_filterMap]
  constructor
  · rintro ⟨⟨name, v⟩, hmem, hstatistic⟩
    dsimp only at hstatistic
    split at hstatistic
    · cases hstatistic
    · next hfield =>
      obtain ⟨inner, hinner, hsame⟩ := Option.map_eq_some_iff.mp hstatistic
      obtain ⟨rfl, rfl⟩ := Prod.mk.inj hsame
      cases v with
      | map es =>
        obtain rfl := Option.some.inj hinner
        exact ⟨hmem, by simpa using hfield⟩
      | _ => cases hinner
  · rintro ⟨hmem, hfield⟩
    exact ⟨_, hmem, by simp [hfield, Value.entries?]⟩

theorem keys_statisticsOf_sublist (item : Entries Value) :
    (Entries.keys (statisticsOf item)).Sublist (Entries.keys item) := by
  induction item with
  | nil => exact .slnil
  | cons e rest ih =>
    have hcons : statisticsOf (e :: rest) = statisticsOf [e] ++ statisticsOf rest :=
      List.filterMap_append (l := [e])
    have hfirst : (Entries.keys (statisticsOf [e])).Sublist [e.1] := by
      obtain ⟨name, v⟩ := e
      by_cases hfield : name ∈ groupFields
      · simp [statisticsOf, Entries.keys, hfield]
      · cases hvalue : v.entries? <;> simp [statisticsOf, Entries.keys, hfield, hvalue]
    rw [hcons, Entries.keys, List.map_append]
    exact hfirst.append ih

/-- A group that is read of an answer says what the answer says. -/
theorem IsGroupAnswer.exists_isGroupOf (h : IsGroupAnswer a item) :
    ∃ g, readGroup item = .ok g ∧ IsGroupOf a item g := by
  obtain ⟨g, hread, hcount, hkey, hpath, hstatistics⟩ := h.exists_readGroup
  have hnodup : (Entries.keys (statisticsOf item)).Nodup :=
    (keys_statisticsOf_sublist item).nodup h.objects.nodup
  refine ⟨g, hread, ⟨hcount, hkey, hpath, ?_, ?_⟩⟩
  · intro property metrics hmem hne hfield
    have hproperty : property ∈ Entries.keys item :=
      (h.objects.mem_keys_iff _).mpr (mem_keys_aggregateShapes_iff.mpr (.inr (.inr ⟨_, hne, hmem⟩)))
    obtain ⟨v, hv⟩ := Entries.exists_get?_of_mem_keys hproperty
    obtain ⟨values, rfl, hvalues⟩ := h.objects.object (Entries.mem_of_get?_eq_some hv)
    refine ⟨values, hv, ?_, fun metric hmetric => ?_⟩
    · rw [hstatistics]
      apply Entries.filter_key_eq hnodup
      exact mem_statisticsOf_iff.mpr ⟨Entries.mem_of_get?_eq_some hv, hfield⟩
    · apply Entries.exists_get?_of_mem_keys
      exact (hvalues.mem_keys_iff _).mpr (mem_keys_below_of_metric hmem hmetric)
  · rintro ⟨property, values⟩ hmem
    rw [hstatistics] at hmem
    obtain ⟨hmem, hfield⟩ := mem_statisticsOf_iff.mp hmem
    have hkey := (h.objects.mem_keys_iff _).mp (List.mem_map_of_mem hmem)
    refine ⟨hfield, ?_⟩
    obtain rfl | ⟨-, rfl⟩ | hmetrics := mem_keys_aggregateShapes_iff.mp hkey
    · simp [groupFields] at hfield
    · simp [groupFields] at hfield
    · exact hmetrics

variable {m : Member} {multiplexed : Bool} {es : Entries Value} {items : List (Entries Value)}

theorem exists_extentOf_iff (count : Nat) (total : Value) :
    (∃ extent, extentOf count total = .ok extent) ↔
      ∃ n, optional integer total = .valid n := by
  unfold extentOf given
  cases optional integer total with
  | valid n => exact ⟨fun _ => ⟨n, rfl⟩, fun _ => ⟨_, rfl⟩⟩
  | invalid issues =>
    constructor
    · rintro ⟨extent, hextent⟩
      cases hextent
    · rintro ⟨n, hn⟩
      cases hn

/-- Groups have an extent whatever they are, if no groups have one with the same total. -/
theorem exists_groupResult {collection : String} {total : Value} {errors : List ReportedError}
    {r : QueryResult} (h : groupResult collection total [] errors = .ok r) (groups : List Group) :
    ∃ extent, groupResult collection total groups [] =
      .ok (.groups ⟨collection, groups, extent, []⟩) := by
  have htotal : ∃ n, optional integer total = .valid n := by
    obtain ⟨extent, hextent, -⟩ := bind_eq_ok_iff.mp h
    cases total with
    | null => exact ⟨none, rfl⟩
    | _ => exact (exists_extentOf_iff 0 _).mp ⟨extent, hextent⟩
  unfold groupResult
  cases total with
  | null =>
    cases sumOfCounts groups with
    | none => exact ⟨⟨groups.length, none⟩, rfl⟩
    | some n => exact ⟨⟨groups.length, some n⟩, rfl⟩
  | _ =>
    obtain ⟨extent, hextent⟩ := (exists_extentOf_iff groups.length _).mpr htotal
    refine ⟨extent, ?_⟩
    simp only [hextent]
    rfl

/-- What the parts of an answer give to a member that asks for statistics. -/
theorem readParts_of_aggregate (hm : m.operation = .aggregate) (totals : Value)
    (items : List Value) : readParts m ([], kept items, totals) = (do
      let groups ← (mappings items).mapM readGroup
      let total ← totalOf m totals
      groupResult m.collection total groups []) := by
  unfold readParts
  rw [hm]
  dsimp only
  rw [accountOf_outcome, readItems_outcome, mappings_kept]
  cases hgroups : (mappings items).mapM readGroup with
  | error fault => rfl
  | ok groups =>
    have hnone : (readItems readGroup 0 (kept items)).dropped = [] := by
      rw [readItems_dropped ((readItems_outcome ..).trans (mappings_kept items ▸ hgroups)),
        strays_kept]
    rw [ok_bind, ok_bind, hnone, finishGroups_outcome]
    rfl

/-- Groups in the place of a section are read one by one, in an answer that can be read without
them. -/
theorem exists_groups_of_answers (hm : m.operation = .aggregate) {bare : QueryResult}
    (hbare : (normalize m multiplexed (.map (withSection m (.list []) es))).outcome = .ok bare)
    (hitems : ∀ item ∈ items, IsGroupAnswer a item) :
    ∃ r : GroupResult, (normalize m multiplexed
        (.map (withSection m (.list (items.map .map)) es))).outcome = .ok (.groups r) ∧
      r.collection = m.collection ∧ r.errors = bare.errors ∧
      List.Forall₂ (IsGroupOf a) items r.groups := by
  obtain ⟨reports, errors, found, base, hreports, herrors, hbody, rfl⟩ := exists_hasBody hbare
  obtain ⟨totals, htotals, hbase⟩ := hbody.exists_totals
  obtain rfl : [] = found := Except.ok.inj
    ((section?_of_sectionAt (sectionAt_withSection m (.list []) es)).symm.trans hbody.section_eq)
  -- no groups are read as none, so that the totals can be read
  rw [readParts_of_aggregate hm] at hbase
  obtain ⟨_, hnone, hbase⟩ := bind_eq_ok_iff.mp hbase
  obtain rfl := Except.ok.inj hnone
  obtain ⟨total, htotal, hbase⟩ := bind_eq_ok_iff.mp hbase
  obtain ⟨groups, hgroups⟩ := (exists_mapM_eq_ok_iff readGroup items).mpr fun item hitem =>
    (hitems item hitem).exists_isGroupOf.imp fun g hg => hg.1
  obtain ⟨extent, hextent⟩ := exists_groupResult hbase groups
  have hmappings : mappings (items.map .map) = items := by
    simp [mappings, List.filterMap_map, Value.entries?, Function.comp_def]
  have hkept : kept (items.map Value.map) = items.map .map := by
    simp [kept, Value.entries?]
  have hgrouped : HasBody m (withSection m (.list (items.map .map)) es) (items.map .map)
      (.groups ⟨m.collection, groups, extent, []⟩) := by
    refine ⟨section?_of_sectionAt (sectionAt_withSection ..), totals, ?_, ?_⟩
    · rw [totalsOf_withSection] at htotals ⊢
      exact htotals
    · rw [readParts_of_aggregate hm, hmappings, hgroups, ok_bind, htotal, ok_bind, hextent]
  have hreported :
      elementsAt "errors" (withSection m (.list (items.map .map)) es) = .ok reports := by
    rw [elementsAt, get?_withSection_other (by decide)] at hreports ⊢
    exact hreports
  refine ⟨⟨m.collection, groups, extent, errors⟩, ?_, rfl, ?_, ?_⟩
  · rw [hgrouped.normalize_eq hreported, herrors, ← hkept, strays_kept]
    simp [Except.map, droppedErrors, QueryResult.withErrors]
  · simp [droppedErrors, strays]
  · have heach := (mapM_eq_ok_iff_forall₂ _ _ _).mp hgroups
    apply ((List.forall₂_and_left _ _).mpr ⟨hitems, heach⟩).imp
    rintro item g ⟨hitem, hread⟩
    obtain ⟨g', hread', hgroup⟩ := hitem.exists_isGroupOf
    obtain rfl := Except.ok.inj (hread'.symm.trans hread)
    exact hgroup

/-- Whatever statistics are asked for, the text of the root field ends with a selection whose
outline is what is asked about each group; and from any answer with groups that have exactly the
fields of this outline, one group after another is read with what its answer says. -/
theorem statistics_answered {c : Clause} {a : Aggregate} (ha : c.aggregate = some a)
    (hnames : ∀ e ∈ a.metrics, e.2 ≠ [] → IsName e.1) {alias? : Option String} {m : Member}
    {text : String} (hm : compileMember c alias? = .ok (m, text)) :
    (∃ args, Literal.arguments Compilation.maxLevels m.arguments = .ok args ∧ text =
        headText c alias? ++ args ++ " " ++ braced (" ".intercalate (aggregateFields a))) ∧
      outline (braced (" ".intercalate (aggregateFields a))) = some (aggregateShapes a) ∧
      ∀ (multiplexed : Bool) (es : Entries Value) (bare : QueryResult)
        (items : List (Entries Value)),
        (normalize m multiplexed (.map (withSection m (.list []) es))).outcome = .ok bare →
        (∀ item ∈ items, IsGroupAnswer a item) →
        ∃ r : GroupResult, (normalize m multiplexed
            (.map (withSection m (.list (items.map .map)) es))).outcome = .ok (.groups r) ∧
          r.collection = c.collection ∧ r.errors = bare.errors ∧
          List.Forall₂ (IsGroupOf a) items r.groups := by
  rw [compileMember_eq] at hm
  obtain ⟨body, hbody, hmember⟩ := map_eq_ok_iff.mp hm
  obtain ⟨rfl, rfl⟩ := Prod.mk.inj hmember
  have haggregate : (memberOf c (alias?.getD c.collection)).operation = .aggregate := by
    rw [operation_memberOf, Clause.operation, ha]
    rfl
  have hcollection : (memberOf c (alias?.getD c.collection)).collection = c.collection := by
    simp only [memberOf, ha]
  refine ⟨?_, ?_, ?_⟩
  · unfold bodyText at hbody
    split at hbody
    · cases hbody
    obtain ⟨fields, hfields, hbody⟩ := bind_eq_ok_iff.mp hbody
    obtain ⟨args, hargs, hbody⟩ := bind_eq_ok_iff.mp hbody
    obtain rfl := Except.ok.inj hbody
    rw [fieldTexts, ha] at hfields
    obtain rfl := Except.ok.inj hfields
    refine ⟨args, ?_, by simp only [String.append_assoc]⟩
    rw [memberOf_arguments c _ c.collection, hargs]
  · apply outline_of_asks (asks_intercalate (askEach_aggregateFields hnames))
    simp [aggregateShapes]
  · intro multiplexed es bare items hbare hitems
    obtain ⟨r, hr, hname, hread⟩ := exists_groups_of_answers haggregate hbare hitems
    exact ⟨r, hr, hname.trans hcollection, hread⟩

/-- Two statistics of prices, one of a property by the name of a field of every group, and none of
a third property, by category. -/
def tentStatistics : Aggregate :=
  ⟨[("price", [.mean, .topOccurrences]), ("meta", [.mean]), ("stock", [])], some "category"⟩

/-- A group with the mean of its prices, the fields that are asked for under one name being
merged. -/
def tentGroup (size category : Value) (mean : Int) : Entries Value :=
  [("meta", .map [("count", size), ("mean", .int 7)]),
    ("groupedBy", .map [("path", .list [.text "category"]), ("value", category)]),
    ("price", .map [("mean", .int mean), ("topOccurrences", .list [])])]

theorem isGroupAnswer_tentGroup (size : Option Int) (category : Value) (mean : Int) :
    IsGroupAnswer tentStatistics (tentGroup (size.elim .null .int) category mean) where
  objects := by
    have hkeys : Entries.keys (tentGroup (size.elim .null .int) category mean) =
        ["meta", "groupedBy", "price"] := rfl
    have hasked : (aggregateShapes tentStatistics).map Shape.key =
        ["meta", "groupedBy", "price", "meta"] := rfl
    refine ⟨⟨by rw [hkeys]; decide, fun key => by simp [hkeys, hasked]; tauto⟩, ?_⟩
    intro key v hmem
    simp only [tentGroup, List.mem_cons, Prod.mk.injEq, List.not_mem_nil, or_false] at hmem
    obtain ⟨rfl, rfl⟩ | ⟨rfl, rfl⟩ | ⟨rfl, rfl⟩ := hmem
    · refine ⟨_, rfl, by simp [Entries.keys], fun key => ?_⟩
      have hinner : (below "meta" (aggregateShapes tentStatistics)).map Shape.key =
        ["count", "mean"] := rfl
      simp [hinner, Entries.keys]
    · refine ⟨_, rfl, by simp [Entries.keys], fun key => ?_⟩
      have hinner : (below "groupedBy" (aggregateShapes tentStatistics)).map Shape.key =
        ["path", "value"] := rfl
      simp [hinner, Entries.keys]
    · refine ⟨_, rfl, by simp [Entries.keys], fun key => ?_⟩
      have hinner : (below "price" (aggregateShapes tentStatistics)).map Shape.key =
        ["mean", "topOccurrences"] := rfl
      simp [hinner, Entries.keys]
  count := ⟨size, rfl⟩
  path _ := ⟨["category"], rfl⟩

def tentClause : Clause := { collection := "Product", aggregate := some tentStatistics }

/-- A group of three, and one of an unknown size. -/
def tentGroups : List (Entries Value) :=
  [tentGroup (.int 3) (.text "small") 120, tentGroup .null (.text "large") 60]

theorem statistics_answered_tents : ∃ text,
    compileMember tentClause (some "q0") = .ok (memberOf tentClause "q0", text) ∧
    outline (braced (" ".intercalate (aggregateFields tentStatistics))) =
      some (aggregateShapes tentStatistics) ∧
    ∃ r : GroupResult, (normalize (memberOf tentClause "q0") true (.map (withSection
        (memberOf tentClause "q0") (.list (tentGroups.map .map)) []))).outcome = .ok (.groups r) ∧
      List.Forall₂ (IsGroupOf tentStatistics) tentGroups r.groups := by
  obtain ⟨text, hm⟩ : ∃ text, compileMember tentClause (some "q0") =
      .ok (memberOf tentClause "q0", text) := ⟨_, rfl⟩
  have hnames : ∀ e ∈ tentStatistics.metrics, e.2 ≠ [] → IsName e.1 := by decide
  have hgroups : ∀ item ∈ tentGroups, IsGroupAnswer tentStatistics item := by
    intro item hitem
    simp only [tentGroups, List.mem_cons, List.not_mem_nil, or_false] at hitem
    obtain rfl | rfl := hitem
    · exact isGroupAnswer_tentGroup (some 3) _ _
    · exact isGroupAnswer_tentGroup none _ _
  obtain ⟨-, houtline, hread⟩ := statistics_answered rfl hnames hm
  obtain ⟨r, hr, -, -, heach⟩ := hread true [] _ tentGroups rfl hgroups
  exact ⟨text, hm, houtline, r, hr, heach⟩

-- the mean of the property by the name of a field of every group is lost
example : statisticsOf (tentGroup (.int 3) (.text "small") 120) =
    [("price", [("mean", .int 120), ("topOccurrences", .list [])])] := by rfl

end Envelope

end Retrieval
