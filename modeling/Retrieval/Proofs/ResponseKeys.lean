import Retrieval.Proofs.Clauses
import Retrieval.Proofs.Fetching

/-!
The keys under which the fields of a selection are answered. Main statement: in the selection of a
query two fields have the same key exactly if a path leads to an element of a list property, and
another path fetches a sibling by a name that is the alias of that element.
-/

namespace Retrieval

open Document
open Literal (IsName)

namespace Document

/-- The key under which a field is answered: its alias, or else its name. -/
def Shape.key : Shape → String
  | .field head _ => head.alias?.getD head.name

/-- The selections of an outline: itself, and those of its fields. -/
inductive HasSelection : List Shape → List Shape → Prop
  | here (shapes : List Shape) : HasSelection shapes shapes
  | inside {shapes inner selection : List Shape} {head : Head} :
    .field head inner ∈ shapes → HasSelection inner selection → HasSelection shapes selection

/-- In no selection two fields are answered under the same key. -/
def HaveDistinctKeys (shapes : List Shape) : Prop :=
  ∀ selection, HasSelection shapes selection → (selection.map Shape.key).Nodup

theorem eq_nil_of_hasSelection {selection : List Shape} (h : HasSelection [] selection) :
    selection = [] := by
  cases h with
  | here => rfl
  | inside hmem => cases hmem

end Document

theorem FieldHead.key_outlined (h : FieldHead) :
    h.outlined.alias?.getD h.outlined.name = h.key := by
  obtain ⟨name, element⟩ := h
  cases element <;> rfl

namespace FieldRequest

theorem shapes_eq (fields : List FieldRequest) : shapes fields = fields.map shape := by
  induction fields with
  | nil => rfl
  | cons f rest ih => rw [shapes, ih, List.map_cons]

theorem key_shape (f : FieldRequest) : f.shape.key = f.head.key := by
  cases f with
  | bare head => exact head.key_outlined
  | nested head fields => exact head.key_outlined

end FieldRequest

/-- A property has the alias of an element for its name. -/
def FieldHead.Clash (h h' : FieldHead) : Prop :=
  ∃ name i, h = ⟨elementAlias name i, none⟩ ∧ h' = ⟨name, some i⟩

/-- Two fields have the same key exactly if they are the same or an alias is the name of a
property. -/
theorem FieldHead.key_eq_iff (h h' : FieldHead) :
    h.key = h'.key ↔ h = h' ∨ h.Clash h' ∨ h'.Clash h := by
  constructor
  · obtain ⟨name, element⟩ := h
    obtain ⟨name', element'⟩ := h'
    intro hkey
    cases element with
    | none =>
      cases element' with
      | none => exact .inl (congrArg (FieldHead.mk · none) hkey)
      | some j =>
        have hname : name = elementAlias name' j := hkey
        exact .inr (.inl ⟨name', j, by rw [hname], rfl⟩)
    | some i =>
      cases element' with
      | none =>
        have hname : elementAlias name i = name' := hkey
        exact .inr (.inr ⟨name, i, by rw [hname], rfl⟩)
      | some j =>
        obtain ⟨rfl, rfl⟩ := eq_of_elementAlias_eq hkey
        exact .inl rfl
  · rintro (rfl | ⟨name, i, rfl, rfl⟩ | ⟨name, i, rfl, rfl⟩) <;> rfl

namespace SelectionTree

variable {tree level : SelectionTree} {paths : List FieldPath} {place : List Segment}

/-- Some path fetches what is at a place by its own name: it ends there, with no longer path, or
goes on with a property. -/
def IsFetchedByName (paths : List FieldPath) (place : List Segment) : Prop :=
  ∃ p ∈ paths, (p.segments = place ∧ p ∉ shadowedPaths paths) ∨
    ∃ name, place ++ [.property name] <+: p.segments

/-- A path leads to an element of a list property, and its alias is the name of a sibling that is
fetched by it. -/
def MeetsAlias (paths : List FieldPath) (place : List Segment) (name : String) (i : Nat) : Prop :=
  (∃ p ∈ paths, place ++ [.property name, .index i] <+: p.segments) ∧
    IsFetchedByName paths (place ++ [.property (elementAlias name i)])

theorem mem_shapes_iff {shape : Shape} :
    shape ∈ shapes tree ↔ ∃ f ∈ requested tree, f.shape = shape := by
  rw [shapes, FieldRequest.shapes_eq, List.mem_map]

/-- The selections of a tree are its levels, besides the empty selections of bare fields. -/
theorem IsWellNested.eq_nil_or_exists_level {selection : List Shape} (h : IsWellNested tree)
    (hselection : HasSelection (shapes tree) selection) : selection = [] ∨
      ∃ place level, at? place tree = some level ∧ selection = shapes level := by
  generalize hshapes : shapes tree = outer at hselection
  induction hselection generalizing tree with
  | here => exact .inr ⟨[], tree, rfl, hshapes.symm⟩
  | inside hmem hinner ih =>
    rw [← hshapes, mem_shapes_iff] at hmem
    obtain ⟨f, hf, hshape⟩ := hmem
    obtain ⟨head, upper, hupper, ⟨-, rfl⟩ | ⟨-, rfl⟩⟩ := h.mem_requested_iff.mp hf
    · obtain ⟨-, rfl⟩ := Shape.field.inj hshape
      exact .inl (eq_nil_of_hasSelection hinner)
    · refine (ih (h.below hupper) (Shape.field.inj hshape).2).imp_right ?_
      rintro ⟨place, level, hlevel, hselection⟩
      exact ⟨head.steps ++ place, level, by rw [at?_append, hupper]; exact hlevel, hselection⟩

/-- A level with properties is a selection, unless an index at the top leads to it. -/
theorem IsWellNested.hasSelection (h : IsWellNested tree) {name : String} {rest : List Segment}
    (hlevel : at? (.property name :: rest) tree = some level)
    (hproperty : hasProperty level = true) : HasSelection (shapes tree) (shapes level) := by
  induction hlength : rest.length using Nat.strong_induction_on generalizing tree name rest with
  | _ n ih =>
  obtain ⟨head, more, upper, heq, hupper, hmore, hends⟩ := h.exists_field hlevel
  have hasked (hsome : hasProperty upper = true) :
      .field head.outlined (shapes upper) ∈ shapes tree :=
    mem_shapes_iff.mpr
      ⟨_, h.mem_requested_iff.mpr ⟨head, upper, hupper, .inr ⟨hsome, rfl⟩⟩, rfl⟩
  obtain rfl | ⟨hsome, other, tail, rfl⟩ := hends
  · obtain rfl : upper = level := Option.some.inj hmore
    exact .inside (hasked hproperty) (.here _)
  · have hshorter : tail.length < n := by
      have hless := FieldHead.length_lt_append_steps head (.property other :: tail)
      rw [← heq, List.length_cons, List.length_cons, hlength] at hless
      omega
    exact .inside (hasked hsome) (ih _ hshorter (h.below hupper) hmore rfl)

theorem IsWellNested.mem_heads_iff (h : IsWellNested tree) {head : FieldHead} :
    head ∈ (requested tree).map FieldRequest.head ↔ ∃ level,
      at? head.steps tree = some level ∧ (level = [] ∨ hasProperty level = true) := by
  rw [List.mem_map]
  constructor
  · rintro ⟨f, hf, rfl⟩
    obtain ⟨head, level, hlevel, ⟨hnil, rfl⟩ | ⟨hproperty, rfl⟩⟩ := h.mem_requested_iff.mp hf
    · exact ⟨level, hlevel, .inl hnil⟩
    · exact ⟨level, hlevel, .inr hproperty⟩
  · rintro ⟨level, hlevel, hnil | hproperty⟩
    · exact ⟨_, h.mem_requested_iff.mpr ⟨head, level, hlevel, .inl ⟨hnil, rfl⟩⟩, rfl⟩
    · exact ⟨_, h.mem_requested_iff.mpr ⟨head, level, hlevel, .inr ⟨hproperty, rfl⟩⟩, rfl⟩

/-- The keys on one level are distinct exactly if no alias is the name of a property. -/
theorem IsWellNested.nodup_keys_shapes_iff (h : IsWellNested tree) :
    ((shapes tree).map Shape.key).Nodup ↔
      ∀ head ∈ (requested tree).map FieldRequest.head,
        ∀ other ∈ (requested tree).map FieldRequest.head, ¬ head.Clash other := by
  have hkeys : (shapes tree).map Shape.key =
      ((requested tree).map FieldRequest.head).map FieldHead.key := by
    simp [shapes, FieldRequest.shapes_eq, FieldRequest.key_shape]
  rw [hkeys, List.nodup_map_iff_inj_on h.nodup_heads]
  constructor
  · intro hinj head hhead other hother hclash
    obtain rfl := hinj head hhead other hother ((head.key_eq_iff other).mpr (.inr (.inl hclash)))
    obtain ⟨name, i, heq, heq'⟩ := hclash
    cases congrArg FieldHead.element (heq.symm.trans heq')
  · intro hnone head hhead other hother hkey
    obtain heq | hclash | hclash := (head.key_eq_iff other).mp hkey
    · exact heq
    · exact absurd hclash (hnone head hhead other hother)
    · exact absurd hclash (hnone other hother head hhead)

/-- A path that goes through a level brings up a key on it. -/
theorem mem_keys_of_path (hlevel : at? place (ofPaths paths) = some level) {p : FieldPath}
    (hp : p ∈ paths) {key : Segment} (hbegins : place ++ [key] <+: p.segments) :
    key ∈ keys level :=
  (mem_keys_iff hlevel key).mpr ((isSome_at?_ofPaths _ _).mpr (.inr ⟨p, hp, hbegins⟩))

theorem isSome_at?_level_iff (hlevel : at? place (ofPaths paths) = some level)
    {steps : List Segment} (hne : steps ≠ []) : (at? steps level).isSome ↔
      ∃ p ∈ paths, place ++ steps <+: p.segments := by
  have happend : at? (place ++ steps) (ofPaths paths) = at? steps level := by
    rw [at?_append, hlevel, Option.bind_some]
  rw [← happend, isSome_at?_ofPaths]
  simp [hne]

/-- A property is asked for by its name exactly if some path fetches it so. -/
theorem isFetchedByName_iff (hlevel : at? place (ofPaths paths) = some level) (name : String) :
    IsFetchedByName paths (place ++ [.property name]) ↔ ∃ children,
      at? [.property name] level = some children ∧
        (children = [] ∨ hasProperty children = true) := by
  have happend : at? (place ++ [.property name]) (ofPaths paths) = at? [.property name] level := by
    rw [at?_append, hlevel, Option.bind_some]
  have hleaf : at? [.property name] level = some [] ↔ ∃ p ∈ paths,
      p ∉ shadowedPaths paths ∧ p.segments = place ++ [.property name] := by
    rw [← happend, at?_eq_nil_iff (by simp)]
  constructor
  · rintro ⟨p, hp, ⟨hsegments, hshadow⟩ | ⟨other, hbegins⟩⟩
    · exact ⟨[], hleaf.mpr ⟨p, hp, hshadow, hsegments⟩, .inl rfl⟩
    · have hsome : (at? [.property name] level).isSome :=
        (isSome_at?_level_iff hlevel (by simp)).mpr
          ⟨p, hp, (List.prefix_append _ _).trans hbegins⟩
      obtain ⟨children, hchildren⟩ := Option.isSome_iff_exists.mp hsome
      have hother := mem_keys_of_path (happend.trans hchildren) hp hbegins
      exact ⟨children, hchildren, .inr ((hasProperty_iff _).mpr ⟨other, hother⟩)⟩
  · rintro ⟨children, hchildren, rfl | hproperty⟩
    · obtain ⟨p, hp, hshadow, hsegments⟩ := hleaf.mp hchildren
      exact ⟨p, hp, .inl ⟨hsegments, hshadow⟩⟩
    · obtain ⟨other, hother⟩ := (hasProperty_iff _).mp hproperty
      obtain ⟨p, hp, hbegins⟩ := exists_path_of_mem_keys (happend.trans hchildren) hother
      exact ⟨p, hp, .inr ⟨other, hbegins⟩⟩

/-- The keys on a level clash exactly if paths meet there. -/
theorem nodup_keys_at?_iff (h : IsWellNested (ofPaths paths))
    (hlevel : at? place (ofPaths paths) = some level) :
    ((shapes level).map Shape.key).Nodup ↔ ∀ name i, ¬ MeetsAlias paths place name i := by
  have hnested := h.below hlevel
  have helement (name : String) (i : Nat) :
      (⟨name, some i⟩ : FieldHead) ∈ (requested level).map FieldRequest.head ↔
        ∃ p ∈ paths, place ++ [.property name, .index i] <+: p.segments := by
    rw [hnested.mem_heads_iff, ← isSome_at?_level_iff hlevel (by simp),
      Option.isSome_iff_exists]
    constructor
    · rintro ⟨below, hbelow, -⟩
      exact ⟨below, hbelow⟩
    · rintro ⟨below, hbelow⟩
      exact ⟨below, hbelow, eq_nil_or_hasProperty (hnested.unindexed [.property name] i _ hbelow)⟩
  have hnamed (name : String) : (⟨name, none⟩ : FieldHead) ∈
      (requested level).map FieldRequest.head ↔ IsFetchedByName paths (place ++ [.property name]) :=
    hnested.mem_heads_iff.trans (isFetchedByName_iff hlevel name).symm
  rw [hnested.nodup_keys_shapes_iff]
  constructor
  · rintro hnone name i ⟨hindexed, hfetched⟩
    exact hnone _ ((hnamed _).mpr hfetched) _ ((helement name i).mpr hindexed) ⟨name, i, rfl, rfl⟩
  · rintro hnone head hhead other hother ⟨name, i, rfl, rfl⟩
    exact hnone name i ⟨(helement name i).mp hother, (hnamed _).mp hhead⟩

/-- In the selection of some paths the keys are distinct exactly if no paths meet under an alias,
wherever it be. -/
theorem haveDistinctKeys_ofPaths_iff (h : IsWellNested (ofPaths paths)) :
    HaveDistinctKeys (shapes (ofPaths paths)) ↔
      ∀ place name i, ¬ MeetsAlias paths place name i := by
  constructor
  · rintro hdistinct place name i hmeets
    obtain ⟨⟨p, hp, hbegins⟩, -⟩ := id hmeets
    have hthrough : (at? place (ofPaths paths)).isSome :=
      (isSome_at?_ofPaths _ _).mpr (.inr ⟨p, hp, (List.prefix_append _ _).trans hbegins⟩)
    obtain ⟨level, hlevel⟩ := Option.isSome_iff_exists.mp hthrough
    have hselection : HasSelection (shapes (ofPaths paths)) (shapes level) := by
      cases place with
      | nil =>
        obtain rfl := Option.some.inj hlevel
        exact .here _
      | cons step rest =>
        -- a path goes through the level with a property, and starts with one
        have hname : (step :: rest) ++ [.property name] <+: p.segments :=
          List.IsPrefix.trans (by simp) hbegins
        have hproperty := (hasProperty_iff level).mpr ⟨name, mem_keys_of_path hlevel hp hname⟩
        obtain ⟨rfl, -⟩ := List.cons_prefix_cons.mp hname
        exact h.hasSelection hlevel hproperty
    exact (nodup_keys_at?_iff h hlevel).mp (hdistinct _ hselection) name i hmeets
  · intro hnone selection hselection
    obtain rfl | ⟨place, level, hlevel, rfl⟩ := h.eq_nil_or_exists_level hselection
    · exact List.nodup_nil
    · exact (nodup_keys_at?_iff h hlevel).mpr fun name i => hnone place name i

/-- Properties that are not named like aliases are kept apart from all elements. -/
theorem haveDistinctKeys_of_names (h : IsWellNested (ofPaths paths))
    (hnames : ∀ p ∈ paths, ∀ name ∈ p.propertyNames, ¬ IsElementAlias name) :
    HaveDistinctKeys (shapes (ofPaths paths)) := by
  rw [haveDistinctKeys_ofPaths_iff h]
  rintro place name i ⟨-, p, hp, hends⟩
  have hbegins : place ++ [.property (elementAlias name i)] <+: p.segments := by
    obtain ⟨hsegments, -⟩ | ⟨other, hbegins⟩ := hends
    · exact hsegments ▸ List.prefix_rfl
    · exact (List.prefix_append _ _).trans hbegins
  have hmem : elementAlias name i ∈ p.propertyNames :=
    List.mem_filterMap.mpr ⟨.property (elementAlias name i), hbegins.subset (by simp), rfl⟩
  exact hnames p hp _ hmem ⟨name, i, rfl⟩

end SelectionTree

namespace Query

open SelectionTree (fields ofPaths requested shapes MeetsAlias)

/-- Whatever steps made a query, in every selection of its outline the fields are answered under
distinct keys, exactly if no path leads to an element of a list property whose alias names a sibling
that is fetched by it. The outline is that of the text, if the properties are names. -/
theorem distinctKeys_iff {name : Value} {registry : Option Registry} {q : Query}
    (h : collection name registry = .ok q) (calls : List Call) {paths : List FieldPath}
    (hpaths : (q.after calls).clause.selection = paths) :
    (HaveDistinctKeys (shapes (ofPaths paths)) ↔ ∀ place name i, ¬ MeetsAlias paths place name i) ∧
    fields (ofPaths paths) = FieldRequest.texts (requested (ofPaths paths)) ∧
    (paths ≠ [] → (∀ p ∈ paths, ∀ name ∈ p.propertyNames, IsName name) →
      outline ("\x7b " ++ " ".intercalate (fields (ofPaths paths)) ++ " \x7d") =
        some (shapes (ofPaths paths))) := by
  have hlawful := ((isSound_collection h).after calls).lawful
  have halternates : ∀ p ∈ paths, FieldPath.Alternates false p.segments := fun p hp =>
    (hlawful.selection_plain p (hpaths ▸ hp)).alternates
  have hnested := SelectionTree.isWellNested_ofPaths halternates
  exact ⟨SelectionTree.haveDistinctKeys_ofPaths_iff hnested, SelectionTree.fields_eq _,
    SelectionTree.outline_fields halternates⟩

/-- A property that is named like the first element of another. -/
def aliasSelected : List Call :=
  [.method "select" ⟨[.text "images__0", .text "images.0"], []⟩]

theorem distinctKeys_iff_aliasSelected : ∃ q paths, collection (.text "Album") none = .ok q ∧
    (q.after aliasSelected).clause.selection = paths ∧
    fields (ofPaths paths) = ["images__0", "images__0: images(index: 0)"] ∧
    outline ("\x7b " ++ " ".intercalate (fields (ofPaths paths)) ++ " \x7d") =
      some (shapes (ofPaths paths)) ∧
    ¬ HaveDistinctKeys (shapes (ofPaths paths)) := by
  have hstart : collection (.text "Album") none = .ok { clause := { collection := "Album" } } := rfl
  have hselection : (({ clause := { collection := "Album" } } : Query).after
      aliasSelected).clause.selection = [⟨"images__0", []⟩, ⟨"images", [.index 0]⟩] := rfl
  obtain ⟨hiff, -, houtline⟩ := distinctKeys_iff hstart aliasSelected hselection
  refine ⟨_, _, hstart, hselection, rfl, houtline (by simp) (by decide), fun hdistinct => ?_⟩
  refine hiff.mp hdistinct [] "images" 0 ⟨⟨⟨"images", [.index 0]⟩, by simp, by simp⟩, ?_⟩
  exact ⟨⟨"images__0", []⟩, by simp, .inl ⟨by decide, by decide⟩⟩

end Query

end Retrieval
