import Mathlib.Data.List.Induction
import Mathlib.Data.List.Nodup
import Retrieval.Proofs.Regaining
import Retrieval.Proofs.SelectionOutlines

/-!
What a selection fetches. Main statement: the tree of some paths has their beginnings as its places,
siblings in the order in which the paths bring them up, and its leaves are the paths that no longer
path goes through; its text asks for these paths, each once, and for nothing else.
-/

namespace Retrieval

open Document
open Literal (IsName)

/-- The step that a path takes from a place, if it leads through the place and further. -/
def FieldPath.stepFrom? (place : List Segment) (p : FieldPath) : Option Segment :=
  if place <+: p.segments then p.segments[place.length]? else none

/-- The steps to what a field asks of a record. -/
def FieldHead.steps (h : FieldHead) : List Segment :=
  .property h.name :: (h.element.map Segment.index).toList

theorem FieldHead.length_lt_append_steps (head : FieldHead) (more : List Segment) :
    more.length < (head.steps ++ more).length := by
  rw [List.length_append, steps, List.length_cons]
  omega

namespace FieldRequest

mutual

/-- The paths along which a field fetches something. -/
def fetched : FieldRequest → List (List Segment)
  | .bare h => [h.steps]
  | .nested h fields => (fetchedAll fields).map (h.steps ++ ·)

def fetchedAll : List FieldRequest → List (List Segment)
  | [] => []
  | f :: fs => fetched f ++ fetchedAll fs

end

/-- A field with something inside each pair of its braces. -/
inductive IsFilled : FieldRequest → Prop
  | bare (head : FieldHead) : IsFilled (.bare head)
  | nested {head : FieldHead} {fields : List FieldRequest} :
    fields ≠ [] → (∀ f ∈ fields, IsFilled f) → IsFilled (.nested head fields)

theorem fetchedAll_eq (fields : List FieldRequest) :
    fetchedAll fields = fields.flatMap fetched := by
  induction fields with
  | nil => rfl
  | cons f rest ih => rw [fetchedAll, ih, List.flatMap_cons]

end FieldRequest

namespace SelectionTree

variable {tree level children : SelectionTree} {paths : List FieldPath} {place chain : List Segment}

theorem ofPaths_concat (paths : List FieldPath) (p : FieldPath) :
    ofPaths (paths ++ [p]) = insert p.segments (ofPaths paths) := by
  simp [ofPaths]

theorem eraseDups_concat (keys : List Segment) (key : Segment) :
    (keys ++ [key]).eraseDups =
      if key ∈ keys then keys.eraseDups else keys.eraseDups ++ [key] := by
  rw [List.eraseDups_append]
  by_cases h : key ∈ keys
  · simp [List.removeAll, h]
  · simp [List.removeAll, h, List.eraseDups_cons]

/-- Siblings stand in the order of the first paths that bring them up. -/
theorem keys_getD_at? (place : List Segment) (paths : List FieldPath) :
    keys ((at? place (ofPaths paths)).getD []) =
      (paths.filterMap (FieldPath.stepFrom? place)).eraseDups := by
  induction paths using List.reverseRecOn with
  | nil => cases place <;> rfl
  | append_singleton paths p ih =>
    rw [ofPaths_concat, at?_insert, List.filterMap_append]
    by_cases hbegins : place <+: p.segments
    · have hstep : FieldPath.stepFrom? place p = (p.segments.drop place.length).head? := by
        rw [FieldPath.stepFrom?, if_pos hbegins, List.head?_drop]
      rw [if_pos hbegins, Option.getD_some]
      cases hdrop : p.segments.drop place.length with
      | nil =>
        rw [hdrop] at hstep
        simpa [insert, hstep] using ih
      | cons key rest =>
        rw [hdrop] at hstep
        rw [insert, keys_alter, ih]
        simp [hstep, eraseDups_concat, List.mem_eraseDups]
    · have hstep : FieldPath.stepFrom? place p = none := if_neg hbegins
      rw [if_neg hbegins, ih]
      simp [hstep]

theorem keys_at? (h : at? place (ofPaths paths) = some level) :
    keys level = (paths.filterMap (FieldPath.stepFrom? place)).eraseDups := by
  rw [← keys_getD_at?, h, Option.getD_some]

/-- No path goes on from a leaf. -/
theorem length_le_of_leaf (hleaf : at? chain (ofPaths paths) = some []) {p : FieldPath}
    (hp : p ∈ paths) (hbegins : chain <+: p.segments) : p.segments.length ≤ chain.length := by
  have hkeys := keys_at? hleaf
  cases hstep : FieldPath.stepFrom? chain p with
  | none =>
    rw [FieldPath.stepFrom?, if_pos hbegins] at hstep
    exact List.getElem?_eq_none_iff.mp hstep
  | some key =>
    have hmem : key ∈ (paths.filterMap (FieldPath.stepFrom? chain)).eraseDups :=
      List.mem_eraseDups.mpr (List.mem_filterMap.mpr ⟨p, hp, hstep⟩)
    rw [← hkeys] at hmem
    cases hmem

/-- The leaves of a tree are the paths that lead to no other path. -/
theorem at?_eq_nil_iff (hchain : chain ≠ []) : at? chain (ofPaths paths) = some [] ↔
    ∃ p ∈ paths, p ∉ shadowedPaths paths ∧ p.segments = chain := by
  constructor
  · intro hleaf
    have hsome : (at? chain (ofPaths paths)).isSome := by rw [hleaf]; rfl
    obtain hnil | ⟨p, hp, hbegins⟩ := (isSome_at?_ofPaths _ _).mp hsome
    · exact absurd hnil hchain
    have hsegments : chain = p.segments :=
      hbegins.eq_of_length_le (length_le_of_leaf hleaf hp hbegins)
    refine ⟨p, hp, fun hshadow => ?_, hsegments.symm⟩
    obtain ⟨q, hq, habove⟩ := List.any_eq_true.mp (List.mem_filter.mp hshadow).2
    simp only [FieldPath.isAbove, Bool.and_eq_true, decide_eq_true_eq,
      List.isPrefixOf_iff_prefix, ← hsegments] at habove
    exact absurd (length_le_of_leaf hleaf hq habove.2) (Nat.not_le.mpr habove.1)
  · rintro ⟨p, hp, hshadow, rfl⟩
    exact at?_of_not_shadowed hp hshadow

/-- No key stands twice on a level, and an element has no elements. -/
structure IsWellNested (tree : SelectionTree) : Prop where
  distinct : IsDistinct tree
  unindexed : ∀ place i level, at? (place ++ [.index i]) tree = some level → hasIndex level = false

theorem isWellNested_ofPaths (h : ∀ p ∈ paths, FieldPath.Alternates false p.segments) :
    IsWellNested (ofPaths paths) where
  distinct := isDistinct_ofPaths paths
  unindexed place i level hlevel := by
    rw [← Bool.not_eq_true, hasIndex_iff]
    rintro ⟨j, hj⟩
    obtain ⟨p, hp, rest, hsegments⟩ := exists_path_of_mem_keys hlevel hj
    have halternates := h p hp
    rw [← hsegments, List.append_assoc, List.append_assoc] at halternates
    exact FieldPath.not_alternates_indexes halternates

theorem IsWellNested.below (h : IsWellNested tree) (hlevel : at? place tree = some level) :
    IsWellNested level where
  distinct inner deeper hdeeper :=
    h.distinct (place ++ inner) deeper (by rw [at?_append, hlevel]; exact hdeeper)
  unindexed inner i deeper hdeeper :=
    h.unindexed (place ++ inner) i deeper
      (by rw [List.append_assoc, at?_append, hlevel]; exact hdeeper)

theorem eq_nil_or_hasProperty (hindex : hasIndex tree = false) :
    tree = [] ∨ hasProperty tree = true := by
  cases tree with
  | nil => exact .inl rfl
  | cons n rest =>
    have hn : n.key.isIndex = false := (Bool.or_eq_false_iff.mp hindex).1
    exact .inr (by simp [hasProperty, hn])

theorem isEmpty_of_hasProperty (h : hasProperty tree = true) : tree.isEmpty = false := by
  cases tree with
  | nil => cases h
  | cons n rest => rfl

theorem requested_eq (tree : SelectionTree) : requested tree = tree.flatMap requestedNode := by
  induction tree with
  | nil => rfl
  | cons n rest ih => rw [requested, ih, List.flatMap_cons]

theorem mem_requestedElements_iff {name : String} {f : FieldRequest} :
    f ∈ requestedElements name children ↔ ∃ i level, .node (.index i) level ∈ children ∧
      f = if level.isEmpty then .bare ⟨name, some i⟩
        else .nested ⟨name, some i⟩ (requested level) := by
  induction children with
  | nil => simp [requestedElements]
  | cons n rest ih =>
    obtain ⟨k, below⟩ := n
    cases k with
    | property other => simp [requestedElements, ih]
    | index i =>
      rw [requestedElements, List.mem_cons, ih]
      constructor
      · rintro (rfl | ⟨j, level, hmem, rfl⟩)
        · exact ⟨i, below, List.mem_cons_self, rfl⟩
        · exact ⟨j, level, List.mem_cons_of_mem _ hmem, rfl⟩
      · rintro ⟨j, level, hmem, rfl⟩
        obtain heq | hmem := List.mem_cons.mp hmem
        · cases heq
          exact .inl rfl
        · exact .inr ⟨j, level, hmem, rfl⟩

/-- A field is asked for exactly if its steps lead to a leaf, where it is bare, or to properties,
which are asked for inside it. -/
theorem IsWellNested.mem_requested_iff (h : IsWellNested tree) {f : FieldRequest} :
    f ∈ requested tree ↔ ∃ head level, at? head.steps tree = some level ∧
      (level = [] ∧ f = .bare head ∨
        hasProperty level = true ∧ f = .nested head (requested level)) := by
  rw [requested_eq, List.mem_flatMap]
  constructor
  · rintro ⟨⟨k, children⟩, hn, hf⟩
    cases k with
    | index i => cases hf
    | property name =>
      have hbelow := below?_of_mem (h.distinct [] tree rfl) hn
      have hat : at? [.property name] tree = some children := at?_of_below? hbelow []
      rw [requestedNode, List.mem_append, mem_requestedElements_iff] at hf
      obtain hf | ⟨i, level, hmem, rfl⟩ := hf
      · refine ⟨⟨name, none⟩, children, hat, ?_⟩
        cases hp : hasProperty children with
        | true => exact .inr ⟨rfl, by simpa [hp] using hf⟩
        | false =>
          cases hi : hasIndex children with
          | true => simp [hp, hi] at hf
          | false =>
            obtain hnil | hsome := eq_nil_or_hasProperty hi
            · exact .inl ⟨hnil, by simpa [hp, hi] using hf⟩
            · simp [hp] at hsome
      · have helement : at? [.property name, .index i] tree = some level :=
          (at?_of_below? hbelow _).trans
            (at?_of_below? (below?_of_mem (h.distinct [.property name] children hat) hmem) [])
        refine ⟨⟨name, some i⟩, level, helement, ?_⟩
        obtain rfl | hp := eq_nil_or_hasProperty (h.unindexed [.property name] i level helement)
        · exact .inl ⟨rfl, rfl⟩
        · exact .inr ⟨hp, by simp [isEmpty_of_hasProperty hp]⟩
  · rintro ⟨⟨name, element⟩, level, hlevel, hf⟩
    obtain ⟨children, hbelow, hrest⟩ := Option.bind_eq_some_iff.mp hlevel
    refine ⟨.node (.property name) children, mem_of_below? hbelow, ?_⟩
    rw [requestedNode, List.mem_append, mem_requestedElements_iff]
    cases element with
    | none =>
      obtain rfl : children = level := Option.some.inj hrest
      left
      obtain ⟨rfl, rfl⟩ | ⟨hp, rfl⟩ := hf
      · exact List.mem_singleton_self _
      · simp [hp]
    | some i =>
      obtain ⟨_, hindex, hend⟩ := Option.bind_eq_some_iff.mp hrest
      obtain rfl := Option.some.inj hend
      right
      refine ⟨i, _, mem_of_below? hindex, ?_⟩
      obtain ⟨rfl, rfl⟩ | ⟨hp, rfl⟩ := hf
      · rfl
      · simp [isEmpty_of_hasProperty hp]

/-- What holds of a field as soon as it holds of all fields inside it, holds of each field. -/
theorem IsWellNested.forall_requested {P : FieldRequest → Prop} (hbare : ∀ head, P (.bare head))
    (hnested : ∀ head level, IsWellNested level → hasProperty level = true →
      (∀ g ∈ requested level, P g) → P (.nested head (requested level)))
    {tree : SelectionTree} (h : IsWellNested tree) : (f : FieldRequest) → f ∈ requested tree → P f
  | .bare head, _ => hbare head
  | .nested head fields, hf => by
    obtain ⟨asked, level, hlevel, ⟨-, heq⟩ | ⟨hproperty, heq⟩⟩ := h.mem_requested_iff.mp hf
    · cases heq
    · have hfields : fields = requested level := (FieldRequest.nested.inj heq).2
      have hinside : ∀ g ∈ fields, P g := fun g hg =>
        (h.below hlevel).forall_requested hbare hnested g (hfields ▸ hg)
      rw [hfields] at hinside ⊢
      exact hnested head level (h.below hlevel) hproperty hinside
termination_by f => sizeOf f
decreasing_by
  have hsize := List.sizeOf_lt_of_mem hg
  simp only [FieldRequest.nested.sizeOf_spec]
  omega

/-- No field is asked for with nothing inside its braces. -/
theorem IsWellNested.isFilled (h : IsWellNested tree) : ∀ f ∈ requested tree, f.IsFilled :=
  h.forall_requested .bare fun _ _ _ hproperty => .nested (requested_ne_nil hproperty)

theorem mem_fetchedAll_requested (h : IsWellNested tree) :
    chain ∈ FieldRequest.fetchedAll (requested tree) ↔ ∃ (head : FieldHead) (level : SelectionTree)
      (rest : List Segment), at? head.steps tree = some level ∧ chain = head.steps ++ rest ∧
        (level = [] ∧ rest = [] ∨
          hasProperty level = true ∧ rest ∈ FieldRequest.fetchedAll (requested level)) := by
  rw [FieldRequest.fetchedAll_eq, List.mem_flatMap]
  constructor
  · rintro ⟨f, hf, hchain⟩
    obtain ⟨head, level, hlevel, ⟨hnil, rfl⟩ | ⟨hproperty, rfl⟩⟩ := h.mem_requested_iff.mp hf
    · have hsteps : chain = head.steps := List.mem_singleton.mp hchain
      exact ⟨head, level, [], hlevel, by rw [hsteps, List.append_nil], .inl ⟨hnil, rfl⟩⟩
    · obtain ⟨rest, hrest, rfl⟩ := List.mem_map.mp hchain
      exact ⟨head, level, rest, hlevel, rfl, .inr ⟨hproperty, hrest⟩⟩
  · rintro ⟨head, level, rest, hlevel, rfl, ⟨hnil, rfl⟩ | ⟨hproperty, hrest⟩⟩
    · refine ⟨_, h.mem_requested_iff.mpr ⟨head, level, hlevel, .inl ⟨hnil, rfl⟩⟩, ?_⟩
      simp [FieldRequest.fetched]
    · exact ⟨_, h.mem_requested_iff.mpr ⟨head, level, hlevel, .inr ⟨hproperty, rfl⟩⟩,
        List.mem_map.mpr ⟨rest, hrest, rfl⟩⟩

/-- What starts with a property starts with the steps of a field; an index that follows is taken
along. -/
theorem exists_head (name : String) (rest : List Segment) :
    ∃ (head : FieldHead) (more : List Segment), .property name :: rest = head.steps ++ more ∧
      (head.element = none → ∀ i tail, more ≠ .index i :: tail) := by
  cases rest with
  | nil => exact ⟨⟨name, none⟩, [], rfl, fun _ _ _ => nofun⟩
  | cons step rest =>
    cases step with
    | property other => exact ⟨⟨name, none⟩, _, rfl, fun _ _ _ => nofun⟩
    | index i => exact ⟨⟨name, some i⟩, rest, rfl, nofun⟩

/-- A chain that starts with a property ends with the steps of a field, or it goes on from there
with a property. -/
theorem IsWellNested.exists_field (h : IsWellNested tree) {name : String} {rest : List Segment}
    (hchain : at? (.property name :: rest) tree = some level) :
    ∃ (head : FieldHead) (more : List Segment) (upper : SelectionTree),
      .property name :: rest = head.steps ++ more ∧
      at? head.steps tree = some upper ∧
      at? more upper = some level ∧
      (more = [] ∨ hasProperty upper = true ∧ ∃ other tail, more = .property other :: tail) := by
  obtain ⟨head, more, heq, hindex⟩ := exists_head name rest
  rw [heq, at?_append] at hchain
  obtain ⟨upper, hupper, hmore⟩ := Option.bind_eq_some_iff.mp hchain
  refine ⟨head, more, upper, heq, hupper, hmore, ?_⟩
  cases more with
  | nil => exact .inl rfl
  | cons step tail =>
    obtain ⟨below, hbelow, -⟩ := Option.bind_eq_some_iff.mp hmore
    cases step with
    | property other =>
      exact .inr ⟨(hasProperty_iff upper).mpr ⟨other, mem_keys_of_below? hbelow⟩, other, tail, rfl⟩
    | index j =>
      -- an index stands on no level that an index leads to
      exfalso
      have hsome := (hasIndex_iff upper).mpr ⟨j, mem_keys_of_below? hbelow⟩
      obtain ⟨name, element⟩ := head
      cases element with
      | none => exact hindex rfl j tail rfl
      | some i => simp [h.unindexed [.property name] i upper hupper] at hsome

/-- The fields fetch the leaves of a tree, except those that an index at the top leads to. -/
theorem IsWellNested.mem_fetchedAll_iff (h : IsWellNested tree) :
    chain ∈ FieldRequest.fetchedAll (requested tree) ↔
      (∃ name rest, chain = .property name :: rest) ∧ at? chain tree = some [] := by
  -- the induction is on the steps of the chain, which the fields take one or two at a time
  induction hlength : chain.length using Nat.strong_induction_on generalizing tree chain with
  | _ n ih =>
  rw [mem_fetchedAll_requested h]
  constructor
  · rintro ⟨head, level, rest, hlevel, rfl, hrest⟩
    refine ⟨⟨head.name, _, rfl⟩, ?_⟩
    rw [at?_append, hlevel]
    obtain ⟨rfl, rfl⟩ | ⟨-, hrest⟩ := hrest
    · rfl
    · have hshorter := hlength ▸ FieldHead.length_lt_append_steps head rest
      exact ((ih _ hshorter (h.below hlevel) rfl).mp hrest).2
  · rintro ⟨⟨name, rest, rfl⟩, hleaf⟩
    obtain ⟨head, more, upper, heq, hupper, hmore, hends⟩ := h.exists_field hleaf
    refine ⟨head, upper, more, hupper, heq, ?_⟩
    have hshorter := hlength ▸ heq ▸ FieldHead.length_lt_append_steps head more
    obtain rfl | ⟨hproperty, other, tail, rfl⟩ := hends
    · exact .inl ⟨Option.some.inj hmore, rfl⟩
    · exact .inr ⟨hproperty, (ih _ hshorter (h.below hupper) rfl).mpr ⟨⟨other, tail, rfl⟩, hmore⟩⟩

theorem nodup_heads_requestedElements (name : String) (hnodup : (keys children).Nodup) :
    ((requestedElements name children).map FieldRequest.head).Nodup := by
  induction children with
  | nil => exact List.nodup_nil
  | cons n rest ih =>
    obtain ⟨k, below⟩ := n
    obtain ⟨hfresh, hrest⟩ := List.nodup_cons.mp hnodup
    cases k with
    | property other => exact ih hrest
    | index i =>
      rw [requestedElements, List.map_cons, List.nodup_cons]
      refine ⟨fun hmem => ?_, ih hrest⟩
      obtain ⟨f, hf, hhead⟩ := List.mem_map.mp hmem
      obtain ⟨j, level, hlevel, rfl⟩ := mem_requestedElements_iff.mp hf
      have hji : j = i := by
        cases level <;> cases below <;> simpa [FieldRequest.head] using hhead
      exact hfresh (hji ▸ mem_keys_of_mem hlevel)

theorem head_of_mem_requestedElements {name : String} {f : FieldRequest}
    (hf : f ∈ requestedElements name children) : ∃ i, f.head = ⟨name, some i⟩ := by
  obtain ⟨i, level, -, rfl⟩ := mem_requestedElements_iff.mp hf
  exact ⟨i, by cases level <;> rfl⟩

/-- What a property asks for by its own name. -/
def requestedByName (name : String) (children : SelectionTree) : List FieldRequest :=
  if hasProperty children then [.nested ⟨name, none⟩ (requested children)]
  else if hasIndex children then []
  else [.bare ⟨name, none⟩]

theorem requestedNode_property (name : String) (children : SelectionTree) :
    requestedNode (.node (.property name) children) =
      requestedByName name children ++ requestedElements name children := by
  rw [requestedNode, requestedByName]

theorem heads_requestedByName (name : String) (children : SelectionTree) :
    (requestedByName name children).map FieldRequest.head = [] ∨
      (requestedByName name children).map FieldRequest.head = [⟨name, none⟩] := by
  unfold requestedByName
  split
  · exact .inr rfl
  · split
    · exact .inl rfl
    · exact .inr rfl

theorem key_of_mem_requestedNode {n : SelectionNode} {f : FieldRequest}
    (hf : f ∈ requestedNode n) : n.key = .property f.head.name := by
  obtain ⟨k, children⟩ := n
  cases k with
  | index i => cases hf
  | property name =>
    rw [requestedNode_property, List.mem_append] at hf
    obtain hf | hf := hf
    · have hhead := List.mem_map_of_mem (f := FieldRequest.head) hf
      obtain hnone | hone := heads_requestedByName name children
      · simp [hnone] at hhead
      · rw [hone, List.mem_singleton] at hhead
        rw [hhead, SelectionNode.key_node]
    · obtain ⟨i, hhead⟩ := head_of_mem_requestedElements hf
      rw [hhead, SelectionNode.key_node]

theorem nodup_heads_requestedNode {n : SelectionNode} (hnodup : (keys n.children).Nodup) :
    ((requestedNode n).map FieldRequest.head).Nodup := by
  obtain ⟨k, children⟩ := n
  cases k with
  | index i => exact List.nodup_nil
  | property name =>
    have helements := nodup_heads_requestedElements name hnodup
    rw [requestedNode_property, List.map_append]
    obtain hnone | hone := heads_requestedByName name children
    · rw [hnone]
      exact helements
    · rw [hone]
      refine List.nodup_cons.mpr ⟨fun hmem => ?_, helements⟩
      obtain ⟨f, hf, hname⟩ := List.mem_map.mp hmem
      obtain ⟨i, hhead⟩ := head_of_mem_requestedElements hf
      rw [hhead] at hname
      cases hname

/-- No field is asked for twice in one selection. -/
theorem IsWellNested.nodup_heads (h : IsWellNested tree) :
    ((requested tree).map FieldRequest.head).Nodup := by
  have hnodup := h.distinct [] tree rfl
  rw [requested_eq, List.map_flatMap, List.nodup_flatMap]
  constructor
  · rintro ⟨k, children⟩ hn
    exact nodup_heads_requestedNode
      (h.distinct [k] children (at?_of_below? (below?_of_mem hnodup hn) []))
  · refine (List.pairwise_map.mp hnodup).imp fun hne head hleft hright => hne ?_
    obtain ⟨f, hf, rfl⟩ := List.mem_map.mp hleft
    obtain ⟨g, hg, hhead⟩ := List.mem_map.mp hright
    rw [key_of_mem_requestedNode hf, key_of_mem_requestedNode hg, hhead]

/-- The steps of a field can be told from what follows them, unless an index does. -/
theorem head_unique {head other : FieldHead} {rest more : List Segment}
    (hrest : ∀ i tail, rest ≠ .index i :: tail) (hmore : ∀ i tail, more ≠ .index i :: tail)
    (heq : head.steps ++ rest = other.steps ++ more) : head = other := by
  obtain ⟨name, element⟩ := head
  obtain ⟨name', element'⟩ := other
  cases element with
  | none =>
    cases element' with
    | none => simpa [FieldHead.steps] using (List.cons.inj heq).1
    | some j => exact absurd (List.cons.inj heq).2 (hrest j more)
  | some i =>
    cases element' with
    | none => exact absurd (List.cons.inj heq).2.symm (hmore i rest)
    | some j =>
      obtain ⟨hname, hindex⟩ := List.cons.inj heq
      simpa using And.intro hname (List.cons.inj hindex).1

/-- A chain of a field starts with the steps of the field, and no index follows them. -/
theorem IsWellNested.exists_of_mem_fetched (h : IsWellNested tree) {f : FieldRequest}
    (hf : f ∈ requested tree) (hchain : chain ∈ f.fetched) :
    ∃ rest, chain = f.head.steps ++ rest ∧ ∀ i tail, rest ≠ .index i :: tail := by
  obtain ⟨head, level, hlevel, ⟨-, rfl⟩ | ⟨-, rfl⟩⟩ := h.mem_requested_iff.mp hf
  · exact ⟨[], by rw [List.mem_singleton.mp hchain, List.append_nil]; rfl, fun _ _ => nofun⟩
  · obtain ⟨rest, hrest, rfl⟩ := List.mem_map.mp hchain
    obtain ⟨⟨name, tail, rfl⟩, -⟩ := (h.below hlevel).mem_fetchedAll_iff.mp hrest
    exact ⟨_, rfl, fun _ _ => nofun⟩

theorem IsWellNested.nodup_fetchedAll_of (h : IsWellNested tree)
    (heach : ∀ f ∈ requested tree, f.fetched.Nodup) :
    (FieldRequest.fetchedAll (requested tree)).Nodup := by
  rw [FieldRequest.fetchedAll_eq, List.nodup_flatMap]
  refine ⟨heach, ?_⟩
  refine (List.pairwise_map.mp h.nodup_heads).imp_of_mem fun hf hg hne chain hleft hright => ?_
  obtain ⟨rest, hchain, hrest⟩ := h.exists_of_mem_fetched hf hleft
  obtain ⟨more, hchain', hmore⟩ := h.exists_of_mem_fetched hg hright
  exact hne (head_unique hrest hmore (hchain ▸ hchain'))

/-- Nothing is fetched twice. -/
theorem IsWellNested.nodup_fetchedAll (h : IsWellNested tree) :
    (FieldRequest.fetchedAll (requested tree)).Nodup := by
  refine h.nodup_fetchedAll_of (h.forall_requested (fun head => List.nodup_singleton _) ?_)
  intro head level hlevel _ hinside
  exact (hlevel.nodup_fetchedAll_of hinside).map fun _ _ => List.append_cancel_left

/-- The text of a selection reads as a selection of its fields, if the properties are names. -/
theorem outline_fields (h : ∀ p ∈ paths, FieldPath.Alternates false p.segments) (hne : paths ≠ [])
    (hnames : ∀ p ∈ paths, ∀ name ∈ p.propertyNames, IsName name) :
    outline ("\x7b " ++ " ".intercalate (fields (ofPaths paths)) ++ " \x7d") =
      some (shapes (ofPaths paths)) := by
  obtain ⟨p, hp⟩ := List.exists_mem_of_ne_nil paths hne
  have hasks := asks_fields (areNamed_ofPaths h hnames)
  exact outline_of_asks (asks_intercalate hasks)
    (FieldRequest.shapes_ne_nil (requested_ne_nil (hasProperty_ofPaths hp)))

/-- How a tree stands for some paths: its places are their beginnings, siblings are distinct and in
the order in which the paths bring them up, and its leaves are the paths that lead to no other path.
Its text is that of fields which fetch these paths, each once, with something inside all braces; if
the properties along the paths are names, it reads as a selection of these fields. -/
structure Fetches (tree : SelectionTree) (paths : List FieldPath) : Prop where
  places : ∀ chain, chain ≠ [] → ((at? chain tree).isSome ↔ ∃ p ∈ paths, chain <+: p.segments)
  distinct : ∀ place level, at? place tree = some level → (keys level).Nodup
  order : ∀ place level, at? place tree = some level →
    keys level = (paths.filterMap (FieldPath.stepFrom? place)).eraseDups
  leaves : ∀ chain, chain ≠ [] → (at? chain tree = some [] ↔
    ∃ p ∈ paths, p ∉ shadowedPaths paths ∧ p.segments = chain)
  text : fields tree = FieldRequest.texts (requested tree)
  filled : ∀ f ∈ requested tree, f.IsFilled
  fetched : ∀ chain, chain ∈ FieldRequest.fetchedAll (requested tree) ↔
    ∃ p ∈ paths, p ∉ shadowedPaths paths ∧ p.segments = chain
  once : (FieldRequest.fetchedAll (requested tree)).Nodup
  outline : paths ≠ [] → (∀ p ∈ paths, ∀ name ∈ p.propertyNames, IsName name) →
    outline ("\x7b " ++ " ".intercalate (fields tree) ++ " \x7d") = some (shapes tree)

theorem fetches_ofPaths (hparsed : ∀ p ∈ paths, ∃ raw, FieldPath.parse raw = .ok p) :
    Fetches (ofPaths paths) paths := by
  have halternates : ∀ p ∈ paths, FieldPath.Alternates false p.segments := fun p hp =>
    let ⟨_, hraw⟩ := hparsed p hp
    FieldPath.alternates_of_parse hraw
  have hnested := isWellNested_ofPaths halternates
  constructor
  case places => exact fun chain hchain => by simp [isSome_at?_ofPaths, hchain]
  case distinct => exact isDistinct_ofPaths paths
  case order => exact fun place level hlevel => keys_at? hlevel
  case leaves => exact fun chain hchain => at?_eq_nil_iff hchain
  case text => exact fields_eq _
  case filled => exact hnested.isFilled
  case fetched =>
    intro chain
    rw [hnested.mem_fetchedAll_iff]
    constructor
    · rintro ⟨⟨name, rest, rfl⟩, hleaf⟩
      exact (at?_eq_nil_iff (List.cons_ne_nil _ _)).mp hleaf
    · rintro ⟨p, hp, hshadow, rfl⟩
      exact ⟨⟨p.root, p.rest, rfl⟩, at?_of_not_shadowed hp hshadow⟩
  case once => exact hnested.nodup_fetchedAll
  case outline => exact outline_fields halternates

/-- All images of an album, the address of the second and the width of each, and its title. -/
def overlappingPaths : List FieldPath :=
  [⟨"images", []⟩, ⟨"images", [.index 1, .property "url"]⟩, ⟨"images", [.property "width"]⟩,
    ⟨"title", []⟩, ⟨"images", [.index 0]⟩]

theorem fetches_ofPaths_overlapping : Fetches (ofPaths overlappingPaths) overlappingPaths ∧
    shadowedPaths overlappingPaths = [⟨"images", []⟩] ∧
    [.property "images"] ∉ FieldRequest.fetchedAll (requested (ofPaths overlappingPaths)) ∧
    ∃ images, at? [.property "images"] (ofPaths overlappingPaths) = some images ∧
      keys images = [.index 1, .property "width", .index 0] := by
  have hparsed : ∀ p ∈ overlappingPaths, ∃ raw, FieldPath.parse raw = .ok p := by
    simp only [overlappingPaths, List.forall_mem_cons]
    exact ⟨⟨"images", rfl⟩, ⟨"images.1.url", rfl⟩, ⟨"images.width", rfl⟩, ⟨"title", rfl⟩,
      ⟨"images.0", rfl⟩, by simp⟩
  have hfetches := fetches_ofPaths hparsed
  obtain ⟨images, himages⟩ : ∃ images, at? [.property "images"] (ofPaths overlappingPaths) =
    some images := ⟨_, rfl⟩
  have horder := hfetches.order _ _ himages
  refine ⟨hfetches, rfl, fun hfetched => ?_, images, himages, horder.trans (by decide)⟩
  obtain ⟨p, hp, hshadow, hsegments⟩ := (hfetches.fetched _).mp hfetched
  obtain rfl : p = ⟨"images", []⟩ := FieldPath.segments_injective hsegments
  exact hshadow (by decide)

end SelectionTree

end Retrieval
