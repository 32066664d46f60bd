import Retrieval.Selection.Basic
import Retrieval.Proofs.Traversal

/-!
The levels of a selection tree: what is selected below each place. Main statements: the places of
the tree of some paths are the beginnings of these paths, no key stands twice on a level, and below
a path that leads to no other path nothing is selected.
-/

namespace Retrieval

namespace SelectionTree

/-- What is selected below a key. -/
def below? (key : Segment) : SelectionTree → Option SelectionTree
  | [] => none
  | .node k children :: rest => if k = key then some children else below? key rest

/-- The level that some steps lead to. -/
def at? : List Segment → SelectionTree → Option SelectionTree
  | [], tree => some tree
  | key :: rest, tree => (below? key tree).bind (at? rest)

@[simp] theorem at?_nil (tree : SelectionTree) : at? [] tree = some tree := rfl

@[simp] theorem at?_cons (key : Segment) (rest : List Segment) (tree : SelectionTree) :
    at? (key :: rest) tree = (below? key tree).bind (at? rest) := rfl

theorem at?_of_below? {key : Segment} {tree children : SelectionTree}
    (h : below? key tree = some children) (place : List Segment) :
    at? (key :: place) tree = at? place children := by
  rw [at?_cons, h, Option.bind_some]

theorem at?_append (place rest : List Segment) (tree : SelectionTree) :
    at? (place ++ rest) tree = (at? place tree).bind (at? rest) := by
  induction place generalizing tree with
  | nil => rfl
  | cons key place ih =>
    rw [List.cons_append, at?_cons, at?_cons]
    cases below? key tree with
    | none => rfl
    | some children => exact ih children

theorem below?_alter_same (key : Segment) (change : SelectionTree → SelectionTree)
    (tree : SelectionTree) :
    below? key (alter key change tree) = some (change ((below? key tree).getD [])) := by
  induction tree with
  | nil => simp [alter, below?]
  | cons n rest ih =>
    obtain ⟨k, children⟩ := n
    by_cases h : k = key
    · simp [alter, below?, h]
    · simp [alter, below?, h, ih]

theorem below?_alter_other {key other : Segment} (change : SelectionTree → SelectionTree)
    (tree : SelectionTree) (h : other ≠ key) :
    below? other (alter key change tree) = below? other tree := by
  induction tree with
  | nil => simp [alter, below?, Ne.symm h]
  | cons n rest ih =>
    obtain ⟨k, children⟩ := n
    by_cases hk : k = key
    · have hother : ¬ k = other := fun ho => h (ho.symm.trans hk)
      simp [alter, below?, hk, Ne.symm h]
    · simp [alter, below?, hk, ih]

theorem isSome_below?_iff (key : Segment) (tree : SelectionTree) :
    (below? key tree).isSome ↔ key ∈ keys tree := by
  induction tree with
  | nil => simp [below?, keys]
  | cons n rest ih =>
    obtain ⟨k, children⟩ := n
    by_cases h : k = key
    · simp [below?, keys, h]
    · simpa [below?, keys, h, Ne.symm h] using ih

theorem mem_of_below? {key : Segment} {tree children : SelectionTree}
    (h : below? key tree = some children) : .node key children ∈ tree := by
  induction tree with
  | nil => cases h
  | cons n rest ih =>
    obtain ⟨k, others⟩ := n
    by_cases hk : k = key
    · obtain rfl : others = children := by simpa [below?, hk] using h
      simp [hk]
    · exact List.mem_cons_of_mem _ (ih (by simpa [below?, hk] using h))

theorem mem_keys_of_mem {key : Segment} {tree children : SelectionTree}
    (h : .node key children ∈ tree) : key ∈ keys tree := List.mem_map.mpr ⟨_, h, rfl⟩

theorem mem_keys_of_below? {key : Segment} {tree children : SelectionTree}
    (h : below? key tree = some children) : key ∈ keys tree := mem_keys_of_mem (mem_of_below? h)

theorem below?_of_mem {key : Segment} {tree children : SelectionTree} (hnodup : (keys tree).Nodup)
    (h : .node key children ∈ tree) : below? key tree = some children := by
  induction tree with
  | nil => cases h
  | cons n rest ih =>
    obtain ⟨k, others⟩ := n
    obtain ⟨hfresh, hrest⟩ := List.nodup_cons.mp hnodup
    obtain heq | hmem := List.mem_cons.mp h
    · obtain ⟨rfl, rfl⟩ := SelectionNode.node.inj heq
      exact if_pos rfl
    · have hne : k ≠ key := fun heq => hfresh (heq ▸ mem_keys_of_mem hmem)
      exact (if_neg hne).trans (ih hrest hmem)

theorem hasProperty_iff (tree : SelectionTree) :
    hasProperty tree = true ↔ ∃ name, .property name ∈ keys tree := by
  constructor
  · intro h
    obtain ⟨⟨k, children⟩, hn, hproperty⟩ := List.any_eq_true.mp h
    cases k with
    | index i => cases hproperty
    | property name => exact ⟨name, mem_keys_of_mem hn⟩
  · rintro ⟨name, hname⟩
    obtain ⟨n, hn, hkey⟩ := List.mem_map.mp hname
    exact List.any_eq_true.mpr ⟨n, hn, by simp [hkey, Segment.isIndex]⟩

theorem hasIndex_iff (tree : SelectionTree) :
    hasIndex tree = true ↔ ∃ i, .index i ∈ keys tree := by
  constructor
  · intro h
    obtain ⟨⟨k, children⟩, hn, hindex⟩ := List.any_eq_true.mp h
    cases k with
    | property name => cases hindex
    | index i => exact ⟨i, mem_keys_of_mem hn⟩
  · rintro ⟨i, hi⟩
    obtain ⟨n, hn, hkey⟩ := List.mem_map.mp hi
    exact List.any_eq_true.mpr ⟨n, hn, by simp [hkey, Segment.isIndex]⟩

/-- Adding a path changes the levels that the path goes through, and no other. -/
theorem at?_insert (place path : List Segment) (tree : SelectionTree) :
    at? place (insert path tree) =
      if place <+: path then some (insert (path.drop place.length) ((at? place tree).getD []))
      else at? place tree := by
  induction place generalizing path tree with
  | nil => simp
  | cons k place ih =>
    cases path with
    | nil => simp [insert]
    | cons key path =>
      rw [insert, at?_cons, at?_cons]
      by_cases hk : k = key
      · subst hk
        rw [below?_alter_same, Option.bind_some, ih, List.length_cons, List.drop_succ_cons]
        have hcons : k :: place <+: k :: path ↔ place <+: path := by simp
        by_cases hbegins : place <+: path
        · rw [if_pos hbegins, if_pos (hcons.mpr hbegins)]
          cases below? k tree with
          | some children => rfl
          | none => cases place <;> rfl
        · rw [if_neg hbegins, if_neg (mt hcons.mp hbegins)]
          cases below? k tree with
          | some children => rfl
          | none =>
            cases place with
            | nil => exact absurd (List.nil_prefix) hbegins
            | cons => rfl
      · rw [below?_alter_other _ _ hk, if_neg (by simp [hk])]

theorem isSome_at?_foldl (place : List Segment) (paths : List FieldPath) (tree : SelectionTree) :
    (at? place (paths.foldl (fun tree p => insert p.segments tree) tree)).isSome ↔
      (at? place tree).isSome ∨ ∃ p ∈ paths, place <+: p.segments := by
  induction paths generalizing tree with
  | nil => simp
  | cons p rest ih =>
    rw [List.foldl_cons, ih, at?_insert]
    by_cases hbegins : place <+: p.segments
    · simp [hbegins]
    · simp [hbegins]

/-- The places of a tree are the beginnings of its paths. -/
theorem isSome_at?_ofPaths (place : List Segment) (paths : List FieldPath) :
    (at? place (ofPaths paths)).isSome ↔ place = [] ∨ ∃ p ∈ paths, place <+: p.segments := by
  rw [ofPaths, isSome_at?_foldl]
  cases place with
  | nil => simp
  | cons key rest => simp [below?]

/-- A key stands on a level exactly if there is a level below it. -/
theorem mem_keys_iff {place : List Segment} {tree level : SelectionTree}
    (h : at? place tree = some level) (key : Segment) :
    key ∈ keys level ↔ (at? (place ++ [key]) tree).isSome := by
  rw [at?_append, h, ← isSome_below?_iff, Option.bind_some]
  cases hbelow : below? key level <;> simp [hbelow]

variable {paths : List FieldPath} {place : List Segment} {level : SelectionTree}

/-- A key of a level comes from a path that goes through it. -/
theorem exists_path_of_mem_keys (h : at? place (ofPaths paths) = some level) {key : Segment}
    (hkey : key ∈ keys level) : ∃ p ∈ paths, place ++ [key] <+: p.segments := by
  have hplace := (isSome_at?_ofPaths _ _).mp ((mem_keys_iff h key).mp hkey)
  simpa using hplace

theorem nodup_keys_insert (path : List Segment) {tree : SelectionTree} (h : (keys tree).Nodup) :
    (keys (insert path tree)).Nodup := by
  cases path with
  | nil => exact h
  | cons key rest =>
    rw [insert, keys_alter]
    by_cases hkey : key ∈ keys tree
    · rwa [if_pos hkey]
    · rw [if_neg hkey, List.nodup_append]
      exact ⟨h, by simp, fun a ha b hb hab => hkey (by simp_all)⟩

/-- No key stands twice on any level. -/
def IsDistinct (tree : SelectionTree) : Prop :=
  ∀ place level, at? place tree = some level → (keys level).Nodup

theorem IsDistinct.nodup_below {tree : SelectionTree} (h : IsDistinct tree)
    (hlevel : at? place tree = some level) {key : Segment} {children : SelectionTree}
    (hmem : .node key children ∈ level) : (keys children).Nodup := by
  refine h (place ++ [key]) children ?_
  rw [at?_append, hlevel, Option.bind_some]
  exact at?_of_below? (below?_of_mem (h place level hlevel) hmem) []

theorem IsDistinct.insert {tree : SelectionTree} (h : IsDistinct tree) (path : List Segment) :
    IsDistinct (insert path tree) := by
  intro place level hlevel
  rw [at?_insert] at hlevel
  split at hlevel
  · obtain rfl := Option.some.inj hlevel
    apply nodup_keys_insert
    cases hat : at? place tree with
    | none => exact List.nodup_nil
    | some level => exact h place level hat
  · exact h place level hlevel

theorem isDistinct_ofPaths (paths : List FieldPath) : IsDistinct (ofPaths paths) := by
  have hfold : ∀ tree, IsDistinct tree →
      IsDistinct (paths.foldl (fun tree p => SelectionTree.insert p.segments tree) tree) := by
    induction paths with
    | nil => exact fun _ h => h
    | cons p rest ih => exact fun tree h => ih _ (h.insert p.segments)
  apply hfold
  rintro (_ | ⟨key, place⟩) level hlevel
  · obtain rfl := Option.some.inj hlevel
    exact List.nodup_nil
  · cases hlevel

/-- What is selected by a path that leads to no other path. -/
theorem at?_of_not_shadowed {p : FieldPath} (hp : p ∈ paths) (h : p ∉ shadowedPaths paths) :
    at? p.segments (ofPaths paths) = some [] := by
  have hsome : (at? p.segments (ofPaths paths)).isSome :=
    (isSome_at?_ofPaths _ _).mpr (.inr ⟨p, hp, List.prefix_rfl⟩)
  obtain ⟨level, hlevel⟩ := Option.isSome_iff_exists.mp hsome
  cases level with
  | nil => exact hlevel
  | cons n rest =>
    -- a key below the path is that of a longer path
    obtain ⟨q, hq, hbegins⟩ := exists_path_of_mem_keys hlevel
      (List.mem_map.mpr ⟨n, List.mem_cons_self, rfl⟩)
    have hlength := hbegins.length_le
    rw [List.length_append, List.length_singleton] at hlength
    have habove : p.isAbove q = true := by
      have hstart := (List.prefix_append p.segments [n.key]).trans hbegins
      simpa [FieldPath.isAbove, hstart] using Nat.lt_of_succ_le hlength
    exact absurd (List.mem_filter.mpr ⟨hp, List.any_eq_true.mpr ⟨q, hq, habove⟩⟩) h

end SelectionTree

namespace FieldPath

/-- Steps of which no two indexes follow one another; `afterIndex` tells of the step before. -/
def Alternates : (afterIndex : Bool) → List Segment → Prop
  | _, [] => True
  | afterIndex, .index _ :: rest => afterIndex = false ∧ Alternates true rest
  | _, .property _ :: rest => Alternates false rest

theorem alternates_of_readSegments {raw : String} {afterIndex : Bool} {parts : List (List Char)}
    {segments : List Segment} (h : readSegments raw afterIndex parts = .ok segments) :
    Alternates afterIndex segments := by
  induction parts generalizing afterIndex segments with
  | nil =>
    obtain rfl := Except.ok.inj h
    trivial
  | cons part rest ih =>
    rw [readSegments] at h
    by_cases hempty : (Text.trim part).isEmpty = true
    · rw [if_pos hempty] at h
      cases h
    rw [if_neg hempty] at h
    by_cases hdigits : Text.isAllDigitLike (Text.trim part) = true
    · rw [if_pos hdigits] at h
      cases afterIndex with
      | true => cases h
      | false =>
        rw [if_neg (by decide)] at h
        cases hindex : readIndex (Text.trim part) with
        | error e =>
          rw [hindex] at h
          cases h
        | ok i =>
          rw [hindex] at h
          obtain ⟨steps, hsteps, rfl⟩ := map_eq_ok_iff.mp h
          exact ⟨rfl, ih hsteps⟩
    · rw [if_neg hdigits] at h
      obtain ⟨steps, hsteps, rfl⟩ := map_eq_ok_iff.mp h
      rw [Alternates]
      exact ih hsteps

theorem alternates_of_parse {raw : String} {p : FieldPath} (h : parse raw = .ok p) :
    Alternates false p.segments := by
  unfold parse at h
  by_cases hblank : Text.isAllBlank raw = true
  · rw [if_pos hblank] at h
    cases h
  rw [if_neg hblank] at h
  cases hread : readSegments raw false (Text.splitAt '.' (Text.trim raw.toList)) with
  | error e =>
    rw [hread] at h
    cases h
  | ok segments =>
    have halternates := alternates_of_readSegments hread
    rw [hread] at h
    cases segments with
    | nil => cases h
    | cons step rest =>
      cases step with
      | index i => cases h
      | property root =>
        obtain rfl := Except.ok.inj h
        exact halternates

theorem not_alternates_indexes {afterIndex : Bool} {place rest : List Segment} {i j : Nat} :
    ¬ Alternates afterIndex (place ++ .index i :: .index j :: rest) := by
  induction place generalizing afterIndex with
  | nil => exact fun h => Bool.noConfusion h.2.1
  | cons step place ih =>
    cases step with
    | property name => exact ih
    | index k => exact fun h => ih h.2

end FieldPath

end Retrieval
