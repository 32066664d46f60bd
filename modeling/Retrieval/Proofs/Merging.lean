import Retrieval.Proofs.Folding

/-!
A list that is selected both by name and by index arrives in two views, one of which comes under
the aliases of elements. Main statement: where both views hold an object, the fields of the alias
win, each as a whole. So nothing that came under the alias is lost, but what came by name is lost
below a field that both views have, and a null under the alias takes the whole element away.
-/

namespace Retrieval

namespace Entries

variable {α : Type}

/-- After merging, the new entries are seen before the old ones. -/
theorem get?_merge (key : String) (old : Entries α) {new : Entries α} (h : (keys new).Nodup) :
    get? key (merge old new) = (get? key new).or (get? key old) := by
  induction new generalizing old with
  | nil => rfl
  | cons e rest ih =>
    obtain ⟨hfresh, hrest⟩ := List.nodup_cons.mp h
    have hstep : merge old (e :: rest) = merge (set e.1 e.2 old) rest := rfl
    rw [hstep, ih _ hrest]
    by_cases hkey : e.1 = key
    · subst hkey
      rw [(get?_eq_none_iff _ rest).mpr hfresh, get?_set_same]
      simp [get?]
    · rw [get?_set_other _ _ (Ne.symm hkey)]
      simp [get?, hkey]

theorem keys_set (key : String) (value : α) (es : Entries α) :
    keys (set key value es) = if key ∈ keys es then keys es else keys es ++ [key] := by
  induction es with
  | nil => simp [set, keys]
  | cons e es ih =>
    by_cases h : e.1 = key
    · simp [set, keys, h]
    · simp only [set, if_neg h, keys, List.map_cons] at ih ⊢
      rw [ih]
      by_cases hmem : key ∈ List.map (·.1) es
      · simp [hmem]
      · simp [hmem, Ne.symm h]

theorem nodup_keys_set {es : Entries α} (h : (keys es).Nodup) (key : String) (value : α) :
    (keys (set key value es)).Nodup := by
  rw [keys_set]
  by_cases hmem : key ∈ keys es
  · rwa [if_pos hmem]
  · rw [if_neg hmem, List.nodup_append]
    exact ⟨h, by simp, fun a ha b hb hab => hmem (by simp_all)⟩

theorem nodup_keys_erase {es : Entries α} (h : (keys es).Nodup) (key : String) :
    (keys (erase key es)).Nodup := by
  have hsublist : (keys (erase key es)).Sublist (keys es) := by
    induction es with
    | nil => exact .slnil
    | cons e es ih =>
      have hrest := ih (List.nodup_cons.mp h).2
      by_cases hkey : e.1 = key
      · rw [erase, if_pos hkey]
        exact hrest.cons _
      · rw [erase, if_neg hkey]
        exact hrest.cons_cons _
  exact hsublist.nodup h

end Entries

/-- What stands at a place of a value, reached by keys and positions. -/
def Value.look? : List Segment → Value → Option Value
  | [], v => some v
  | .property key :: rest, .map es => (Entries.get? key es).bind (look? rest)
  | .index i :: rest, .seq .list items => items[i]?.bind (look? rest)
  | _, _ => none

namespace SelectionTree

theorem nodup_keys_foldElements (name : String) (children : SelectionTree) {record : Entries Value}
    (h : (Entries.keys record).Nodup) :
    (Entries.keys (foldElements name children record)).Nodup := by
  induction children generalizing record with
  | nil => exact h
  | cons n rest ih =>
    obtain ⟨k, below⟩ := n
    cases k with
    | property other => exact ih h
    | index i =>
      cases hfound : Entries.get? (elementAlias name i) record with
      | none =>
        rw [foldElements_missing hfound]
        exact ih h
      | some element =>
        rw [foldElements_found hfound]
        exact ih (Entries.nodup_keys_set (Entries.nodup_keys_erase h _) _ _)

theorem nodup_keys_foldNamed (name : String) (children : SelectionTree) {record : Entries Value}
    (h : (Entries.keys record).Nodup) :
    (Entries.keys (foldNamed name children record)).Nodup := by
  unfold foldNamed updateField
  split
  · cases Entries.get? name record with
    | none => exact h
    | some v => exact Entries.nodup_keys_set h _ _
  · exact h

/-- Folding sets no key twice. -/
theorem nodup_keys_fold (tree : SelectionTree) {record : Entries Value}
    (h : (Entries.keys record).Nodup) : (Entries.keys (fold tree record)).Nodup := by
  induction tree generalizing record with
  | nil => exact h
  | cons n rest ih =>
    obtain ⟨k, children⟩ := n
    apply ih
    cases k with
    | index i => rwa [foldNode]
    | property name =>
      rw [foldNode_property]
      exact nodup_keys_foldElements name children (nodup_keys_foldNamed name children h)

variable {paths : List FieldPath} {place : List Segment} {level children below : SelectionTree}
  {name : String} {i : Nat} {record : Entries Value} {items : List Value}
  {named : Entries Value} {element : Value}

/-- The element of a list that is selected by name and by index. -/
theorem get?_fold_both
    (hnames : ∀ p ∈ paths, ∀ name ∈ p.propertyNames, ¬ IsElementAlias name)
    (hlevel : at? place (ofPaths paths) = some level)
    (hname : below? (.property name) level = some children)
    (hindex : below? (.index i) children = some below)
    (hitems : Entries.get? name record = some (.list items))
    (hnamed : items[i]? = some (.map named))
    (hfound : Entries.get? (elementAlias name i) record = some element) :
    ∃ items', Entries.get? name (fold level record) = some (.list items') ∧
      items'[i]? = some (mergedOnto (some (.map (fold children named)))
        (foldElement below element)) := by
  have hchildren : at? (place ++ [.property name]) (ofPaths paths) = some children := by
    rw [at?_append, hlevel, Option.bind_some, at?_cons, hname]
    rfl
  have hnodup := isDistinct_ofPaths paths _ _ hchildren
  obtain ⟨items', hitems', hget⟩ := placed_found
    (fun i => Entries.get? (elementAlias name i) record) hnodup (mem_of_below? hindex) hfound
    ((Entries.get? name record).map (mapMappings (fold children)))
  refine ⟨items', ?_, ?_⟩
  · rw [(isSeparate_at? hnames hlevel).get?_fold_name (mem_of_below? hname) hnodup]
    exact hitems'
  · rw [hget, hitems]
    have hposition : (listItems ((some (Value.list items)).map (mapMappings (fold children))))[i]? =
        some (.map (fold children named)) := by
      simp [Value.list, mapMappings, listItems, hnamed]
    rw [hposition]

/-- Two objects merged: below each key stands what the newer object has there, if it has the key. -/
theorem look?_merge (old : Entries Value) {new : Entries Value} (h : (Entries.keys new).Nodup)
    (key : String) (rest : List Segment) :
    Value.look? (.property key :: rest) (.map (Entries.merge old new)) =
      if Entries.get? key new = none then Value.look? (.property key :: rest) (.map old)
      else Value.look? (.property key :: rest) (.map new) := by
  simp only [Value.look?, Entries.get?_merge key old h]
  cases Entries.get? key new <;> rfl

/-- An element that came by name and under its alias. If an object stands under the alias, all its
values are found in the folded element, and a value that came by name is found exactly if the alias
has nothing under the first key of its place, or the same value there. A null under the alias leaves
nothing of the element. -/
theorem merged_element
    (hnames : ∀ p ∈ paths, ∀ name ∈ p.propertyNames, ¬ IsElementAlias name)
    (hlevel : at? place (ofPaths paths) = some level)
    (hname : below? (.property name) level = some children)
    (hindex : below? (.index i) children = some below)
    (hitems : Entries.get? name record = some (.list items))
    (hnamed : items[i]? = some (.map named)) :
    (Entries.get? (elementAlias name i) record = some .null → ∃ items',
      Entries.get? name (fold level record) = some (.list items') ∧ items'[i]? = some .null) ∧
    ∀ es, Entries.get? (elementAlias name i) record = some (.map es) → (Entries.keys es).Nodup →
      ∃ items' merged, Entries.get? name (fold level record) = some (.list items') ∧
        items'[i]? = some (.map merged) ∧
        (∀ path v, path ≠ [] → Value.look? path (.map (fold below es)) = some v →
          Value.look? path (.map merged) = some v) ∧
        ∀ key rest v, Value.look? (.property key :: rest) (.map (fold children named)) = some v →
          (Value.look? (.property key :: rest) (.map merged) = some v ↔
            Entries.get? key (fold below es) = none ∨
              Value.look? (.property key :: rest) (.map (fold below es)) = some v) := by
  constructor
  · exact get?_fold_both hnames hlevel hname hindex hitems hnamed
  · intro es hfound hnodup
    obtain ⟨items', hitems', hget⟩ :=
      get?_fold_both hnames hlevel hname hindex hitems hnamed hfound
    have hlook := look?_merge (fold children named) (nodup_keys_fold below hnodup)
    refine ⟨items', _, hitems', hget, fun path v hne hv => ?_, fun key rest v hv => ?_⟩
    · obtain _ | ⟨step, rest⟩ := path
      · exact absurd rfl hne
      cases step with
      | index j => cases hv
      | property key =>
        rw [hlook]
        by_cases hnone : Entries.get? key (fold below es) = none
        · simp [Value.look?, hnone] at hv
        · rw [if_neg hnone, hv]
    · rw [hlook]
      by_cases hnone : Entries.get? key (fold below es) = none
      · simp [hnone, hv]
      · simp [hnone]

/-- The paths of one part of an image by name, and of another part by index. -/
def imagePaths : List FieldPath :=
  [⟨"images", [.property "meta", .property "width"]⟩,
    ⟨"images", [.index 0, .property "meta", .property "height"]⟩]

/-- What came of an image by name, and under the alias of the first one. -/
def imageRecord : Entries Value :=
  [("images", .list [.map [("meta", .map [("width", .int 1)])]]),
    ("images__0", .map [("meta", .map [("height", .int 2)])])]

/-- Both views of the image have the same field, so that the width in it is lost. -/
theorem merged_element_images : ∃ items merged,
    Entries.get? "images" (fold (ofPaths imagePaths) imageRecord) = some (.list items) ∧
      items[0]? = some (.map merged) ∧
      Value.look? [.property "meta", .property "height"] (.map merged) = some (.int 2) ∧
      Value.look? [.property "meta", .property "width"] (.map merged) ≠ some (.int 1) := by
  have hnames : ∀ p ∈ imagePaths, ∀ name ∈ p.propertyNames, ¬ IsElementAlias name := by
    intro p hp name hname halias
    have hplain : ∀ p ∈ imagePaths, ∀ name ∈ p.propertyNames, '_' ∉ name.toList := by decide
    exact hplain p hp name hname halias.mem_underscore
  have hlevel : at? [] (ofPaths imagePaths) = some (ofPaths imagePaths) := rfl
  have hitems : Entries.get? "images" imageRecord =
      some (.list [.map [("meta", .map [("width", .int 1)])]]) := rfl
  obtain ⟨-, hmerged⟩ := merged_element hnames hlevel rfl rfl hitems (i := 0) rfl
  obtain ⟨items, merged, hget, hposition, hown, hnamed⟩ := hmerged _ rfl (by decide)
  refine ⟨items, merged, hget, hposition, hown _ _ (by simp) rfl, ?_⟩
  rw [Ne, hnamed _ _ _ rfl]
  rintro (hmissing | hsame)
  · cases hmissing
  · cases hsame

end SelectionTree

end Retrieval
