import Mathlib.Order.Lattice.Nat
import Retrieval.Proofs.Folding

/-!
One level of a selection as it changes a record. Elements that came under their aliases are placed
into the list of their property, which grows to hold the last of them. Main statement: only the
names of selected properties and the aliases of their selected elements are touched, the aliases are
gone afterwards, and every position of a list is told by what stood there and what came for it.
-/

namespace Retrieval

theorem length_placeAt (v : Value) (i : Nat) (vs : List Value) :
    (placeAt v i vs).length = max vs.length (i + 1) := by
  induction i generalizing vs with
  | zero => cases vs <;> simp [placeAt]
  | succ i ih =>
    cases vs with
    | nil => simp [placeAt, ih]
    | cons w rest =>
      simp only [placeAt, List.length_cons, ih]
      omega

namespace SelectionTree

/-- The part of a selection that goes by name; elements are left out. -/
def byName (children : SelectionTree) : SelectionTree := children.filter fun n => !n.key.isIndex

theorem fold_byName (children : SelectionTree) (record : Entries Value) :
    fold (byName children) record = fold children record := by
  induction children generalizing record with
  | nil => rfl
  | cons n rest ih =>
    obtain ⟨k, below⟩ := n
    cases k with
    | property name => exact ih _
    | index i =>
      rw [fold, foldNode]
      exact ih record

theorem foldElement_byName (children : SelectionTree) (v : Value) :
    foldElement (byName children) v = foldElement children v := by
  cases v with
  | map es => exact congrArg Value.map (fold_byName children es)
  | _ => rfl

/-- What stands in a record under the aliases of a property's elements. -/
def aliased (name : String) (record : Entries Value) (i : Nat) : Option Value :=
  Entries.get? (elementAlias name i) record

/-- An element that is selected, and that something was found for. -/
def IsFound (found : Nat → Option Value) (children : SelectionTree) (i : Nat) : Prop :=
  .index i ∈ keys children ∧ (found i).isSome = true

variable {found : Nat → Option Value} {name : String} {i : Nat} {below rest : SelectionTree}

theorem isFound_property_iff {k : Nat} :
    IsFound found (.node (.property name) below :: rest) k ↔ IsFound found rest k := by
  simp [IsFound, keys]

theorem isFound_index_iff {k : Nat} :
    IsFound found (.node (.index i) below :: rest) k ↔
      k = i ∧ (found i).isSome = true ∨ IsFound found rest k := by
  simp only [IsFound, keys, List.map_cons, SelectionNode.key_node, List.mem_cons,
    Segment.index.injEq, or_and_right]
  exact or_congr_left (and_congr_right fun h => by rw [h])

/-- Without a find a value is left as it is. -/
theorem placed_of_not_found {children : SelectionTree} (h : ∀ i, ¬ IsFound found children i)
    (v : Option Value) : placed found children v = v := by
  induction children with
  | nil => rfl
  | cons n rest ih =>
    obtain ⟨k, below⟩ := n
    cases k with
    | property name => exact ih fun i hi => h i (isFound_property_iff.mpr hi)
    | index i =>
      have hnone : found i = none :=
        Option.not_isSome_iff_eq_none.mp fun hi => h i (isFound_index_iff.mpr (.inl ⟨rfl, hi⟩))
      rw [placed, hnone]
      exact ih fun j hj => h j (isFound_index_iff.mpr (.inr hj))

/-- With a find a value that is no list counts as an empty one. -/
theorem placed_of_found {children : SelectionTree} (h : IsFound found children i)
    (v : Option Value) :
    placed found children v = placed found children (some (.list (listItems v))) := by
  induction children with
  | nil => cases h.1
  | cons n rest ih =>
    obtain ⟨k, below⟩ := n
    cases k with
    | property name => exact ih (isFound_property_iff.mp h)
    | index j =>
      rw [placed, placed, listItems_some_list]
      cases hj : found j with
      | some element => rfl
      | none =>
        obtain ⟨-, hsome⟩ | hrest := isFound_index_iff.mp h
        · rw [hj] at hsome
          cases hsome
        · exact ih hrest

/-- A list grows up to the last find, and a position without a find keeps its item or is filled up
with a null. Each placement keeps both, as it moves no item and fills up only what it passes. -/
theorem exists_placed (found : Nat → Option Value) (children : SelectionTree)
    (items : List Value) :
    ∃ items', placed found children (some (.list items)) = some (.list items') ∧
      (∀ m, m < items'.length ↔ m < items.length ∨ ∃ i, IsFound found children i ∧ m ≤ i) ∧
      ∀ k, ¬ IsFound found children k → k < items'.length →
        items'[k]? = some (items[k]?.getD .null) := by
  induction children generalizing items with
  | nil =>
    refine ⟨items, rfl, fun m => by simp [IsFound, keys], fun k _ hk => ?_⟩
    rw [List.getElem?_eq_getElem hk, Option.getD_some]
  | cons n rest ih =>
    obtain ⟨k, below⟩ := n
    cases k with
    | property name => simpa only [placed, isFound_property_iff] using ih items
    | index i =>
      rw [placed]
      cases hi : found i with
      | none => simpa only [isFound_index_iff, hi, Option.isSome_none, Bool.false_eq_true,
          and_false, false_or] using ih items
      | some element =>
        obtain ⟨items', hplaced, hlength, hother⟩ :=
          ih (placeAt (foldElement below element) i items)
        refine ⟨items', hplaced, fun m => ?_, fun k hk hlt => ?_⟩
        · rw [hlength, length_placeAt, lt_max_iff, or_assoc, Nat.lt_succ_iff]
          simp only [isFound_index_iff, hi, Option.isSome_some, and_true, or_and_right, exists_or,
            exists_eq_left]
        · have hki : k ≠ i := fun heq => hk (isFound_index_iff.mpr (.inl ⟨heq, by rw [hi]; rfl⟩))
          rw [hother k (fun h => hk (isFound_index_iff.mpr (.inr h))) hlt,
            getElem?_placeAt_other _ hki]
          by_cases hlow : k < i
          · rw [if_pos hlow, Option.getD_some]
          · rw [if_neg hlow]

/-- A list into which elements were placed: it reaches to the last element that was found, each
element that was found stands at its position, merged into what was there if both are mappings, and
the other positions keep the list's own items or are filled up with nulls. -/
structure IsPlaced (found : Nat → Option Value) (children : SelectionTree)
    (own items : List Value) : Prop where
  length : ∃ last, IsGreatest {i | IsFound found children i} last ∧
    items.length = max own.length (last + 1)
  placed : ∀ i below element, .node (.index i) below ∈ children → found i = some element →
    items[i]? = some (mergedOnto own[i]? (foldElement below element))
  kept : ∀ k v, ¬ IsFound found children k → own[k]? = some v → items[k]? = some v
  padded : ∀ k, ¬ IsFound found children k → own.length ≤ k → k < items.length →
    items[k]? = some .null

theorem exists_isPlaced {children : SelectionTree} (hnodup : (keys children).Nodup)
    (h : IsFound found children i) (v : Option Value) :
    ∃ items, placed found children v = some (.list items) ∧
      IsPlaced found children (listItems v) items := by
  obtain ⟨items, hplaced, hlength, hother⟩ := exists_placed found children (listItems v)
  have hbounded : BddAbove {i | IsFound found children i} :=
    ⟨items.length, fun j hj => ((hlength j).mpr (.inr ⟨j, hj, le_refl j⟩)).le⟩
  have hlast : IsGreatest {i | IsFound found children i} (sSup {i | IsFound found children i}) :=
    ⟨Nat.sSup_mem ⟨i, h⟩ hbounded, fun j hj => le_csSup hbounded hj⟩
  rw [← placed_of_found h] at hplaced
  refine ⟨items, hplaced, ⟨_, hlast, ?_⟩, fun j below element hj hfound => ?_,
    fun k w hk hw => ?_, fun k hk hlow hlt => ?_⟩
  · refine eq_of_forall_lt_iff fun m => ?_
    rw [hlength, lt_max_iff, Nat.lt_succ_iff]
    refine or_congr_right ⟨fun ⟨j, hj, hmj⟩ => hmj.trans (hlast.2 hj), fun hm => ?_⟩
    exact ⟨_, hlast.1, hm⟩
  · obtain ⟨items', hitems', hget⟩ := placed_found found hnodup hj hfound v
    obtain rfl : items = items' := by simpa [Value.list] using hplaced.symm.trans hitems'
    exact hget
  · have hlt : k < (listItems v).length := (List.getElem?_eq_some_iff.mp hw).1
    rw [hother k hk ((hlength k).mpr (.inl hlt)), hw, Option.getD_some]
  · rw [hother k hk hlt, List.getElem?_eq_none hlow, Option.getD_none]

/-- Folding by name reaches the items of a list one by one. -/
theorem listItems_mapMappings (children : SelectionTree) (v : Option Value) :
    listItems (v.map (mapMappings (fold children))) =
      (listItems v).map (foldElement (byName children)) := by
  have hitem : (foldElement (byName children) : Value → Value) = foldElement children :=
    funext (foldElement_byName children)
  rw [hitem]
  cases v with
  | none => rfl
  | some w =>
    cases w with
    | seq kind items =>
      cases kind with
      | list => exact List.map_congr_left fun u _ => by cases u <;> rfl
      | _ => rfl
    | _ => rfl

variable {paths : List FieldPath}

/-- The top level is separate if the paths start with names that are no aliases. -/
theorem isSeparate_ofPaths (hnames : ∀ p ∈ paths, ¬ IsElementAlias p.root) :
    IsSeparate (ofPaths paths) where
  nodup := isDistinct_ofPaths paths [] _ rfl
  names := by
    intro name hname
    obtain ⟨p, hp, rest, hsegments⟩ := exists_path_of_mem_keys (at?_nil _) hname
    obtain rfl : name = p.root := by
      have hroot : Segment.property name = .property p.root := (List.cons.inj hsegments).1
      exact Segment.property.inj hroot
    exact hnames p hp

/-- One level of folding is local. What is neither the name of a selected property nor the alias of
one of its selected elements stays as it is; nothing is left under such an alias; where elements of
a property were found, a list stands under its name, into which they were placed, and whose own
items are folded by name; and a property of which no element was found is folded by name. -/
theorem folded_locally (hnames : ∀ p ∈ paths, ¬ IsElementAlias p.root) (record : Entries Value) :
    (∀ key, (∀ n ∈ ofPaths paths, ¬ Touches n key) →
      Entries.get? key (fold (ofPaths paths) record) = Entries.get? key record) ∧
    ∀ name children, .node (.property name) children ∈ ofPaths paths →
      (∀ i, .index i ∈ keys children →
        Entries.get? (elementAlias name i) (fold (ofPaths paths) record) = none) ∧
      ((∃ i, IsFound (aliased name record) children i) → ∃ items,
        Entries.get? name (fold (ofPaths paths) record) = some (.list items) ∧
        IsPlaced (aliased name record) children
          ((listItems (Entries.get? name record)).map (foldElement (byName children))) items) ∧
      ((∀ i, ¬ IsFound (aliased name record) children i) →
        Entries.get? name (fold (ofPaths paths) record) =
          (Entries.get? name record).map (mapMappings (fold (byName children)))) := by
  have hseparate := isSeparate_ofPaths hnames
  refine ⟨fun key hkey => get?_fold_other hkey record, fun name children hmem => ?_⟩
  have hnodup := (isDistinct_ofPaths paths).nodup_below (at?_nil _) hmem
  have hfield : Entries.get? name (fold (ofPaths paths) record) = placed (aliased name record)
      children ((Entries.get? name record).map (mapMappings (fold children))) :=
    hseparate.get?_fold_name hmem hnodup record
  refine ⟨fun i hi => hseparate.get?_fold_alias hmem hi record, ?_, fun hnone => ?_⟩
  · rintro ⟨i, hi⟩
    rw [hfield, ← listItems_mapMappings]
    exact exists_isPlaced hnodup hi _
  · rw [hfield, placed_of_not_found hnone]
    exact congrArg (Option.map · _) (congrArg mapMappings (funext (fold_byName children)).symm)

/-- Two elements of a list out of order, and a part of every item. -/
def galleryPaths : List FieldPath :=
  [⟨"images", [.index 4, .property "url"]⟩, ⟨"images", [.property "alt"]⟩,
    ⟨"images", [.index 1, .property "url"]⟩]

/-- What is selected of the images. -/
def galleryChildren : SelectionTree :=
  [.node (.index 4) [.node (.property "url") []], .node (.property "alt") [],
    .node (.index 1) [.node (.property "url") []]]

/-- A list that ends before the last selected element, and the alias of one that is not selected. -/
def gallery : Entries Value :=
  [("title", .text "Notes"), ("images__4", .map [("url", .text "e.png")]),
    ("images", .list [.null, .map [("alt", .text "b")], .text "c"]),
    ("images__1", .map [("url", .text "b.png")]), ("images__7", .text "h")]

/-- The list grows to five items. The second has both of its parts, the third is as it came, and
the fourth is filled up; other keys stay. -/
theorem folded_locally_gallery : (∀ p ∈ galleryPaths, ¬ IsElementAlias p.root) ∧
    Entries.get? "title" (fold (ofPaths galleryPaths) gallery) = some (.text "Notes") ∧
    Entries.get? "images__7" (fold (ofPaths galleryPaths) gallery) = some (.text "h") ∧
    Entries.get? "images__4" (fold (ofPaths galleryPaths) gallery) = none ∧
    ∃ items, Entries.get? "images" (fold (ofPaths galleryPaths) gallery) = some (.list items) ∧
      items.length = 5 ∧
      items[1]? = some (.map [("alt", .text "b"), ("url", .text "b.png")]) ∧
      items[2]? = some (.text "c") ∧ items[3]? = some .null := by
  have hnames : ∀ p ∈ galleryPaths, ¬ IsElementAlias p.root := by
    intro p hp halias
    have hplain : ∀ p ∈ galleryPaths, '_' ∉ p.root.toList := by decide
    exact hplain p hp halias.mem_underscore
  have hindex (i : Nat) : .index i ∈ keys galleryChildren ↔ i = 4 ∨ i = 1 := by
    simp [galleryChildren, keys]
  have hfound (i : Nat) :
      IsFound (aliased "images" gallery) galleryChildren i ↔ i = 4 ∨ i = 1 := by
    rw [IsFound, hindex, and_iff_left_iff_imp]
    rintro (rfl | rfl) <;> rfl
  have huntouched (key : String) (hname : key ≠ "images") (hfour : key ≠ "images__4")
      (hone : key ≠ "images__1") : ∀ n ∈ ofPaths galleryPaths, ¬ Touches n key := by
    intro n hn
    obtain rfl : n = .node (.property "images") galleryChildren := List.mem_singleton.mp hn
    rintro (heq | ⟨i, hi, heq⟩)
    · exact hname heq
    · obtain rfl | rfl := (hindex i).mp hi
      · exact hfour heq
      · exact hone heq
  obtain ⟨hother, hlevel⟩ := folded_locally hnames gallery
  obtain ⟨haliases, hplaced, -⟩ := hlevel "images" galleryChildren List.mem_cons_self
  have hlast : IsGreatest {i | IsFound (aliased "images" gallery) galleryChildren i} 4 :=
    ⟨(hfound 4).mpr (.inl rfl), fun i hi => by have := (hfound i).mp hi; omega⟩
  obtain ⟨items, hitems, ⟨last, hgreatest, hlength⟩, helement, hkept, hpadded⟩ :=
    hplaced ⟨4, hlast.1⟩
  obtain rfl : last = 4 := hgreatest.unique hlast
  refine ⟨hnames, hother "title" (huntouched _ (by decide) (by decide) (by decide)),
    hother "images__7" (huntouched _ (by decide) (by decide) (by decide)),
    haliases 4 ((hindex 4).mpr (.inl rfl)), items, hitems, hlength, ?_, ?_, ?_⟩
  · exact helement 1 [.node (.property "url") []] (.map [("url", .text "b.png")])
      (by simp [galleryChildren]) rfl
  · exact hkept 2 (.text "c") (by rw [hfound]; decide) rfl
  · exact hpadded 3 (by rw [hfound]; decide) (by decide) (by rw [hlength]; decide)

end SelectionTree

end Retrieval
