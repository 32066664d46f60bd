import Retrieval.Proofs.Folding

/-!
Whose element folding moves. No two elements share an alias, so that what stands under an alias is
moved by its own property only; but the alias of an element can be the name of another property.
Main statement: an element that is found under its alias comes to stand in the list of its property,
and stays there exactly if no later property takes that list for an element of its own.
-/

namespace Retrieval.SelectionTree

/-- A key is the alias of an element that is selected on a level. -/
def IsAliasIn (level : SelectionTree) (key : String) : Prop :=
  ∃ name children i, .node (.property name) children ∈ level ∧ .index i ∈ keys children ∧
    key = elementAlias name i

/-- The items that a property has before its elements are placed: those of the list under its name,
folded by name. -/
def ownItems (name : String) (children : SelectionTree) (record : Entries Value) : List Value :=
  listItems ((Entries.get? name record).map (mapMappings (fold children)))

variable {level before after children below : SelectionTree} {name key : String} {i : Nat}
  {record : Entries Value} {v : Value}

/-- The keys that a level touches are the names of its properties and the aliases of its
elements. -/
theorem exists_touches_iff :
    (∃ n ∈ level, Touches n key) ↔ .property key ∈ keys level ∨ IsAliasIn level key := by
  constructor
  · rintro ⟨⟨k, children⟩, hn, htouches⟩
    cases k with
    | index i => exact htouches.elim
    | property name =>
      obtain rfl | ⟨i, hi, rfl⟩ := htouches
      · exact .inl (mem_keys_of_mem hn)
      · exact .inr ⟨name, children, i, hn, hi, rfl⟩
  · rintro (hname | ⟨name, children, i, hn, hi, rfl⟩)
    · obtain ⟨⟨k, children⟩, hn, rfl : k = .property key⟩ := List.mem_map.mp hname
      exact ⟨_, hn, .inl rfl⟩
    · exact ⟨_, hn, .inr ⟨i, hi, rfl⟩⟩

theorem get?_fold_untouched (hname : .property key ∉ keys level) (halias : ¬ IsAliasIn level key)
    (record : Entries Value) : Entries.get? key (fold level record) = Entries.get? key record := by
  refine get?_fold_other (fun n hn htouches => ?_) record
  exact (exists_touches_iff.mp ⟨n, hn, htouches⟩).elim hname halias

/-- An alias belongs to one property. -/
theorem mem_keys_of_isAliasIn (h : IsAliasIn level (elementAlias name i)) :
    .property name ∈ keys level := by
  obtain ⟨other, children, j, hn, -, heq⟩ := h
  obtain ⟨rfl, -⟩ := eq_of_elementAlias_eq heq
  exact mem_keys_of_mem hn

/-- Folding writes under the names of properties only. -/
theorem get?_fold_none (hname : .property key ∉ keys level)
    (h : Entries.get? key record = none) : Entries.get? key (fold level record) = none := by
  induction level generalizing record with
  | nil => exact h
  | cons n rest ih =>
    obtain ⟨k, children⟩ := n
    obtain ⟨hkey, hrest⟩ := not_or.mp (mt List.mem_cons.mpr hname)
    rw [fold]
    refine ih hrest ?_
    cases k with
    | index i => rwa [foldNode]
    | property name =>
      have hne : key ≠ name := fun heq => hkey (congrArg Segment.property heq)
      rw [foldNode_property]
      exact get?_foldElements_none hne children (by rwa [get?_foldNamed_other hne])

/-- Nothing is left under a key that some property takes for the alias of its element. -/
theorem get?_fold_of_isAliasIn (hname : .property key ∉ keys level) (halias : IsAliasIn level key)
    (record : Entries Value) : Entries.get? key (fold level record) = none := by
  obtain ⟨other, children, i, hn, hi, rfl⟩ := halias
  obtain ⟨before, after, rfl⟩ := List.append_of_mem hn
  have hafter : .property (elementAlias other i) ∉ keys after := fun h =>
    hname (List.map_subset _ (by simp) h)
  rw [fold_append, fold, foldNode_property]
  exact get?_fold_none hafter (get?_foldElements_alias hi _)

/-- A property places the element that it finds under its alias. -/
theorem exists_get?_foldNode (hnodup : (keys children).Nodup)
    (hmem : .node (.index i) below ∈ children)
    (h : Entries.get? (elementAlias name i) record = some v) : ∃ items,
      Entries.get? name (foldNode (.node (.property name) children) record) = some (.list items) ∧
      items[i]? = some (mergedOnto (ownItems name children record)[i]? (foldElement below v)) := by
  rw [get?_foldNode_name hnodup]
  exact placed_found _ hnodup hmem h _

/-- No two elements share an alias. What is placed for an element is what the earlier properties
left under its alias: that is what came in the record, unless one of them has the alias for its
name. It is placed in the list of its property, and stays there unless a later property has an
element whose alias is the name of that list; then the list is taken for that element. -/
theorem elements_apart (paths : List FieldPath) :
    (∀ m n i j, elementAlias m i = elementAlias n j → m = n ∧ i = j) ∧
    ∀ place level, at? place (ofPaths paths) = some level →
      ∀ before name children after, level = before ++ .node (.property name) children :: after →
        ∀ i below, .node (.index i) below ∈ children → ∀ record,
          (.property (elementAlias name i) ∉ keys before →
            Entries.get? (elementAlias name i) (fold before record) =
              Entries.get? (elementAlias name i) record) ∧
          ∀ v, Entries.get? (elementAlias name i) (fold before record) = some v →
            (¬ IsAliasIn after name → ∃ items,
              Entries.get? name (fold level record) = some (.list items) ∧
              items[i]? = some
                (mergedOnto (ownItems name children (fold before record))[i]?
                  (foldElement below v))) ∧
            (IsAliasIn after name → Entries.get? name (fold level record) = none) := by
  refine ⟨fun m n i j => eq_of_elementAlias_eq, ?_⟩
  rintro place level hlevel before name children after rfl i below hmem record
  have hsplit : keys (before ++ .node (.property name) children :: after) =
      keys before ++ .property name :: keys after := by simp [keys]
  have hkeys := isDistinct_ofPaths paths _ _ hlevel
  rw [hsplit, List.nodup_append] at hkeys
  obtain ⟨-, hrest, hapart⟩ := hkeys
  have hbefore : .property name ∉ keys before := fun h => hapart _ h _ List.mem_cons_self rfl
  have hafter : .property name ∉ keys after := (List.nodup_cons.mp hrest).1
  refine ⟨fun hname => ?_, fun v hv => ?_⟩
  -- an earlier element with this alias would be one of the same property, which stands here once
  · exact get?_fold_untouched hname (mt mem_keys_of_isAliasIn hbefore) record
  · rw [fold_append, fold]
    refine ⟨fun halias => ?_, fun halias => get?_fold_of_isAliasIn hafter halias _⟩
    have hnodup := (isDistinct_ofPaths paths).nodup_below hlevel
      (List.mem_append_right before List.mem_cons_self)
    rw [get?_fold_untouched hafter halias]
    exact exists_get?_foldNode hnodup hmem hv

/-- An element of `tags`, and one of a property that is named like it. -/
def tagPaths : List FieldPath := [⟨"tags", [.index 0]⟩, ⟨"tags__0", [.index 1]⟩]

def tagRecord : Entries Value := [("tags__0__1", .text "x"), ("tags__0", .text "y")]

/-- If `tags` is selected first, both elements come to stand in their lists; if it is selected last,
it takes the list of the other for its element. -/
theorem elements_apart_tags :
    (∃ items, Entries.get? "tags" (fold (ofPaths tagPaths) tagRecord) = some (.list items) ∧
      items[0]? = some (.text "y")) ∧
    (∃ items, Entries.get? "tags__0" (fold (ofPaths tagPaths) tagRecord) = some (.list items) ∧
      items[1]? = some (.text "x")) ∧
    Entries.get? "tags__0" (fold (ofPaths tagPaths.reverse) tagRecord) = none ∧
    Entries.get? "tags" (fold (ofPaths tagPaths.reverse) tagRecord) =
      some (.list [.list [.null, .text "x"]]) := by
  obtain ⟨-, hapart⟩ := elements_apart tagPaths
  obtain ⟨-, hreversed⟩ := elements_apart tagPaths.reverse
  have hlast : ¬ IsAliasIn [] "tags__0" := by rintro ⟨name, children, i, hn, -⟩; cases hn
  have hfirst : ¬ IsAliasIn [.node (.property "tags__0") [.node (.index 1) []]] "tags" := by
    rintro ⟨name, children, i, -, -, heq⟩
    exact absurd ⟨name, i, heq⟩ (mt IsElementAlias.mem_underscore (by decide))
  have htaken : IsAliasIn [.node (.property "tags") [.node (.index 0) []]] "tags__0" :=
    ⟨"tags", _, 0, List.mem_cons_self, List.mem_cons_self, rfl⟩
  refine ⟨?_, ?_, ?_, rfl⟩
  · exact ((hapart [] _ rfl [] _ _ _ rfl 0 [] List.mem_cons_self tagRecord).2 _ rfl).1 hfirst
  · exact ((hapart [] _ rfl [_] _ _ _ rfl 1 [] List.mem_cons_self tagRecord).2 _ rfl).1 hlast
  · exact ((hreversed [] _ rfl [] _ _ _ rfl 1 [] List.mem_cons_self tagRecord).2 _ rfl).2 htaken

end Retrieval.SelectionTree
