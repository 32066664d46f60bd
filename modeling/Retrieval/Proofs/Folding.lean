import Retrieval.Selection.Fold
import Retrieval.Proofs.Levels

/-!
What folding does to a record. A selected property reads and writes its own key and the aliases of
its own elements, so that the siblings on a level do not meet. Main statements: what stands under a
property afterwards is told by what stood under these keys before, the aliases are gone, and all
other keys are as they were.
-/

namespace Retrieval

/-- A name that could be the alias of some element. -/
def IsElementAlias (name : String) : Prop := ∃ base i, name = elementAlias base i

theorem toList_elementAlias (name : String) (i : Nat) :
    (elementAlias name i).toList = name.toList ++ '_' :: '_' :: Nat.toDigits 10 i := by
  simp [elementAlias]

theorem IsElementAlias.mem_underscore {name : String} (h : IsElementAlias name) :
    '_' ∈ name.toList := by
  obtain ⟨base, i, rfl⟩ := h
  simp [toList_elementAlias]

/-- Two texts that go on with an underscore and then with none were split at the same place. -/
theorem append_underscore_inj {as bs cs ds : List Char} (hc : '_' ∉ cs) (hd : '_' ∉ ds)
    (h : as ++ '_' :: cs = bs ++ '_' :: ds) : as = bs ∧ cs = ds := by
  obtain ⟨gap, rfl, hgap⟩ | ⟨gap, rfl, hgap⟩ := List.append_eq_append_iff.mp h
  · cases gap with
    | nil => exact ⟨(List.append_nil as).symm, (List.cons.inj hgap).2⟩
    | cons c gap =>
      obtain ⟨-, rfl⟩ := List.cons.inj hgap
      exact absurd (List.mem_append_right gap List.mem_cons_self) hc
  · cases gap with
    | nil => exact ⟨List.append_nil bs, ((List.cons.inj hgap).2).symm⟩
    | cons c gap =>
      obtain ⟨-, rfl⟩ := List.cons.inj hgap
      exact absurd (List.mem_append_right gap List.mem_cons_self) hd

/-- The digits at its end tell an alias apart from every other. -/
theorem eq_of_elementAlias_eq {m n : String} {i j : Nat} (h : elementAlias m i = elementAlias n j) :
    m = n ∧ i = j := by
  have hlists : (m.toList ++ ['_']) ++ '_' :: Nat.toDigits 10 i =
      (n.toList ++ ['_']) ++ '_' :: Nat.toDigits 10 j := by
    simpa [toList_elementAlias] using congrArg String.toList h
  obtain ⟨hnames, hdigits⟩ :=
    append_underscore_inj Nat.underscore_not_in_toDigits Nat.underscore_not_in_toDigits hlists
  refine ⟨String.toList_inj.mp (List.append_cancel_right hnames), ?_⟩
  rw [← Nat.ofDigitChars_ten_toDigits (n := i), hdigits, Nat.ofDigitChars_ten_toDigits]

theorem elementAlias_ne_self (name : String) (i : Nat) : elementAlias name i ≠ name := by
  intro h
  have hlength := congrArg (fun s => s.toList.length) h
  simp [toList_elementAlias] at hlength

/-- What comes to stand at a position: a mapping is merged into the mapping that is there. -/
def mergedOnto : Option Value → Value → Value
  | some (.map old), .map new => .map (Entries.merge old new)
  | _, v => v

theorem getElem?_placeAt_same (v : Value) (i : Nat) (vs : List Value) :
    (placeAt v i vs)[i]? = some (mergedOnto vs[i]? v) := by
  induction i generalizing vs with
  | zero =>
    cases vs with
    | nil => rfl
    | cons w rest => cases w <;> cases v <;> rfl
  | succ i ih => cases vs <;> simp [placeAt, ih]

/-- Other positions stay, or are filled up with nulls. -/
theorem getElem?_placeAt_other (v : Value) {i k : Nat} (h : k ≠ i) (vs : List Value) :
    (placeAt v i vs)[k]? = if k < i then some (vs[k]?.getD .null) else vs[k]? := by
  induction i generalizing k vs with
  | zero =>
    obtain ⟨k, rfl⟩ := Nat.exists_eq_succ_of_ne_zero h
    cases vs <;> simp [placeAt]
  | succ i ih =>
    cases k with
    | zero => cases vs <;> simp [placeAt]
    | succ k =>
      have hk : k ≠ i := fun heq => h (congrArg Nat.succ heq)
      cases vs <;> simp [placeAt, ih hk]

/-- A position that is filled up, or left alone, is merged onto like before. -/
theorem mergedOnto_placeAt_other (v w : Value) {i k : Nat} (h : k ≠ i) (vs : List Value) :
    mergedOnto (placeAt v i vs)[k]? w = mergedOnto vs[k]? w := by
  rw [getElem?_placeAt_other v h]
  by_cases hk : k < i
  · rw [if_pos hk]
    cases vs[k]? <;> rfl
  · rw [if_neg hk]

namespace SelectionTree

/-- An element that was found under its alias, folded by what is selected of it. -/
def foldElement (children : SelectionTree) : Value → Value
  | .map es => .map (fold children es)
  | v => v

/-- What the selected elements of a list make of it, given what is found under their aliases. -/
def placed (found : Nat → Option Value) : SelectionTree → Option Value → Option Value
  | [], v => v
  | .node (.property _) _ :: rest, v => placed found rest v
  | .node (.index i) children :: rest, v =>
    match found i with
    | none => placed found rest v
    | some element =>
      placed found rest
        (some (.list (placeAt (foldElement children element) i (listItems v))))

/-- The keys of a record that a step reads and writes. -/
def Touches : SelectionNode → String → Prop
  | .node (.index _) _, _ => False
  | .node (.property name) children, key =>
    key = name ∨ ∃ i, .index i ∈ keys children ∧ key = elementAlias name i

/-- One element is moved: its alias goes, and the list under the name is written. -/
theorem foldElements_found {name : String} {i : Nat} {record : Entries Value} {element : Value}
    (h : Entries.get? (elementAlias name i) record = some element)
    (children rest : SelectionTree) :
    foldElements name (.node (.index i) children :: rest) record =
      foldElements name rest (Entries.set name (.list (placeAt (foldElement children element) i
        (listItems (Entries.get? name record)))) (Entries.erase (elementAlias name i) record)) := by
  have hname : Entries.get? name (Entries.erase (elementAlias name i) record) =
      Entries.get? name record := Entries.get?_erase_other _ (elementAlias_ne_self name i).symm
  rw [foldElements, h]
  dsimp only
  rw [hname]
  cases element with
  | map es =>
    cases children with
    | nil => rfl
    | cons n children => rfl
  | _ => rfl

theorem foldElements_missing {name : String} {i : Nat} {record : Entries Value}
    (h : Entries.get? (elementAlias name i) record = none) (children rest : SelectionTree) :
    foldElements name (.node (.index i) children :: rest) record =
      foldElements name rest record := by
  rw [foldElements, h]

theorem get?_foldElements_other {name key : String} {children : SelectionTree}
    (hname : key ≠ name) (halias : ∀ i, .index i ∈ keys children → key ≠ elementAlias name i)
    (record : Entries Value) :
    Entries.get? key (foldElements name children record) = Entries.get? key record := by
  induction children generalizing record with
  | nil => rfl
  | cons n rest ih =>
    obtain ⟨k, below⟩ := n
    have hrest := ih fun i hi => halias i (List.mem_cons_of_mem _ hi)
    cases k with
    | property other => exact hrest record
    | index i =>
      have hne : key ≠ elementAlias name i := halias i List.mem_cons_self
      cases hfound : Entries.get? (elementAlias name i) record with
      | none => rw [foldElements_missing hfound, hrest]
      | some element =>
        rw [foldElements_found hfound, hrest, Entries.get?_set_other _ _ hname,
          Entries.get?_erase_other _ hne]

/-- The elements of a list do not meet, so that the first look at each alias decides. -/
theorem placed_congr {found found' : Nat → Option Value} {children : SelectionTree}
    (h : ∀ i, .index i ∈ keys children → found i = found' i) (v : Option Value) :
    placed found children v = placed found' children v := by
  induction children generalizing v with
  | nil => rfl
  | cons n rest ih =>
    obtain ⟨k, below⟩ := n
    have hrest := ih fun i hi => h i (List.mem_cons_of_mem _ hi)
    cases k with
    | property name => exact hrest v
    | index i =>
      rw [placed, placed, h i List.mem_cons_self]
      cases found' i with
      | none => exact hrest v
      | some element => exact hrest _

theorem get?_foldElements_name {name : String} {children : SelectionTree}
    (hnodup : (keys children).Nodup) (record : Entries Value) :
    Entries.get? name (foldElements name children record) =
      placed (fun i => Entries.get? (elementAlias name i) record) children
        (Entries.get? name record) := by
  induction children generalizing record with
  | nil => rfl
  | cons n rest ih =>
    obtain ⟨k, below⟩ := n
    obtain ⟨hfresh, hrest⟩ := List.nodup_cons.mp hnodup
    cases k with
    | property other => exact ih hrest record
    | index i =>
      rw [placed]
      cases hfound : Entries.get? (elementAlias name i) record with
      | none => rw [foldElements_missing hfound, ih hrest]
      | some element =>
        rw [foldElements_found hfound, ih hrest, Entries.get?_set_same]
        -- the other aliases are still as they were
        refine placed_congr (fun j hj => ?_) _
        have hji : j ≠ i := fun heq => hfresh (heq ▸ hj)
        rw [Entries.get?_set_other _ _ (elementAlias_ne_self name j),
          Entries.get?_erase_other _ fun heq => hji (eq_of_elementAlias_eq heq).2]

theorem get?_foldElements_none {name key : String} (hname : key ≠ name) (children : SelectionTree)
    {record : Entries Value} (h : Entries.get? key record = none) :
    Entries.get? key (foldElements name children record) = none := by
  induction children generalizing record with
  | nil => exact h
  | cons n rest ih =>
    obtain ⟨k, below⟩ := n
    cases k with
    | property other => exact ih h
    | index i =>
      cases hfound : Entries.get? (elementAlias name i) record with
      | none =>
        rw [foldElements_missing hfound]
        exact ih h
      | some element =>
        rw [foldElements_found hfound]
        apply ih
        have hne : key ≠ elementAlias name i := fun heq => by simp [← heq, h] at hfound
        rw [Entries.get?_set_other _ _ hname, Entries.get?_erase_other _ hne, h]

/-- Afterwards nothing stands under the alias of a selected element. -/
theorem get?_foldElements_alias {name : String} {i : Nat} {children : SelectionTree}
    (h : .index i ∈ keys children) (record : Entries Value) :
    Entries.get? (elementAlias name i) (foldElements name children record) = none := by
  induction children generalizing record with
  | nil => cases h
  | cons n rest ih =>
    obtain ⟨k, below⟩ := n
    have hne := elementAlias_ne_self name i
    obtain heq | hrest := List.mem_cons.mp h
    · obtain rfl : Segment.index i = k := heq
      cases hfound : Entries.get? (elementAlias name i) record with
      | none =>
        rw [foldElements_missing hfound]
        exact get?_foldElements_none hne rest hfound
      | some element =>
        rw [foldElements_found hfound]
        apply get?_foldElements_none hne
        rw [Entries.get?_set_other _ _ hne, Entries.get?_erase_same]
    · cases k with
      | property other => exact ih hrest record
      | index j =>
        cases hfound : Entries.get? (elementAlias name j) record with
        | none =>
          rw [foldElements_missing hfound]
          exact ih hrest record
        | some element =>
          rw [foldElements_found hfound]
          exact ih hrest _

theorem listItems_some_list (items : List Value) : listItems (some (.list items)) = items := rfl

/-- What the other elements make of a list leaves a position without an element of its own alone. -/
theorem placed_other {found : Nat → Option Value} {children : SelectionTree} {i : Nat}
    (h : .index i ∉ keys children) {items : List Value} {v : Value} (hv : items[i]? = some v) :
    ∃ items', placed found children (some (.list items)) = some (.list items') ∧
      items'[i]? = some v := by
  induction children generalizing items with
  | nil => exact ⟨items, rfl, hv⟩
  | cons n rest ih =>
    obtain ⟨k, below⟩ := n
    have hrest : .index i ∉ keys rest := fun hmem => h (List.mem_cons_of_mem _ hmem)
    cases k with
    | property name => exact ih hrest hv
    | index j =>
      rw [placed]
      cases found j with
      | none => exact ih hrest hv
      | some element =>
        apply ih hrest
        have hij : i ≠ j := fun heq => h (heq ▸ List.mem_cons_self)
        rw [listItems_some_list, getElem?_placeAt_other _ hij, hv]
        simp

/-- A selected element comes to stand at its position, merged into what was there. -/
theorem placed_found (found : Nat → Option Value) {children below : SelectionTree} {i : Nat}
    {element : Value} (hnodup : (keys children).Nodup) (h : .node (.index i) below ∈ children)
    (hfound : found i = some element) (v : Option Value) :
    ∃ items, placed found children v = some (.list items) ∧
      items[i]? = some (mergedOnto (listItems v)[i]? (foldElement below element)) := by
  induction children generalizing v with
  | nil => cases h
  | cons n rest ih =>
    obtain ⟨k, others⟩ := n
    obtain ⟨hfresh, hrest⟩ := List.nodup_cons.mp hnodup
    obtain heq | hmem := List.mem_cons.mp h
    · obtain ⟨rfl, rfl⟩ := SelectionNode.node.inj heq
      rw [placed, hfound]
      exact placed_other hfresh (getElem?_placeAt_same _ i _)
    · cases k with
      | property name => exact ih hrest hmem v
      | index j =>
        rw [placed]
        cases found j with
        | none => exact ih hrest hmem v
        | some other =>
          obtain ⟨items, hitems, hget⟩ := ih hrest hmem
            (some (.list (placeAt (foldElement others other) j (listItems v))))
          have hij : i ≠ j := by
            rintro rfl
            exact hfresh (mem_keys_of_mem hmem)
          refine ⟨items, hitems, ?_⟩
          rw [hget, listItems_some_list, mergedOnto_placeAt_other _ _ hij]

/-- Without elements a list is left as it is. -/
theorem placed_of_no_index {found : Nat → Option Value} {children : SelectionTree}
    (h : hasIndex children = false) (v : Option Value) : placed found children v = v := by
  induction children with
  | nil => rfl
  | cons n rest ih =>
    obtain ⟨k, below⟩ := n
    cases k with
    | property name => exact ih (by simpa [hasIndex, Segment.isIndex] using h)
    | index i => simp [hasIndex, Segment.isIndex] at h

theorem fold_of_no_property {children : SelectionTree} (h : hasProperty children = false)
    (record : Entries Value) : fold children record = record := by
  induction children with
  | nil => rfl
  | cons n rest ih =>
    obtain ⟨k, below⟩ := n
    cases k with
    | property name => simp [hasProperty, Segment.isIndex] at h
    | index i =>
      rw [fold, foldNode]
      exact ih (by simpa [hasProperty, Segment.isIndex] using h)

theorem mapMappings_id {change : Entries Value → Entries Value} (h : ∀ es, change es = es)
    (v : Value) : mapMappings change v = v := by
  cases v with
  | map es => rw [mapMappings, h]
  | seq kind items =>
    cases kind with
    | list =>
      rw [mapMappings]
      have hitems := List.map_id items
      refine congrArg (Value.seq .list) ((List.map_congr_left fun w _ => ?_).trans hitems)
      cases w with
      | map es => simp [h]
      | _ => rfl
    | _ => rfl
  | _ => rfl

theorem get?_updateField_same (name : String) (change : Value → Value) (record : Entries Value) :
    Entries.get? name (updateField name change record) = (Entries.get? name record).map change := by
  unfold updateField
  cases h : Entries.get? name record with
  | none => exact h
  | some v => exact Entries.get?_set_same _ _ _

theorem get?_updateField_other {name key : String} (h : key ≠ name) (change : Value → Value)
    (record : Entries Value) :
    Entries.get? key (updateField name change record) = Entries.get? key record := by
  unfold updateField
  cases Entries.get? name record with
  | none => rfl
  | some v => exact Entries.get?_set_other _ _ h

/-- A record in which what stands under a name is folded by the properties selected below it. -/
def foldNamed (name : String) (children : SelectionTree) (record : Entries Value) :
    Entries Value :=
  if hasProperty children then updateField name (mapMappings (fold children)) record else record

theorem foldNode_property (name : String) (children : SelectionTree) (record : Entries Value) :
    foldNode (.node (.property name) children) record =
      foldElements name children (foldNamed name children record) := by
  rw [foldNode, foldNamed]

theorem get?_foldNamed_same (name : String) (children : SelectionTree) (record : Entries Value) :
    Entries.get? name (foldNamed name children record) =
      (Entries.get? name record).map (mapMappings (fold children)) := by
  unfold foldNamed
  by_cases h : hasProperty children = true
  · rw [if_pos h, get?_updateField_same]
  · rw [if_neg h]
    have hid := mapMappings_id (fold_of_no_property (Bool.eq_false_iff.mpr h))
    cases Entries.get? name record <;> simp [hid]

theorem get?_foldNamed_other {name key : String} (h : key ≠ name) (children : SelectionTree)
    (record : Entries Value) :
    Entries.get? key (foldNamed name children record) = Entries.get? key record := by
  unfold foldNamed
  split
  · exact get?_updateField_other h _ record
  · rfl

/-- What stands under a property after folding, told by what stands under its own keys before. -/
def foldedField (name : String) (children : SelectionTree) (record : Entries Value) :
    Option Value :=
  placed (fun i => Entries.get? (elementAlias name i) record) children
    ((Entries.get? name record).map (mapMappings (fold children)))

theorem get?_foldNode_name {name : String} {children : SelectionTree}
    (hnodup : (keys children).Nodup) (record : Entries Value) :
    Entries.get? name (foldNode (.node (.property name) children) record) =
      foldedField name children record := by
  rw [foldNode_property, get?_foldElements_name hnodup, get?_foldNamed_same, foldedField]
  exact placed_congr (fun i _ => get?_foldNamed_other (elementAlias_ne_self name i) _ _) _

theorem get?_foldNode_other {n : SelectionNode} {key : String} (h : ¬ Touches n key)
    (record : Entries Value) : Entries.get? key (foldNode n record) = Entries.get? key record := by
  obtain ⟨k, children⟩ := n
  cases k with
  | index i => rw [foldNode]
  | property name =>
    have hname : key ≠ name := fun heq => h (.inl heq)
    rw [foldNode_property, get?_foldElements_other hname (fun i hi heq => h (.inr ⟨i, hi, heq⟩)),
      get?_foldNamed_other hname]

/-- Keys that no step touches stay as they are. -/
theorem get?_fold_other {tree : SelectionTree} {key : String} (h : ∀ n ∈ tree, ¬ Touches n key)
    (record : Entries Value) : Entries.get? key (fold tree record) = Entries.get? key record := by
  induction tree generalizing record with
  | nil => rfl
  | cons n rest ih =>
    rw [fold, ih (fun m hm => h m (List.mem_cons_of_mem _ hm)),
      get?_foldNode_other (h n List.mem_cons_self)]

theorem fold_append (before after : SelectionTree) (record : Entries Value) :
    fold (before ++ after) record = fold after (fold before record) := by
  induction before generalizing record with
  | nil => rfl
  | cons n rest ih => exact ih _

/-- A level whose siblings do not meet: no key stands there twice, and no property has a name that
could be the alias of an element. -/
structure IsSeparate (level : SelectionTree) : Prop where
  nodup : (keys level).Nodup
  names : ∀ name, .property name ∈ keys level → ¬ IsElementAlias name

variable {level : SelectionTree} {name : String} {children : SelectionTree}

/-- Two properties of a level touch no key together. -/
theorem IsSeparate.not_touches (h : IsSeparate level) {other : String} {others : SelectionTree}
    (hname : .property name ∈ keys level) (hother : .property other ∈ keys level)
    (hne : name ≠ other) {key : String} (hkey : Touches (.node (.property name) children) key) :
    ¬ Touches (.node (.property other) others) key := by
  obtain rfl | ⟨i, -, rfl⟩ := hkey
  · rintro (heq | ⟨j, -, heq⟩)
    · exact hne heq
    · exact h.names key hname ⟨other, j, heq⟩
  · rintro (heq | ⟨j, -, heq⟩)
    · exact h.names other hother ⟨name, i, heq.symm⟩
    · exact hne (eq_of_elementAlias_eq heq).1

/-- The siblings of a property touch none of its keys. -/
theorem IsSeparate.split (h : IsSeparate level) (hmem : .node (.property name) children ∈ level) :
    ∃ before after, level = before ++ .node (.property name) children :: after ∧
      ∀ n ∈ before ++ after, ∀ key, Touches (.node (.property name) children) key →
        ¬ Touches n key := by
  obtain ⟨before, after, rfl⟩ := List.append_of_mem hmem
  refine ⟨before, after, rfl, fun n hn key htouches => ?_⟩
  have hkeys : keys (before ++ .node (.property name) children :: after) =
      keys before ++ .property name :: keys after := by
    simp [keys]
  have hnodup := h.nodup
  rw [hkeys, List.nodup_append] at hnodup
  obtain ⟨-, hafter, hbefore⟩ := hnodup
  obtain ⟨k, others⟩ := n
  cases k with
  | index i => exact id
  | property other =>
    have hother : .property other ∈ keys (before ++ .node (.property name) children :: after) := by
      rw [hkeys]
      obtain hn | hn := List.mem_append.mp hn
      · exact List.mem_append_left _ (mem_keys_of_mem hn)
      · exact List.mem_append_right _ (List.mem_cons_of_mem _ (mem_keys_of_mem hn))
    have hne : name ≠ other := by
      rintro rfl
      obtain hn | hn := List.mem_append.mp hn
      · exact hbefore _ (mem_keys_of_mem hn) _ List.mem_cons_self rfl
      · exact (List.nodup_cons.mp hafter).1 (mem_keys_of_mem hn)
    exact h.not_touches (mem_keys_of_mem hmem) hother hne htouches

/-- On a separate level each property is folded as if it stood alone. -/
theorem IsSeparate.fold_alone (h : IsSeparate level)
    (hmem : .node (.property name) children ∈ level) (record : Entries Value) :
    ∃ before : SelectionTree, ∀ key, Touches (.node (.property name) children) key →
      Entries.get? key (fold before record) = Entries.get? key record ∧
      Entries.get? key (fold level record) =
        Entries.get? key (foldNode (.node (.property name) children) (fold before record)) := by
  obtain ⟨before, after, rfl, hapart⟩ := h.split hmem
  refine ⟨before, fun key hkey => ⟨?_, ?_⟩⟩
  · exact get?_fold_other (fun n hn => hapart n (List.mem_append_left _ hn) key hkey) record
  · rw [fold_append, fold]
    exact get?_fold_other (fun n hn => hapart n (List.mem_append_right _ hn) key hkey) _

/-- What stands under a property after folding a level. -/
theorem IsSeparate.get?_fold_name (h : IsSeparate level)
    (hmem : .node (.property name) children ∈ level) (hnodup : (keys children).Nodup)
    (record : Entries Value) :
    Entries.get? name (fold level record) = foldedField name children record := by
  obtain ⟨before, hbefore⟩ := h.fold_alone hmem record
  rw [(hbefore name (.inl rfl)).2, get?_foldNode_name hnodup, foldedField, foldedField,
    (hbefore name (.inl rfl)).1]
  exact placed_congr (fun i hi => (hbefore _ (.inr ⟨i, hi, rfl⟩)).1) _

/-- Folding a level leaves nothing under the alias of a selected element. -/
theorem IsSeparate.get?_fold_alias (h : IsSeparate level)
    (hmem : .node (.property name) children ∈ level) {i : Nat} (hi : .index i ∈ keys children)
    (record : Entries Value) : Entries.get? (elementAlias name i) (fold level record) = none := by
  obtain ⟨before, hbefore⟩ := h.fold_alone hmem record
  rw [(hbefore _ (.inr ⟨i, hi, rfl⟩)).2, foldNode_property]
  exact get?_foldElements_alias hi _

/-- The levels of the tree of some paths are separate, if the names on the paths are no aliases. -/
theorem isSeparate_at? {paths : List FieldPath} {place : List Segment}
    (hnames : ∀ p ∈ paths, ∀ name ∈ p.propertyNames, ¬ IsElementAlias name)
    (h : at? place (ofPaths paths) = some level) : IsSeparate level where
  nodup := isDistinct_ofPaths paths place level h
  names := by
    intro name hname
    obtain ⟨p, hp, rest, hsegments⟩ := exists_path_of_mem_keys h hname
    refine hnames p hp name (List.mem_filterMap.mpr ⟨.property name, ?_, rfl⟩)
    rw [← hsegments]
    simp

end SelectionTree

end Retrieval
