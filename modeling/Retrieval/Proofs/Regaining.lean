import Mathlib.Data.List.Basic
import Retrieval.Proofs.Answering

/-!
A record regained from the answer to a selection. Folding makes of each value in the answer what is
regained of the value in the record, level by level. Main statement: along every path that is not
shadowed by a longer one the folded answer reads like the record, and no alias is left in it.
-/

namespace Retrieval

/-- The objects that a value is or lists. -/
def objectsIn : Value → List (Entries Value)
  | .map es => [es]
  | .seq .list items => items.filterMap Value.entries?
  | _ => []

theorem eachObject_congr {look look' : Entries Value → Value} {v : Value}
    (h : ∀ es ∈ objectsIn v, look es = look' es) : eachObject look v = eachObject look' v := by
  cases v with
  | map es => exact h es List.mem_cons_self
  | seq kind items =>
    cases kind with
    | list =>
      refine congrArg Value.list (List.map_congr_left fun item hitem => ?_)
      cases item with
      | map es => exact h es (List.mem_filterMap.mpr ⟨_, hitem, rfl⟩)
      | _ => rfl
    | _ => rfl
  | _ => rfl

theorem eachObject_eachObject (look : Entries Value → Value)
    (change : Entries Value → Entries Value) (v : Value) :
    eachObject look (eachObject (fun es => .map (change es)) v) =
      eachObject (fun es => look (change es)) v := by
  cases v with
  | seq kind items =>
    cases kind with
    | list =>
      refine congrArg Value.list ((List.map_map ..).trans (List.map_congr_left fun item _ => ?_))
      cases item <;> rfl
    | _ => rfl
  | _ => rfl

theorem mapMappings_eachObject (change answer : Entries Value → Entries Value) (v : Value) :
    mapMappings change (eachObject (fun es => .map (answer es)) v) =
      eachObject (fun es => .map (change (answer es))) v := by
  cases v with
  | seq kind items =>
    cases kind with
    | list =>
      refine congrArg Value.list ((List.map_map ..).trans (List.map_congr_left fun item _ => ?_))
      cases item <;> rfl
    | _ => rfl
  | _ => rfl

theorem objectsIn_eachObject (change : Entries Value → Entries Value) (v : Value) :
    objectsIn (eachObject (fun es => .map (change es)) v) = (objectsIn v).map change := by
  cases v with
  | seq kind items =>
    cases kind with
    | list =>
      refine (List.filterMap_map ..).trans (.trans ?_ (List.map_filterMap ..).symm)
      refine List.filterMap_congr fun item _ => ?_
      cases item <;> rfl
    | _ => rfl
  | _ => rfl

/-- The value at the end of some steps. A property of a list is read in each of its elements, and
what is not there is null. -/
def read : List Segment → Value → Value
  | [], v => v
  | .property name :: rest, v => eachObject (fun es => read rest (valueUnder name es)) v
  | .index i :: rest, v => read rest (itemAt i v)

/-- All values at the end of some steps, those in different elements of a list apart. -/
def valuesAt : List Segment → Value → List Value
  | [], v => [v]
  | .property name :: rest, v => (objectsIn v).flatMap fun es => valuesAt rest (valueUnder name es)
  | .index i :: rest, v => valuesAt rest (itemAt i v)

/-- All objects at the end of some steps. -/
def objectsAt (place : List Segment) (v : Value) : List (Entries Value) :=
  (valuesAt place v).flatMap objectsIn

theorem objectsAt_property (name : String) (rest : List Segment) (v : Value) :
    objectsAt (.property name :: rest) v =
      (objectsIn v).flatMap fun es => objectsAt rest (valueUnder name es) :=
  List.flatMap_assoc ..

namespace SelectionTree

/-- What folding makes of the answer to a selection. -/
def regained (tree : SelectionTree) (record : Entries Value) : Entries Value :=
  fold tree (answered tree record)

/-- What is regained of a value below which a level is selected. -/
def regainedValue (level : SelectionTree) (v : Value) : Value :=
  if level.isEmpty then v else eachObject (fun es => .map (regained level es)) v

/-- No element of a list is itself a list, where elements are selected by their position. -/
def HasPlainElements (tree : SelectionTree) (v : Value) : Prop :=
  ∀ place level, at? place tree = some level → hasIndex level = true →
    ∀ u ∈ valuesAt place v, ∀ items, .list items ∉ listItems (some u)

/-- The siblings on a level do not meet, a level has properties or elements but not both, and an
element has no elements. -/
structure IsApart (tree : SelectionTree) : Prop where
  separate : ∀ place level, at? place tree = some level → IsSeparate level
  apart : ∀ place level, at? place tree = some level → hasProperty level = true →
    hasIndex level = false
  unindexed : ∀ place i level, at? (place ++ [.index i]) tree = some level → hasIndex level = false

variable {tree level children below : SelectionTree} {name key : String} {i : Nat}
  {v w : Value} {place path : List Segment}

theorem IsApart.step (h : IsApart tree) {step : Segment}
    (hbelow : below? step tree = some children) : IsApart children where
  separate place level hlevel :=
    h.separate (step :: place) level ((at?_of_below? hbelow _).trans hlevel)
  apart place level hlevel := h.apart (step :: place) level ((at?_of_below? hbelow _).trans hlevel)
  unindexed place i level hlevel :=
    h.unindexed (step :: place) i level ((at?_of_below? hbelow _).trans hlevel)

theorem HasPlainElements.property (h : HasPlainElements tree v)
    (hbelow : below? (.property name) tree = some children) {es : Entries Value}
    (hes : es ∈ objectsIn v) : HasPlainElements children (valueUnder name es) := by
  intro place level hlevel hindex u hu
  refine h (.property name :: place) level ((at?_of_below? hbelow _).trans hlevel) hindex u ?_
  exact List.mem_flatMap.mpr ⟨es, hes, hu⟩

theorem HasPlainElements.index (h : HasPlainElements tree v)
    (hbelow : below? (.index i) tree = some children) : HasPlainElements children (itemAt i v) :=
  fun place level hlevel =>
    h (.index i :: place) level ((at?_of_below? hbelow _).trans hlevel)

theorem itemAt_ne_list (h : ∀ items, .list items ∉ listItems (some v)) (i : Nat)
    (items : List Value) : itemAt i v ≠ .list items := by
  unfold itemAt
  cases hitem : (listItems (some v))[i]? with
  | none => exact Value.noConfusion
  | some item =>
    rintro rfl
    exact h items (List.mem_of_getElem? hitem)

/-- What is regained under a property without selected elements. -/
theorem IsSeparate.valueUnder_regained (h : IsSeparate level)
    (hmem : .node (.property name) children ∈ level) (hnodup : (keys children).Nodup)
    (hindex : hasIndex children = false) (record : Entries Value) :
    valueUnder name (regained level record) = regainedValue children (valueUnder name record) := by
  rw [valueUnder, regained, h.get?_fold_name hmem hnodup, foldedField, placed_of_no_index hindex,
    h.get?_answered_name hmem hindex]
  cases children with
  | nil => exact mapMappings_id (fun _ => rfl) _
  | cons n rest => exact mapMappings_eachObject _ _ _

/-- Folding an answered element gives what is regained of it, unless it is a list. -/
theorem foldElement_answeredValue (h : ∀ items, v ≠ .list items) (level : SelectionTree) :
    foldElement level (answeredValue level v) = regainedValue level v := by
  cases level with
  | nil => cases v <;> rfl
  | cons n rest =>
    cases v with
    | seq kind items =>
      cases kind with
      | list => exact absurd rfl (h items)
      | _ => rfl
    | _ => rfl

/-- What is regained of a selected element. -/
theorem IsSeparate.itemAt_regained (h : IsSeparate level)
    (hmem : .node (.property name) children ∈ level) (hnodup : (keys children).Nodup)
    (hproperty : hasProperty children = false) (hindex : hasIndex children = true)
    (hbelow : .node (.index i) below ∈ children) {record : Entries Value}
    (hplain : ∀ items, itemAt i (valueUnder name record) ≠ .list items) :
    itemAt i (valueUnder name (regained level record)) =
      regainedValue below (itemAt i (valueUnder name record)) := by
  have hname : Entries.get? name (answered level record) = none := by
    rw [h.get?_answered_elements hmem hproperty hindex (.inl rfl)]
    exact get?_answerElements_other (fun j _ => (elementAlias_ne_self name j).symm) record
  have hkey : .index i ∈ keys children := mem_keys_of_mem hbelow
  have halias : Entries.get? (elementAlias name i) (answered level record) =
      some (answeredValue below (itemAt i (valueUnder name record))) := by
    rw [h.get?_answered_elements hmem hproperty hindex (.inr ⟨i, hkey, rfl⟩)]
    exact get?_answerElements_alias hnodup hbelow record
  -- nothing came by name, so that the elements are placed into a list of their own
  obtain ⟨items, hitems, hget⟩ := placed_found
    (fun i => Entries.get? (elementAlias name i) (answered level record)) hnodup hbelow halias none
  have hlist : valueUnder name (regained level record) = .list items := by
    rw [valueUnder, regained, h.get?_fold_name hmem hnodup, foldedField, hname]
    exact congrArg (Option.getD · .null) hitems
  rw [hlist, itemAt, listItems_some_list, hget]
  exact foldElement_answeredValue hplain below

/-- How a value of a folded answer comes from the value of the record, by what is selected below. -/
inductive Regains (tree : SelectionTree) (v : Value) : Value → Prop
  | named (hindex : hasIndex tree = false) : Regains tree v (regainedValue tree v)
  | elements {w : Value} (hindex : hasIndex tree = true) (hproperty : hasProperty tree = false)
    (hitems : ∀ i below, below? (.index i) tree = some below →
      itemAt i w = regainedValue below (itemAt i v)) : Regains tree v w

/-- Where properties are selected, each object is folded by them. -/
theorem Regains.eq_eachObject (h : Regains tree v w) (hproperty : hasProperty tree = true) :
    w = eachObject (fun es => .map (regained tree es)) v := by
  cases h with
  | named hindex =>
    cases tree with
    | nil => cases hproperty
    | cons n rest => rfl
  | elements _ hnone => simp [hnone] at hproperty

/-- Below a property the values of an object are regained. -/
theorem IsApart.regains_property (h : IsApart tree)
    (hbelow : below? (.property name) tree = some children) {record : Entries Value}
    (hplain : HasPlainElements children (valueUnder name record)) :
    Regains children (valueUnder name record) (valueUnder name (regained tree record)) := by
  have hseparate : IsSeparate tree := h.separate [] tree rfl
  have hmem := mem_of_below? hbelow
  have hnodup : (keys children).Nodup := ((h.step hbelow).separate [] children rfl).nodup
  cases hindex : hasIndex children with
  | false =>
    rw [hseparate.valueUnder_regained hmem hnodup hindex]
    exact .named hindex
  | true =>
    have hproperty : hasProperty children = false := by
      rw [← Bool.not_eq_true]
      intro hsome
      have hnone := (h.step hbelow).apart [] children rfl hsome
      simp [hindex] at hnone
    refine .elements hindex hproperty fun i below hi => ?_
    have hitem := itemAt_ne_list (hplain [] children rfl hindex _ List.mem_cons_self) i
    exact hseparate.itemAt_regained hmem hnodup hproperty hindex (mem_of_below? hi) hitem

/-- Below an index the element is regained. -/
theorem Regains.index (h : Regains tree v w) (hapart : IsApart tree)
    (hbelow : below? (.index i) tree = some children) :
    Regains children (itemAt i v) (itemAt i w) := by
  cases h with
  | named hnone =>
    have hindex := (hasIndex_iff tree).mpr ⟨i, mem_keys_of_below? hbelow⟩
    simp [hnone] at hindex
  | elements _ _ hitems =>
    rw [hitems i children hbelow]
    exact .named (hapart.unindexed [] i children ((at?_of_below? hbelow []).trans rfl))

/-- What is regained reads as before along a path below which nothing is selected. -/
theorem Regains.read_eq (h : Regains tree v w) (hapart : IsApart tree)
    (hplain : HasPlainElements tree v) (hpath : at? path tree = some []) :
    read path w = read path v := by
  -- a step leads to the level below it, where what is found is again regained
  induction path generalizing tree v w with
  | nil =>
    obtain rfl : tree = [] := Option.some.inj hpath
    cases h with
    | named => rfl
    | elements hindex => cases hindex
  | cons step rest ih =>
    obtain ⟨children, hbelow, hrest⟩ := Option.bind_eq_some_iff.mp hpath
    have hchildren := hapart.step hbelow
    cases step with
    | property name =>
      have hproperty := (hasProperty_iff tree).mpr ⟨name, mem_keys_of_below? hbelow⟩
      rw [h.eq_eachObject hproperty, read, read, eachObject_eachObject]
      refine eachObject_congr fun es hes => ?_
      have hes := hplain.property hbelow hes
      exact ih (hapart.regains_property hbelow hes) hchildren hes hrest
    | index i => exact ih (h.index hapart hbelow) hchildren (hplain.index hbelow) hrest

/-- The objects on a level of what is regained are those of the record, folded by the level. -/
theorem Regains.objectsAt_eq (h : Regains tree v w) (hapart : IsApart tree)
    (hplain : HasPlainElements tree v) (hlevel : at? place tree = some level)
    (hproperty : hasProperty level = true) :
    objectsAt place w = (objectsAt place v).map (regained level) := by
  induction place generalizing tree v w with
  | nil =>
    obtain rfl : tree = level := Option.some.inj hlevel
    rw [h.eq_eachObject hproperty]
    simp [objectsAt, valuesAt, objectsIn_eachObject]
  | cons step rest ih =>
    obtain ⟨children, hbelow, hrest⟩ := Option.bind_eq_some_iff.mp hlevel
    have hchildren := hapart.step hbelow
    cases step with
    | property name =>
      have hnamed := (hasProperty_iff tree).mpr ⟨name, mem_keys_of_below? hbelow⟩
      rw [h.eq_eachObject hnamed, objectsAt_property, objectsAt_property, objectsIn_eachObject,
        List.flatMap_map, List.map_flatMap]
      refine List.flatMap_congr fun es hes => ?_
      have hes := hplain.property hbelow hes
      exact ih (hapart.regains_property hbelow hes) hchildren hes hrest
    | index i => exact ih (h.index hapart hbelow) hchildren (hplain.index hbelow) hrest

/-- A folded answer has no keys but the selected properties. -/
theorem IsSeparate.property_mem_keys (h : IsSeparate level) {record : Entries Value}
    (hkey : key ∈ Entries.keys (regained level record)) : .property key ∈ keys level := by
  apply Classical.byContradiction
  intro hother
  refine absurd hkey ((Entries.get?_eq_none_iff _ _).mp ?_)
  by_cases htouched : ∃ n ∈ level, Touches n key
  · obtain ⟨⟨k, children⟩, hn, htouches⟩ := htouched
    cases k with
    | index i => cases htouches
    | property name =>
      obtain rfl | ⟨i, hi, rfl⟩ := htouches
      · exact absurd (mem_keys_of_mem hn) hother
      · exact h.get?_fold_alias hn hi _
  · have huntouched : ∀ n ∈ level, ¬ Touches n key := fun n hn hkey => htouched ⟨n, hn, hkey⟩
    rw [regained, get?_fold_other huntouched, get?_answered_other huntouched]

variable {paths : List FieldPath} {record : Entries Value}

/-- In the tree of accepted paths an index stands below a property. -/
theorem hasIndex_of_parsed (hparsed : ∀ p ∈ paths, ∃ raw, FieldPath.parse raw = .ok p)
    (hlevel : at? place (ofPaths paths) = some level) (hindex : hasIndex level = true) :
    ∃ start name, place = start ++ [.property name] := by
  obtain ⟨i, hi⟩ := (hasIndex_iff _).mp hindex
  obtain ⟨p, hp, rest, hsegments⟩ := exists_path_of_mem_keys hlevel hi
  obtain ⟨raw, hraw⟩ := hparsed p hp
  obtain rfl | ⟨start, step, rfl⟩ := List.eq_nil_or_concat' place
  · -- the first step of a path is a property
    cases hsegments
  · cases step with
    | property name => exact ⟨start, name, rfl⟩
    | index j =>
      have halternates := FieldPath.alternates_of_parse hraw
      rw [← hsegments, List.append_assoc, List.append_assoc] at halternates
      exact absurd halternates FieldPath.not_alternates_indexes

theorem isApart_ofPaths (hparsed : ∀ p ∈ paths, ∃ raw, FieldPath.parse raw = .ok p)
    (hnames : ∀ p ∈ paths, ∀ name ∈ p.propertyNames, ¬ IsElementAlias name)
    (happart : ∀ place name level, at? (place ++ [.property name]) (ofPaths paths) = some level →
      hasProperty level = true → hasIndex level = false) : IsApart (ofPaths paths) where
  separate _ _ := isSeparate_at? hnames
  apart place level hlevel hproperty := by
    rw [← Bool.not_eq_true]
    intro hindex
    obtain ⟨start, name, rfl⟩ := hasIndex_of_parsed hparsed hlevel hindex
    simp [happart start name level hlevel hproperty] at hindex
  unindexed place i level hlevel := by
    rw [← Bool.not_eq_true]
    intro hindex
    obtain ⟨start, name, heq⟩ := hasIndex_of_parsed hparsed hlevel hindex
    cases (List.append_inj' heq rfl).2

theorem hasProperty_ofPaths {p : FieldPath} (hp : p ∈ paths) :
    hasProperty (ofPaths paths) = true := by
  have hroot : (at? [.property p.root] (ofPaths paths)).isSome :=
    (isSome_at?_ofPaths _ _).mpr (.inr ⟨p, hp, p.rest, rfl⟩)
  exact (hasProperty_iff _).mpr ⟨p.root, (mem_keys_iff (at?_nil _) _).mpr hroot⟩

/-- A record of which anything is selected is regained at the top. -/
theorem IsApart.regains (h : IsApart tree) (hproperty : hasProperty tree = true)
    (record : Entries Value) : Regains tree (.map record) (.map (regained tree record)) := by
  cases tree with
  | nil => cases hproperty
  | cons n rest => exact .named (h.apart [] _ rfl hproperty)

/-- A selection that is rendered, answered and folded. The text asks for the fields that are
answered; along each path that no longer path goes through the folded answer reads like the record;
and its objects hold no keys but the selected properties, so no aliases. -/
theorem read_regained (hparsed : ∀ p ∈ paths, ∃ raw, FieldPath.parse raw = .ok p)
    (hnames : ∀ p ∈ paths, ∀ name ∈ p.propertyNames, ¬ IsElementAlias name)
    (happart : ∀ place name level, at? (place ++ [.property name]) (ofPaths paths) = some level →
      hasProperty level = true → hasIndex level = false)
    (hplain : HasPlainElements (ofPaths paths) (.map record)) :
    fields (ofPaths paths) = FieldRequest.texts (requested (ofPaths paths)) ∧
    (∀ p ∈ paths, p ∉ shadowedPaths paths →
      read p.segments (.map (regained (ofPaths paths) record)) = read p.segments (.map record)) ∧
    ∀ place level, at? place (ofPaths paths) = some level → hasProperty level = true →
      ∀ es ∈ objectsAt place (.map (regained (ofPaths paths) record)), ∀ key ∈ Entries.keys es,
        .property key ∈ keys level ∧ ¬ IsElementAlias key := by
  have hapart := isApart_ofPaths hparsed hnames happart
  refine ⟨fields_eq _, fun p hp hshadow => ?_, ?_⟩
  · have hregains := hapart.regains (hasProperty_ofPaths hp) record
    exact hregains.read_eq hapart hplain (at?_of_not_shadowed hp hshadow)
  · intro place level hlevel hproperty es hes key hkey
    obtain ⟨name, hname⟩ := (hasProperty_iff _).mp hproperty
    obtain ⟨p, hp, -⟩ := exists_path_of_mem_keys hlevel hname
    have hregains := hapart.regains (hasProperty_ofPaths hp) record
    rw [hregains.objectsAt_eq hapart hplain hlevel hproperty] at hes
    obtain ⟨source, -, rfl⟩ := List.mem_map.mp hes
    have hseparate := hapart.separate place level hlevel
    have hselected := hseparate.property_mem_keys hkey
    exact ⟨hselected, hseparate.names key hselected⟩

/-- The title of an album, the address of its second image and the names of its artists. -/
def albumPaths : List FieldPath :=
  [⟨"title", []⟩, ⟨"images", [.index 1, .property "url"]⟩, ⟨"artists", [.property "name"]⟩]

def album : Entries Value :=
  [("title", .text "Notes"),
    ("images", .list [.text "none", .map [("width", .int 3), ("url", .text "back.png")]]),
    ("artists", .list [.map [("name", .text "Ada")], .null])]

theorem index_place_album (hlevel : at? place (ofPaths albumPaths) = some level)
    (hindex : hasIndex level = true) : place = [.property "images"] := by
  obtain ⟨i, hi⟩ := (hasIndex_iff _).mp hindex
  obtain ⟨p, hp, rest, hsegments⟩ := exists_path_of_mem_keys hlevel hi
  simp only [albumPaths, List.mem_cons, List.not_mem_nil, or_false] at hp
  obtain rfl | rfl | rfl := hp <;>
    obtain _ | ⟨first, _ | ⟨second, _ | ⟨third, place⟩⟩⟩ := place <;>
    simp_all

/-- The second image is read at its position, and the artists in turn. -/
theorem read_regained_album :
    read [.property "images", .index 1, .property "url"]
      (.map (regained (ofPaths albumPaths) album)) = .text "back.png" ∧
    read [.property "artists", .property "name"]
      (.map (regained (ofPaths albumPaths) album)) = .list [.text "Ada", .null] ∧
    ∀ key ∈ Entries.keys (regained (ofPaths albumPaths) album), ¬ IsElementAlias key := by
  have hparsed : ∀ p ∈ albumPaths, ∃ raw, FieldPath.parse raw = .ok p := by
    simp only [albumPaths, List.forall_mem_cons]
    exact ⟨⟨"title", rfl⟩, ⟨"images.1.url", rfl⟩, ⟨"artists.name", rfl⟩, by simp⟩
  have hnames : ∀ p ∈ albumPaths, ∀ name ∈ p.propertyNames, ¬ IsElementAlias name := by
    intro p hp name hname halias
    have hplain : ∀ p ∈ albumPaths, ∀ name ∈ p.propertyNames, '_' ∉ name.toList := by decide
    exact hplain p hp name hname halias.mem_underscore
  have happart : ∀ place name level,
      at? (place ++ [.property name]) (ofPaths albumPaths) = some level →
      hasProperty level = true → hasIndex level = false := by
    intro place name level hlevel hproperty
    rw [← Bool.not_eq_true]
    intro hindex
    rw [index_place_album hlevel hindex] at hlevel
    obtain rfl := Option.some.inj hlevel
    cases hproperty
  have hplain : HasPlainElements (ofPaths albumPaths) (.map album) := by
    intro place level hlevel hindex u hu items
    rw [index_place_album hlevel hindex] at hu
    obtain rfl := List.mem_singleton.mp hu
    simp [valueUnder, album, Entries.get?, listItems, Value.list]
  obtain ⟨-, hread, hkeys⟩ := read_regained hparsed hnames happart hplain
  refine ⟨hread ⟨"images", [.index 1, .property "url"]⟩ (by simp [albumPaths]) (by decide),
    hread ⟨"artists", [.property "name"]⟩ (by simp [albumPaths]) (by decide), fun key hkey => ?_⟩
  exact (hkeys [] _ rfl rfl _ List.mem_cons_self key hkey).2

end SelectionTree

end Retrieval
