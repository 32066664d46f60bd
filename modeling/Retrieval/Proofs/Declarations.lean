import Mathlib.Data.List.Nodup
import Retrieval.Proofs.Listings
import Retrieval.Registry

/-!
Registries that settings declare: one variable lists the collections, and one for each of them lists
its fields. Main statement: lists are read back as they were written, so that the registry knows
exactly the collections that are listed, each with its fields.
-/

namespace Retrieval

namespace Text

theorem upper_append (s t : String) : upper (s ++ t) = upper s ++ upper t := by
  simp [upper]

/-- Capitals around a text stay as they are. -/
theorem upper_between {before after : String} (hbefore : upper before = before)
    (hafter : upper after = after) (s : String) :
    upper (before ++ s ++ after) = before ++ upper s ++ after := by
  rw [upper_append, upper_append, hbefore, hafter]

end Text

open Text

theorem Entries.get?_of_mem {α : Type} {es : Entries α} (hnodup : (keys es).Nodup)
    {e : String × α} (h : e ∈ es) : get? e.1 es = some e.2 := by
  induction es with
  | nil => cases h
  | cons first es ih =>
    obtain ⟨hfresh, hrest⟩ := List.nodup_cons.mp hnodup
    obtain rfl | h := List.mem_cons.mp h
    · exact if_pos rfl
    · have hmem : e.1 ∈ keys es := List.mem_map_of_mem h
      have hne : first.1 ≠ e.1 := (ne_of_mem_of_not_mem hmem hfresh).symm
      exact (if_neg hne).trans (ih hrest h)

namespace Value

theorem same_texts (s t : String) : same (.text s) (.text t) = (s == t) := by
  rw [same_text]
  simp [text?]

/-- Texts are kept apart as values just as they are by themselves. -/
theorem distinct_texts (xs : List String) :
    distinct (xs.map .text) = xs.eraseDups.map .text := by
  have hseen (seen : List String) :
      ((xs.map Value.text).foldl (fun seen v => if isMember v seen then seen else v :: seen)
        (seen.map .text)).reverse = (List.eraseDupsBy.loop (· == ·) xs seen).map .text := by
    induction xs generalizing seen with
    | nil => simp [List.eraseDupsBy.loop]
    | cons x xs ih =>
      have hmember : isMember (.text x) (seen.map .text) = seen.any (x == ·) := by
        simp [isMember, List.any_map, Function.comp_def, same_texts]
      rw [List.map_cons, List.foldl_cons, List.eraseDupsBy.loop, hmember]
      cases seen.any (x == ·) with
      | true => exact ih seen
      | false => exact ih (x :: seen)
  exact hseen []

/-- Any texts have an order. -/
theorem exists_sorted?_texts (xs : List String) :
    ∃ ys, sorted? (xs.map .text) = some ys ∧ ys.Perm (xs.map .text) := by
  have hordered : areOrdered (xs.map .text) = true := by
    induction xs with
    | nil => rfl
    | cons x xs ih => simp [areOrdered, ih, before?, scalarBefore?, number?, text?]
  rw [sorted?, if_pos hordered]
  exact ⟨_, rfl, List.mergeSort_perm _ _⟩

end Value

namespace Registry

variable {tables : Entries (List String)}

/-- The registry of some collections with their fields. -/
def ofTables (tables : Entries (List String)) : Registry :=
  ⟨tables.map fun t => (.text t.1, t.2.eraseDups.map .text)⟩

theorem place_of_find?_eq_none {key : Value} {es : List (Value × List Value)}
    (h : find? key es = none) (fields : List Value) :
    place key fields es = es ++ [(key, fields)] := by
  induction es with
  | nil => rfl
  | cons e es ih =>
    rw [find?] at h
    split at h
    · cases h
    · rename_i hsame
      rw [place, if_neg hsame, ih h, List.cons_append]

/-- Collections that are registered one after another stand in this order, if they are new. -/
theorem foldl_register (hnodup : (Entries.keys tables).Nodup) (r : Registry)
    (hnew : ∀ name ∈ Entries.keys tables, find? (.text name) r.collections = none) :
    tables.foldl (fun r t => r.register (.text t.1) (Value.distinct (t.2.map .text))) r =
      ⟨r.collections ++ (ofTables tables).collections⟩ := by
  induction tables generalizing r with
  | nil => simp [ofTables]
  | cons t rest ih =>
    obtain ⟨hfresh, hrest⟩ := List.nodup_cons.mp hnodup
    obtain ⟨hfirst, hnewRest⟩ := List.forall_mem_cons.mp hnew
    rw [List.foldl_cons, ih hrest]
    · rw [register, place_of_find?_eq_none hfirst, Value.distinct_texts]
      simp [ofTables]
    · intro name hname
      have hne : name ≠ t.1 := by
        rintro rfl
        exact hfresh hname
      exact (find?_place_other _ _ hne).trans (hnewRest name hname)

/-- The registry of settings that list some collections, and the fields of each. -/
theorem ofSettings_eq_ofTables {s : Settings} (hnodup : (Entries.keys tables).Nodup)
    (hnames : s.texts "QUERY_COLLECTIONS" = .ok (Entries.keys tables))
    (hfields : ∀ t ∈ tables, s.texts ("QUERY_COLLECTION_" ++ t.1 ++ "_FIELDS") = .ok t.2) :
    ofSettings s = .ok (ofTables tables) := by
  have hlists : (Entries.keys tables).mapM
      (fun name => s.texts ("QUERY_COLLECTION_" ++ name ++ "_FIELDS")) =
        .ok (tables.map Prod.snd) := by
    rw [mapM_eq_ok_iff, Entries.keys, List.map_map, List.map_map]
    exact List.map_congr_left hfields
  have hzip : tables = (Entries.keys tables).zip (tables.map Prod.snd) := List.zip_of_prod rfl rfl
  rw [ofSettings, hnames, ok_bind, hlists, ok_bind, ← hzip]
  exact congrArg Except.ok (foldl_register hnodup empty fun _ _ => rfl)

theorem find?_ofTables (tables : Entries (List String)) (c : String) :
    find? (.text c) (ofTables tables).collections =
      (Entries.get? c tables).map fun fields => fields.eraseDups.map .text := by
  induction tables with
  | nil => rfl
  | cons t rest ih =>
    rw [ofTables, List.map_cons, find?, Entries.get?, Value.same_texts]
    by_cases h : t.1 = c
    · simp [h]
    · rw [if_neg (by simpa using h), if_neg h]
      exact ih

theorem isKnown_ofTables_iff {c : String} :
    (ofTables tables).isKnown (.text c) = true ↔ c ∈ Entries.keys tables := by
  rw [isKnown, find?_ofTables, Option.isSome_map, Option.isSome_iff_ne_none, Ne,
    Entries.get?_eq_none_iff, not_not]

theorem knownFields_ofTables {c : String} {fields : List String}
    (h : Entries.get? c tables = some fields) : (ofTables tables).knownFields (.text c) =
      if fields = [] then none else some (fields.eraseDups.map .text) := by
  rw [knownFields, find?_ofTables, h, Option.map_some]
  cases fields with
  | nil => rfl
  | cons f fields => simp [List.eraseDups_cons]

theorem exists_names?_ofTables (tables : Entries (List String)) :
    ∃ names, (ofTables tables).names? = some names ∧
      names.Perm ((Entries.keys tables).map .text) := by
  have hkeys : (ofTables tables).collections.map (·.1) = (Entries.keys tables).map .text := by
    simp [ofTables, Entries.keys]
  rw [names?, hkeys]
  exact Value.exists_sorted?_texts _

end Registry

namespace Settings

/-- A collection that settings declare: its name, its fields, and the value that lists them. -/
structure Declaration where
  name : String
  fields : List String
  raw : String

namespace Declaration

/-- The name and the fields can stand in a list, and the value lists the fields. -/
structure IsWritten (d : Declaration) : Prop where
  name : IsElement d.name
  fields : ∀ f ∈ d.fields, IsElement f
  listing : IsListing d.fields d.raw

/-- The entry of the collection in a table. -/
def entry (d : Declaration) : String × List String := (d.name, d.fields)

theorem keys_entries (ds : List Declaration) :
    Entries.keys (ds.map entry) = ds.map Declaration.name := List.map_map

/-- The setting of the fields. -/
def key (d : Declaration) : String := "QUERY_COLLECTION_" ++ d.name ++ "_FIELDS"

theorem upper_key (d : Declaration) :
    upper d.key = "QUERY_COLLECTION_" ++ upper d.name ++ "_FIELDS" :=
  upper_between (by decide) (by decide) d.name

/-- Names that differ in capitals have different settings. -/
theorem upper_name_of_upper_key {d d' : Declaration} (h : upper d.key = upper d'.key) :
    upper d.name = upper d'.name := by
  rw [upper_key, upper_key, String.append_left_inj, String.append_right_inj] at h
  exact h

theorem upper_key_ne (d : Declaration) : upper d.key ≠ "QUERY_COLLECTIONS" := by
  intro h
  rw [upper_key] at h
  have hstart : "QUERY_COLLECTION_".toList <+: "QUERY_COLLECTIONS".toList := by
    rw [← h, String.toList_append, String.toList_append, List.append_assoc]
    exact List.prefix_append _ _
  exact absurd hstart (by decide)

end Declaration

/-- The settings with the variables of some declared collections set. -/
def declare (s : Settings) (ds : List Declaration) : Settings :=
  ds.foldl (fun s d => s.set (upper d.key) d.raw) s

variable {raw : String} {ds : List Declaration}

theorem get?_declare_other {name : String} (h : ∀ d ∈ ds, upper d.key ≠ name) (s : Settings) :
    Entries.get? name (s.declare ds).bindings = Entries.get? name s.bindings := by
  induction ds generalizing s with
  | nil => rfl
  | cons d ds ih =>
    obtain ⟨hd, hrest⟩ := List.forall_mem_cons.mp h
    exact (ih hrest _).trans (Entries.get?_set_other _ _ hd.symm)

theorem nodup_names (h : (ds.map fun d => upper d.name).Nodup) :
    (ds.map Declaration.name).Nodup := by
  refine List.Nodup.of_map upper ?_
  rwa [List.map_map]

/-- Each variable keeps its value, as no two collections share one. -/
theorem get?_declare_same (hnodup : (ds.map fun d => upper d.name).Nodup) {d : Declaration}
    (hd : d ∈ ds) (s : Settings) :
    Entries.get? (upper d.key) (s.declare ds).bindings = some d.raw := by
  induction ds generalizing s with
  | nil => cases hd
  | cons first ds ih =>
    obtain ⟨hfirst, hrest⟩ := List.nodup_cons.mp hnodup
    obtain rfl | hd := List.mem_cons.mp hd
    · have hothers : ∀ d' ∈ ds, upper d'.key ≠ upper d.key := fun d' hd' hkey =>
        hfirst (List.mem_map.mpr ⟨d', hd', Declaration.upper_name_of_upper_key hkey⟩)
      exact (get?_declare_other hothers _).trans (get?_set s _ _)
    · exact ih hrest hd _

/-- Declared collections are registered with their fields. -/
theorem ofSettings_declare (hds : ∀ d ∈ ds, d.IsWritten)
    (hnodup : (ds.map fun d => upper d.name).Nodup) (hraw : IsListing (ds.map Declaration.name) raw)
    (s : Settings) : Registry.ofSettings ((s.set "QUERY_COLLECTIONS" raw).declare ds) =
      .ok (Registry.ofTables (ds.map Declaration.entry)) := by
  have hlisted : Entries.get? "QUERY_COLLECTIONS"
      ((s.set "QUERY_COLLECTIONS" raw).declare ds).bindings = some raw :=
    (get?_declare_other (fun d _ => d.upper_key_ne) _).trans (get?_set s _ raw)
  have hupper : upper "QUERY_COLLECTIONS" = "QUERY_COLLECTIONS" := by decide
  apply Registry.ofSettings_eq_ofTables
  · rw [Declaration.keys_entries]
    exact nodup_names hnodup
  · rw [Declaration.keys_entries]
    exact texts_of_isListing (by rwa [hupper]) hraw
      (List.forall_mem_map.mpr fun d hd => (hds d hd).name)
  · refine List.forall_mem_map.mpr fun d hd => ?_
    exact texts_of_isListing (get?_declare_same hnodup hd _) (hds d hd).listing (hds d hd).fields

/-- Lists are read back as they were written. A variable that lists some texts is looked up as
these; whatever a variable holds, if it is filled and looked up as a list then it lists the texts
that are found, and these are found again where they are written plainly. A registry whose
collections and fields are listed in this way, by variables of different names, knows exactly these
collections, and of each exactly its fields, or none at all if no fields are listed. -/
theorem listings_read_back :
    (∀ (s : Settings) (key raw : String) (fallback : Value) (es : List String),
      (∀ e ∈ es, IsElement e) → IsListing es raw →
        (s.set (upper key) raw).lookup key fallback textList = .ok (.list (es.map .text))) ∧
    (∀ (s : Settings) (key raw : String) (fallback v : Value),
      (s.set (upper key) raw).lookup key fallback textList = .ok v →
        raw = "" ∧ v = fallback ∨
        ∃ es, IsListing es raw ∧ (∀ e ∈ es, IsElement e) ∧ v = .list (es.map .text) ∧
          ∀ (s' : Settings) (key' : String) (fallback' : Value),
            (s'.set (upper key') (listing es)).lookup key' fallback' textList = .ok v) ∧
    ∀ (s : Settings) (raw : String) (ds : List Declaration),
      (∀ d ∈ ds, d.IsWritten) → (ds.map fun d => upper d.name).Nodup →
      IsListing (ds.map Declaration.name) raw →
        ∃ r, Registry.ofSettings ((s.set "QUERY_COLLECTIONS" raw).declare ds) = .ok r ∧
          (∃ names, r.names? = some names ∧
            names.Perm ((ds.map Declaration.name).map .text)) ∧
          (∀ c, r.isKnown (.text c) = true ↔ c ∈ ds.map Declaration.name) ∧
          ∀ d ∈ ds, r.knownFields (.text d.name) =
            if d.fields = [] then none else some (d.fields.eraseDups.map .text) := by
  have hwritten (s : Settings) (key raw : String) (fallback : Value) (es : List String)
      (helements : ∀ e ∈ es, IsElement e) (h : IsListing es raw) :
      (s.set (upper key) raw).lookup key fallback textList = .ok (.list (es.map .text)) :=
    (lookup_textList_eq_ok_iff (get?_set s _ raw) h.ne_empty).mpr ⟨es, h, helements, rfl⟩
  refine ⟨hwritten, fun s key raw fallback v h => ?_, fun s raw ds hds hnodup hraw => ?_⟩
  · by_cases hne : raw = ""
    · subst hne
      exact .inl ⟨rfl, eq_of_lookup_empty (get?_set s _ "") h⟩
    · obtain ⟨es, hlisting, helements, rfl⟩ :=
        (lookup_textList_eq_ok_iff (get?_set s _ raw) hne).mp h
      exact .inr ⟨es, hlisting, helements, rfl, fun s' key' fallback' =>
        hwritten s' key' _ fallback' es helements (isListing_listing es)⟩
  · have hkeys := Declaration.keys_entries ds
    have hnames := nodup_names hnodup
    rw [← hkeys] at hnames ⊢
    refine ⟨_, ofSettings_declare hds hnodup hraw s, Registry.exists_names?_ofTables _,
      fun c => Registry.isKnown_ofTables_iff, fun d hd => ?_⟩
    exact Registry.knownFields_ofTables (Entries.get?_of_mem hnames (List.mem_map_of_mem hd))

/-- Fields that are listed twice, and a collection whose list of fields has only empty places. -/
def declaredDocuments : List Declaration :=
  [⟨"TextDocument", ["title", "body", "title"], "[title , body,,title]"⟩, ⟨"straße", [], " [ ,]"⟩]

/-- Elements with brackets of their own are read back through blanks and an empty place, and found
again where they are written plainly; a registry is read back from its variables. -/
theorem listings_read_back_documents :
    (∀ e ∈ ["a", "[b]"], IsElement e) ∧ IsListing ["a", "[b]"] "[ a,\u3000,[b]]\n" ∧
    (Settings.set ⟨[]⟩ (upper "list") "[ a,\u3000,[b]]\n").lookup "list" .null textList =
      .ok (.list [.text "a", .text "[b]"]) ∧
    (∃ es, (Settings.set ⟨[]⟩ (upper "again") (listing es)).lookup "again" .null textList =
      .ok (.list [.text "a", .text "[b]"])) ∧
    (∀ d ∈ declaredDocuments, d.IsWritten) ∧
    ∃ r, Registry.ofSettings
        ((Settings.set ⟨[]⟩ "QUERY_COLLECTIONS" "[TextDocument,straße]").declare
          declaredDocuments) = .ok r ∧
      r.isKnown (.text "straße") = true ∧ r.isKnown (.text "Author") = false ∧
      r.knownFields (.text "straße") = none ∧
      r.knownFields (.text "TextDocument") = some [.text "title", .text "body"] := by
  obtain ⟨hlookup, hback, hregistry⟩ := listings_read_back
  obtain ⟨hlisting, helements⟩ : IsListing ["a", "[b]"] "[ a,\u3000,[b]]\n" ∧ _ :=
    isListing_iff.mpr ⟨" a,\u3000,[b]".toList, by decide, by decide⟩
  have hwritten : ∀ d ∈ declaredDocuments, d.IsWritten := by
    refine List.forall_mem_cons.mpr ⟨?_, List.forall_mem_singleton.mpr ?_⟩
    · obtain ⟨hfields, hall⟩ : IsListing ["title", "body", "title"] "[title , body,,title]" ∧ _ :=
        isListing_iff.mpr ⟨"title , body,,title".toList, by decide, by decide⟩
      exact ⟨by decide, hall, hfields⟩
    · obtain ⟨hnone, hall⟩ : IsListing [] " [ ,]" ∧ _ :=
        isListing_iff.mpr ⟨" ,".toList, by decide, by decide⟩
      exact ⟨by decide, hall, hnone⟩
  have hcollections : IsListing (declaredDocuments.map Declaration.name) "[TextDocument,straße]" :=
    (isListing_iff.mpr ⟨"TextDocument,straße".toList, by decide, by decide⟩).1
  obtain ⟨r, hr, -, hknown, hfields⟩ := hregistry ⟨[]⟩ _ _ hwritten (by decide) hcollections
  have hfound := hlookup ⟨[]⟩ "list" _ .null _ helements hlisting
  refine ⟨helements, hlisting, hfound, ?_, hwritten, r, hr, ?_, ?_, ?_, ?_⟩
  · obtain ⟨hempty, -⟩ | ⟨es, -, -, -, hagain⟩ := hback _ _ _ _ _ hfound
    · exact absurd hempty (by decide)
    · exact ⟨es, hagain ⟨[]⟩ "again" .null⟩
  · exact (hknown "straße").mpr (by decide)
  · exact Bool.eq_false_iff.mpr (mt (hknown "Author").mp (by decide))
  · exact hfields ⟨"straße", [], " [ ,]"⟩ (by simp [declaredDocuments])
  · exact hfields ⟨"TextDocument", ["title", "body", "title"], "[title , body,,title]"⟩
      (by simp [declaredDocuments])

end Settings

end Retrieval
