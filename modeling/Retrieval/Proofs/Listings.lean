import Retrieval.Proofs.Splitting
import Retrieval.Proofs.Traversal
import Retrieval.Settings.Lookup

/-!
Values that list texts between brackets. Main statement: a value is read as a list of texts exactly
if it lists them, with commas between them, blanks wherever they do no harm and perhaps places left
empty; the texts are filled, hold no comma and have no blanks at their ends.
-/

namespace Retrieval.Settings

open Text

/-- A text that can stand in a list as it is. -/
structure IsElement (e : String) : Prop where
  filled : e ≠ ""
  uncut : ',' ∉ e.toList
  starts : ∀ c ∈ e.toList.head?, isBlank c = false
  ends : ∀ c ∈ e.toList.getLast?, isBlank c = false

theorem isElement_iff {e : String} :
    IsElement e ↔ e ≠ "" ∧ ',' ∉ e.toList ∧ trim e.toList = e.toList := by
  rw [trim_eq_self_iff]
  exact ⟨fun h => ⟨h.filled, h.uncut, h.starts, h.ends⟩,
    fun ⟨filled, uncut, starts, ends⟩ => ⟨filled, uncut, starts, ends⟩⟩

instance (e : String) : Decidable (IsElement e) := decidable_of_iff _ isElement_iff.symm

/-- Nothing but blanks. -/
def IsGap (cs : List Char) : Prop := ∀ c ∈ cs, isBlank c = true

/-- Places of a list that hold some texts in order, each with blanks around it; other places hold
blanks only. -/
inductive IsSpaced : List String → List (List Char) → Prop
  | nil : IsSpaced [] []
  | gap {es : List String} {places : List (List Char)} {blanks : List Char}
    (hblanks : IsGap blanks) (hrest : IsSpaced es places) : IsSpaced es (blanks :: places)
  | element {es : List String} {places : List (List Char)} {e : String} {before after : List Char}
    (hbefore : IsGap before) (hafter : IsGap after) (hrest : IsSpaced es places) :
    IsSpaced (e :: es) ((before ++ e.toList ++ after) :: places)

def bracketed (inside : List Char) : List Char := '[' :: inside ++ [']']

/-- A value that lists some texts: their places stand between brackets, with commas between them. -/
def IsListing (es : List String) (raw : String) : Prop :=
  ∃ before places after, IsGap before ∧ IsSpaced es places ∧ IsGap after ∧
    raw.toList = before ++ bracketed (joinWith [','] places) ++ after

/-- The list of some texts with nothing to spare. -/
def listing (es : List String) : String := "[" ++ ",".intercalate es ++ "]"

/-- The settings with a variable set. -/
def set (s : Settings) (name raw : String) : Settings := ⟨Entries.set name raw s.bindings⟩

/-- A list of texts with commas between them. -/
def textList : Wanted := .list (.text ",") .text

variable {s : Settings} {key raw : String} {es : List String} {places : List (List Char)}
  {cs inside : List Char} {fallback v : Value}

/-- The texts that are found at some places. -/
def textsAt (places : List (List Char)) : List String :=
  (places.map trim).filterMap fun e => if e.isEmpty then none else some (String.ofList e)

theorem listElements_comma (inside : List Char) :
    listElements comma inside = textsAt (splitAt ',' inside) := by
  have hsplit : comma.split inside = splitAt ',' inside := splitOnText_singleton ',' inside
  rw [listElements, hsplit, textsAt]

theorem textsAt_cons_gap {blanks : List Char} (h : trim blanks = []) (places : List (List Char)) :
    textsAt (blanks :: places) = textsAt places := by
  simp [textsAt, h]

theorem textsAt_cons_filled {piece : List Char} (h : trim piece ≠ []) (places : List (List Char)) :
    textsAt (piece :: places) = String.ofList (trim piece) :: textsAt places := by
  simp [textsAt, h]

theorem IsElement.trim_eq {e : String} (h : IsElement e) : trim e.toList = e.toList :=
  (isElement_iff.mp h).2.2

theorem isElement_trim {piece : List Char} (huncut : ',' ∉ piece) (hfilled : trim piece ≠ []) :
    IsElement (String.ofList (trim piece)) := by
  obtain ⟨before, after, -, -, hpiece⟩ := exists_padding piece
  rw [isElement_iff, String.toList_ofList]
  refine ⟨by simpa using hfilled, fun hcomma => ?_, trim_trim piece⟩
  rw [hpiece] at huncut
  exact huncut (by simp [hcomma])

/-- The texts at places that hold them are read back. -/
theorem IsSpaced.textsAt_eq (h : IsSpaced es places) (helements : ∀ e ∈ es, IsElement e) :
    textsAt places = es := by
  induction h with
  | nil => rfl
  | gap hblanks _ ih =>
    rw [textsAt_cons_gap ((trim_eq_nil_iff _).mpr hblanks), ih helements]
  | element hbefore hafter _ ih =>
    obtain ⟨he, hrest⟩ := List.forall_mem_cons.mp helements
    have htrim := (trim_padded hbefore hafter).trans he.trim_eq
    have hfilled := htrim.symm ▸ mt String.toList_eq_nil_iff.mp he.filled
    rw [textsAt_cons_filled hfilled, htrim, String.ofList_toList, ih hrest]

/-- Places without commas hold the texts that are read from them. -/
theorem isSpaced_textsAt (h : ∀ piece ∈ places, ',' ∉ piece) :
    IsSpaced (textsAt places) places ∧ ∀ e ∈ textsAt places, IsElement e := by
  induction places with
  | nil => exact ⟨.nil, nofun⟩
  | cons piece rest ih =>
    obtain ⟨hpiece, hrest⟩ := List.forall_mem_cons.mp h
    obtain ⟨hspaced, helements⟩ := ih hrest
    by_cases hempty : trim piece = []
    · rw [textsAt_cons_gap hempty]
      exact ⟨.gap ((trim_eq_nil_iff piece).mp hempty) hspaced, helements⟩
    · rw [textsAt_cons_filled hempty]
      refine ⟨?_, List.forall_mem_cons.mpr ⟨isElement_trim hpiece hempty, helements⟩⟩
      obtain ⟨before, after, hbefore, hafter, heq⟩ := exists_padding piece
      have hplace := IsSpaced.element (e := String.ofList (trim piece)) hbefore hafter hspaced
      rwa [String.toList_ofList, ← heq] at hplace

theorem IsSpaced.not_mem_comma (h : IsSpaced es places) (helements : ∀ e ∈ es, IsElement e) :
    ∀ piece ∈ places, ',' ∉ piece := by
  have hgap {blanks : List Char} (hblanks : IsGap blanks) : ',' ∉ blanks := fun hcomma =>
    absurd (hblanks ',' hcomma) (by decide)
  induction h with
  | nil => exact nofun
  | gap hblanks _ ih => exact List.forall_mem_cons.mpr ⟨hgap hblanks, ih helements⟩
  | element hbefore hafter _ ih =>
    obtain ⟨he, hrest⟩ := List.forall_mem_cons.mp helements
    refine List.forall_mem_cons.mpr ⟨?_, ih hrest⟩
    simp [hgap hbefore, hgap hafter, he.uncut]

/-- What stands between brackets is read as some texts exactly if its places hold them. -/
theorem listElements_eq_iff : listElements comma inside = es ↔
    (∃ places, IsSpaced es places ∧ inside = joinWith [','] places) ∧ ∀ e ∈ es, IsElement e := by
  rw [listElements_comma]
  constructor
  · rintro rfl
    have hcut : ∀ piece ∈ splitAt ',' inside, ',' ∉ piece := fun _ => not_mem_of_mem_splitAt
    obtain ⟨hspaced, helements⟩ := isSpaced_textsAt hcut
    exact ⟨⟨_, hspaced, (joinWith_splitAt ',' inside).symm⟩, helements⟩
  · rintro ⟨⟨places, hspaced, rfl⟩, helements⟩
    -- no places and one empty place are written alike
    by_cases hnone : places = []
    · subst hnone
      cases hspaced
      rfl
    · rw [splitAt_joinWith hnone (hspaced.not_mem_comma helements), hspaced.textsAt_eq helements]

theorem head?_bracketed (inside : List Char) : (bracketed inside).head? = some '[' := rfl

theorem getLast?_bracketed (inside : List Char) : (bracketed inside).getLast? = some ']' :=
  List.getLast?_concat

theorem insideBrackets?_eq_some_iff : insideBrackets? cs = some inside ↔ cs = bracketed inside := by
  unfold insideBrackets?
  constructor
  · intro h
    split at h
    · rename_i hends
      obtain ⟨hstart, hend⟩ : cs.head? = some '[' ∧ cs.getLast? = some ']' := by simpa using hends
      obtain rfl := Option.some.inj h
      obtain ⟨rest, rfl⟩ := List.head?_eq_some_iff.mp hstart
      cases rest with
      | nil => cases hend
      | cons c rest =>
        rw [List.getLast?_cons_cons] at hend
        exact congrArg ('[' :: ·) (List.dropLast_append_getLast? ']' hend).symm
    · cases h
  · rintro rfl
    rw [head?_bracketed, getLast?_bracketed]
    simp [bracketed]

theorem trim_bracketed (inside : List Char) : trim (bracketed inside) = bracketed inside := by
  rw [trim_eq_self_iff, head?_bracketed, getLast?_bracketed]
  refine ⟨?_, ?_⟩ <;> rintro c ⟨⟩ <;> decide

/-- A value lists some texts exactly if they are what is read between its brackets. -/
theorem isListing_iff : (IsListing es raw ∧ ∀ e ∈ es, IsElement e) ↔
    ∃ inside, insideBrackets? (trim raw.toList) = some inside ∧ listElements comma inside = es := by
  simp only [insideBrackets?_eq_some_iff, listElements_eq_iff]
  constructor
  · rintro ⟨⟨before, places, after, hbefore, hspaced, hafter, hraw⟩, helements⟩
    refine ⟨_, ?_, ⟨places, hspaced, rfl⟩, helements⟩
    rw [hraw, trim_padded hbefore hafter, trim_bracketed]
  · rintro ⟨inside, htrim, ⟨places, hspaced, rfl⟩, helements⟩
    obtain ⟨before, after, hbefore, hafter, hraw⟩ := exists_padding raw.toList
    rw [htrim] at hraw
    exact ⟨⟨before, places, after, hbefore, hspaced, hafter, hraw⟩, helements⟩

theorem IsListing.ne_empty (h : IsListing es raw) : raw ≠ "" := by
  rintro rfl
  obtain ⟨before, places, after, -, -, -, hraw⟩ := h
  simp [bracketed] at hraw

theorem isListing_listing (es : List String) : IsListing es (listing es) := by
  have hnone : IsGap [] := fun c hc => absurd hc List.not_mem_nil
  refine ⟨[], es.map String.toList, [], hnone, ?_, hnone, ?_⟩
  · induction es with
    | nil => exact .nil
    | cons e es ih => simpa using IsSpaced.element (e := e) hnone hnone ih
  · simp [listing, bracketed, joinWith_eq_intercalate, String.toList_intercalate]

theorem get?_set (s : Settings) (name raw : String) :
    Entries.get? name (s.set name raw).bindings = some raw := Entries.get?_set_same _ _ _

theorem mapM_read_text (es : List String) :
    es.mapM ElementKind.text.read = .ok (es.map Value.text) := by
  rw [mapM_eq_ok_iff, List.map_map]
  rfl

/-- A filled value is read as a list of texts exactly if it lists them. -/
theorem list?_eq_ok_iff (hraw : Entries.get? (upper key) s.bindings = some raw) (hne : raw ≠ "")
    {found : Option (List Value)} : s.list? key comma .text = .ok found ↔
      ∃ es, IsListing es raw ∧ (∀ e ∈ es, IsElement e) ∧ found = some (es.map .text) := by
  have hread : s.read key = some (stripped raw) := by rw [s.read_of_get? hraw, if_neg hne]
  have htrim : (stripped raw).toList = trim raw.toList := String.toList_ofList
  simp only [← and_assoc, isListing_iff]
  rw [list?, inside?, hread]
  dsimp only
  rw [htrim]
  cases insideBrackets? (trim raw.toList) with
  | none => simp [bind, Except.bind]
  | some inside =>
    rw [ok_bind]
    dsimp only
    rw [if_neg (by decide), mapM_read_text]
    simp [eq_comm]

theorem texts_of_isListing (hraw : Entries.get? (upper key) s.bindings = some raw)
    (h : IsListing es raw) (helements : ∀ e ∈ es, IsElement e) : s.texts key = .ok es := by
  rw [texts, (list?_eq_ok_iff hraw h.ne_empty).mpr ⟨es, h, helements, rfl⟩]
  exact congrArg Except.ok (Value.filterMap_text?_texts es)

/-- A filled value is looked up as a list of texts exactly if it lists them. -/
theorem lookup_textList_eq_ok_iff (hraw : Entries.get? (upper key) s.bindings = some raw)
    (hne : raw ≠ "") : s.lookup key fallback textList = .ok v ↔
      ∃ es, IsListing es raw ∧ (∀ e ∈ es, IsElement e) ∧ v = .list (es.map .text) := by
  have hlookup : s.lookup key fallback textList =
      settled key fallback ((s.list? key comma .text).map fun vs => vs.map .list) := rfl
  rw [hlookup]
  constructor
  · intro h
    cases hfound : s.list? key comma .text with
    | error e =>
      rw [hfound] at h
      cases h
    | ok found =>
      obtain ⟨es, hlisting, helements, rfl⟩ := (list?_eq_ok_iff hraw hne).mp hfound
      rw [hfound] at h
      exact ⟨es, hlisting, helements, (Except.ok.inj h).symm⟩
  · rintro ⟨es, hlisting, helements, rfl⟩
    rw [(list?_eq_ok_iff hraw hne).mpr ⟨es, hlisting, helements, rfl⟩]
    rfl

/-- An empty value counts as none, so that the fallback stands in for it. -/
theorem eq_of_lookup_empty (hraw : Entries.get? (upper key) s.bindings = some "")
    (h : s.lookup key fallback textList = .ok v) : v = fallback := by
  have hread : s.read key = none := by rw [s.read_of_get? hraw, if_pos rfl]
  have hlookup : s.lookup key fallback textList = settled key fallback (.ok none) := by
    have hlist : s.list? key comma .text = .ok none := by
      rw [list?, inside?, hread]
      rfl
    change settled key fallback ((s.list? key comma .text).map fun vs => vs.map .list) = _
    rw [hlist]
    rfl
  rw [hlookup] at h
  cases fallback <;> cases h <;> rfl

end Retrieval.Settings
