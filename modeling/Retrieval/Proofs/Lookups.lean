import Retrieval.Proofs.Digits
import Retrieval.Proofs.Placeholders

/-!
What placeholders find in a record, and when looking fails. Main statement: a template is filled in
unless one of its placeholders asks a list for an element by digits that write no number; what finds
nothing stays as it is.
-/

namespace Retrieval.Template

open Retrieval.Text
open Retrieval.Number (IsIndex digitsAfter readInt_eq_ok_iff)

/-- A part of a value that a step names: the value of a key, or the element of a list by its
number. -/
inductive Child : Value → List Char → Value → Prop
  | key {es : Entries Value} {step : List Char} {w : Value}
      (h : Entries.get? (String.ofList step) es = some w) : Child (.map es) step w
  | element {items : List Value} {step : List Char} {w : Value}
      (hdigits : isAllDigitLike step = true) (hindex : IsIndex step)
      (h : items[digitsAfter 0 step]? = some w) : Child (.list items) step w

/-- A value lies at the end of some steps into another. -/
inductive Leads : Value → List (List Char) → Value → Prop
  | here (v : Value) : Leads v [] v
  | into {v u w : Value} {step : List Char} {steps : List (List Char)} (hstep : Child v step u)
      (hrest : Leads u steps w) : Leads v (step :: steps) w

/-- Some steps lead to a list, and the next one looks like the number of an element but writes no
number, or one with too many digits. -/
def Stumbles (v : Value) (steps : List (List Char)) : Prop :=
  ∃ before step after items, steps = before ++ step :: after ∧ Leads v before (.list items) ∧
    isAllDigitLike step = true ∧ ¬ IsIndex step

/-- A template has a placeholder that stumbles in a record. -/
def HasStumbling (template : String) (record : Entries Value) : Prop :=
  ∃ name, HasPlaceholder template.toList name ∧ Stumbles (.map record) (splitAt '.' name)

/-- What stands for a part of a template: a character stands for itself, a placeholder gives way to
the text of the value it finds, unless that is a null, and stays as it is otherwise. -/
inductive StandsFor (record : Entries Value) : Piece → List Char → Prop
  | literal (c : Char) : StandsFor record (.literal c) [c]
  | value {name : List Char} {v : Value} (hfind : Leads (.map record) (splitAt '.' name) v)
      (hv : v ≠ .null) :
      StandsFor record (.placeholder name) (Value.display v).toList
  | unresolved {name : List Char}
      (hnone : ∀ v, Leads (.map record) (splitAt '.' name) v → v = .null) :
      StandsFor record (.placeholder name) (written name)

variable {v w : Value} {step : List Char} {steps : List (List Char)} {record : Entries Value}

theorem child?_eq_some_iff : child? v step = .ok (some w) ↔ Child v step w := by
  constructor
  · intro h
    match v with
    | .map es => exact .key (Except.ok.inj h)
    | .seq .list items =>
      rw [child?, element?] at h
      split at h
      · next hdigits =>
        cases hread : Number.readInt (String.ofList step) with
        | error e => simp [hread] at h
        | ok i =>
          obtain ⟨hindex, rfl⟩ := (readInt_eq_ok_iff hdigits).mp hread
          rw [hread] at h
          exact .element hdigits hindex (by simpa using h)
      · cases Except.ok.inj h
  · rintro (h | ⟨hdigits, hindex, h⟩)
    · exact congrArg Except.ok h
    · have hread := (readInt_eq_ok_iff hdigits).mpr ⟨hindex, rfl⟩
      simp [Value.list, child?, element?, hdigits, hread, h]

theorem exists_child?_error_iff :
    (∃ e, child? v step = .error e) ↔
      ∃ items, v = .list items ∧ isAllDigitLike step = true ∧ ¬ IsIndex step := by
  constructor
  · rintro ⟨e, h⟩
    match v with
    | .seq .list items =>
      rw [child?, element?] at h
      split at h
      · next hdigits =>
        refine ⟨items, rfl, hdigits, fun hindex => ?_⟩
        rw [(readInt_eq_ok_iff hdigits).mpr ⟨hindex, rfl⟩] at h
        cases h
      · cases h
  · rintro ⟨items, rfl, hdigits, hindex⟩
    cases hread : Number.readInt (String.ofList step) with
    | error e => exact ⟨e, by simp [Value.list, child?, element?, hdigits, hread]⟩
    | ok i => exact absurd ((readInt_eq_ok_iff hdigits).mp hread).1 hindex

theorem follow_eq_some_iff : follow v steps = .ok (some w) ↔ Leads v steps w := by
  induction steps generalizing v with
  | nil =>
    constructor
    · rintro ⟨⟩
      exact .here _
    · rintro ⟨⟩
      rfl
  | cons step steps ih =>
    constructor
    · intro h
      rw [follow] at h
      match hchild : child? v step with
      | .error e => simp [hchild] at h
      | .ok none => simp [hchild] at h
      | .ok (some u) =>
        rw [hchild] at h
        exact .into (child?_eq_some_iff.mp hchild) (ih.mp h)
    · rintro (_ | ⟨hstep, hrest⟩)
      rw [follow, child?_eq_some_iff.mpr hstep]
      exact ih.mpr hrest

/-- A look-up fails at the first step that stumbles. -/
theorem exists_follow_error_iff : (∃ e, follow v steps = .error e) ↔ Stumbles v steps := by
  -- either the first step stumbles, or it leads to a value in which a later one does
  induction steps generalizing v with
  | nil =>
    constructor
    · rintro ⟨e, h⟩
      cases h
    · rintro ⟨before, step, after, items, h, -⟩
      simp at h
  | cons step steps ih =>
    constructor
    · rintro ⟨e, h⟩
      rw [follow] at h
      match hchild : child? v step with
      | .error e =>
        obtain ⟨items, rfl, hdigits, hindex⟩ := exists_child?_error_iff.mp ⟨e, hchild⟩
        exact ⟨[], step, steps, items, rfl, .here _, hdigits, hindex⟩
      | .ok none => simp [hchild] at h
      | .ok (some u) =>
        rw [hchild] at h
        obtain ⟨before, bad, after, items, rfl, hleads, hbad⟩ := ih.mp ⟨e, h⟩
        exact ⟨step :: before, bad, after, items, rfl,
          .into (child?_eq_some_iff.mp hchild) hleads, hbad⟩
    · rintro ⟨before, bad, after, items, hsplit, hleads, hdigits, hindex⟩
      rw [follow]
      cases before with
      | nil =>
        obtain ⟨rfl, rfl⟩ := List.cons.inj hsplit
        cases hleads
        obtain ⟨e, he⟩ := exists_child?_error_iff.mpr ⟨items, rfl, hdigits, hindex⟩
        exact ⟨e, by rw [he]⟩
      | cons first before =>
        obtain ⟨rfl, rfl⟩ := List.cons.inj hsplit
        obtain _ | ⟨hstep, hrest⟩ := hleads
        rw [child?_eq_some_iff.mpr hstep]
        exact ih.mpr ⟨before, bad, after, items, rfl, hrest, hdigits, hindex⟩

/-- A part is filled in with what stands for it. -/
theorem standsFor_of_fill {p : Piece} {cs : List Char} (h : p.fill record = .ok cs) :
    StandsFor record p cs := by
  cases p with
  | literal c =>
    obtain rfl := Except.ok.inj h
    exact .literal c
  | placeholder name =>
    have hleads (v : Value) : find? record name = .ok (some v) ↔
        Leads (.map record) (splitAt '.' name) v := follow_eq_some_iff
    rw [Piece.fill] at h
    split at h
    · cases h
    · next hnone =>
      obtain rfl := Except.ok.inj h
      refine .unresolved fun v hv => ?_
      rw [← hleads, hnone] at hv
      cases hv
    · next hnull =>
      obtain rfl := Except.ok.inj h
      refine .unresolved fun v hv => ?_
      rw [← hleads, hnull] at hv
      exact (Option.some.inj (Except.ok.inj hv)).symm
    · next v hv hfind =>
      obtain rfl := Except.ok.inj h
      exact .value ((hleads v).mp hfind) hv

theorem exists_fill_error_iff {p : Piece} :
    (∃ e, p.fill record = .error e) ↔
      ∃ name, p = .placeholder name ∧ Stumbles (.map record) (splitAt '.' name) := by
  cases p with
  | literal c => simp [Piece.fill]
  | placeholder name =>
    simp only [Piece.placeholder.injEq, exists_eq_left', ← exists_follow_error_iff]
    rw [Piece.fill, find?]
    cases follow (.map record) (splitAt '.' name) with
    | error e => simp
    | ok found =>
      cases found with
      | none => simp
      | some v => cases v <;> simp

theorem fill_eq_ok_iff {template text : String} :
    fill template record = .ok text ↔
      ∃ texts, (pieces template.toList).mapM (Piece.fill record) = .ok texts ∧
        text = String.ofList texts.flatten := by
  rw [fill, fillPieces_eq]
  cases (pieces template.toList).mapM (Piece.fill record) <;> simp [eq_comm]

/-- A template is filled in with what stands for its parts. -/
theorem exists_standsFor_of_fill {template text : String} (h : fill template record = .ok text) :
    ∃ texts, List.Forall₂ (StandsFor record) (pieces template.toList) texts ∧
      text = String.ofList texts.flatten := by
  obtain ⟨texts, htexts, rfl⟩ := fill_eq_ok_iff.mp h
  rw [mapM_eq_ok_iff_forall₂] at htexts
  exact ⟨texts, htexts.imp fun _ _ => standsFor_of_fill, rfl⟩

theorem exists_fill_iff {template : String} :
    (∃ text, fill template record = .ok text) ↔ ¬ HasStumbling template record := by
  have hpieces : (∃ text, fill template record = .ok text) ↔
      ∀ p ∈ pieces template.toList, ∃ cs, p.fill record = .ok cs := by
    rw [← exists_mapM_eq_ok_iff]
    simp [fill_eq_ok_iff]
  have hpiece (p : Piece) : (∃ cs, p.fill record = .ok cs) ↔ ¬ ∃ e, p.fill record = .error e := by
    cases p.fill record <;> simp
  simp only [hpieces, hpiece, exists_fill_error_iff, HasStumbling, ← placeholder_mem_pieces_iff]
  grind

end Retrieval.Template
