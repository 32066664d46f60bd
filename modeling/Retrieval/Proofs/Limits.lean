import Retrieval.Literal
import Retrieval.Proofs.Traversal
import Retrieval.Proofs.Values

/-!
Which values have literals. Main statements: a value has a literal exactly if the query language can
express it and all that stands inside it, its integers are short, and it has no more levels than
there is room for; and nothing else but these limits can fail for a value that can be expressed.
-/

namespace Retrieval

open Literal

namespace Value

/-- A value that the query language can express, its parts apart. -/
def IsExpressible : Value → Prop
  | .seq .set _ | .seq .frozenSet _ | .date _ | .dateTime _ | .foreign => False
  | _ => True

/-- A value of a kind that can be written, whatever its size. -/
def Renders (v : Value) : Prop := v.Everywhere IsExpressible

/-- A value that is no integer with too many digits. -/
def IsShort : Value → Prop
  | .int n => n.natAbs < Number.leastLong
  | _ => True

/-- A value within the limits of literals, `room` being the number of levels that it may have. -/
def Fits (room : Nat) (v : Value) : Prop := v.Everywhere IsShort ∧ v.levels ≤ room

end Value

/-- Fields or arguments that can be expressed. -/
def AreRenderable (es : Entries Value) : Prop := ∀ e ∈ es, e.2.Renders

/-- Fields or arguments within the limits. -/
def AreWithin (room : Nat) (es : Entries Value) : Prop := ∀ e ∈ es, e.2.Fits room

@[simp] theorem areRenderable_nil : AreRenderable [] := List.forall_mem_nil _

@[simp] theorem areRenderable_cons (e : String × Value) (es : Entries Value) :
    AreRenderable (e :: es) ↔ e.2.Renders ∧ AreRenderable es := List.forall_mem_cons

@[simp] theorem areRenderable_append (es fs : Entries Value) :
    AreRenderable (es ++ fs) ↔ AreRenderable es ∧ AreRenderable fs := List.forall_mem_append

@[simp] theorem areWithin_nil (room : Nat) : AreWithin room [] := List.forall_mem_nil _

@[simp] theorem areWithin_cons (room : Nat) (e : String × Value) (es : Entries Value) :
    AreWithin room (e :: es) ↔ e.2.Fits room ∧ AreWithin room es := List.forall_mem_cons

@[simp] theorem areWithin_append (room : Nat) (es fs : Entries Value) :
    AreWithin room (es ++ fs) ↔ AreWithin room es ∧ AreWithin room fs := List.forall_mem_append

namespace Value

theorem levelsOfItems_le_iff {vs : List Value} {n : Nat} :
    levelsOfItems vs ≤ n ↔ ∀ v ∈ vs, levels v ≤ n := by
  induction vs with
  | nil => simp [levelsOfItems]
  | cons v rest ih => rw [levelsOfItems, Nat.max_le, List.forall_mem_cons, ih]

theorem levelsOfEntries_le_iff {es : List (String × Value)} {n : Nat} :
    levelsOfEntries es ≤ n ↔ ∀ e ∈ es, levels e.2 ≤ n := by
  induction es with
  | nil => simp [levelsOfEntries]
  | cons e rest ih => rw [levelsOfEntries, Nat.max_le, List.forall_mem_cons, ih]

theorem one_le_levels (v : Value) : 1 ≤ levels v := by
  cases v <;> simp [levels]

theorem not_fits_zero (v : Value) : ¬ Fits 0 v := fun h => by
  have hpos := one_le_levels v
  have hle := h.2
  omega

/-! A scalar fits if there is room at all, and what holds others if they fit one level below. -/

theorem fits_of_scalar {v : Value} (hseq : ∀ kind items, v ≠ .seq kind items)
    (hmap : ∀ entries, v ≠ .map entries) (room : Nat) : Fits (room + 1) v ↔ IsShort v := by
  have hlevels : levels v = 1 := by
    cases v with
    | seq kind items => exact absurd rfl (hseq kind items)
    | map es => exact absurd rfl (hmap es)
    | _ => rfl
  rw [Fits, hlevels]
  exact ⟨fun h => h.1.here, fun h => ⟨everywhere_of_scalar hseq hmap h, by omega⟩⟩

@[simp] theorem fits_null (room : Nat) : Fits (room + 1) .null :=
  (fits_of_scalar (by simp) (by simp) room).mpr trivial

@[simp] theorem fits_bool (room : Nat) (b : Bool) : Fits (room + 1) (.bool b) :=
  (fits_of_scalar (by simp) (by simp) room).mpr trivial

@[simp] theorem fits_int (room : Nat) (n : Int) :
    Fits (room + 1) (.int n) ↔ n.natAbs < Number.leastLong :=
  fits_of_scalar (by simp) (by simp) room

@[simp] theorem fits_float (room : Nat) (x : Float) : Fits (room + 1) (.float x) :=
  (fits_of_scalar (by simp) (by simp) room).mpr trivial

@[simp] theorem fits_text (room : Nat) (s : String) : Fits (room + 1) (.text s) :=
  (fits_of_scalar (by simp) (by simp) room).mpr trivial

@[simp] theorem fits_word (room : Nat) (s : String) : Fits (room + 1) (.word s) :=
  (fits_of_scalar (by simp) (by simp) room).mpr trivial

@[simp] theorem fits_seq (room : Nat) (kind : SeqKind) (items : List Value) :
    Fits (room + 1) (.seq kind items) ↔ ∀ v ∈ items, Fits room v := by
  rw [Fits, everywhere_seq, levels, Nat.add_le_add_iff_right, levelsOfItems_le_iff]
  exact ⟨fun h v hv => ⟨h.1.2 v hv, h.2 v hv⟩, fun h =>
    ⟨⟨trivial, fun v hv => (h v hv).1⟩, fun v hv => (h v hv).2⟩⟩

@[simp] theorem fits_list (room : Nat) (items : List Value) :
    Fits (room + 1) (.list items) ↔ ∀ v ∈ items, Fits room v := fits_seq room .list items

@[simp] theorem fits_map (room : Nat) (es : List (String × Value)) :
    Fits (room + 1) (.map es) ↔ AreWithin room es := by
  rw [Fits, everywhere_map, levels, Nat.add_le_add_iff_right, levelsOfEntries_le_iff]
  exact ⟨fun h e he => ⟨h.1.2 e he, h.2 e he⟩, fun h =>
    ⟨⟨trivial, fun e he => (h e he).1⟩, fun e he => (h e he).2⟩⟩

theorem renders_of_scalar {v : Value} (hseq : ∀ kind items, v ≠ .seq kind items)
    (hmap : ∀ entries, v ≠ .map entries) : Renders v ↔ IsExpressible v :=
  ⟨Everywhere.here, everywhere_of_scalar hseq hmap⟩

@[simp] theorem renders_null : Renders .null :=
  (renders_of_scalar (by simp) (by simp)).mpr trivial

@[simp] theorem renders_bool (b : Bool) : Renders (.bool b) :=
  (renders_of_scalar (by simp) (by simp)).mpr trivial

@[simp] theorem renders_int (n : Int) : Renders (.int n) :=
  (renders_of_scalar (by simp) (by simp)).mpr trivial

@[simp] theorem renders_float (x : Float) : Renders (.float x) :=
  (renders_of_scalar (by simp) (by simp)).mpr trivial

@[simp] theorem renders_text (s : String) : Renders (.text s) :=
  (renders_of_scalar (by simp) (by simp)).mpr trivial

@[simp] theorem renders_word (s : String) : Renders (.word s) :=
  (renders_of_scalar (by simp) (by simp)).mpr trivial

@[simp] theorem renders_list (vs : List Value) : Renders (.list vs) ↔ ∀ v ∈ vs, v.Renders :=
  (everywhere_seq .list vs).trans (and_iff_right trivial)

@[simp] theorem renders_tuple (vs : List Value) :
    Renders (.seq .tuple vs) ↔ ∀ v ∈ vs, v.Renders :=
  (everywhere_seq .tuple vs).trans (and_iff_right trivial)

@[simp] theorem renders_map (es : List (String × Value)) :
    Renders (.map es) ↔ AreRenderable es :=
  (everywhere_map es).trans (and_iff_right trivial)

end Value

namespace Literal

open Value (Renders Fits)

theorem exists_eq_succ_of_chars {room : Nat} {v : Value} {cs : List Char}
    (h : chars room v = .ok cs) : ∃ n, room = n + 1 := by
  cases room with
  | zero =>
    rw [chars] at h
    cases h
  | succ n => exact ⟨n, rfl⟩

theorem chars_int_eq_ok {room : Nat} {n : Int} {cs : List Char}
    (h : chars (room + 1) (.int n) = .ok cs) : (Number.integer n).toList = cs := by
  rw [chars] at h
  split at h
  · exact Except.ok.inj h
  · cases h

/-- A scalar has a literal exactly if it can be expressed and is short. -/
theorem exists_chars_scalar_iff {v : Value} (hseq : ∀ kind items, v ≠ .seq kind items)
    (hmap : ∀ entries, v ≠ .map entries) (room : Nat) :
    (∃ cs, chars (room + 1) v = .ok cs) ↔ Renders v ∧ Fits (room + 1) v := by
  rw [Value.renders_of_scalar hseq hmap, Value.fits_of_scalar hseq hmap]
  cases v with
  | seq kind items => exact absurd rfl (hseq kind items)
  | map es => exact absurd rfl (hmap es)
  | bool b => cases b <;> simp [chars, Value.IsExpressible, Value.IsShort]
  | int n =>
    rw [chars, Value.IsShort, ← Number.isShort_iff]
    cases Number.isShort n <;> simp [Value.IsExpressible]
  | _ => simp [chars, violated, Value.IsExpressible, Value.IsShort]

mutual

/-- A value has a literal exactly if it can be expressed and is within the limits. -/
theorem exists_chars_iff (room : Nat) (v : Value) :
    (∃ cs, chars room v = .ok cs) ↔ Renders v ∧ Fits room v := by
  cases room with
  | zero => simp [chars, Value.not_fits_zero]
  | succ room =>
    cases v with
    | seq kind items =>
      rw [Value.fits_seq]
      cases kind with
      | list =>
        rw [chars, exists_bind_pure_iff, exists_itemChars_iff room items]
        exact and_congr_left' (Value.renders_list items).symm
      | tuple =>
        rw [chars, exists_bind_pure_iff, exists_itemChars_iff room items]
        exact and_congr_left' (Value.renders_tuple items).symm
      | set => exact ⟨nofun, fun h => h.1.here.elim⟩
      | frozenSet => exact ⟨nofun, fun h => h.1.here.elim⟩
    | map es =>
      rw [Value.fits_map, chars, exists_bind_pure_iff, exists_fieldChars_iff room es]
      exact and_congr_left' (Value.renders_map es).symm
    | _ => exact exists_chars_scalar_iff (by simp) (by simp) room

theorem exists_itemChars_iff (room : Nat) (vs : List Value) :
    (∃ css, itemChars room vs = .ok css) ↔
      (∀ v ∈ vs, Renders v) ∧ ∀ v ∈ vs, Fits room v := by
  cases vs with
  | nil => simp [itemChars]
  | cons v rest =>
    rw [itemChars, exists_bind_bind_iff, exists_chars_iff room v, exists_itemChars_iff room rest,
      List.forall_mem_cons, List.forall_mem_cons]
    exact and_and_and_comm

theorem exists_fieldChars_iff (room : Nat) (es : List (String × Value)) :
    (∃ css, fieldChars room es = .ok css) ↔ AreRenderable es ∧ AreWithin room es := by
  cases es with
  | nil => simp [fieldChars]
  | cons e rest =>
    rw [fieldChars, exists_bind_bind_iff, exists_chars_iff room e.2,
      exists_fieldChars_iff room rest, areRenderable_cons, areWithin_cons]
    exact and_and_and_comm

end

theorem exists_render_iff (room : Nat) (v : Value) :
    (∃ text, render room v = .ok text) ↔ Renders v ∧ Fits room v := by
  rw [← exists_chars_iff, render]
  cases chars room v <;> simp

/-- Arguments are written exactly if each of them has a literal. -/
theorem exists_arguments_iff (room : Nat) (es : Entries Value) :
    (∃ text, arguments room es = .ok text) ↔ AreRenderable es ∧ AreWithin room es := by
  rw [← exists_fieldChars_iff]
  cases es with
  | nil => simp [arguments, fieldChars]
  | cons e rest => exact exists_bind_pure_iff

end Literal

/-- What does not fail for a fault of the clause; it may fail for a limit. -/
def NoViolation {α : Type} (x : Compiled α) : Prop := ∀ cause, x ≠ .error (.violation cause)

section

variable {α β : Type} {x : Compiled α}

theorem noViolation_ok (a : α) : NoViolation (.ok a) := fun _ => nofun

theorem noViolation_tooNested : NoViolation (.error .tooNested : Compiled α) := fun _ => nofun

theorem NoViolation.map {f : α → β} (h : NoViolation x) : NoViolation (x.map f) := by
  cases x with
  | ok a => exact noViolation_ok _
  | error e =>
    intro cause heq
    exact h cause (congrArg Except.error (Except.error.inj heq))

theorem NoViolation.bind {f : α → Compiled β} (h : NoViolation x) (hf : ∀ a, NoViolation (f a)) :
    NoViolation (x >>= f) := by
  cases x with
  | ok a => exact hf a
  | error e =>
    intro cause heq
    exact h cause (congrArg Except.error (Except.error.inj heq))

theorem noViolation_mapM {f : β → Compiled α} {xs : List β} (h : ∀ x ∈ xs, NoViolation (f x)) :
    NoViolation (xs.mapM f) := by
  induction xs with
  | nil => exact noViolation_ok _
  | cons x rest ih =>
    obtain ⟨hx, hrest⟩ := List.forall_mem_cons.mp h
    rw [List.mapM_cons]
    exact hx.bind fun _ => (ih hrest).bind fun _ => noViolation_ok _

end

namespace Literal

open Value (Renders)

mutual

/-- Nothing but the limits fails for a value that can be expressed. -/
theorem noViolation_chars (room : Nat) (v : Value) (h : Renders v) :
    NoViolation (chars room v) := by
  cases room with
  | zero =>
    rw [chars]
    exact noViolation_tooNested
  | succ room =>
    cases v with
    | bool b => cases b <;> exact noViolation_ok _
    | int n =>
      rw [chars]
      split
      · exact noViolation_ok _
      · exact fun _ => nofun
    | seq kind items =>
      cases kind with
      | list =>
        exact (noViolation_itemChars room items ((Value.renders_list items).mp h)).bind
          fun _ => noViolation_ok _
      | tuple =>
        exact (noViolation_itemChars room items ((Value.renders_tuple items).mp h)).bind
          fun _ => noViolation_ok _
      | set => exact h.here.elim
      | frozenSet => exact h.here.elim
    | map es =>
      exact (noViolation_fieldChars room es ((Value.renders_map es).mp h)).bind
        fun _ => noViolation_ok _
    | date d => exact h.here.elim
    | dateTime t => exact h.here.elim
    | «foreign» => exact h.here.elim
    | _ => exact noViolation_ok _

theorem noViolation_itemChars (room : Nat) (vs : List Value) (h : ∀ v ∈ vs, Renders v) :
    NoViolation (itemChars room vs) := by
  cases vs with
  | nil => exact noViolation_ok _
  | cons v rest =>
    obtain ⟨hv, hrest⟩ := List.forall_mem_cons.mp h
    exact (noViolation_chars room v hv).bind fun _ =>
      (noViolation_itemChars room rest hrest).bind fun _ => noViolation_ok _

theorem noViolation_fieldChars (room : Nat) (es : List (String × Value))
    (h : AreRenderable es) : NoViolation (fieldChars room es) := by
  cases es with
  | nil => exact noViolation_ok _
  | cons e rest =>
    obtain ⟨he, hrest⟩ := List.forall_mem_cons.mp h
    exact (noViolation_chars room e.2 he).bind fun _ =>
      (noViolation_fieldChars room rest hrest).bind fun _ => noViolation_ok _

end

theorem noViolation_arguments (room : Nat) {es : Entries Value} (h : AreRenderable es) :
    NoViolation (arguments room es) := by
  unfold arguments
  split
  · exact noViolation_ok _
  · exact (noViolation_fieldChars room es h).bind fun _ => noViolation_ok _

end Literal

end Retrieval
