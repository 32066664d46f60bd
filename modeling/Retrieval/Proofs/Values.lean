import Retrieval.Value.Basic

/-!
What stands inside a value, at any depth. A property that holds everywhere inside a sequence or a
mapping holds of it and everywhere inside its parts.
-/

namespace Retrieval.Value

/-- A value stands inside another: it is that value, or stands inside one of its parts. -/
inductive Within (w : Value) : Value → Prop
  | self : Within w w
  | item {kind : SeqKind} {items : List Value} {v : Value} :
    v ∈ items → Within w v → Within w (.seq kind items)
  | entry {entries : List (String × Value)} {e : String × Value} :
    e ∈ entries → Within w e.2 → Within w (.map entries)

/-- A property holds of a value and of all that stands inside it. -/
def Everywhere (p : Value → Prop) (v : Value) : Prop := ∀ w, Within w v → p w

variable {p : Value → Prop}

theorem Everywhere.here {v : Value} (h : Everywhere p v) : p v := h v .self

@[simp] theorem everywhere_seq (kind : SeqKind) (items : List Value) :
    Everywhere p (.seq kind items) ↔ p (.seq kind items) ∧ ∀ v ∈ items, Everywhere p v := by
  constructor
  · exact fun h => ⟨h.here, fun v hv w hw => h w (.item hv hw)⟩
  · rintro ⟨hself, hitems⟩ w hw
    cases hw with
    | self => exact hself
    | item hv hw => exact hitems _ hv w hw

@[simp] theorem everywhere_map (entries : List (String × Value)) :
    Everywhere p (.map entries) ↔ p (.map entries) ∧ ∀ e ∈ entries, Everywhere p e.2 := by
  constructor
  · exact fun h => ⟨h.here, fun e he w hw => h w (.entry he hw)⟩
  · rintro ⟨hself, hentries⟩ w hw
    cases hw with
    | self => exact hself
    | entry he hw => exact hentries _ he w hw

theorem seq_or_scalar (v : Value) :
    (∃ kind items, v = .seq kind items) ∨ ∀ kind items, v ≠ .seq kind items := by
  cases v with
  | seq kind items => exact .inl ⟨kind, items, rfl⟩
  | _ => exact .inr (by simp)

/-- Nothing but the value itself stands inside a value without parts. -/
theorem everywhere_of_scalar {v : Value} (hseq : ∀ kind items, v ≠ .seq kind items)
    (hmap : ∀ entries, v ≠ .map entries) (h : p v) : Everywhere p v := by
  intro w hw
  cases hw with
  | self => exact h
  | item => exact absurd rfl (hseq _ _)
  | entry => exact absurd rfl (hmap _)

end Retrieval.Value
