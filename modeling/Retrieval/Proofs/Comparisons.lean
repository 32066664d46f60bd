import Retrieval.Proofs.Inputs

/-!
The comparisons that filters are made of. Main statement: wherever a filter comes from, each of its
comparisons is of a plain path with a proper value whose sequence, if it is one, is a tuple, and
whether a field is null is asked with a truth value.
-/

namespace Retrieval.Predicate

/-- A predicate that filters come to: one filter by itself, or several put together. -/
inductive IsMade : Predicate → Prop
  | input {input : Input} {p : Predicate} : input.normalize = .ok (some p) → IsMade p
  | both {p q r : Predicate} : IsMade p → IsMade q → both (some p) (some q) = some r → IsMade r

/-- A comparison as it is made: its value is checked and settled. -/
structure IsSettled (l : FieldPath × Comparison × Value) : Prop where
  plain : l.1.IsPlain
  operand : IsOperandValue l.2.2
  takes : Takes l.2.1 l.2.2
  tuple : ∀ kind items, l.2.2 = .seq kind items → kind = .tuple

/-- Truth values stay what they are, and sequences become tuples. -/
theorem takes_of_frozen {c : Comparison} {v x : Value} (h : Takes c v) (hx : frozen v = .ok x) :
    Takes c x := by
  intro hc
  obtain ⟨b, rfl⟩ := h hc
  exact ⟨b, (Except.ok.inj hx).symm⟩

theorem tuple_of_frozen {v x : Value} (hx : frozen v = .ok x) :
    ∀ kind items, x = .seq kind items → kind = .tuple := by
  rintro kind items rfl
  obtain ⟨k, vs, rfl⟩ | hscalar := v.seq_or_scalar
  · obtain ⟨xs, -, hxs⟩ := bind_eq_ok_iff.mp hx
    cases hxs
    rfl
  · exact absurd rfl ((frozen_of_scalar hscalar hx).1 kind items)

theorem yields_settled (path : Value) {c : Comparison} {v : Value} (h : Takes c v) :
    Yields (fun p => ∀ l ∈ p.leaves, IsSettled l) (comparing path c v) := by
  intro p hp
  obtain ⟨x, hx, hmore⟩ := bind_eq_ok_iff.mp hp
  obtain ⟨u, hfamilies, hmore⟩ := bind_eq_ok_iff.mp hmore
  obtain ⟨place, hplace, hleaf⟩ := bind_eq_ok_iff.mp hmore
  obtain rfl := Except.ok.inj hleaf
  refine List.forall_mem_singleton.mpr ⟨yields_pathOf path place hplace, ?_, ?_, tuple_of_frozen hx⟩
  · exact ⟨yields_frozen v x hx, uniform_of_checkFamilies hfamilies⟩
  · exact takes_of_frozen h hx

theorem isHereditary_settled :
    IsHereditary (fun _ => True) fun p => ∀ l ∈ p.leaves, IsSettled l where
  readable _ _ := trivial
  leaf path _ _ htakes _ := yields_settled path htakes
  group _ _ _ := forall_leavesOf

/-- Every comparison of a filter is settled. -/
theorem IsMade.settled {p : Predicate} (h : p.IsMade) : ∀ l ∈ p.leaves, IsSettled l := by
  induction h with
  | @input input p hp =>
    exact yields_of_isHereditary isHereditary_settled input input.everywhere_true _ hp p rfl
  | @both p q r _ _ hr ihp ihq =>
    have hleaves : r.leaves = p.leaves ++ q.leaves := by
      have h := leavesIn_both (some p) (some q)
      rwa [hr] at h
    rw [hleaves]
    exact List.forall_mem_append.mpr ⟨ihp, ihq⟩

end Retrieval.Predicate
