import Retrieval.Number.Shortest

/-!
The digits that are found for a positive double. Main statement: they are positive, unless none were
found, and then the exponent is zero.
-/

namespace Retrieval.Number

theorem tenTo_pos (n : Nat) : 0 < tenTo n := Nat.pow_pos (by decide)

theorem twoTo_pos (n : Nat) : 0 < twoTo n := Nat.pow_pos (by decide)

theorem scaled_fst_pos {a : Nat} (h : 0 < a) (k : Int) : 0 < (scaled a k).1 := by
  unfold scaled
  split
  · exact Nat.mul_pos h (twoTo_pos _)
  · exact h

theorem scaledTen_snd_pos (a : Nat) (k : Int) : 0 < (scaledTen a k).2 := by
  unfold scaledTen
  split
  · exact Nat.one_pos
  · exact tenTo_pos _

/-- Zero lies in no interval above zero. -/
theorem Interval.holds_zero {i : Interval} (h : 0 < i.low) (k : Int) : i.holds 0 k = false := by
  have hlow : 0 < i.low * (scaledTen 0 k).2 := Nat.mul_pos h (scaledTen_snd_pos 0 k)
  have hzero : (scaledTen 0 k).1 = 0 := by
    unfold scaledTen
    split <;> simp
  have hle : ¬ i.low * (scaledTen 0 k).2 ≤ 0 := Nat.not_le_of_lt hlow
  simp only [holds, hzero, Nat.zero_mul]
  split
  · rw [decide_eq_false hle, Bool.false_and]
  · rw [decide_eq_false (Nat.not_lt_zero _), Bool.false_and]

theorem Interval.neighbour?_pos {i : Interval} (h : 0 < i.low) {lead : Int} {count : Nat}
    {d : Digits} (hd : i.neighbour? lead count = some d) : 0 < d.coefficient := by
  have hholds {n : Nat} {k : Int} (hn : i.holds n k = true) : 0 < n := by
    refine Nat.pos_of_ne_zero ?_
    rintro rfl
    rw [holds_zero h] at hn
    cases hn
  have hpack : ∀ n, 0 < n → 0 < (if n = tenTo count then
      (⟨tenTo (count - 1), count, lead + 1⟩ : Digits) else ⟨n, count, lead⟩).coefficient := by
    intro n hn
    split
    · exact tenTo_pos _
    · exact hn
  unfold neighbour? at hd
  dsimp only at hd
  split at hd
  · next hbelow habove =>
    obtain rfl := Option.some.inj hd
    refine hpack _ ?_
    split
    · exact hholds hbelow
    · exact Nat.succ_pos _
  · next hbelow habove =>
    obtain rfl := Option.some.inj hd
    exact hpack _ (hholds hbelow)
  · obtain rfl := Option.some.inj hd
    exact hpack _ (Nat.succ_pos _)
  · cases hd

theorem Interval.search_pos {i : Interval} (h : 0 < i.low) (lead : Int) (more count : Nat) :
    0 < (i.search lead more count).coefficient ∨ (i.search lead more count).exponent = 0 := by
  induction more generalizing count with
  | zero =>
    rw [search]
    cases hd : i.neighbour? lead count with
    | none => exact .inr rfl
    | some d => exact .inl (neighbour?_pos h hd)
  | succ more ih =>
    rw [search]
    cases hd : i.neighbour? lead count with
    | none => exact ih (count + 1)
    | some d => exact .inl (neighbour?_pos h hd)

/-- Dropping zeros keeps digits positive and the exponent as it is. -/
theorem Digits.trimmed_pos (fuel : Nat) {d : Digits} (h : 0 < d.coefficient ∨ d.exponent = 0) :
    0 < (trimmed fuel d).coefficient ∨ (trimmed fuel d).exponent = 0 := by
  induction fuel generalizing d with
  | zero => exact h
  | succ fuel ih =>
    rw [trimmed]
    split
    · exact h
    · next hzero =>
      refine ih ?_
      obtain hpos | hexponent := h
      · simp only [Bool.or_eq_true, decide_eq_true_eq, not_or, Decidable.not_not] at hzero
        exact .inl (by simp only; omega)
      · exact .inr hexponent

theorem shortest_pos {m : Nat} (h : 0 < m) (q : Int) :
    0 < (shortest m q).coefficient ∨ (shortest m q).exponent = 0 := by
  have hlow : 0 < (intervalOf m q).low := by
    unfold intervalOf
    refine scaled_fst_pos ?_ _
    split <;> omega
  exact Digits.trimmed_pos 17 (Interval.search_pos hlow _ 16 1)

end Retrieval.Number
