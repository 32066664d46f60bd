import Retrieval.Proofs.Bounds
import Retrieval.Retry

/-!
The retry policies that are read. Each field is within its bounds, whether it was given or not, and
the factor exceeds the longest stretch. Main statement: `RetryPolicy.isSound_of_read`.
-/

namespace Retrieval

open Schema

/-- What a policy that is read keeps to. -/
structure RetryPolicy.IsSound (p : RetryPolicy) : Prop where
  attempts : 1 ≤ p.maxAttempts
  base : 0.0 ≤ p.baseDelay
  most : 0.0 ≤ p.maxDelay
  factor : 1.0 < p.factor
  jitter : 0.0 ≤ p.jitter
  part : p.jitter < 1.0
  limit : ∀ x ∈ p.attemptTimeout, 0.0 < x
  growth : ¬ p.factor ≤ 1.0 + p.jitter

namespace RetryPolicy

/-- Every default passes the check of its own field, and all of them together grow. -/
theorem isSound_default : IsSound {} where
  attempts := by decide
  base := by decide
  most := by decide
  factor := by decide
  jitter := by decide
  part := by decide
  limit := by decide
  growth := by decide

theorem one_le_of_atLeastOne {v : Value} {n : Nat} (h : atLeastOne v = .valid n) : 1 ≤ n := by
  obtain ⟨m, -, hm⟩ := bind_eq_valid_iff.mp h
  split at hm
  · cases hm
    omega
  · cases hm

theorem growthRule_eq_none_iff {p : RetryPolicy} :
    p.growthRule = none ↔ ¬ p.factor ≤ 1.0 + p.jitter := by
  simp [growthRule]

theorem isSound_of_read {es : Entries Value} {p : RetryPolicy} (h : read es = .valid p) :
    p.IsSound := by
  obtain ⟨q, hfields, hrule⟩ := bind_eq_valid_iff.mp h
  obtain ⟨hgrowth, rfl⟩ : q.growthRule = none ∧ q = p := by
    split at hrule
    · next hnone => exact ⟨hnone, Checked.valid.inj hrule⟩
    · cases hrule
  obtain ⟨_, limit?, htoJitter, hlimit, rfl⟩ := seq_eq_valid_iff.mp hfields
  obtain ⟨_, jitter, htoFactor, hjitter, rfl⟩ := seq_eq_valid_iff.mp htoJitter
  obtain ⟨_, factor, htoMost, hfactor, rfl⟩ := seq_eq_valid_iff.mp htoFactor
  obtain ⟨_, most, htoBase, hmost, rfl⟩ := seq_eq_valid_iff.mp htoMost
  obtain ⟨_, base, htoAttempts, hbase, rfl⟩ := seq_eq_valid_iff.mp htoBase
  obtain ⟨attempts, hattempts, rfl⟩ := map_eq_valid_iff.mp htoAttempts
  have hwithin {b : Bounds} {v : Value} {x : Float} (hx : realWithin b v = .valid x) :=
    Bounds.admits_iff.mp (admits_of_realWithin hx)
  have hd := isSound_default
  exact
    { attempts := of_defaulted hattempts hd.attempts fun v n hn => one_le_of_atLeastOne hn
      base := of_defaulted hbase hd.base fun v x hx => (hwithin hx).2.2.1 _ rfl
      most := of_defaulted hmost hd.most fun v x hx => (hwithin hx).2.2.1 _ rfl
      factor := of_defaulted hfactor hd.factor fun v x hx => (hwithin hx).2.2.2 _ rfl
      jitter := of_defaulted hjitter hd.jitter fun v x hx => (hwithin hx).2.2.1 _ rfl
      part := of_defaulted (P := (· < 1.0)) hjitter hd.part fun v x hx => (hwithin hx).2.1 _ rfl
      limit := of_defaulted (P := fun limit? => ∀ x ∈ limit?, 0.0 < x) hlimit hd.limit
        fun v limit? hlimit x hx => (hwithin (read_of_optional hlimit x hx)).2.2.2 _ rfl
      growth := growthRule_eq_none_iff.mp hgrowth }

end RetryPolicy

end Retrieval
