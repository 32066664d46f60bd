import Retrieval.Proofs.Endings
import Retrieval.Proofs.Overflow
import Retrieval.Proofs.Policies

/-!
How long a request is retried that keeps failing. The growth of a delay is computed before the delay
is capped, so a policy allows no more retries than there are powers of its factor. Main statement:
with a policy that is read, a delay exists exactly if its growth is below the limit of doubles;
attempts of which all are worth another one are exhausted if all growths are, and are otherwise
broken off by the first that is not.
-/

namespace Retrieval

open Number

namespace RetryPolicy

variable {p : RetryPolicy} {factor : ℚ} {n : ℕ}

/-- The growth of the delay before a retry, counted from one, is below all that is rounded to
infinity. The count is itself a double. -/
def GrowthFits (factor : ℚ) (retry : ℕ) : Prop :=
  ∃ e, nearestInt? ((retry : ℤ) - 1) = some e ∧ factor ^ e < overflowLimit

/-- Counts up to `2 ^ 53` are doubles themselves. -/
theorem growthFits_iff (hn : 1 ≤ n) (hmost : n ≤ 2 ^ 53) :
    GrowthFits factor n ↔ factor ^ (n - 1) < overflowLimit := by
  have hcount : nearestInt? ((n : ℤ) - 1) = some ((n - 1 : ℕ) : ℤ) := by
    rw [← nearestInt?_natCast (n := n - 1) (by omega)]
    congr 1
    omega
  rw [GrowthFits, hcount]
  constructor
  · rintro ⟨e, he, hfits⟩
    obtain rfl := Option.some.inj he
    rwa [zpow_natCast] at hfits
  · intro hfits
    exact ⟨_, rfl, by rwa [zpow_natCast]⟩

/-- With a factor of two 1024 retries have a delay. -/
theorem growthFits_two (hn : 1 ≤ n) (hmost : n ≤ 1024) : GrowthFits 2 n := by
  rw [growthFits_iff hn (by omega)]
  calc (2 : ℚ) ^ (n - 1) ≤ 2 ^ (93 * 11) := pow_le_pow_right₀ (by norm_num) (by omega)
    _ = (2 ^ 93) ^ 11 := pow_mul 2 93 11
    _ < overflowLimit := by
        rw [overflowLimit_eq]
        norm_num

theorem isSome_power?_iff {x : Float} (hx : HasValue x factor) (hpos : 0 < factor)
    (exponent : ℤ) : (power? x exponent).isSome ↔
      ∃ e, nearestInt? exponent = some e ∧ factor ^ e < overflowLimit := by
  unfold power? nearestInt?
  cases hd : ofInt? exponent with
  | none => simp
  | some d =>
    cases he : toInt? d with
    | none => simp [he]
    | some e =>
      have hgrows := outgrows_iff hx hpos e
      cases ho : outgrows x e with
      | true =>
        have hle := hgrows.mp ho
        simp [he, ho, hle.not_gt]
      | false =>
        have hlt : factor ^ e < overflowLimit := by
          rw [← not_le, ← hgrows, ho]
          exact Bool.false_ne_true
        simp [he, ho, hlt]

theorem isSome_delay?_iff (hx : HasValue p.factor factor) (hpos : 0 < factor) (random : Float) :
    (p.delay? n random).isSome ↔ GrowthFits factor n := by
  rw [delay?_eq, Option.isSome_map, isSome_power?_iff hx hpos, GrowthFits]

end RetryPolicy

namespace Execution

open RetryPolicy (GrowthFits)

variable {σ : Type} {engine : Engine σ} {request : Request} {s : Standing σ}

/-- The attempts end as the one after `n` that were all retried, if it ends them. -/
theorem makesAttempts_of_attemptsFrom {left n : ℕ} {ending : Ending} {last : List Log.Entry}
    (hmost : engine.policy.maxAttempts - 1 = left + n)
    (hr : RetriedUpTo engine request s.backend n)
    (hd : ∀ j, 0 < j → j ≤ n → (delayBefore engine s.drawn j).isSome)
    (h : attemptsFrom engine request left (n + 1) (standingAfter engine request s n) =
      ⟨ending, attemptEvents engine request s.backend (n + 1) ++ last.map .logged,
        ⟨backendAfter engine request s.backend (n + 1), s.drawn + n⟩⟩) :
    MakesAttempts engine request s (n + 1) ending last := by
  apply makesAttempts_of_send hr hd
  rw [send, hmost, attemptsFrom_retries left n hr hd, h]
  simp only [attemptsTrace, Nat.add_sub_cancel, List.append_assoc]

/-- With a policy that is read, a retry has a delay exactly if its growth fits. A request whose
attempts are all worth another one is sent as often as the policy allows, and its last error is
wrapped, if all growths fit; otherwise the retry of the first growth that does not fit breaks the
run off, and the request is not sent again. -/
theorem retries_exhausted_or_overflow {es : Entries Value} {factor : ℚ}
    (h : RetryPolicy.read es = .valid engine.policy)
    (hf : HasValue engine.policy.factor factor) :
    (∀ n : ℕ, 1 ≤ n → ∀ random,
      (engine.policy.delay? n random).isSome ↔ GrowthFits factor n) ∧
    (∀ n : ℕ, 1 ≤ n → n ≤ 2 ^ 53 → (GrowthFits factor n ↔ factor ^ (n - 1) < overflowLimit)) ∧
    ∀ request s,
      (RetriedUpTo engine request s.backend engine.policy.maxAttempts →
        (∀ n, 1 ≤ n → n < engine.policy.maxAttempts → GrowthFits factor n) →
        ∃ e, outcome engine request s.backend engine.policy.maxAttempts = .failed e ∧
          MakesAttempts engine request s engine.policy.maxAttempts
            (.failed (.exhausted e engine.policy.maxAttempts))
            [⟨.error, exhaustedText engine.policy.maxAttempts e⟩]) ∧
      ∀ n, 1 ≤ n → n < engine.policy.maxAttempts → RetriedUpTo engine request s.backend n →
        (∀ j, 1 ≤ j → j < n → GrowthFits factor j) → ¬ GrowthFits factor n →
        MakesAttempts engine request s n (.broken .misuse) [] := by
  have hsound := RetryPolicy.isSound_of_read h
  have hpos : 0 < factor := one_pos.trans ((lt_iff hasValue_one hf).mp hsound.factor)
  have hdelay (n : ℕ) (random : Float) :
      (engine.policy.delay? n random).isSome ↔ GrowthFits factor n :=
    RetryPolicy.isSome_delay?_iff hf hpos random
  refine ⟨fun n _ random => hdelay n random, fun n hn hmost => RetryPolicy.growthFits_iff hn hmost,
    fun request s => ⟨?_, ?_⟩⟩
  · intro hr hfits
    have hM := hsound.attempts
    obtain ⟨n, hn⟩ : ∃ n, engine.policy.maxAttempts = n + 1 :=
      ⟨engine.policy.maxAttempts - 1, by omega⟩
    obtain ⟨e, he, hretry⟩ := (isRetryable_iff _).mp (hr _ hM (Nat.le_refl _))
    refine ⟨e, he, ?_⟩
    rw [hn] at he hr hfits
    have hlast := attemptsFrom_exhausted he hretry
    rw [hn] at hlast ⊢
    apply makesAttempts_of_attemptsFrom (by omega) (hr.mono (by omega)) _ hlast
    intro j hj hjn
    exact (hdelay j _).mpr (hfits j hj (by omega))
  · intro n hn hM hr hfits hnot
    obtain ⟨k, rfl⟩ : ∃ k, n = k + 1 := ⟨n - 1, by omega⟩
    obtain ⟨left, hleft⟩ : ∃ left, engine.policy.maxAttempts - 1 = left + 1 + k :=
      ⟨engine.policy.maxAttempts - 2 - k, by omega⟩
    obtain ⟨e, he, hretry⟩ := (isRetryable_iff _).mp (hr (k + 1) hn (Nat.le_refl _))
    have hnone : delayBefore engine s.drawn (k + 1) = none := by
      rw [← Option.not_isSome_iff_eq_none]
      exact mt (hdelay (k + 1) _).mp hnot
    have hlast := @attemptsFrom_overflow _ engine request s left k e he hretry hnone
    rw [← List.append_nil (attemptEvents engine request s.backend (k + 1))] at hlast
    apply makesAttempts_of_attemptsFrom hleft (hr.mono (by omega)) _ hlast
    intro j hj hjk
    exact (hdelay j _).mpr (hfits j hj (by omega))

/-- The double nearest to `10 ^ 200`. -/
def steepFactor : Float := .ofBits 0x6974e718d7d7625a

theorem hasValue_steepFactor : HasValue steepFactor (5883593420661338 * (2 ^ 204) ^ 3) := by
  have hparts : parts steepFactor = .finite false 5883593420661338 612 := by decide
  have hpower : (2 : ℚ) ^ (612 : ℤ) = (2 ^ 204) ^ 3 := by
    rw [← pow_mul]
    exact zpow_natCast 2 612
  have h := hasValue_of_parts hparts
  rw [hpower] at h
  exact_mod_cast h

/-- A factor of `10 ^ 200` has a square and no cube. -/
theorem growthFits_steepFactor (n : ℕ) (hn : 1 ≤ n) (hmost : n ≤ 3) :
    GrowthFits (5883593420661338 * (2 ^ 204) ^ 3) n ↔ n < 3 := by
  rw [RetryPolicy.growthFits_iff hn (by omega), overflowLimit_eq]
  obtain rfl | rfl | rfl : n = 1 ∨ n = 2 ∨ n = 3 := by omega
  all_goals norm_num

/-- Four attempts that run out of time exhaust the policy of the defaults; with a factor of
`10 ^ 200` the third is not followed by a fourth. -/
theorem retries_exhausted_or_overflow_silent :
    let engine (p : RetryPolicy) : Engine Replay :=
      ⟨Replay.transport, p, .independent, none, fun _ => 0.0⟩
    let request : Request := ⟨"", [], false⟩
    let s : Standing Replay := ⟨.inOrder [.silent, .silent, .silent, .silent], 0⟩
    (RetryPolicy.read [] = .valid {} ∧ HasValue 2.0 2 ∧
      RetriedUpTo (engine {}) request s.backend 4 ∧ (∀ n, 1 ≤ n → n < 4 → GrowthFits 2 n) ∧
      ∃ e, outcome (engine {}) request s.backend 4 = .failed e ∧
        MakesAttempts (engine {}) request s 4 (.failed (.exhausted e 4))
          [⟨.error, exhaustedText 4 e⟩]) ∧
    RetryPolicy.read [("factor", .float steepFactor)] = .valid { factor := steepFactor } ∧
      HasValue steepFactor (5883593420661338 * (2 ^ 204) ^ 3) ∧
      RetriedUpTo (engine { factor := steepFactor }) request s.backend 3 ∧
      MakesAttempts (engine { factor := steepFactor }) request s 3 (.broken .misuse) [] := by
  intro engine request s
  have hretried (p : RetryPolicy) (hp : p.attemptTimeout = some 30.0) :
      RetriedUpTo (engine p) request s.backend 4 := by
    intro j hj hle
    have hsilent : outcome (engine p) request s.backend j = endingOf p.attemptTimeout .silent := by
      obtain rfl | rfl | rfl | rfl : j = 1 ∨ j = 2 ∨ j = 3 ∨ j = 4 := by omega
      all_goals rfl
    rw [hsilent, hp]
    rfl
  have hread : RetryPolicy.read [("factor", .float steepFactor)] =
      .valid { factor := steepFactor } := rfl
  have hfits (n : ℕ) (hn : 1 ≤ n) (hlt : n < 4) : GrowthFits 2 n :=
    RetryPolicy.growthFits_two hn (by omega)
  have hsteep (n : ℕ) (hn : 1 ≤ n) (hlt : n < 3) :=
    (growthFits_steepFactor n hn (by omega)).mpr hlt
  have hnot := mt (growthFits_steepFactor 3 (by decide) (le_refl 3)).mp (lt_irrefl 3)
  have hall : RetriedUpTo (engine {}) request s.backend 4 := hretried {} rfl
  have hthree : RetriedUpTo (engine { factor := steepFactor }) request s.backend 3 :=
    (hretried _ rfl).mono (by decide)
  refine ⟨⟨rfl, hasValue_two, hall, hfits, ?_⟩, hread, hasValue_steepFactor, hthree, ?_⟩
  · have h := @retries_exhausted_or_overflow _ (engine {}) [] 2 rfl hasValue_two
    exact (h.2.2 request s).1 hall hfits
  · have h := @retries_exhausted_or_overflow _ (engine { factor := steepFactor }) _ _ hread
      hasValue_steepFactor
    exact (h.2.2 request s).2 3 (by decide) (by decide) hthree hsteep hnot

end Execution

end Retrieval
