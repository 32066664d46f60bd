import Retrieval.Proofs.Doubles
import Retrieval.Proofs.Policies

/-!
The delays of a policy in exact arithmetic. The numbers of a policy are rationals, and the most that
a delay may be is a rational or infinite. Main statement: with the numbers of a policy that is read,
delays increase until they are capped, whatever they are stretched by, and each lies between the
capped growth and that growth with the longest stretch.
-/

namespace Retrieval

open Number

/-- A number as a limit: infinity is none. -/
def Number.HasLimit (x : Float) (limit : WithTop ℚ) : Prop :=
  (parts x = .infinite false ∧ limit = ⊤) ∨ ∃ v : ℚ, HasValue x v ∧ limit = v

namespace RetryPolicy

/-- The numbers of a policy as they are. -/
structure HasValues (p : RetryPolicy) (base factor jitter : ℚ) (most : WithTop ℚ) : Prop where
  base : HasValue p.baseDelay base
  factor : HasValue p.factor factor
  jitter : HasValue p.jitter jitter
  most : HasLimit p.maxDelay most

/-- The delay before a retry, counted from one, for the part of itself that it is stretched by. No
power of a rational is missing. -/
def exactDelay (base factor : ℚ) (most : WithTop ℚ) (retry : ℕ) (stretch : ℚ) : WithTop ℚ :=
  let power (exponent : ℤ) : Id (WithTop ℚ) := pure ((factor ^ exponent : ℚ) : WithTop ℚ)
  (scheduledDelay Id power base most stretch retry).run

/-- The delay before a retry that is not stretched. -/
def cappedDelay (base factor : ℚ) (most : WithTop ℚ) (retry : ℕ) : WithTop ℚ :=
  min ((base * factor ^ (retry - 1) : ℚ) : WithTop ℚ) most

variable {p : RetryPolicy} {base factor jitter u v : ℚ} {most : WithTop ℚ} {n : ℕ}

theorem exactDelay_eq (hn : 1 ≤ n) : exactDelay base factor most n u =
    cappedDelay base factor most n * ((1 + u : ℚ) : WithTop ℚ) := by
  have hpower : factor ^ ((n : ℤ) - 1) = factor ^ (n - 1) := by
    rw [← zpow_natCast, Nat.cast_sub hn, Nat.cast_one]
  have hdelay : exactDelay base factor most n u = stretchedDelay (base : WithTop ℚ)
      ((factor ^ ((n : ℤ) - 1) : ℚ) : WithTop ℚ) most u := rfl
  rw [hdelay, hpower, cappedDelay, stretchedDelay, ← WithTop.coe_mul, WithTop.coe_add,
    WithTop.coe_one]
  by_cases h : most < ((base * factor ^ (n - 1) : ℚ) : WithTop ℚ)
  · rw [if_pos h, min_eq_right h.le]
  · rw [if_neg h, min_eq_left (not_lt.mp h)]

theorem cappedDelay_of_le (h : ((base * factor ^ (n - 1) : ℚ) : WithTop ℚ) ≤ most) :
    cappedDelay base factor most n = ((base * factor ^ (n - 1) : ℚ) : WithTop ℚ) :=
  min_eq_left h

/-- No delay is infinite, and none is negative. -/
theorem exists_cappedDelay (hbase : 0 ≤ base) (hfactor : 0 ≤ factor) (hmost : 0 ≤ most) (n : ℕ) :
    ∃ d : ℚ, cappedDelay base factor most n = d ∧ 0 ≤ d := by
  have hlt : cappedDelay base factor most n < ⊤ :=
    (min_le_left _ _).trans_lt (WithTop.coe_lt_top _)
  have hgrown : 0 ≤ base * factor ^ (n - 1) := by positivity
  have hnonneg : 0 ≤ cappedDelay base factor most n :=
    le_min (by exact_mod_cast hgrown) hmost
  obtain ⟨d, hd⟩ := WithTop.ne_top_iff_exists.mp hlt.ne
  rw [← hd] at hnonneg ⊢
  exact ⟨d, rfl, by exact_mod_cast hnonneg⟩

theorem lt_exactDelay_succ (hn : 1 ≤ n) (hbase : 0 < base) (hgrowth : 1 + jitter < factor)
    (hu : 0 ≤ u) (hu' : u ≤ jitter) (hv : 0 ≤ v)
    (h : ((base * factor ^ n : ℚ) : WithTop ℚ) ≤ most) :
    exactDelay base factor most n u < exactDelay base factor most (n + 1) v := by
  have hfactor : 1 < factor := by linarith
  have hpower : 0 < base * factor ^ (n - 1) := by positivity
  have hsucc : base * factor ^ n = base * factor ^ (n - 1) * factor := by
    rw [mul_assoc, ← pow_succ, Nat.sub_add_cancel hn]
  have hbefore : ((base * factor ^ (n - 1) : ℚ) : WithTop ℚ) ≤ most := by
    refine le_trans (WithTop.coe_le_coe.mpr ?_) h
    rw [hsucc]
    exact le_mul_of_one_le_right hpower.le hfactor.le
  rw [exactDelay_eq hn, exactDelay_eq (Nat.le_add_left 1 n), cappedDelay_of_le hbefore,
    cappedDelay_of_le (by exact h),
    ← WithTop.coe_mul, ← WithTop.coe_mul, WithTop.coe_lt_coe, Nat.add_sub_cancel]
  calc base * factor ^ (n - 1) * (1 + u) < base * factor ^ (n - 1) * factor := by
        apply mul_lt_mul_of_pos_left _ hpower
        linarith
    _ = base * factor ^ n := hsucc.symm
    _ ≤ base * factor ^ n * (1 + v) := by
        apply le_mul_of_one_le_right
        · positivity
        · linarith

theorem exactDelay_bounds (hn : 1 ≤ n) (hbase : 0 ≤ base) (hfactor : 0 ≤ factor) (hmost : 0 ≤ most)
    (hu : 0 ≤ u) (hu' : u ≤ jitter) :
    cappedDelay base factor most n ≤ exactDelay base factor most n u ∧
      exactDelay base factor most n u ≤
        cappedDelay base factor most n * ((1 + jitter : ℚ) : WithTop ℚ) ∧
      exactDelay base factor most n u ≤ most * ((1 + jitter : ℚ) : WithTop ℚ) := by
  obtain ⟨d, hd, hnonneg⟩ := exists_cappedDelay hbase hfactor hmost n
  have hcap : (d : WithTop ℚ) ≤ most := hd ▸ min_le_right _ _
  have hstretch : d * (1 + u) ≤ d * (1 + jitter) := by gcongr
  rw [exactDelay_eq hn, hd, ← WithTop.coe_mul, ← WithTop.coe_mul]
  refine ⟨?_, WithTop.coe_le_coe.mpr hstretch, ?_⟩
  · rw [WithTop.coe_le_coe]
    exact le_mul_of_one_le_right hnonneg (by linarith)
  · cases most with
    | top =>
      have hne : ((1 + jitter : ℚ) : WithTop ℚ) ≠ 0 := by
        have : 1 + jitter ≠ 0 := by linarith
        exact_mod_cast this
      rw [WithTop.top_mul hne]
      exact le_top
    | coe w =>
      rw [← WithTop.coe_mul, WithTop.coe_le_coe]
      exact hstretch.trans (mul_le_mul_of_nonneg_right (WithTop.coe_le_coe.mp hcap) (by linarith))

/-- The bounds of a policy that is read hold of its numbers; also the rounded sum that the factor
is compared with bounds it from below. -/
theorem IsSound.values (h : p.IsSound) (hp : p.HasValues base factor jitter most) :
    0 ≤ base ∧ 0 ≤ most ∧ 0 ≤ jitter ∧ 1 + jitter < factor := by
  have hbase : 0 ≤ base := (le_iff hasValue_zero hp.base).mp h.base
  have hjitter : 0 ≤ jitter := (le_iff hasValue_zero hp.jitter).mp h.jitter
  have hpart : jitter < 1 := (lt_iff hp.jitter hasValue_one).mp h.part
  have hmost : 0 ≤ most := by
    obtain ⟨-, rfl⟩ | ⟨w, hw, rfl⟩ := hp.most
    · exact le_top
    · exact_mod_cast (le_iff hasValue_zero hw).mp h.most
  exact ⟨hbase, hmost, hjitter, one_add_lt_of_not_le hp.jitter hjitter hpart hp.factor h.growth⟩

/-- With a policy that is read, delays increase as long as the growth of the next one is not capped,
whatever both are stretched by; and each delay lies between the capped growth and that growth with
the longest stretch, so that none exceeds the most with the longest stretch. -/
theorem exactDelay_increases {es : Entries Value} (h : read es = .valid p)
    (hp : p.HasValues base factor jitter most) :
    (0 < base → ∀ n, 1 ≤ n → ((base * factor ^ n : ℚ) : WithTop ℚ) ≤ most →
      ∀ u v, 0 ≤ u → u ≤ jitter → 0 ≤ v → v ≤ jitter →
        exactDelay base factor most n u < exactDelay base factor most (n + 1) v) ∧
    ∀ n, 1 ≤ n → ∀ u, 0 ≤ u → u ≤ jitter →
      min ((base * factor ^ (n - 1) : ℚ) : WithTop ℚ) most ≤ exactDelay base factor most n u ∧
      exactDelay base factor most n u ≤
        min ((base * factor ^ (n - 1) : ℚ) : WithTop ℚ) most * ((1 + jitter : ℚ) : WithTop ℚ) ∧
      exactDelay base factor most n u ≤ most * ((1 + jitter : ℚ) : WithTop ℚ) := by
  obtain ⟨hbase, hmost, hjitter, hgrowth⟩ := (isSound_of_read h).values hp
  have hfactor : 0 ≤ factor := by linarith
  constructor
  · intro hpos n hn hle u v hu hu' hv _
    exact lt_exactDelay_succ hn hpos hgrowth hu hu' hv hle
  · intro n hn u hu hu'
    exact exactDelay_bounds hn hbase hfactor hmost hu hu'

/-- Half a second, stretched by half of itself, and then a second; the tenth delay is capped. -/
theorem exactDelay_increases_half :
    read [("jitter", .float 0.5)] = .valid { jitter := 0.5 } ∧
      HasValues { jitter := 0.5 } (1 / 2) 2 (1 / 2) ((8 : ℚ) : WithTop ℚ) ∧
      exactDelay (1 / 2) 2 ((8 : ℚ) : WithTop ℚ) 1 (1 / 2) <
        exactDelay (1 / 2) 2 ((8 : ℚ) : WithTop ℚ) 2 0 ∧
      exactDelay (1 / 2) 2 ((8 : ℚ) : WithTop ℚ) 10 (1 / 4) ≤
        ((8 : ℚ) : WithTop ℚ) * ((1 + 1 / 2 : ℚ) : WithTop ℚ) := by
  have hread : read [("jitter", .float 0.5)] = .valid { jitter := 0.5 } := rfl
  have hhalf : HasValue 0.5 (1 / 2) := by
    have h := hasValue_of_parts (show parts 0.5 = .finite false (2 ^ 52) (-53) by decide)
    norm_num at h ⊢
    exact h
  have height : HasValue 8.0 8 := by
    have h := hasValue_of_parts (show parts 8.0 = .finite false (2 ^ 52) (-49) by decide)
    norm_num at h
    exact h
  have hvalues : HasValues { jitter := 0.5 } (1 / 2) 2 (1 / 2) ((8 : ℚ) : WithTop ℚ) :=
    ⟨hhalf, hasValue_two, hhalf, .inr ⟨8, height, rfl⟩⟩
  obtain ⟨hgrows, hbounds⟩ := exactDelay_increases hread hvalues
  refine ⟨hread, hvalues, ?_, ?_⟩
  · refine hgrows (by norm_num) 1 (le_refl 1) ?_ _ _ (by norm_num) (le_refl _) (le_refl _) ?_
    · rw [WithTop.coe_le_coe]
      norm_num
    · norm_num
  · exact (hbounds 10 (by norm_num) (1 / 4) (by norm_num) (by norm_num)).2.2

end RetryPolicy

end Retrieval
