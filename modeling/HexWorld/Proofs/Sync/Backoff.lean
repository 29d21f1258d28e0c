import HexWorld.Config.Basic

/-!
# `Proofs.Sync.Backoff` — how the wait between retries grows

Without a cut, the wait before a retry starts at its base, never shrinks from one attempt to the
next, and never exceeds its bound. It is meant to be the base doubled with each attempt, up to the
bound. The doubling is done with a factor of 32 bits: from attempt 32 on the wait is the bound,
whether or not doubling has got there.

## Contents
- `delay_of_jitter_zero`: a wait that is not cut.
- `ceiling_zero`, `ceiling_mono`, `ceiling_le_bound`.
- `doubled`: the wait in unbounded numbers.
- `ceiling_of_lt`, `ceiling_of_le`, `doubled_eq_bound_iff`: where the wait is `doubled`.
- `ceiling_eq_doubled_iff`, `ceiling_ne_doubled`: the same for the policy of a configuration.
-/

namespace HexWorld.Backoff

variable {p : Backoff}

theorem delay_of_jitter_zero (h : p.jitter.toRat? = some 0) (attempt : UInt32)
    (words : List UInt64) : (p.delay attempt words).1 = p.ceiling attempt := by
  have uncut : p.cutLimit = 0 := by
    unfold cutLimit
    rw [h]
    rfl
  unfold delay
  rw [if_pos uncut]

/-- The wait before the first retry is the base, which is a length that can be counted. -/
theorem ceiling_zero (counted : p.base.nanos < Duration.limit)
    (ordered : p.base.nanos ≤ p.bound.nanos) : p.ceiling 0 = p.base := by
  have wait : p.base.nanos * Nat.pow 2 (0 : UInt32).toNat = p.base.nanos := Nat.mul_one _
  unfold ceiling
  rw [wait, if_pos ⟨by decide, counted⟩, Nat.min_eq_left ordered]

theorem ceiling_le_bound (p : Backoff) (attempt : UInt32) :
    (p.ceiling attempt).nanos ≤ p.bound.nanos := by
  unfold ceiling
  dsimp only
  split
  · exact Nat.min_le_right _ _
  · exact Nat.le_refl _

theorem ceiling_mono (p : Backoff) {a b : UInt32} (h : a ≤ b) :
    (p.ceiling a).nanos ≤ (p.ceiling b).nanos := by
  have grows : p.base.nanos * Nat.pow 2 a.toNat ≤ p.base.nanos * Nat.pow 2 b.toNat :=
    Nat.mul_le_mul_left _ (Nat.pow_le_pow_right (by decide) (UInt32.le_iff_toNat_le.mp h))
  by_cases fits : b < 32 ∧ p.base.nanos * Nat.pow 2 b.toNat < Duration.limit
  · have fits_before : a < 32 ∧ p.base.nanos * Nat.pow 2 a.toNat < Duration.limit :=
      ⟨UInt32.lt_of_le_of_lt h fits.1, Nat.lt_of_le_of_lt grows fits.2⟩
    unfold ceiling
    rw [if_pos fits, if_pos fits_before]
    show min _ _ ≤ min _ _
    omega
  · -- The later wait has reached the bound.
    have reached : p.ceiling b = p.bound := if_neg fits
    rw [reached]
    exact p.ceiling_le_bound a

/-! ## Doubling -/

/-- The base doubled with each attempt, up to the bound, in unbounded numbers. -/
def doubled (p : Backoff) (attempt : UInt32) : Duration :=
  ⟨min p.bound.nanos (p.base.nanos * Nat.pow 2 attempt.toNat)⟩

/-- Before attempt 32 nothing is lost: a wait beyond all durations is beyond the bound too. -/
theorem ceiling_of_lt (counted : p.bound.nanos < Duration.limit) {attempt : UInt32}
    (early : attempt < 32) : p.ceiling attempt = p.doubled attempt := by
  unfold ceiling doubled
  by_cases fits : p.base.nanos * Nat.pow 2 attempt.toNat < Duration.limit
  · rw [if_pos ⟨early, fits⟩, Nat.min_comm]
  · have beyond : p.bound.nanos ≤ p.base.nanos * Nat.pow 2 attempt.toNat := by omega
    have overflows : ¬(attempt < 32 ∧ p.base.nanos * Nat.pow 2 attempt.toNat < Duration.limit) :=
      fun h => fits h.2
    rw [if_neg overflows, Nat.min_eq_left beyond]

theorem ceiling_of_le {attempt : UInt32} (late : 32 ≤ attempt) : p.ceiling attempt = p.bound := by
  have overflows : ¬(attempt < 32 ∧ p.base.nanos * Nat.pow 2 attempt.toNat < Duration.limit) :=
    fun h => UInt32.not_lt.mpr late h.1
  unfold ceiling
  rw [if_neg overflows]

theorem doubled_eq_bound_iff (p : Backoff) (attempt : UInt32) :
    p.doubled attempt = p.bound ↔ p.bound.nanos ≤ p.base.nanos * Nat.pow 2 attempt.toNat := by
  obtain ⟨base, ⟨bound⟩, maxRetries, jitter⟩ := p
  show Duration.mk (min bound _) = ⟨bound⟩ ↔ bound ≤ _
  rw [Duration.mk.injEq]
  omega

/-- **The wait of a configured policy** is the base doubled with each attempt, up to the bound, before
attempt 32; from there on it is the bound. So it is the doubled base exactly when the attempt is an
earlier one or doubling has reached the bound; otherwise it has jumped to the bound. -/
theorem ceiling_eq_doubled_iff (c : Config) (attempt : UInt32) :
    let p := c.backoffPolicy
    p.ceiling attempt = (if attempt < 32 then p.doubled attempt else p.bound) ∧
    (p.ceiling attempt = p.doubled attempt ↔
      attempt < 32 ∨
        c.backoff.maxMs.toNat ≤ c.backoff.baseMs.toNat * Nat.pow 2 attempt.toNat) := by
  intro p
  -- A bound in milliseconds of 64 bits is far below 2^64 seconds.
  have counted : p.bound.nanos < Duration.limit := by
    have word : c.backoff.maxMs.toNat < 18446744073709551616 := c.backoff.maxMs.toNat_lt
    show c.backoff.maxMs.toNat * 1000000 < 18446744073709551616 * 1000000000
    omega
  have reached : p.doubled attempt = p.bound ↔
      c.backoff.maxMs.toNat ≤ c.backoff.baseMs.toNat * Nat.pow 2 attempt.toNat := by
    rw [doubled_eq_bound_iff]
    show c.backoff.maxMs.toNat * 1000000 ≤ c.backoff.baseMs.toNat * 1000000 * _ ↔ _
    rw [Nat.mul_right_comm]
    omega
  by_cases early : attempt < 32
  · simp [early, ceiling_of_lt counted early]
  · have late : 32 ≤ attempt := UInt32.not_lt.mp early
    simp only [early, if_false, false_or, ceiling_of_le late, true_and]
    rw [← reached]
    exact eq_comm

/-- Waits from one millisecond up to the longest that can be configured. -/
def patient : Config :=
  { Config.default with
    backoff := { BackoffConfig.default with baseMs := 1, maxMs := 0xFFFFFFFFFFFFFFFF } }

/-- At attempt 32 the wait should be some fifty days, and is over five hundred million years. -/
theorem ceiling_ne_doubled :
    patient.validate = .ok patient ∧
    patient.backoffPolicy.doubled 32 = .ofMillis 0x100000000 ∧
    patient.backoffPolicy.ceiling 32 = .ofMillis 0xFFFFFFFFFFFFFFFF ∧
    patient.backoffPolicy.ceiling 32 ≠ patient.backoffPolicy.doubled 32 := by
  have checked : patient.violation? = none := by decide +kernel
  have accepted : patient.validate = .ok patient := by
    unfold Config.validate
    rw [checked]
  exact ⟨accepted, by decide +kernel⟩

end HexWorld.Backoff
