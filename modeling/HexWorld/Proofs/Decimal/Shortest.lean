import HexWorld.Proofs.Decimal.Rounding
import HexWorld.Proofs.Json.Token
import Mathlib.Data.List.TakeWhile

/-!
# `Proofs.Decimal.Shortest` — the grid in which a shortest decimal is found

The search goes from coarse grids of decimals to fine ones. A grid whose step is not greater than
the gap below a number has a multiple around it, so the search ends there at the latest. In a grid
that is finer than a few gaps the multiple that is chosen keeps a part of the gap as a margin; only
in coarser grids can it lie anywhere around the number, but then it has few digits.

## Contents
- `ofDigits_append_zeros`, `exists_ofScaled_eq`: a scaled integer and its digits.
- `Decimal.toRat`, the value of a decimal, and `toRat_ofScaled`.
- `Reaches`: an interval holds what is near to a number.
- `of_nearestMultiple?`, `isSome_nearestMultiple?`, `exists_firstGrid`: one grid and the search.
- `Approximates`, `exists_shortest_eq`: what is found for a number.
-/

namespace HexWorld

/-! ## Digits of a scaled integer -/

namespace Decimal

theorem ofDigits_append (a b : List ℕ) :
    ofDigits (a ++ b) = ofDigits a * 10 ^ b.length + ofDigits b := by
  unfold ofDigits
  rw [List.foldl_append]
  generalize a.foldl (fun n d => n * 10 + d) 0 = m
  induction b using List.reverseRecOn with
  | nil => simp
  | append_singleton b d ih =>
      rw [List.foldl_append, List.foldl_append, ih, List.length_append, List.foldl_cons,
        List.foldl_nil, List.foldl_cons, List.foldl_nil, List.length_singleton, pow_succ]
      ring

theorem ofDigits_replicate_zero (z : ℕ) : ofDigits (List.replicate z 0) = 0 := by
  induction z with
  | zero => rfl
  | succ z ih =>
      rw [List.replicate_succ', ofDigits_append, ih]
      rfl

theorem ofDigits_append_zeros (digits : List ℕ) (z : ℕ) :
    ofDigits (digits ++ List.replicate z 0) = ofDigits digits * 10 ^ z := by
  rw [ofDigits_append, ofDigits_replicate_zero, List.length_replicate, Nat.add_zero]

theorem ofDigits_zeros_append (z : ℕ) (digits : List ℕ) :
    ofDigits (List.replicate z 0 ++ digits) = ofDigits digits := by
  rw [ofDigits_append, ofDigits_replicate_zero, Nat.zero_mul, Nat.zero_add]

theorem exists_stripZeros_append (digits : List ℕ) :
    ∃ z, digits = stripZeros digits ++ List.replicate z 0 := by
  have zeros : ∀ d ∈ digits.reverse.takeWhile (· == 0), d = 0 := by
    intro d mem
    have zero := List.mem_takeWhile_imp mem
    exact beq_iff_eq.mp zero
  refine ⟨(digits.reverse.takeWhile (· == 0)).length, ?_⟩
  have split := congrArg List.reverse (List.takeWhile_append_dropWhile (p := (· == 0))
    (l := digits.reverse))
  rw [List.reverse_append, List.reverse_reverse, List.eq_replicate_of_mem zeros,
    List.reverse_replicate] at split
  exact split.symm

theorem lt_of_mem_digitsOf {n d : ℕ} (mem : d ∈ digitsOf n) : d < 10 := by
  induction n using Nat.base_induction 10 (by decide) with
  | single m small =>
      rw [Json.digitsOf_of_lt small, List.mem_singleton] at mem
      exact mem ▸ small
  | digit m e small positive ih =>
      rw [Json.digitsOf_append positive small, List.mem_append, List.mem_singleton] at mem
      rcases mem with before | rfl
      · exact ih before
      · exact small

/-- The digits of a scaled integer are those of the integer without its last zeros. -/
theorem exists_ofScaled_eq {n : ℕ} (positive : 0 < n) (unit : ℤ) :
    ∃ z : ℕ, n = ofDigits (ofScaled n unit).digits * 10 ^ z ∧
      (ofScaled n unit).exponent = unit + z + ((ofScaled n unit).digits.length - 1 : ℕ) ∧
      (ofScaled n unit).digits.length + z = Nat.log 10 n + 1 ∧
      (ofScaled n unit).digits ≠ [] ∧ ∀ d ∈ (ofScaled n unit).digits, d < 10 := by
  obtain ⟨z, split⟩ := exists_stripZeros_append (digitsOf n)
  have value : n = ofDigits (stripZeros (digitsOf n)) * 10 ^ z := by
    rw [← ofDigits_append_zeros, ← split, Json.ofDigits_digitsOf]
  have some_digit : stripZeros (digitsOf n) ≠ [] := by
    intro none
    rw [none] at value
    exact positive.ne' (value.trans (Nat.zero_mul _))
  have length : (digitsOf n).length = (stripZeros (digitsOf n)).length + z := by
    conv_lhs => rw [split, List.length_append, List.length_replicate]
  have length_pos := List.length_pos_of_ne_nil some_digit
  refine ⟨z, value, ?_, length.symm.trans (length_digitsOf n), some_digit, fun d mem => ?_⟩
  · show unit + ((digitsOf n).length - 1 : ℕ) =
      unit + z + ((stripZeros (digitsOf n)).length - 1 : ℕ)
    omega
  · apply lt_of_mem_digitsOf (n := n)
    rw [split]
    exact List.mem_append_left _ mem

/-- The value of a decimal. -/
def toRat (d : Decimal) : ℚ :=
  ofDigits d.digits * 10 ^ (d.exponent - (d.digits.length - 1 : ℕ))

theorem toRat_ofScaled {n : ℕ} (positive : 0 < n) (unit : ℤ) :
    (ofScaled n unit).toRat = n * 10 ^ unit := by
  obtain ⟨z, value, exponent, -⟩ := exists_ofScaled_eq positive unit
  rw [toRat, exponent, add_sub_cancel_right, zpow_add₀ (by norm_num), zpow_natCast]
  conv_rhs => rw [value]
  push_cast
  ring

end Decimal

/-! ## One grid -/

/-- The interval holds every real that is nearer to `r` than `w`. -/
def Interval.Reaches (i : Interval) (r w : ℚ) : Prop :=
  ∀ q, |q - r| < w → i.contains q = true

section Grid

variable {i : Interval} {r w : ℚ} {unit : ℤ}

/-- What lies outside is not near. -/
theorem Interval.Reaches.le_abs_sub (reaches : i.Reaches r w) {q : ℚ}
    (outside : i.contains q = false) : w ≤ |q - r| := by
  by_contra near
  rw [reaches q (not_le.mp near)] at outside
  cases outside

/-- The two multiples next to a real. -/
theorem floor_bounds (nonneg : 0 ≤ r) (unit : ℤ) :
    ((r / Decimal.tenPow unit).floor.toNat : ℚ) * Decimal.tenPow unit ≤ r ∧
      r < ((r / Decimal.tenPow unit).floor.toNat + 1 : ℕ) * Decimal.tenPow unit := by
  have step_pos : 0 < Decimal.tenPow unit := by
    rw [Decimal.tenPow_eq_zpow]
    positivity
  have floor_nonneg : 0 ≤ ⌊r / Decimal.tenPow unit⌋ :=
    Int.floor_nonneg.mpr (div_nonneg nonneg step_pos.le)
  have value : ((r / Decimal.tenPow unit).floor.toNat : ℚ) = ⌊r / Decimal.tenPow unit⌋ := by
    exact_mod_cast congrArg (Int.cast (R := ℚ)) (Int.toNat_of_nonneg floor_nonneg)
  rw [Nat.cast_add, Nat.cast_one, value, ← le_div_iff₀ step_pos, ← div_lt_iff₀ step_pos]
  exact ⟨Int.floor_le _, Int.lt_floor_add_one _⟩

/-- **The multiple that is chosen** lies in the interval. It is at most half a step away, or the
other neighbour lies outside. -/
theorem of_nearestMultiple? (reaches : i.Reaches r w) (apart : w ≤ r) (gap_pos : 0 < w)
    {d : Decimal} (h : nearestMultiple? i r unit = some d) :
    ∃ n : ℕ, 0 < n ∧ d = .ofScaled n unit ∧ i.contains (n * 10 ^ unit) = true ∧
      (|n * 10 ^ unit - r| ≤ 10 ^ unit / 2 ∨ |n * 10 ^ unit - r| ≤ 10 ^ unit - w) := by
  obtain ⟨low, high⟩ := floor_bounds (gap_pos.le.trans apart) unit
  unfold nearestMultiple? at h
  generalize (r / Decimal.tenPow unit).floor.toNat = n at low high h
  rw [Decimal.tenPow_eq_zpow] at low high
  simp only [Decimal.tenPow_eq_zpow] at h
  have beside : ((n + 1 : ℕ) : ℚ) * 10 ^ unit = n * 10 ^ unit + 10 ^ unit := by
    push_cast
    ring
  split at h
  next low_in high_in =>
    rw [Bool.and_eq_true, decide_eq_true_eq] at low_in
    cases h
    split
    next nearer =>
      refine ⟨n, low_in.1, rfl, low_in.2, .inl ?_⟩
      rw [abs_le]
      constructor <;> linarith
    next farther =>
      refine ⟨n + 1, n.succ_pos, rfl, high_in, .inl ?_⟩
      rw [abs_le]
      constructor <;> linarith
  next low_in high_out =>
    rw [Bool.and_eq_true, decide_eq_true_eq] at low_in
    cases h
    refine ⟨n, low_in.1, rfl, low_in.2, .inr ?_⟩
    have away := reaches.le_abs_sub high_out
    rw [abs_of_nonneg (by linarith)] at away
    rw [abs_of_nonpos (by linarith)]
    linarith
  next low_out high_in =>
    cases h
    refine ⟨n + 1, n.succ_pos, rfl, high_in, .inr ?_⟩
    have away : w ≤ r - n * 10 ^ unit := by
      rcases Nat.eq_zero_or_pos n with rfl | positive
      · rw [Nat.cast_zero, zero_mul, sub_zero]
        exact apart
      · rw [decide_eq_true positive, Bool.true_and] at low_out
        have far := reaches.le_abs_sub low_out
        rw [abs_of_nonpos (by linarith)] at far
        linarith
    rw [abs_of_nonneg (by linarith)]
    linarith
  next => cases h

/-- A grid that is fine enough has a multiple in the interval. -/
theorem isSome_nearestMultiple? (reaches : i.Reaches r w) (apart : w ≤ r) (gap_pos : 0 < w)
    (fine : 10 ^ unit ≤ w) : (nearestMultiple? i r unit).isSome = true := by
  obtain ⟨low, high⟩ := floor_bounds (gap_pos.le.trans apart) unit
  unfold nearestMultiple?
  generalize (r / Decimal.tenPow unit).floor.toNat = n at low high ⊢
  rw [Decimal.tenPow_eq_zpow] at low high
  simp only [Decimal.tenPow_eq_zpow]
  have positive : 0 < n := by
    by_contra none
    rw [Nat.eq_zero_of_not_pos none, zero_add, Nat.cast_one, one_mul] at high
    linarith
  have inside : i.contains (n * 10 ^ unit) = true := by
    apply reaches
    push_cast at high
    rw [abs_of_nonpos (by linarith)]
    linarith
  rw [decide_eq_true positive, inside]
  cases i.contains ((n + 1 : ℕ) * 10 ^ unit) <;> rfl

end Grid

/-! ## The search -/

/-- The search ends with the first grid that has a multiple in the interval. -/
theorem exists_firstGrid {i : Interval} {r : ℚ} {count j : ℕ} {unit : ℤ} (enough : j < count)
    (found : (nearestMultiple? i r (unit - j)).isSome = true) :
    ∃ k ≤ j, nearestMultiple? i r (unit - k) = some (firstGrid i r count unit) := by
  induction count generalizing j unit with
  | zero => exact absurd enough j.not_lt_zero
  | succ count ih =>
      rw [firstGrid]
      cases here : nearestMultiple? i r unit with
      | some d =>
          refine ⟨0, j.zero_le, ?_⟩
          rw [Nat.cast_zero, sub_zero, here]
          rfl
      | none =>
          cases j with
          | zero =>
              rw [Nat.cast_zero, sub_zero, here] at found
              cases found
          | succ j =>
              rw [Nat.cast_succ, add_comm, ← sub_sub] at found
              obtain ⟨k, le, first⟩ := ih (Nat.lt_of_succ_lt_succ enough) found
              refine ⟨k + 1, Nat.succ_le_succ le, ?_⟩
              rw [Nat.cast_succ, add_comm, ← sub_sub]
              exact first

theorem reaches_around (f : Format) (x : Magnitude) :
    (Interval.around f x).Reaches x.toRat (f.gap x) := by
  intro q near
  obtain ⟨below, above⟩ := abs_lt.mp near
  have gap_le := f.gap_le x
  rw [Interval.contains_iff, Format.lower_around, Format.upper_around]
  refine ⟨by linarith, by linarith, ?_⟩
  rintro (lower | upper) <;> linarith

/-- A multiple `n` of `10 ^ unit` stands for a number: it lies around the number, and in a grid
that is not too coarse it keeps an eighth of the gap as a margin. -/
structure Approximates (f : Format) (x : Magnitude) (n : ℕ) (unit : ℤ) : Prop where
  positive : 0 < n
  around : (Interval.around f x).contains (n * 10 ^ unit) = true
  margin : 10 ^ unit < 7 / 4 * f.gap x → |n * 10 ^ unit - x.toRat| < 7 / 8 * f.gap x

/-- A number has fewer than `2 ^ (precision + 1)` gaps. -/
theorem toRat_le_gaps {f : Format} {x : Magnitude} (wide : 0 < f.precision)
    (narrow : x.significand < 2 ^ f.precision) : x.toRat ≤ 2 ^ (f.precision + 1) * f.gap x := by
  have unit_pos : (0 : ℚ) < 2 ^ x.exponent := by positivity
  have below : (x.significand : ℚ) ≤ 2 ^ f.precision := by exact_mod_cast narrow.le
  rw [x.toRat_eq, pow_succ, Format.gap]
  split
  next leading =>
    rw [leading.1, Format.two_pow_precision wide]
    push_cast
    linarith
  next => nlinarith

/-- **What is found** is a multiple of one of the first grids, and how many grids there are depends
on the precision only. -/
theorem exists_shortest_eq {f : Format} {x : Magnitude} (wide : 0 < f.precision)
    (narrow : x.significand < 2 ^ f.precision) (positive : 0 < x.significand) {j : ℕ}
    (enough : 2 ^ (f.precision + 1) ≤ 10 ^ j) (few : j ≤ 16) :
    ∃ (n : ℕ) (unit : ℤ), Approximates f x n unit ∧ shortest f x = .ofScaled n unit ∧
      unit ≤ Int.log 10 x.toRat ∧ Int.log 10 x.toRat ≤ unit + j := by
  have value := x.toRat_eq
  have unit_pos : (0 : ℚ) < 2 ^ x.exponent := by positivity
  have one_le : (1 : ℚ) ≤ x.significand := by exact_mod_cast positive
  have toRat_pos : 0 < x.toRat := by rw [value]; positivity
  have gap_pos := f.gap_pos x
  have gap_le := f.gap_le x
  have apart : f.gap x ≤ x.toRat := by nlinarith
  have gaps := toRat_le_gaps wide narrow
  have fine : (10 : ℚ) ^ (Int.log 10 x.toRat - j) ≤ f.gap x := by
    have reached : (10 : ℚ) ^ Int.log 10 x.toRat ≤ x.toRat := by
      exact_mod_cast Int.zpow_log_le_self (b := 10) (by decide) toRat_pos
    have enough : (2 : ℚ) ^ (f.precision + 1) ≤ 10 ^ j := by exact_mod_cast enough
    rw [zpow_sub₀ (by norm_num), zpow_natCast, div_le_iff₀ (by positivity)]
    nlinarith
  obtain ⟨k, le, first⟩ := exists_firstGrid (by omega : j < 17)
    (isSome_nearestMultiple? (reaches_around f x) apart gap_pos fine)
  obtain ⟨n, n_pos, eq, inside, near⟩ :=
    of_nearestMultiple? (reaches_around f x) apart gap_pos first
  have nonzero : ¬x.isZero = true := fun zero => positive.ne' (beq_iff_eq.mp zero)
  refine ⟨n, Int.log 10 x.toRat - k, ⟨n_pos, inside, fun coarse => ?_⟩, ?_, by omega, by omega⟩
  · have step_pos : (0 : ℚ) < 10 ^ (Int.log 10 x.toRat - k) := by positivity
    rcases near with half | beyond <;> linarith
  · rw [shortest, if_neg nonzero, decimalExponent_eq_log toRat_pos, eq]

end HexWorld
