import HexWorld.Proofs.Decimal.Rounding
import Mathlib.Algebra.Order.Ring.Abs
import Mathlib.Tactic.LinearCombination

/-!
# `Proofs.Decimal.NearMiss` — few decimals are close to the border between two numbers

The border between two neighbouring numbers is a multiple of a power of two, and a decimal is a
multiple of a power of ten. If `n * A` is very close to `m * B`, then `m / n` is one particular
fraction: for any fraction `p / q` with `q * A` close to `p * B`, the integer `n * p - q * m` is so
small that it is zero. So for each pair of powers one good fraction settles all multiples at once,
and Euclid's algorithm finds it. How the fraction was found is of no account for the proof.

## Contents
- `mul_eq_mul_of_close`: two close approximations are the same fraction.
- `tensOverTwos`, the ratio of two powers as a fraction, and `IsNear`.
- `IsSettled`, what is checked of a pair of powers; `settled`, the check for all pairs.
- `eq_or_apart`: a coarse decimal is on a border, or well away from it, with one exception.
-/

namespace HexWorld

/-! ## Close approximations -/

/-- If `q * a` is close to `p * b` and `n * a` is close to `m * b`, then `p / q` and `m / n` are one
fraction. -/
theorem mul_eq_mul_of_close {a b p q n m : ℤ} (q_nonneg : 0 ≤ q) (n_nonneg : 0 ≤ n)
    (close : q * |n * a - m * b| + n * |q * a - p * b| < b) : n * p = q * m := by
  have combined : b * (n * p - q * m) = q * (n * a - m * b) - n * (q * a - p * b) := by ring
  have small : |b * (n * p - q * m)| < b := by
    rw [combined]
    refine (abs_sub _ _).trans_lt ?_
    rwa [abs_mul, abs_mul, abs_of_nonneg q_nonneg, abs_of_nonneg n_nonneg]
  have b_pos : 0 < b := (abs_nonneg _).trans_lt small
  rw [abs_mul, abs_of_pos b_pos] at small
  have zero : |n * p - q * m| < 1 := by
    by_contra large
    nlinarith
  exact sub_eq_zero.mp (Int.abs_lt_one_iff.mp zero)

/-! ## What is checked of a pair of powers -/

/-- Reading a decimal moves it by one part in so many at most. -/
def readingParts : ℕ := 4503599627370495

/-- The greatest border next to a number of 24 digits, in units of the gap below the number. -/
def greatestBorder : ℕ := 33554434

/-- A multiple of `a` is so close to one of `b` that reading it might make them equal. -/
def IsNear (a b n m : ℕ) : Prop :=
  readingParts * |(n * a : ℤ) - m * b| ≤ n * a

/-- The one decimal with a nearer border: `7038531e-32`. -/
def IsExceptional (n : ℕ) (k : ℤ) : Prop :=
  n = 7038531 ∧ k = -32

/-- More multiples of `a` do not fit below the greatest border. -/
def greatestMultiple (a b : ℕ) : ℕ :=
  greatestBorder * b / a + 1

/-- The distance between `q * a` and `p * b`. -/
def offset (a b p q : ℕ) : ℕ :=
  ((q * a : ℕ) - (p * b : ℕ) : ℤ).natAbs

/-- The fraction `p / q` is so close to `b / a` that every other near fraction is equal to it, and
it is exact, or not near itself, or the exception. -/
def IsSettled (k : ℤ) (a b p q : ℕ) : Prop :=
  0 < q ∧ q * greatestBorder * b + greatestMultiple a b * offset a b p q * (readingParts - 1) <
      b * (readingParts - 1) ∧
    (offset a b p q = 0 ∨ q * a < readingParts * offset a b p q ∨
      p = 22841339 ∧ q = 7038531 ∧ k = -32)

instance (k : ℤ) (a b p q : ℕ) : Decidable (IsSettled k a b p q) :=
  inferInstanceAs (Decidable (_ ∧ _))

/-- What is near is bounded. -/
theorem IsNear.bounds {a b n m : ℕ} (near : IsNear a b n m) (border : m ≤ greatestBorder)
    (coarse : 7 * b ≤ 4 * a) (b_pos : 0 < b) :
    (readingParts - 1 : ℤ) * |(n * a : ℤ) - m * b| ≤ greatestBorder * b ∧
      n ≤ greatestMultiple a b ∧ n * a ≤ (greatestBorder + 1) * b := by
  have a_pos : 0 < a := by omega
  have filled : greatestBorder * b < a * greatestMultiple a b :=
    Nat.lt_mul_div_succ (greatestBorder * b) a_pos
  generalize greatestMultiple a b = bound at filled ⊢
  unfold IsNear readingParts at near
  unfold greatestBorder at border filled ⊢
  unfold readingParts
  obtain ⟨-, above⟩ := abs_le.mp (le_refl |(n * a : ℤ) - m * b|)
  have bordered : (m * b : ℤ) ≤ 33554434 * b := by exact_mod_cast Nat.mul_le_mul_right b border
  have coarse : (7 * b : ℤ) ≤ 4 * a := by exact_mod_cast coarse
  have b_pos : (0 : ℤ) < b := by exact_mod_cast b_pos
  have filled : (33554434 * b : ℤ) < a * bound := by exact_mod_cast filled
  push_cast at near ⊢
  generalize |(n * a : ℤ) - m * b| = rest at near above ⊢
  have product : (n * a : ℤ) ≤ 33554435 * b := by linarith
  refine ⟨by linarith, ?_, by exact_mod_cast product⟩
  have below : (a * n : ℤ) < a * (bound + 1) := by linarith
  have := lt_of_mul_lt_mul_left below (Int.natCast_nonneg a)
  omega

theorem eq_of_exceptional {n m : ℕ} (positive : 0 < n) (border : m ≤ greatestBorder)
    (proportional : n * 22841339 = 7038531 * m) : n = 7038531 := by
  unfold greatestBorder at border
  have coprime : Nat.Coprime 7038531 22841339 := by decide +kernel
  obtain ⟨c, rfl⟩ := coprime.dvd_of_dvd_mul_right ⟨m, proportional⟩
  rw [mul_assoc] at proportional
  have value : c * 22841339 = m := Nat.eq_of_mul_eq_mul_left (by norm_num) proportional
  have some : 0 < c := Nat.pos_of_mul_pos_left positive
  obtain rfl : c = 1 := by
    have : c < 2 := by linarith
    omega
  rfl

theorem offset_eq_abs (a b p q : ℕ) : (offset a b p q : ℤ) = |(q * a : ℤ) - p * b| := by
  rw [offset, Int.natCast_natAbs]
  push_cast
  rfl

/-- All near fractions are equal to a settled one. -/
theorem IsSettled.proportional {k : ℤ} {a b p q n m : ℕ} (settled : IsSettled k a b p q)
    (border : m ≤ greatestBorder) (coarse : 7 * b ≤ 4 * a) (b_pos : 0 < b)
    (near : IsNear a b n m) : n * p = q * m := by
  obtain ⟨-, close, -⟩ := settled
  obtain ⟨rest_le, few, -⟩ := near.bounds border coarse b_pos
  have parts_pos : (0 : ℤ) < readingParts - 1 := by decide
  have q_nonneg : (0 : ℤ) ≤ q := Int.natCast_nonneg q
  have proportional : (n * p : ℤ) = q * m := by
    apply mul_eq_mul_of_close (a := a) (b := b) q_nonneg (Int.natCast_nonneg n)
    rw [← offset_eq_abs a b p q]
    have parts : ((readingParts - 1 : ℕ) : ℤ) = readingParts - 1 := rfl
    have close : (q * greatestBorder * b +
        greatestMultiple a b * offset a b p q * (readingParts - 1) : ℤ) < b * (readingParts - 1) := by
      rw [← parts]
      exact_mod_cast close
    have few : (n : ℤ) ≤ greatestMultiple a b := by exact_mod_cast few
    have first := mul_le_mul_of_nonneg_left rest_le q_nonneg
    have second := mul_le_mul_of_nonneg_right few
      (mul_nonneg (Int.natCast_nonneg (offset a b p q)) parts_pos.le)
    refine lt_of_mul_lt_mul_left ?_ parts_pos.le
    linarith
  exact_mod_cast proportional

/-- The offsets of equal fractions are proportional. -/
theorem mul_offset {a b p q n m : ℕ} (proportional : n * p = q * m) :
    (n * offset a b p q : ℤ) = q * |(n * a : ℤ) - m * b| := by
  have proportional : (n * p : ℤ) = q * m := by exact_mod_cast proportional
  have common : n * ((q * a : ℤ) - p * b) = q * ((n * a : ℤ) - m * b) := by
    linear_combination -(b : ℤ) * proportional
  have magnitudes := congrArg abs common
  rwa [abs_mul, abs_mul, Nat.abs_cast, Nat.abs_cast, ← offset_eq_abs] at magnitudes

/-- **One settled fraction settles all multiples.** -/
theorem IsSettled.eq_or_exceptional {k : ℤ} {a b p q n m : ℕ} (settled : IsSettled k a b p q)
    (positive : 0 < n) (border : m ≤ greatestBorder) (coarse : 7 * b ≤ 4 * a) (b_pos : 0 < b)
    (near : IsNear a b n m) : n * a = m * b ∨ IsExceptional n k := by
  have proportional := settled.proportional border coarse b_pos near
  have offsets := mul_offset (a := a) (b := b) proportional
  obtain ⟨q_pos, -, kind⟩ := settled
  have q_pos : (0 : ℤ) < q := by exact_mod_cast q_pos
  rcases kind with exact | far | ⟨rfl, rfl, rfl⟩
  · left
    rw [exact, Nat.cast_zero, mul_zero] at offsets
    have same := abs_eq_zero.mp ((mul_eq_zero.mp offsets.symm).resolve_left q_pos.ne')
    exact_mod_cast sub_eq_zero.mp same
  · -- The multiple would be as near as the fraction, which is not near.
    exfalso
    have n_pos : (0 : ℤ) < n := by exact_mod_cast positive
    have far : (q * a : ℤ) < readingParts * offset a b p q := by exact_mod_cast far
    have above := mul_lt_mul_of_pos_left far n_pos
    have below := mul_le_mul_of_nonneg_left near q_pos.le
    have same : (n * (readingParts * offset a b p q) : ℤ) =
        q * (readingParts * |(n * a : ℤ) - m * b|) := by
      rw [mul_left_comm, offsets, mul_left_comm]
    linarith
  · right
    exact ⟨eq_of_exceptional positive border proportional, rfl⟩

/-! ## All pairs -/

/-- The ratio of `10 ^ k` to `2 ^ g` as a fraction. -/
def tensOverTwos (k g : ℤ) : ℕ × ℕ :=
  (10 ^ k.toNat * 2 ^ (-g).toNat, 10 ^ (-k).toNat * 2 ^ g.toNat)

theorem tensOverTwos_eq (k g : ℤ) :
    (10 : ℚ) ^ k * (tensOverTwos k g).2 = (tensOverTwos k g).1 * 2 ^ g := by
  have cancel {b : ℚ} (nonzero : b ≠ 0) (e : ℤ) : b ^ e * b ^ (-e).toNat = b ^ e.toNat := by
    rw [← zpow_natCast, ← zpow_natCast, ← zpow_add₀ nonzero]
    congr 1
    omega
  have tens := cancel (by norm_num : (10 : ℚ) ≠ 0) k
  have twos := cancel (by norm_num : (2 : ℚ) ≠ 0) g
  unfold tensOverTwos
  push_cast
  rw [← mul_assoc, tens, mul_assoc, ← twos]
  ring

theorem tensOverTwos_pos (k g : ℤ) : 0 < (tensOverTwos k g).2 := by
  unfold tensOverTwos
  positivity

theorem mul_ten_eq_mul_two_iff {n m : ℕ} {k g : ℤ} :
    (n : ℚ) * 10 ^ k = m * 2 ^ g ↔ n * (tensOverTwos k g).1 = m * (tensOverTwos k g).2 := by
  have ratio := tensOverTwos_eq k g
  have b_pos : (0 : ℚ) < (tensOverTwos k g).2 := by exact_mod_cast tensOverTwos_pos k g
  have two_pos : (0 : ℚ) < 2 ^ g := by positivity
  have scaled : (n : ℚ) * 10 ^ k * (tensOverTwos k g).2 = n * (tensOverTwos k g).1 * 2 ^ g := by
    rw [mul_assoc, ratio, mul_assoc]
  have scaled' : (m : ℚ) * 2 ^ g * (tensOverTwos k g).2 = m * (tensOverTwos k g).2 * 2 ^ g := by
    ring
  rw [← mul_left_inj' b_pos.ne', scaled, scaled', mul_left_inj' two_pos.ne']
  norm_cast

/-- Euclid's algorithm on a numerator and a denominator, up to the first fraction that is close
enough. -/
def approach (a b : ℕ) : (fuel : ℕ) → (u v p₀ q₀ p q : ℕ) → ℕ × ℕ
  | 0, _, _, _, _, p, q => (p, q)
  | fuel + 1, u, v, p₀, q₀, p, q =>
    if q * greatestBorder * b + greatestMultiple a b * v * (readingParts - 1) <
      b * (readingParts - 1) then (p, q)
    else approach a b fuel v (u % v) p q (u / v * p + p₀) (u / v * q + q₀)

/-- The fraction found for a pair of powers settles all multiples, if decimals are coarse and not
greater than the greatest border. -/
def SettlesPowers (k g : ℤ) : Prop :=
  -150 ≤ g → 7 * (tensOverTwos k g).2 ≤ 4 * (tensOverTwos k g).1 →
    IsSettled k (tensOverTwos k g).1 (tensOverTwos k g).2
      (approach (tensOverTwos k g).1 (tensOverTwos k g).2 60
        (tensOverTwos k g).1 (tensOverTwos k g).2 0 1 1 0).1
      (approach (tensOverTwos k g).1 (tensOverTwos k g).2 60
        (tensOverTwos k g).1 (tensOverTwos k g).2 0 1 1 0).2

instance (k g : ℤ) : Decidable (SettlesPowers k g) :=
  inferInstanceAs (Decidable (_ → _))

/-- **All pairs are settled** for which a decimal of the range can lie next to a border. -/
theorem settled : ∀ i ∈ List.range 83, ∀ j ∈ List.range 26,
    SettlesPowers (i - 44) (Format.binaryExponent (Decimal.tenPow (i - 44)) - j) := by
  decide +kernel

/-- A coarse decimal has few powers of two between its step and the greatest border. -/
theorem powers_bounds {k g : ℤ} (coarse : 7 / 4 * (2 : ℚ) ^ g ≤ 10 ^ k)
    (small : (10 : ℚ) ^ k ≤ (greatestBorder + 1) * 2 ^ g) (least : -150 ≤ g) (greatest : g ≤ 103) :
    ∃ i ∈ List.range 83, k = i - 44 ∧
      ∃ j ∈ List.range 26, g = Format.binaryExponent (Decimal.tenPow k) - j := by
  have ten_pos : (0 : ℚ) < 10 ^ k := by positivity
  have two_pos : (0 : ℚ) < 2 ^ g := by positivity
  have above : (10 : ℚ) ^ k < 2 ^ (g + 26) := by
    rw [zpow_add₀ (by norm_num)]
    unfold greatestBorder at small
    norm_num at small ⊢
    linarith
  have least_ten : -44 ≤ k := by
    by_contra low
    have less : (10 : ℚ) ^ k ≤ 10 ^ (-45 : ℤ) := zpow_le_zpow_right₀ (by norm_num) (by omega)
    have more : (2 : ℚ) ^ (-150 : ℤ) ≤ 2 ^ g := zpow_le_zpow_right₀ (by norm_num) least
    norm_num at less more
    linarith
  have greatest_ten : k ≤ 38 := by
    by_contra high
    have more : (10 : ℚ) ^ (39 : ℤ) ≤ 10 ^ k := zpow_le_zpow_right₀ (by norm_num) (by omega)
    have less : (2 : ℚ) ^ (g + 26) ≤ 2 ^ (129 : ℤ) := zpow_le_zpow_right₀ (by norm_num) (by omega)
    norm_num at less more
    linarith
  refine ⟨(k + 44).toNat, List.mem_range.mpr (by omega), by omega, ?_⟩
  rw [Decimal.tenPow_eq_zpow, Format.binaryExponent_eq_log ten_pos]
  have below : (2 : ℚ) ^ g ≤ 10 ^ k := by linarith
  have lower := (Int.zpow_le_iff_le_log (b := 2) (by decide) ten_pos).mp (by exact_mod_cast below)
  have upper := (Int.lt_zpow_iff_log_lt (b := 2) (by decide) ten_pos).mp (by exact_mod_cast above)
  exact ⟨(Int.log 2 ((10 : ℚ) ^ k) - g).toNat, List.mem_range.mpr (by omega), by omega⟩

/-- **A coarse decimal is on a border, or well away from it**: reading does not carry it to the
other side. -/
theorem eq_or_apart {n m : ℕ} {k g : ℤ} (positive : 0 < n) (border : m ≤ greatestBorder)
    (least : -150 ≤ g) (greatest : g ≤ 103) (coarse : 7 / 4 * (2 : ℚ) ^ g ≤ 10 ^ k) :
    (n : ℚ) * 10 ^ k = m * 2 ^ g ∨ IsExceptional n k ∨
      (n : ℚ) * 10 ^ k < readingParts * |(n : ℚ) * 10 ^ k - m * 2 ^ g| := by
  have ratio := tensOverTwos_eq k g
  have b_pos := tensOverTwos_pos k g
  rw [mul_ten_eq_mul_two_iff]
  generalize fraction : tensOverTwos k g = f at ratio b_pos ⊢
  obtain ⟨a, b⟩ := f
  dsimp only at ratio b_pos
  have two_pos : (0 : ℚ) < 2 ^ g := by positivity
  have b_pos' : (0 : ℚ) < b := by exact_mod_cast b_pos
  by_cases near : IsNear a b n m
  · have coarse' : 7 * b ≤ 4 * a := by
      have scaled := mul_le_mul_of_nonneg_right coarse b_pos'.le
      have : (7 * b : ℚ) ≤ 4 * a := by nlinarith
      exact_mod_cast this
    obtain ⟨-, -, product⟩ := near.bounds border coarse' b_pos
    have small : (10 : ℚ) ^ k ≤ (greatestBorder + 1) * 2 ^ g := by
      have a_le : a ≤ (greatestBorder + 1) * b := (Nat.le_mul_of_pos_left a positive).trans product
      have a_le : (a : ℚ) ≤ (greatestBorder + 1) * b := by exact_mod_cast a_le
      have scaled := mul_le_mul_of_nonneg_right a_le two_pos.le
      refine le_of_mul_le_mul_right ?_ b_pos'
      linarith
    obtain ⟨i, tens, exponent, j, count, power⟩ := powers_bounds coarse small least greatest
    have settles := settled i tens j count
    rw [← exponent, ← power] at settles
    have here := settles least
    rw [fraction] at here
    rcases (here coarse').eq_or_exceptional positive border coarse' b_pos near with
      equal | exceptional
    · exact .inl equal
    · exact .inr (.inl exceptional)
  · right
    right
    have far : (n * a : ℚ) < readingParts * |(n * a : ℚ) - m * b| := by
      exact_mod_cast not_le.mp near
    have offset_eq : ((n : ℚ) * 10 ^ k - m * 2 ^ g) * b = (n * a - m * b) * 2 ^ g := by
      linear_combination (n : ℚ) * ratio
    have scaled : |(n : ℚ) * 10 ^ k - m * 2 ^ g| * b = |(n * a : ℚ) - m * b| * 2 ^ g := by
      rw [← abs_of_pos b_pos', ← abs_mul, abs_of_pos b_pos', offset_eq, abs_mul,
        abs_of_pos two_pos]
    refine lt_of_mul_lt_mul_right ?_ b_pos'.le
    calc (n : ℚ) * 10 ^ k * b = n * a * 2 ^ g := by rw [mul_assoc, ratio, mul_assoc]
      _ < readingParts * |(n * a : ℚ) - m * b| * 2 ^ g := mul_lt_mul_of_pos_right far two_pos
      _ = readingParts * |(n : ℚ) * 10 ^ k - m * 2 ^ g| * b := by
          rw [mul_assoc, mul_assoc, scaled]

end HexWorld
