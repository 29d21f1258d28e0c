import HexWorld.Decimal.Shortest
import Mathlib.Algebra.Order.Field.Power
import Mathlib.Data.Int.Log
import Mathlib.Data.Rat.Floor
import Mathlib.Tactic.Linarith
import Mathlib.Tactic.Positivity
import Mathlib.Tactic.FieldSimp
import Mathlib.Tactic.NormNum
import Mathlib.Tactic.Ring

/-!
# `Proofs.Decimal.Rounding` — rounding to the nearest binary number

A positive real is rounded in the place of its own binade: divided by the power of two of that
place it lies below `2 ^ precision`, and rounding the quotient to an integer moves it by a half at
most. Everything here follows from these two facts.

## Contents
- `twoPow_eq_zpow`, `tenPow_eq_zpow`, `binaryExponent_eq_log`, `decimalExponent_eq_log`: powers and
  exponents in the words of the library.
- `roundEven_eq`, `abs_sub_roundEven_le`: the nearest integer.
- `Format.place`, `nearest?_eq`: the place in which a real is rounded.
- `Magnitude.IsCanonical`: the one form of a number; `isCanonical_of_nearest?`.
- `nearest?_of_contains`: what lies around a number is rounded to it.
- `abs_toRat_sub_le`, `toRat_eq_of_representable`, `nearest?_eq_none_iff`: how far rounding moves a
  real, when it does not, and when the result is too great.
-/

namespace HexWorld

/-! ## Powers and exponents -/

theorem Magnitude.twoPow_eq_zpow (e : ℤ) : twoPow e = (2 : ℚ) ^ e := by
  unfold twoPow
  split
  next nonneg =>
    obtain ⟨n, rfl⟩ := Int.eq_ofNat_of_zero_le nonneg
    simp
  next negative =>
    obtain ⟨n, rfl⟩ : ∃ n : ℕ, e = -n := ⟨(-e).toNat, by omega⟩
    simp

theorem Decimal.tenPow_eq_zpow (e : ℤ) : tenPow e = (10 : ℚ) ^ e := by
  unfold tenPow
  split
  next nonneg =>
    obtain ⟨n, rfl⟩ := Int.eq_ofNat_of_zero_le nonneg
    simp
  next negative =>
    obtain ⟨n, rfl⟩ : ∃ n : ℕ, e = -n := ⟨(-e).toNat, by omega⟩
    simp

theorem Magnitude.toRat_eq (x : Magnitude) : x.toRat = x.significand * (2 : ℚ) ^ x.exponent := by
  rw [toRat, twoPow_eq_zpow]

theorem log_eq_of_between {b : ℕ} (base : 1 < b) {r : ℚ} (positive : 0 < r) {e : ℤ}
    (below : (b : ℚ) ^ e ≤ r) (above : r < (b : ℚ) ^ (e + 1)) : Int.log b r = e := by
  have lower := (Int.zpow_le_iff_le_log base positive).mp below
  have upper := (Int.lt_zpow_iff_log_lt base positive).mp above
  omega

/-- The exponent of a fraction is the difference of those of its parts, or one less. -/
theorem log_eq_guess {b : ℕ} (base : 1 < b) {r : ℚ} (positive : 0 < r) :
    Int.log b r =
      if (b : ℚ) ^ ((Nat.log b r.num.natAbs : ℤ) - Nat.log b r.den) ≤ r then
        (Nat.log b r.num.natAbs : ℤ) - Nat.log b r.den
      else (Nat.log b r.num.natAbs : ℤ) - Nat.log b r.den - 1 := by
  have num_pos : 0 < r.num.natAbs := Int.natAbs_pos.mpr (Rat.num_pos.mpr positive).ne'
  have base_pos : (0 : ℚ) < b := by exact_mod_cast base.le
  have parts : r * r.den = r.num.natAbs := by
    rw [Rat.mul_den_eq_num, ← Int.cast_natCast r.num.natAbs,
      Int.natAbs_of_nonneg (Rat.num_nonneg.mpr positive.le)]
  have den_pos : (0 : ℚ) < r.den := by exact_mod_cast r.den_pos
  have num_le : ((b ^ Nat.log b r.num.natAbs : ℕ) : ℚ) ≤ r.num.natAbs := by
    exact_mod_cast Nat.pow_log_le_self b num_pos.ne'
  have num_lt : (r.num.natAbs : ℚ) < (b ^ (Nat.log b r.num.natAbs + 1) : ℕ) := by
    exact_mod_cast Nat.lt_pow_succ_log_self base r.num.natAbs
  have den_le : ((b ^ Nat.log b r.den : ℕ) : ℚ) ≤ r.den := by
    exact_mod_cast Nat.pow_log_le_self b r.den_pos.ne'
  have den_lt : (r.den : ℚ) < (b ^ (Nat.log b r.den + 1) : ℕ) := by
    exact_mod_cast Nat.lt_pow_succ_log_self base r.den
  generalize Nat.log b r.num.natAbs = m at num_le num_lt ⊢
  generalize Nat.log b r.den = d at den_le den_lt ⊢
  push_cast at num_le num_lt den_le den_lt
  have above : r < (b : ℚ) ^ ((m : ℤ) - d + 1) := by
    have scaled : r * (b : ℚ) ^ d < (b : ℚ) ^ (m + 1) := by nlinarith
    rw [show (m : ℤ) - d + 1 = ((m + 1 : ℕ) : ℤ) - (d : ℕ) by push_cast; ring,
      zpow_sub₀ base_pos.ne', zpow_natCast, zpow_natCast, lt_div_iff₀ (by positivity)]
    exact scaled
  have below : (b : ℚ) ^ ((m : ℤ) - d - 1) ≤ r := by
    have scaled : (b : ℚ) ^ m ≤ r * (b : ℚ) ^ (d + 1) := by nlinarith
    rw [show (m : ℤ) - d - 1 = (m : ℤ) - ((d + 1 : ℕ) : ℤ) by push_cast; ring,
      zpow_sub₀ base_pos.ne', zpow_natCast, zpow_natCast, div_le_iff₀ (by positivity)]
    exact scaled
  split
  next reached => exact log_eq_of_between base positive reached above
  next missed =>
    refine log_eq_of_between base positive below ?_
    rw [sub_add_cancel]
    exact not_le.mp missed

theorem Format.binaryExponent_eq_log {r : ℚ} (positive : 0 < r) :
    binaryExponent r = Int.log 2 r := by
  rw [log_eq_guess (by decide) positive]
  simp only [binaryExponent, Magnitude.twoPow_eq_zpow, Nat.log2_eq_log_two]
  rfl

theorem Decimal.length_digitsOf (n : ℕ) : (digitsOf n).length = Nat.log 10 n + 1 := by
  rw [digitsOf, List.length_map]
  refine le_antisymm ?_ (Nat.lt_of_not_le fun short => ?_)
  · exact (Nat.length_toDigits_le_iff (by decide) (Nat.succ_pos _)).mpr
      (Nat.lt_pow_succ_log_self (by decide) n)
  · rcases Nat.eq_zero_or_pos (Nat.log 10 n) with none | some
    · rw [none, Nat.le_zero, List.length_eq_zero_iff] at short
      exact Nat.toDigits_ne_nil short
    · have small := (Nat.length_toDigits_le_iff (by decide) some).mp short
      have positive : n ≠ 0 := by
        rintro rfl
        exact absurd some (by decide)
      exact absurd (Nat.pow_log_le_self 10 positive) (not_le.mpr small)

theorem decimalExponent_eq_log {r : ℚ} (positive : 0 < r) : decimalExponent r = Int.log 10 r := by
  rw [log_eq_guess (by decide) positive]
  simp only [decimalExponent, Decimal.tenPow_eq_zpow, Decimal.length_digitsOf, Nat.cast_add,
    Nat.cast_one, add_sub_add_right_eq_sub]
  rfl

/-! ## The nearest integer -/

theorem abs_sub_roundEven_le (q : ℚ) : |q - roundEven q| ≤ 1 / 2 := by
  have below : (⌊q⌋ : ℚ) ≤ q := Int.floor_le q
  have above : q < ⌊q⌋ + 1 := Int.lt_floor_add_one q
  unfold roundEven
  show |q - ((if q - ⌊q⌋ < 1 / 2 then ⌊q⌋ else if 1 / 2 < q - ⌊q⌋ then ⌊q⌋ + 1 else
    if ⌊q⌋ % 2 = 0 then ⌊q⌋ else ⌊q⌋ + 1 : ℤ) : ℚ)| ≤ 1 / 2
  split
  · rw [abs_le]
    constructor <;> linarith
  split
  · rw [abs_le]
    push_cast
    constructor <;> linarith
  split
  · rw [abs_le]
    constructor <;> linarith
  · rw [abs_le]
    push_cast
    constructor <;> linarith

/-- **An integer is the rounded one** if it is near enough, and even if another is as near. -/
theorem roundEven_eq {q : ℚ} {n : ℤ} (near : |q - n| ≤ 1 / 2)
    (tie : |q - n| = 1 / 2 → n % 2 = 0) : roundEven q = n := by
  have below : (⌊q⌋ : ℚ) ≤ q := Int.floor_le q
  have above : q < ⌊q⌋ + 1 := Int.lt_floor_add_one q
  have bounds := abs_le.mp near
  have lower : ⌊q⌋ - 1 < n := by
    have : (⌊q⌋ : ℚ) - 1 < n := by linarith
    exact_mod_cast this
  have upper : n < ⌊q⌋ + 2 := by
    have : (n : ℚ) < ⌊q⌋ + 2 := by linarith
    exact_mod_cast this
  unfold roundEven
  show (if q - ⌊q⌋ < 1 / 2 then ⌊q⌋ else if 1 / 2 < q - ⌊q⌋ then ⌊q⌋ + 1 else
    if ⌊q⌋ % 2 = 0 then ⌊q⌋ else ⌊q⌋ + 1 : ℤ) = n
  obtain rfl | rfl : n = ⌊q⌋ ∨ n = ⌊q⌋ + 1 := by omega
  · rw [abs_of_nonneg (by linarith)] at tie
    by_cases half : q - ⌊q⌋ < 1 / 2
    · rw [if_pos half]
    · rw [if_neg half, if_neg (by linarith), if_pos (tie (by linarith))]
  · push_cast at tie bounds
    rw [abs_of_nonpos (by linarith)] at tie
    rw [if_neg (by linarith)]
    by_cases half : 1 / 2 < q - ⌊q⌋
    · rw [if_pos half]
    · have even := tie (by linarith)
      rw [if_neg half, if_neg (by omega)]

/-! ## The place of the last digit -/

namespace Format

variable {f : Format} {r : ℚ}

/-- The exponent of the place in which a positive real is rounded. -/
def place (f : Format) (r : ℚ) : ℤ :=
  max f.least (Int.log 2 r - (f.precision - 1 : ℕ))

theorem two_pow_precision (wide : 0 < f.precision) :
    (2 : ℚ) ^ f.precision = 2 * 2 ^ (f.precision - 1) := by
  rw [← pow_succ', Nat.sub_add_cancel wide]

theorem least_le_place (f : Format) (r : ℚ) : f.least ≤ f.place r :=
  le_max_left _ _

/-- A number of units of a place; a full binade of them is moved one place to the left. -/
def units (f : Format) (m : ℕ) (e : ℤ) : Magnitude :=
  if m = 2 ^ f.precision then ⟨2 ^ (f.precision - 1), e + 1⟩ else ⟨m, e⟩

/-- The number of units of its place that a real is rounded to. -/
def count (f : Format) (r : ℚ) : ℕ :=
  (roundEven (r / 2 ^ f.place r)).toNat

theorem nearest?_eq (positive : 0 < r) :
    f.nearest? r =
      if (f.units (f.count r) (f.place r)).exponent ≤ f.greatest then
        some (f.units (f.count r) (f.place r))
      else none := by
  rw [nearest?, if_neg positive.ne', binaryExponent_eq_log positive]
  simp only [Magnitude.twoPow_eq_zpow]
  rfl

theorem exponent_units (f : Format) (m : ℕ) (e : ℤ) :
    (f.units m e).exponent = if m = 2 ^ f.precision then e + 1 else e := by
  unfold units
  split <;> rfl

theorem toRat_units (wide : 0 < f.precision) (m : ℕ) (e : ℤ) :
    (f.units m e).toRat = m * (2 : ℚ) ^ e := by
  obtain ⟨p, precision⟩ : ∃ p, f.precision = p + 1 := ⟨f.precision - 1, by omega⟩
  unfold units
  split
  next full =>
    rw [Magnitude.toRat_eq, full, precision]
    push_cast
    rw [zpow_add₀ (by norm_num), pow_succ]
    ring
  next => rw [Magnitude.toRat_eq]

theorem lt_of_place (wide : 0 < f.precision) (r : ℚ) :
    r < 2 ^ f.precision * (2 : ℚ) ^ f.place r := by
  have least : Int.log 2 r - (f.precision - 1 : ℕ) ≤ f.place r := le_max_right _ _
  have above : r < (2 : ℚ) ^ (Int.log 2 r + 1) := by
    exact_mod_cast Int.lt_zpow_succ_log_self (b := 2) (by decide) r
  have wider : (2 : ℚ) ^ (Int.log 2 r + 1) ≤ 2 ^ ((f.precision : ℤ) + f.place r) :=
    zpow_le_zpow_right₀ (by norm_num) (by omega)
  rw [← zpow_natCast, ← zpow_add₀ (by norm_num)]
  exact above.trans_le wider

/-- Above the last place of all the significand is full. -/
theorem le_of_place (positive : 0 < r) (free : f.least < f.place r) :
    2 ^ (f.precision - 1) * (2 : ℚ) ^ f.place r ≤ r := by
  have own : f.place r = Int.log 2 r - (f.precision - 1 : ℕ) := by
    rw [place] at free ⊢
    omega
  have below : (2 : ℚ) ^ Int.log 2 r ≤ r := by
    exact_mod_cast Int.zpow_log_le_self (b := 2) (by decide) positive
  rw [own, ← zpow_natCast, ← zpow_add₀ (by norm_num), add_sub_cancel]
  exact below

theorem place_eq (wide : 0 < f.precision) (positive : 0 < r) {e : ℤ} (least : f.least ≤ e)
    (below : f.least < e → 2 ^ (f.precision - 1) * (2 : ℚ) ^ e ≤ r)
    (above : r < 2 ^ f.precision * (2 : ℚ) ^ e) : f.place r = e := by
  have upper : Int.log 2 r - (f.precision - 1 : ℕ) ≤ e := by
    rw [← zpow_natCast, ← zpow_add₀ (by norm_num)] at above
    have := (Int.lt_zpow_iff_log_lt (b := 2) (by decide) positive).mp (by exact_mod_cast above)
    omega
  rcases least.eq_or_lt with rfl | free
  · exact max_eq_left upper
  · have reached := below free
    rw [← zpow_natCast, ← zpow_add₀ (by norm_num)] at reached
    have := (Int.zpow_le_iff_le_log (b := 2) (by decide) positive).mp (by exact_mod_cast reached)
    rw [place]
    omega

theorem count_le (wide : 0 < f.precision) (r : ℚ) : f.count r ≤ 2 ^ f.precision := by
  have near := abs_le.mp (abs_sub_roundEven_le (r / 2 ^ f.place r))
  have unit_pos : (0 : ℚ) < 2 ^ f.place r := by positivity
  have small : r / 2 ^ f.place r < 2 ^ f.precision :=
    (div_lt_iff₀ unit_pos).mpr (lt_of_place wide r)
  have below : (roundEven (r / 2 ^ f.place r) : ℚ) < ((2 ^ f.precision + 1 : ℕ) : ℤ) := by
    push_cast
    linarith
  have := Int.cast_lt.mp below
  rw [count, Int.toNat_le]
  omega

theorem abs_count_sub_le (positive : 0 < r) :
    |(f.count r : ℚ) - r / 2 ^ f.place r| ≤ 1 / 2 := by
  have near := abs_le.mp (abs_sub_roundEven_le (r / 2 ^ f.place r))
  have unit_pos : (0 : ℚ) < 2 ^ f.place r := by positivity
  have quotient_pos : 0 < r / 2 ^ f.place r := div_pos positive unit_pos
  have nonneg : 0 ≤ roundEven (r / 2 ^ f.place r) := by
    have : ((-1 : ℤ) : ℚ) < roundEven (r / 2 ^ f.place r) := by
      push_cast
      linarith
    have := Int.cast_lt.mp this
    omega
  have value : (f.count r : ℚ) = roundEven (r / 2 ^ f.place r) := by
    exact_mod_cast congrArg (Int.cast (R := ℚ)) (Int.toNat_of_nonneg nonneg)
  rw [value, abs_le]
  constructor <;> linarith

theorem count_eq {n : ℕ} (near : |r / 2 ^ f.place r - n| ≤ 1 / 2)
    (tie : |r / 2 ^ f.place r - n| = 1 / 2 → n % 2 = 0) : f.count r = n := by
  have rounded : roundEven (r / 2 ^ f.place r) = (n : ℤ) :=
    roundEven_eq near fun half => by exact_mod_cast tie half
  rw [count, rounded, Int.toNat_natCast]

/-- A full binade is an even number of units. -/
theorem count_eq_full (wide : 0 < f.precision)
    (near : |r / 2 ^ f.place r - 2 ^ f.precision| ≤ 1 / 2) : f.count r = 2 ^ f.precision := by
  apply count_eq
  · rw [Nat.cast_pow, Nat.cast_ofNat]
    exact near
  · intro _
    obtain ⟨p, precision⟩ : ∃ p, f.precision = p + 1 := ⟨f.precision - 1, by omega⟩
    rw [precision, pow_succ, Nat.mul_mod_left]

/-- Rounding moves a real by half a unit of its place at most. -/
theorem abs_toRat_sub_le_place (wide : 0 < f.precision) (positive : 0 < r) {x : Magnitude}
    (h : f.nearest? r = some x) : |x.toRat - r| ≤ 2 ^ f.place r / 2 := by
  have unit_pos : (0 : ℚ) < 2 ^ f.place r := by positivity
  rw [nearest?_eq positive] at h
  split at h
  next =>
    cases h
    have near := abs_count_sub_le (f := f) positive
    have scaled : (f.count r : ℚ) * 2 ^ f.place r - r =
        (f.count r - r / 2 ^ f.place r) * 2 ^ f.place r := by
      rw [sub_mul, div_mul_cancel₀ _ unit_pos.ne']
    rw [toRat_units wide, scaled, abs_mul, abs_of_pos unit_pos]
    nlinarith
  next => cases h

/-- **The relative error** is half a unit of the last place, unless the real is below all full
significands. -/
theorem abs_toRat_sub_le (wide : 0 < f.precision) {x : Magnitude} (h : f.nearest? r = some x)
    (normal : 2 ^ (f.precision - 1) * (2 : ℚ) ^ f.least ≤ r) :
    |x.toRat - r| ≤ r / 2 ^ f.precision := by
  have positive : 0 < r := lt_of_lt_of_le (by positivity) normal
  have full : 2 ^ (f.precision - 1) * (2 : ℚ) ^ f.place r ≤ r := by
    rcases (f.least_le_place r).eq_or_lt with last | free
    · rw [← last]
      exact normal
    · exact le_of_place positive free
  obtain ⟨p, precision⟩ : ∃ p, f.precision = p + 1 := ⟨f.precision - 1, by omega⟩
  refine (abs_toRat_sub_le_place wide positive h).trans ?_
  rw [precision, Nat.add_sub_cancel] at full
  rw [precision, pow_succ, div_le_div_iff₀ (by norm_num) (by positivity)]
  linarith

/-- **A number of the format is not moved.** -/
theorem toRat_eq_of_representable (wide : 0 < f.precision) {m : ℕ} {e : ℤ}
    (narrow : m < 2 ^ f.precision) (least : f.least ≤ e) (positive : 0 < m) {x : Magnitude}
    (h : f.nearest? (m * (2 : ℚ) ^ e) = some x) : x.toRat = m * (2 : ℚ) ^ e := by
  have value_pos : 0 < (m : ℚ) * 2 ^ e := by
    have : (0 : ℚ) < m := by exact_mod_cast positive
    positivity
  have small : (m : ℚ) * 2 ^ e < 2 ^ f.precision * 2 ^ e := by
    have : (m : ℚ) < 2 ^ f.precision := by exact_mod_cast narrow
    exact mul_lt_mul_of_pos_right this (by positivity)
  have place_le : f.place (m * (2 : ℚ) ^ e) ≤ e := by
    rw [← zpow_natCast, ← zpow_add₀ (by norm_num)] at small
    have := (Int.lt_zpow_iff_log_lt (b := 2) (by decide) value_pos).mp (by exact_mod_cast small)
    rw [place, max_le_iff]
    omega
  obtain ⟨k, rest⟩ : ∃ k : ℕ, e = f.place (m * (2 : ℚ) ^ e) + k :=
    ⟨(e - f.place (m * (2 : ℚ) ^ e)).toNat, by omega⟩
  have whole : m * (2 : ℚ) ^ e / 2 ^ f.place (m * (2 : ℚ) ^ e) = (m * 2 ^ k : ℕ) := by
    rw [div_eq_iff (by positivity)]
    push_cast
    rw [mul_assoc, ← zpow_natCast, ← zpow_add₀ (by norm_num), add_comm (k : ℤ), ← rest]
  have counted : f.count (m * (2 : ℚ) ^ e) = m * 2 ^ k := by
    refine count_eq ?_ fun tie => ?_
    · rw [whole, sub_self, abs_zero]
      norm_num
    · rw [whole, sub_self, abs_zero] at tie
      norm_num at tie
  rw [nearest?_eq value_pos] at h
  split at h
  next =>
    cases h
    rw [toRat_units wide, counted, ← whole, div_mul_cancel₀ _ (by positivity)]
  next => cases h

end Format

/-! ## The form of a number -/

/-- The form that rounding gives a number: its exponent is in the range, its significand has no
more digits than there is room for, and all of them unless the exponent is the least. -/
structure Magnitude.IsCanonical (f : Format) (x : Magnitude) : Prop where
  narrow : x.significand < 2 ^ f.precision
  least : f.least ≤ x.exponent
  greatest : x.exponent ≤ f.greatest
  full : f.least < x.exponent → 2 ^ (f.precision - 1) ≤ x.significand

namespace Format

variable {f : Format} {r : ℚ} {x : Magnitude}

theorem isCanonical_of_nearest? (wide : 0 < f.precision) (range : f.least ≤ f.greatest)
    (nonneg : 0 ≤ r) (h : f.nearest? r = some x) : x.IsCanonical f := by
  have room : 2 ^ (f.precision - 1) < 2 ^ f.precision :=
    Nat.pow_lt_pow_right (by decide) (by omega)
  rcases nonneg.eq_or_lt with rfl | positive
  · rw [nearest?, if_pos rfl] at h
    cases h
    exact ⟨Nat.two_pow_pos _, le_rfl, range, fun free => absurd free (lt_irrefl _)⟩
  rw [nearest?_eq positive] at h
  split at h
  next fits =>
    cases h
    have least := f.least_le_place r
    unfold units at fits ⊢
    split
    next filled =>
      rw [if_pos filled] at fits
      exact ⟨room, by show f.least ≤ f.place r + 1; omega, fits, fun _ => le_rfl⟩
    next short =>
      rw [if_neg short] at fits
      refine ⟨lt_of_le_of_ne (count_le wide r) short, least, fits, fun free => ?_⟩
      -- The quotient is at least half of a full place, which is an integer.
      have half := le_of_place positive free
      have unit_pos : (0 : ℚ) < 2 ^ f.place r := by positivity
      rw [← le_div_iff₀ unit_pos] at half
      have near := abs_le.mp (abs_count_sub_le (f := f) positive)
      have above : ((2 ^ (f.precision - 1) : ℕ) : ℚ) < (f.count r + 1 : ℕ) := by
        push_cast
        linarith
      exact Nat.lt_succ_iff.mp (Nat.cast_lt.mp above)
  next => cases h

end Format

/-! ## What rounds to a number -/

theorem Interval.contains_iff {i : Interval} {r : ℚ} :
    i.contains r = true ↔
      i.lower ≤ r ∧ r ≤ i.upper ∧ (r = i.lower ∨ r = i.upper → i.closed = true) := by
  unfold contains
  cases i.closed with
  | true => simp
  | false =>
      simp only [Bool.false_eq_true, if_false, Bool.and_eq_true, decide_eq_true_eq, imp_false,
        not_or, lt_iff_le_and_ne]
      constructor
      · rintro ⟨⟨lower, apart⟩, upper, apart'⟩
        exact ⟨lower, upper, apart.symm, apart'⟩
      · rintro ⟨lower, upper, apart, apart'⟩
        exact ⟨⟨lower, Ne.symm apart⟩, upper, apart'⟩

namespace Format

variable {f : Format} {r : ℚ} {x : Magnitude}

/-- The number is a power of two with a neighbour in the binade below, where units are half as
large. -/
def IsLeading (f : Format) (x : Magnitude) : Prop :=
  x.significand = 2 ^ (f.precision - 1) ∧ f.least < x.exponent

instance (f : Format) (x : Magnitude) : Decidable (f.IsLeading x) :=
  inferInstanceAs (Decidable (_ ∧ _))

/-- How far below a number the reals reach that round to it. -/
def gap (f : Format) (x : Magnitude) : ℚ :=
  2 ^ x.exponent / if f.IsLeading x then 4 else 2

theorem lower_around (f : Format) (x : Magnitude) :
    (Interval.around f x).lower = x.toRat - f.gap x := by
  unfold Interval.around gap
  simp only [Magnitude.twoPow_eq_zpow]
  rfl

theorem upper_around (f : Format) (x : Magnitude) :
    (Interval.around f x).upper = x.toRat + 2 ^ x.exponent / 2 := by
  unfold Interval.around
  simp only [Magnitude.twoPow_eq_zpow]

theorem closed_around (f : Format) (x : Magnitude) :
    (Interval.around f x).closed = true ↔ x.significand % 2 = 0 :=
  decide_eq_true_iff

theorem gap_pos (f : Format) (x : Magnitude) : 0 < f.gap x := by
  unfold gap
  split <;> positivity

theorem gap_le (f : Format) (x : Magnitude) : f.gap x ≤ 2 ^ x.exponent / 2 := by
  have unit_pos : (0 : ℚ) < 2 ^ x.exponent := by positivity
  unfold gap
  split <;> linarith

/-- A real that is rounded in the place of the number. -/
theorem nearest?_of_inside (canonical : x.IsCanonical f) (positive : 0 < r)
    (h : (Interval.around f x).contains r = true) (place : f.place r = x.exponent) :
    f.nearest? r = some x := by
  obtain ⟨lower, upper, ends⟩ := Interval.contains_iff.mp h
  rw [closed_around] at ends
  rw [lower_around] at lower ends
  rw [upper_around] at upper ends
  have value := x.toRat_eq
  have unit_pos : (0 : ℚ) < 2 ^ x.exponent := by positivity
  have near := f.gap_le x
  have counted : f.count r = x.significand := by
    apply count_eq
    · rw [place, abs_le, le_sub_iff_add_le, sub_le_iff_le_add, le_div_iff₀ unit_pos,
        div_le_iff₀ unit_pos]
      constructor <;> linarith
    · intro tie
      apply ends
      rw [place] at tie
      rcases abs_eq (by norm_num : (0 : ℚ) ≤ 1 / 2) |>.mp tie with up | down
      · rw [sub_eq_iff_eq_add, div_eq_iff unit_pos.ne'] at up
        right
        linarith
      · rw [sub_eq_iff_eq_add, div_eq_iff unit_pos.ne'] at down
        left
        linarith
  rw [nearest?_eq positive, counted, place, units, if_neg canonical.narrow.ne,
    if_pos canonical.greatest]

/-- A real below a power of two is rounded in the place below, to a full binade. -/
theorem nearest?_of_below (wide : 0 < f.precision) (canonical : x.IsCanonical f)
    (positive : 0 < r) (h : (Interval.around f x).contains r = true) (free : f.least < x.exponent)
    (short : r < 2 ^ (f.precision - 1) * (2 : ℚ) ^ x.exponent) : f.nearest? r = some x := by
  obtain ⟨lower, -, -⟩ := Interval.contains_iff.mp h
  rw [lower_around] at lower
  have value := x.toRat_eq
  have unit_pos : (0 : ℚ) < 2 ^ x.exponent := by positivity
  have leading : f.IsLeading x := by
    refine ⟨?_, free⟩
    by_contra other
    have next : (2 : ℚ) ^ (f.precision - 1) + 1 ≤ x.significand := by
      exact_mod_cast Nat.lt_of_le_of_ne (canonical.full free) (Ne.symm other)
    have near := f.gap_le x
    nlinarith
  have significand : (x.significand : ℚ) = 2 ^ (f.precision - 1) := by
    exact_mod_cast leading.1
  have half : (2 : ℚ) ^ (x.exponent - 1) = 2 ^ x.exponent / 2 := by
    rw [zpow_sub_one₀ (by norm_num), div_eq_mul_inv]
  have half_pos : (0 : ℚ) < 2 ^ x.exponent / 2 := by positivity
  have one_le : (1 : ℚ) ≤ 2 ^ (f.precision - 1) := one_le_pow₀ (by norm_num)
  rw [value, significand, gap, if_pos leading] at lower
  have place : f.place r = x.exponent - 1 := by
    refine place_eq wide positive (by omega) (fun _ => ?_) ?_
    · rw [half]
      nlinarith
    · rw [half, two_pow_precision wide]
      linarith
  have counted : f.count r = 2 ^ f.precision := by
    apply count_eq_full wide
    rw [place, half, two_pow_precision wide, abs_le, le_sub_iff_add_le, sub_le_iff_le_add,
      le_div_iff₀ half_pos, div_le_iff₀ half_pos]
    constructor <;> linarith
  rw [nearest?_eq positive, counted, place, units, if_pos rfl, sub_add_cancel,
    if_pos canonical.greatest, ← leading.1]

/-- **What lies around a number is rounded to it.** -/
theorem nearest?_of_contains (wide : 0 < f.precision) (canonical : x.IsCanonical f)
    (positive : 0 < r) (h : (Interval.around f x).contains r = true) :
    f.nearest? r = some x := by
  by_cases inside : f.least < x.exponent → 2 ^ (f.precision - 1) * (2 : ℚ) ^ x.exponent ≤ r
  · have upper := (Interval.contains_iff.mp h).2.1
    rw [upper_around, x.toRat_eq] at upper
    have unit_pos : (0 : ℚ) < 2 ^ x.exponent := by positivity
    have narrow : (x.significand : ℚ) + 1 ≤ 2 ^ f.precision := by
      exact_mod_cast canonical.narrow
    have above : r < 2 ^ f.precision * (2 : ℚ) ^ x.exponent := by nlinarith
    exact nearest?_of_inside canonical positive h
      (place_eq wide positive canonical.least inside above)
  · obtain ⟨free, short⟩ := Classical.not_imp.mp inside
    exact nearest?_of_below wide canonical positive h free (not_le.mp short)

/-- **A real is too great** from half a unit above the greatest number. -/
theorem nearest?_eq_none_iff (wide : 0 < f.precision) (range : f.least ≤ f.greatest)
    (positive : 0 < r) :
    f.nearest? r = none ↔ (2 ^ f.precision - 1 / 2) * (2 : ℚ) ^ f.greatest ≤ r := by
  have double := two_pow_precision wide
  have one_le : (1 : ℚ) ≤ 2 ^ (f.precision - 1) := one_le_pow₀ (by norm_num)
  have unit_pos : (0 : ℚ) < 2 ^ f.greatest := by positivity
  have double_unit : (2 : ℚ) ^ (f.greatest + 1) = 2 * 2 ^ f.greatest := by
    rw [zpow_add_one₀ (by norm_num), mul_comm]
  rw [nearest?_eq positive, exponent_units, ite_eq_right_iff, imp_iff_not (by simp), not_le]
  constructor
  · intro high
    by_contra small
    rw [not_le] at small
    have place_le : f.place r ≤ f.greatest := by
      by_contra high
      have full := le_of_place positive (range.trans_lt (not_le.mp high))
      have greater : (2 : ℚ) ^ (f.greatest + 1) ≤ 2 ^ f.place r :=
        zpow_le_zpow_right₀ (by norm_num) (by omega)
      nlinarith
    have near := abs_le.mp (abs_count_sub_le (f := f) positive)
    split at high
    next filled =>
      have place : f.place r = f.greatest := by omega
      rw [filled, place, Nat.cast_pow, Nat.cast_ofNat, sub_le_iff_le_add, ← sub_le_iff_le_add',
        le_div_iff₀ unit_pos] at near
      linarith
    next => exact absurd high (not_lt.mpr place_le)
  · intro great
    have le_place : f.greatest ≤ f.place r := by
      by_contra low
      have small := lt_of_place wide r
      have less : (2 : ℚ) ^ (f.place r + 1) ≤ 2 ^ f.greatest :=
        zpow_le_zpow_right₀ (by norm_num) (by omega)
      rw [zpow_add_one₀ (by norm_num)] at less
      nlinarith
    rcases le_place.eq_or_lt with place | high
    · have counted : f.count r = 2 ^ f.precision := by
        have small := lt_of_place wide r
        apply count_eq_full wide
        rw [← place] at small ⊢
        rw [abs_le, le_sub_iff_add_le, sub_le_iff_le_add, le_div_iff₀ unit_pos,
          div_le_iff₀ unit_pos]
        constructor <;> linarith
      rw [if_pos counted]
      omega
    · split
      · omega
      · exact high

end Format

end HexWorld
