import HexWorld.Json.Value
import HexWorld.Proofs.Decimal.Reading

/-!
# `Proofs.Decimal.Single` — numbers of 32 bits survive being written and read

The shortest decimal of a number is read by way of 64 bits, so it is rounded twice. The first
rounding moves it a little, and the second goes back to the number unless that little has carried
the decimal over a border.

## Contents
- `exists_borders`: the borders next to a number as multiples of the gap below it.
- `contains_of_read`: what is read stays between the borders.
- `single?_write`: a finite number is read back.
- `Binary.IsFinite`, `Binary.IsRegular`, with `isFinite_convert_double` and `isRegular_of_single?`:
  what is read at all.
- `Number.FitsSingle`, `isFinite_of_single?_iff`: where narrowing overflows.
-/

namespace HexWorld

theorem Format.precision_single : single.precision = 24 := rfl

theorem Format.greatest_single : single.greatest = 104 := rfl

/-! ## Borders -/

/-- The borders next to a number are multiples of the gap below it. -/
theorem exists_borders {x : Magnitude} (canonical : x.IsCanonical .single)
    (positive : 0 < x.significand) :
    ∃ (g : ℤ) (low high : ℕ), Format.single.gap x = 2 ^ g ∧ -150 ≤ g ∧ g ≤ 103 ∧
      (Interval.around .single x).lower = low * 2 ^ g ∧ low ≤ greatestBorder ∧
      (Interval.around .single x).upper = high * 2 ^ g ∧ high ≤ greatestBorder := by
  obtain ⟨narrow, least, greatest, -⟩ := canonical
  have narrow : x.significand < 2 ^ 24 := narrow
  have least : -149 ≤ x.exponent := least
  have greatest : x.exponent ≤ 104 := greatest
  have half (e : ℤ) : (2 : ℚ) ^ e = 2 * 2 ^ (e - 1) := by
    rw [zpow_sub_one₀ (by norm_num), mul_left_comm, mul_inv_cancel₀ (by norm_num), mul_one]
  rw [Format.lower_around, Format.upper_around, x.toRat_eq]
  unfold greatestBorder
  by_cases leading : Format.single.IsLeading x
  · have gap : Format.single.gap x = 2 ^ (x.exponent - 1 - 1) := by
      rw [Format.gap, if_pos leading, half, half (x.exponent - 1)]
      ring
    obtain ⟨significand, above⟩ := leading
    have significand : x.significand = 2 ^ 23 := significand
    have above : -149 < x.exponent := above
    refine ⟨x.exponent - 1 - 1, 2 ^ 25 - 1, 2 ^ 25 + 2, gap, by omega, by omega, ?_, by decide, ?_,
      by decide⟩
    · rw [gap, significand, half, half (x.exponent - 1)]
      norm_num
      ring
    · rw [significand, half, half (x.exponent - 1)]
      norm_num
      ring
  · have gap : Format.single.gap x = 2 ^ (x.exponent - 1) := by
      rw [Format.gap, if_neg leading, half]
      ring
    refine ⟨x.exponent - 1, 2 * x.significand - 1, 2 * x.significand + 1, gap, by omega, by omega,
      ?_, by omega, ?_, by omega⟩
    · rw [gap, half, Nat.cast_sub (by omega)]
      push_cast
      ring
    · rw [half]
      push_cast
      ring

/-- What is well above a border is read above it. -/
theorem lt_of_apart {d b y : ℚ} (close : readingParts * |y - d| ≤ d)
    (apart : d < readingParts * |d - b|) (above : b < d) : b < y := by
  rw [abs_of_pos (sub_pos.mpr above)] at apart
  have parts_pos : (0 : ℚ) < readingParts := by norm_num [readingParts]
  have near := lt_of_mul_lt_mul_left (close.trans_lt apart) parts_pos.le
  linarith [(abs_lt.mp near).1]

/-- What is well below a border is read below it. -/
theorem gt_of_apart {d b y : ℚ} (close : readingParts * |y - d| ≤ d)
    (apart : d < readingParts * |d - b|) (below : d < b) : y < b := by
  rw [abs_sub_comm, abs_of_pos (sub_pos.mpr below)] at apart
  have parts_pos : (0 : ℚ) < readingParts := by norm_num [readingParts]
  have near := lt_of_mul_lt_mul_left (close.trans_lt apart) parts_pos.le
  linarith [(abs_lt.mp near).2]

/-- On a fine grid the margin is much larger than what reading is off by. -/
theorem contains_of_fine {x : Magnitude} {n : ℕ} {k : ℤ} {y : ℚ} (canonical : x.IsCanonical .single)
    (h : Approximates .single x n k) (close : readingParts * |y - n * 10 ^ k| ≤ n * 10 ^ k)
    (fine : 10 ^ k < 7 / 4 * Format.single.gap x) :
    (Interval.around .single x).contains y = true := by
  apply reaches_around
  have gap_pos := Format.single.gap_pos x
  have margin := h.margin fine
  have gaps := toRat_le_gaps (f := .single) (by decide) canonical.narrow
  rw [Format.precision_single] at gaps
  generalize (n : ℚ) * 10 ^ k = d at close margin
  generalize Format.single.gap x = gap at gap_pos margin gaps ⊢
  obtain ⟨-, d_le⟩ := abs_lt.mp margin
  have triangle := abs_sub_le y d x.toRat
  unfold readingParts at close
  norm_num at close gaps
  linarith

/-- On a coarse grid the decimal is on a border, or well away from both. -/
theorem contains_of_coarse {x : Magnitude} {n : ℕ} {k : ℤ} {y : ℚ}
    (canonical : x.IsCanonical .single) (positive : 0 < x.significand)
    (h : Approximates .single x n k) (ordinary : ¬IsExceptional n k)
    (close : readingParts * |y - n * 10 ^ k| ≤ n * 10 ^ k)
    (exact : ∀ (m : ℕ) (g : ℤ), m < 2 ^ 53 → -1074 ≤ g → (n : ℚ) * 10 ^ k = m * 2 ^ g →
      y = n * 10 ^ k) (coarse : 7 / 4 * Format.single.gap x ≤ 10 ^ k) :
    (Interval.around .single x).contains y = true := by
  obtain ⟨g, low, high, gap, least, greatest, lower, low_le, upper, high_le⟩ :=
    exists_borders canonical positive
  rw [gap] at coarse
  have around := h.around
  -- A border is a number of 64 bits.
  have on_border {m : ℕ} (border : m ≤ greatestBorder) (equal : (n : ℚ) * 10 ^ k = m * 2 ^ g) :
      (Interval.around .single x).contains y = true := by
    unfold greatestBorder at border
    rw [exact m g (by omega) (by omega) equal]
    exact around
  obtain ⟨lower_le, le_upper, -⟩ := Interval.contains_iff.mp around
  rw [lower] at lower_le
  rw [upper] at le_upper
  rcases eq_or_apart h.positive low_le least greatest coarse with equal | exceptional | apart_low
  · exact on_border low_le equal
  · exact absurd exceptional ordinary
  rcases eq_or_apart h.positive high_le least greatest coarse with equal | exceptional | apart_high
  · exact on_border high_le equal
  · exact absurd exceptional ordinary
  rcases lower_le.eq_or_lt with equal | above
  · exact on_border low_le equal.symm
  rcases le_upper.eq_or_lt with equal | below
  · exact on_border high_le equal
  have read_above := lt_of_apart close apart_low above
  have read_below := gt_of_apart close apart_high below
  rw [Interval.contains_iff, lower, upper]
  refine ⟨read_above.le, read_below.le, ?_⟩
  rintro (equal | equal)
  · exact absurd equal read_above.ne'
  · exact absurd equal read_below.ne

/-- **What is read stays between the borders.** -/
theorem contains_of_read {x : Magnitude} {n : ℕ} {k : ℤ} {y : ℚ}
    (canonical : x.IsCanonical .single) (positive : 0 < x.significand)
    (h : Approximates .single x n k) (ordinary : ¬IsExceptional n k)
    (close : readingParts * |y - n * 10 ^ k| ≤ n * 10 ^ k)
    (exact : ∀ (m : ℕ) (g : ℤ), m < 2 ^ 53 → -1074 ≤ g → (n : ℚ) * 10 ^ k = m * 2 ^ g →
      y = n * 10 ^ k) :
    (Interval.around .single x).contains y = true := by
  rcases lt_or_ge (10 ^ k) (7 / 4 * Format.single.gap x) with fine | coarse
  · exact contains_of_fine canonical h close fine
  · exact contains_of_coarse canonical positive h ordinary close exact coarse

/-! ## The decimal that is written -/

theorem toRat_bounds {x : Magnitude} (canonical : x.IsCanonical .single)
    (positive : 0 < x.significand) :
    (2 : ℚ) ^ (-149 : ℤ) ≤ x.toRat ∧ x.toRat ≤ 2 ^ (128 : ℤ) := by
  have one_le : (1 : ℚ) ≤ x.significand := by exact_mod_cast positive
  have narrow : (x.significand : ℚ) ≤ 2 ^ 24 := by exact_mod_cast canonical.narrow.le
  have least : (2 : ℚ) ^ (-149 : ℤ) ≤ 2 ^ x.exponent :=
    zpow_le_zpow_right₀ (by norm_num) canonical.least
  have greatest : (2 : ℚ) ^ x.exponent ≤ 2 ^ (104 : ℤ) :=
    zpow_le_zpow_right₀ (by norm_num) canonical.greatest
  have unit_pos : (0 : ℚ) < 2 ^ x.exponent := by positivity
  have top : (2 : ℚ) ^ (128 : ℤ) = 2 ^ 24 * 2 ^ (104 : ℤ) := by norm_num
  rw [x.toRat_eq, top]
  constructor <;> nlinarith

theorem decimal_bounds {x : Magnitude} {n : ℕ} {k : ℤ} (canonical : x.IsCanonical .single)
    (positive : 0 < x.significand) (h : Approximates .single x n k)
    (lower : Int.log 10 x.toRat ≤ k + 8) (upper : k ≤ Int.log 10 x.toRat) :
    -53 ≤ k ∧ k ≤ 38 ∧ Nat.log 10 n ≤ 9 := by
  obtain ⟨least, greatest⟩ := toRat_bounds canonical positive
  have x_pos : 0 < x.toRat := lt_of_lt_of_le (by positivity) least
  have least : (10 : ℚ) ^ (-45 : ℤ) ≤ x.toRat := le_trans (by norm_num) least
  have greatest : x.toRat < 10 ^ (39 : ℤ) := lt_of_le_of_lt greatest (by norm_num)
  have low : -45 ≤ Int.log 10 x.toRat := by
    apply (Int.zpow_le_iff_le_log (by decide) x_pos).mp
    rw [Nat.cast_ofNat]
    exact least
  have high : Int.log 10 x.toRat < 39 := by
    apply (Int.lt_zpow_iff_log_lt (by decide) x_pos).mp
    rw [Nat.cast_ofNat]
    exact greatest
  refine ⟨by omega, by omega, ?_⟩
  have below : x.toRat < (10 : ℚ) ^ (Int.log 10 x.toRat + 1) := by
    exact_mod_cast Int.lt_zpow_succ_log_self (b := 10) (by decide) x.toRat
  have step : (10 : ℚ) ^ (Int.log 10 x.toRat + 1) ≤ 10 ^ (k + 9) :=
    zpow_le_zpow_right₀ (by norm_num) (by omega)
  have around := (Interval.contains_iff.mp h.around).2.1
  have one_le : (1 : ℚ) ≤ x.significand := by exact_mod_cast positive
  have unit_pos : (0 : ℚ) < 2 ^ x.exponent := by positivity
  have unit_le : (2 : ℚ) ^ x.exponent ≤ x.toRat := by
    rw [x.toRat_eq]
    exact le_mul_of_one_le_left unit_pos.le one_le
  rw [Format.upper_around] at around
  have step_pos : (0 : ℚ) < 10 ^ k := by positivity
  have few : (n : ℚ) < 10 ^ 10 := by
    rw [zpow_add₀ (by norm_num) k] at step
    refine lt_of_mul_lt_mul_right ?_ step_pos.le
    norm_num at step ⊢
    linarith
  have few : n < 10 ^ 10 := by exact_mod_cast few
  exact Nat.lt_succ_iff.mp (Nat.log_lt_of_lt_pow h.positive.ne' few)

section Written

open Double Decimal

/-- A positive number with few digits and small exponents that cannot be taken for an integer. -/
structure IsReadable (w : Written) : Prop where
  positive : 0 < w.significand.value
  narrow : w.significand.value < 2 ^ 53
  least : -70 ≤ w.significand.exponent
  greatest : w.significand.exponent ≤ 70
  mark : (w.exponent.getD 0).natAbs ≤ 70
  proper : ∀ e ∈ w.fraction, e < 10
  broken : w.fraction ≠ [] ∨ w.exponent ≠ none

theorem toRat_write {n : ℕ} {k : ℤ} (positive : 0 < n) :
    ((ofScaled n k).write .single).significand.toRat = n * 10 ^ k := by
  obtain ⟨-, -, -, -, some_digit, proper⟩ := exists_ofScaled_eq positive k
  rw [(isWrittenAs_write some_digit proper).value, toRat_ofScaled positive]

theorem isReadable_write {n : ℕ} {k : ℤ} (positive : 0 < n) (least : -53 ≤ k) (greatest : k ≤ 38)
    (few : Nat.log 10 n ≤ 9) : IsReadable ((ofScaled n k).write .single) := by
  obtain ⟨z, -, exponent, length, some_digit, proper⟩ := exists_ofScaled_eq positive k
  have value := toRat_write (k := k) positive
  obtain ⟨-, narrow, scale, mark, proper', broken⟩ := isWrittenAs_write some_digit proper
  have scale_eq : (ofScaled n k).scale = k + z := by
    rw [Decimal.scale, exponent]
    ring
  rw [scale_eq] at scale
  refine ⟨?_, ?_, ?_, ?_, ?_, proper', broken⟩
  · by_contra zero
    have n_pos : (0 : ℚ) < n := by exact_mod_cast positive
    rw [Significand.toRat, Nat.eq_zero_of_not_pos zero, Nat.cast_zero, zero_mul] at value
    exact absurd value (by positivity)
  · calc _ < 10 ^ max (ofScaled n k).digits.length 14 := narrow
      _ ≤ 10 ^ 14 := Nat.pow_le_pow_right (by decide) (by omega)
      _ < 2 ^ 53 := by norm_num
  · rcases scale with scale | scale <;> omega
  · rcases scale with scale | scale <;> omega
  · rcases mark with mark | mark
    · rw [mark]
      decide
    · rw [mark, Option.getD_some]
      omega

/-- The exception is read as the same number as its decimal. -/
theorem read_exceptional :
    ((scale? ((ofScaled 7038531 (-32)).write .single).significand).bind fun y =>
      Format.single.nearest? y.toRat) = Format.single.nearest? (7038531 * tenPow (-32)) := by
  decide +kernel

/-- What is read for a positive decimal is positive. -/
theorem pos_of_close {d y : ℚ} (positive : 0 < d) (close : readingParts * |y - d| ≤ d) : 0 < y := by
  by_contra nonpos
  rw [abs_of_nonpos (by linarith)] at close
  have parts : (1 : ℚ) < readingParts := by norm_num [readingParts]
  nlinarith

/-- **What is read for the shortest decimal** is rounded to the number. -/
theorem exists_scale?_shortest {x : Magnitude} (canonical : x.IsCanonical .single)
    (positive : 0 < x.significand) :
    IsReadable ((shortest .single x).write .single) ∧
      ∃ y, scale? ((shortest .single x).write .single).significand = some y ∧
        Format.single.nearest? y.toRat = some x := by
  obtain ⟨n, k, approximates, found, upper, lower⟩ :=
    exists_shortest_eq (by decide) canonical.narrow positive (j := 8) (by decide) (by decide)
  obtain ⟨least, greatest, few⟩ := decimal_bounds canonical positive approximates lower upper
  have readable := isReadable_write approximates.positive least greatest few
  have value := toRat_write (k := k) approximates.positive
  have n_pos : (0 : ℚ) < n := by exact_mod_cast approximates.positive
  rw [found]
  refine ⟨readable, ?_⟩
  by_cases exceptional : IsExceptional n k
  · obtain ⟨rfl, rfl⟩ := exceptional
    have rounded : Format.single.nearest? (7038531 * tenPow (-32)) = some x := by
      rw [tenPow_eq_zpow]
      exact Format.nearest?_of_contains (by decide) canonical (by positivity) approximates.around
    exact Option.bind_eq_some_iff.mp (read_exceptional.trans rounded)
  · obtain ⟨y, read, close, exact⟩ :=
      exists_scale? readable.positive readable.narrow readable.least readable.greatest
    rw [value] at close exact
    have inside := contains_of_read canonical positive approximates exceptional close exact
    exact ⟨y, read, Format.nearest?_of_contains (by decide) canonical
      (pos_of_close (by positivity) close) inside⟩

end Written

/-- Zero has one form. -/
theorem eq_zero_of_canonical {x : Magnitude} (canonical : x.IsCanonical .single)
    (zero : x.significand = 0) : x = ⟨0, -149⟩ := by
  have least : -149 ≤ x.exponent := canonical.least
  have not_above : ¬-149 < x.exponent := by
    intro above
    have full : 2 ^ 23 ≤ x.significand := canonical.full above
    omega
  obtain ⟨significand, exponent⟩ := x
  dsimp only at zero least not_above
  rw [zero, le_antisymm (not_lt.mp not_above) least]

open Json

/-- What has a fraction or an exponent is read by way of 64 bits. -/
theorem double?_of_isReadable {w : Written} (readable : IsReadable w) (negative : Bool) :
    Number.int? ⟨w, negative⟩ = none ∧
      Number.double? ⟨w, negative⟩ = (Double.scale? w.significand).map (.finite negative) := by
  have integral : Number.isIntegral ⟨w, negative⟩ = false := by
    unfold Number.isIntegral
    rcases readable.broken with fraction | exponent
    · simp [fraction]
    · simp [Option.isNone_eq_false_iff, Option.isSome_iff_ne_none, exponent]
  have no_integer : Number.int? ⟨w, negative⟩ = none := by
    rw [Number.int?, integral]
    rfl
  refine ⟨no_integer, ?_⟩
  obtain ⟨-, narrow, least, greatest, mark, -, -⟩ := readable
  have fits : w.significand.value < UInt64.size := narrow.trans (by decide)
  rw [Number.double?, no_integer]
  exact Written.ofParts?_eq (w := w) negative fits (mark.trans (by decide))
    (le_trans (by decide) least) (greatest.trans (by decide))

/-- **A finite number of 32 bits is read back** from its shortest decimal. -/
theorem single?_write {x : Magnitude} (canonical : x.IsCanonical .single) (negative : Bool) :
    Number.single? ⟨(shortest .single x).write .single, negative⟩ = some (.finite negative x) := by
  rcases Nat.eq_zero_or_pos x.significand with zero | positive
  · rw [eq_zero_of_canonical canonical zero]
    cases negative <;> decide +kernel
  · obtain ⟨readable, y, read, rounded⟩ := exists_scale?_shortest canonical positive
    obtain ⟨no_integer, double⟩ := double?_of_isReadable readable negative
    have narrowed : Binary.convert .single (.finite negative y : Double) = .finite negative x := by
      rw [Binary.convert, Binary.ofMagnitude, rounded]
    rw [Number.single?, no_integer, double, read]
    exact congrArg some narrowed

/-- What is written for a number is made of digits and is a number of 64 bits. -/
theorem isProper_write {x : Magnitude} (canonical : x.IsCanonical .single) (negative : Bool) :
    Number.IsProper ⟨(shortest .single x).write .single, negative⟩ ∧
      (Number.double? ⟨(shortest .single x).write .single, negative⟩).isSome = true := by
  rcases Nat.eq_zero_or_pos x.significand with zero | positive
  · rw [eq_zero_of_canonical canonical zero]
    have written : (shortest .single ⟨0, -149⟩).write .single = ⟨0, [0], none⟩ := by decide
    rw [written]
    refine ⟨List.forall_mem_singleton.mpr (by decide), ?_⟩
    cases negative <;> decide +kernel
  · obtain ⟨readable, y, read, -⟩ := exists_scale?_shortest canonical positive
    refine ⟨readable.proper, ?_⟩
    rw [(double?_of_isReadable readable negative).2, read]
    rfl

/-! ## What is read at all -/

namespace Binary

variable {f : Format}

/-- The number is finite. -/
def IsFinite : Binary f → Prop
  | .finite _ _ => True
  | _ => False

instance (x : Binary f) : Decidable x.IsFinite :=
  match x with
  | .finite _ _ => .isTrue trivial
  | .infinite _ => .isFalse id
  | .notNumber => .isFalse id

/-- What reading can give: a finite number in its one form, or infinity. -/
def IsRegular : Binary f → Prop
  | .finite _ x => x.IsCanonical f
  | .infinite _ => True
  | .notNumber => False

theorem isRegular_ofMagnitude (wide : 0 < f.precision) (range : f.least ≤ f.greatest)
    (negative : Bool) {r : ℚ} (nonneg : 0 ≤ r) : (ofMagnitude f negative r).IsRegular := by
  unfold ofMagnitude
  cases rounded : f.nearest? r with
  | none => exact trivial
  | some x => exact Format.isCanonical_of_nearest? wide range nonneg rounded

theorem isFinite_ofMagnitude_iff (negative : Bool) (r : ℚ) :
    (ofMagnitude f negative r).IsFinite ↔ f.nearest? r ≠ none := by
  unfold ofMagnitude
  cases f.nearest? r with
  | none => simp [IsFinite]
  | some x => simp [IsFinite]

theorem ofMagnitude_ne_notNumber (negative : Bool) (r : ℚ) :
    ofMagnitude f negative r ≠ .notNumber := by
  unfold ofMagnitude
  split <;> nofun

end Binary

theorem Magnitude.toRat_nonneg (x : Magnitude) : 0 ≤ x.toRat := by
  rw [x.toRat_eq]
  positivity

/-- A magnitude is rounded to a finite number of 32 bits up to half a unit above the greatest. -/
theorem nearest?_single_ne_none_iff {r : ℚ} (nonneg : 0 ≤ r) :
    Format.single.nearest? r ≠ none ↔ r < 2 ^ 128 - 2 ^ 103 := by
  rcases nonneg.eq_or_lt with rfl | positive
  · have zero : Format.single.nearest? 0 ≠ none := nofun
    exact ⟨fun _ => by norm_num, fun _ => zero⟩
  · have bound : ((2 : ℚ) ^ Format.single.precision - 1 / 2) * 2 ^ Format.single.greatest =
        2 ^ 128 - 2 ^ 103 := by
      rw [Format.precision_single, Format.greatest_single]
      norm_num
    rw [Ne, Format.nearest?_eq_none_iff (by decide) (by decide) positive, not_le, bound]

/-- Every finite number of 32 bits is a number of 64 bits. -/
theorem isFinite_convert_double {x : Single} (regular : x.IsRegular) :
    (x.convert .double).IsFinite ↔ x.IsFinite := by
  cases x with
  | infinite | notNumber => exact Iff.rfl
  | finite negative x =>
      refine ⟨fun _ => trivial, fun _ => ?_⟩
      rw [Binary.convert, Binary.isFinite_ofMagnitude_iff]
      rcases Nat.eq_zero_or_pos x.significand with zero | positive
      · have value : x.toRat = 0 := by rw [x.toRat_eq, zero, Nat.cast_zero, zero_mul]
        rw [value]
        nofun
      · obtain ⟨least, greatest⟩ := toRat_bounds regular positive
        obtain ⟨y, rounded, -⟩ := exists_nearest?_double least greatest (by decide) (by decide)
        rw [rounded]
        nofun

namespace Json.Number

variable {n : Number}

theorem natAbs_int?_lt {i : ℤ} (h : n.int? = some i) : i.natAbs < 2 ^ 64 := by
  unfold int? at h
  split at h
  · cases h
  split at h
  · split at h
    next range =>
      cases h
      omega
    next => cases h
  · split at h
    next range =>
      cases h
      have : n.whole < 2 ^ 64 := range
      omega
    next => cases h

theorem double?_ne_notNumber : n.double? ≠ some .notNumber := by
  unfold double?
  split
  · intro h
    exact Binary.ofMagnitude_ne_notNumber _ _ (Option.some.inj h)
  · unfold Double.ofParts?
    dsimp only
    split
    · split
      · nofun
      · intro h
        exact Binary.ofMagnitude_ne_notNumber _ _ (Option.some.inj h)
    · intro h
      obtain ⟨y, -, finite⟩ := Option.map_eq_some_iff.mp h
      cases finite

theorem isRegular_of_single? {s : Single} (h : n.single? = some s) : s.IsRegular := by
  unfold single? at h
  split at h
  next i integer =>
    cases h
    exact Binary.isRegular_ofMagnitude (by decide) (by decide) _ (Nat.cast_nonneg _)
  next =>
    obtain ⟨d, double, rfl⟩ := Option.map_eq_some_iff.mp h
    cases d with
    | finite negative y =>
        exact Binary.isRegular_ofMagnitude (by decide) (by decide) _ y.toRat_nonneg
    | infinite negative => exact trivial
    | notNumber => exact absurd double double?_ne_notNumber

/-- The number of 64 bits lies less than half a unit above the greatest number of 32 bits. -/
def FitsSingle (n : Number) : Prop :=
  ∃ negative y, n.double? = some (.finite negative y) ∧ y.toRat < 2 ^ 128 - 2 ^ 103

/-- Integers of 64 bits are far below the bound. -/
theorem fitsSingle_of_int? {i : ℤ} (integer : n.int? = some i) : n.FitsSingle := by
  have small : (i.natAbs : ℚ) < 2 ^ 64 := by exact_mod_cast natAbs_int?_lt integer
  unfold FitsSingle
  rw [double?, integer]
  show ∃ negative y, some (Binary.ofInt .double i) = _ ∧ _
  rw [Binary.ofInt, Binary.ofMagnitude]
  rcases Nat.eq_zero_or_pos i.natAbs with zero | positive
  · rw [zero]
    refine ⟨_, _, rfl, ?_⟩
    show (⟨0, -1074⟩ : Magnitude).toRat < _
    rw [Magnitude.toRat_eq]
    norm_num
  · have lower : (2 : ℚ) ^ (0 : ℤ) ≤ i.natAbs := by exact_mod_cast positive
    have upper : (i.natAbs : ℚ) ≤ 2 ^ (64 : ℤ) := by exact_mod_cast small.le
    obtain ⟨y, rounded, near⟩ := exists_nearest?_double lower upper (by decide) (by decide)
    rw [rounded]
    refine ⟨_, y, rfl, ?_⟩
    have := (abs_le.mp near).2
    norm_num at this small ⊢
    linarith

theorem isFinite_ofInt_of_int? {i : ℤ} (integer : n.int? = some i) :
    (Binary.ofInt .single i).IsFinite := by
  have small : (i.natAbs : ℚ) < 2 ^ 64 := by exact_mod_cast natAbs_int?_lt integer
  rw [Binary.ofInt, Binary.isFinite_ofMagnitude_iff,
    nearest?_single_ne_none_iff (Nat.cast_nonneg _)]
  exact small.trans (by norm_num)

/-- **Where narrowing overflows.** -/
theorem isFinite_of_single?_iff {s : Single} (h : n.single? = some s) :
    s.IsFinite ↔ n.FitsSingle := by
  unfold single? at h
  split at h
  next i integer =>
    cases h
    exact iff_of_true (isFinite_ofInt_of_int? integer) (fitsSingle_of_int? integer)
  next =>
    obtain ⟨d, double, rfl⟩ := Option.map_eq_some_iff.mp h
    rw [FitsSingle, double]
    cases d with
    | finite negative y =>
        rw [Binary.convert, Binary.isFinite_ofMagnitude_iff,
          nearest?_single_ne_none_iff y.toRat_nonneg]
        constructor
        · exact fun small => ⟨negative, y, rfl, small⟩
        · rintro ⟨_, _, same, small⟩
          cases same
          exact small
    | infinite negative => exact ⟨fun finite => finite.elim, nofun⟩
    | notNumber => exact ⟨fun finite => finite.elim, nofun⟩

end Json.Number

end HexWorld
