import HexWorld.Decimal.Reading
import HexWorld.Proofs.Decimal.NearMiss
import HexWorld.Proofs.Decimal.Shortest

/-!
# `Proofs.Decimal.Reading` — what is read for a written decimal

A scaled significand is read with at most two roundings, one of the power of ten and one of the
result, so the number that is read is off by one part in `2 ^ 52 - 1` at most. A decimal that is a
number itself is read as it is: its power of ten is small enough to be exact.

## Contents
- `exists_nearest?_double`: rounding to 64 bits.
- `Significand.toRat`, `exists_scale?`: how exactly a significand is scaled.
- `readSignificand_eq`, `ofParts?_eq`: digits that fit.
- `Written.significand`, `Decimal.IsWrittenAs` and `isWrittenAs_write`: the digits that are written
  for a decimal.
-/

namespace HexWorld

/-! ## Scaling -/

theorem Format.precision_double : Format.double.precision = 53 := rfl

theorem Format.least_double : Format.double.least = -1074 := rfl

theorem Format.greatest_double : Format.double.greatest = 971 := rfl

theorem exists_nearest?_double {r : ℚ} {a b : ℤ} (lower : 2 ^ a ≤ r) (upper : r ≤ 2 ^ b)
    (least : -1022 ≤ a) (greatest : b ≤ 1023) :
    ∃ x, Format.double.nearest? r = some x ∧ |x.toRat - r| ≤ r / 2 ^ 53 := by
  have wide : 0 < Format.double.precision := by decide
  have positive : 0 < r := lt_of_lt_of_le (by positivity) lower
  cases rounded : Format.double.nearest? r with
  | none =>
      have great := (Format.nearest?_eq_none_iff wide (by decide) positive).mp rounded
      have unit_pos : (0 : ℚ) < 2 ^ (971 : ℤ) := by positivity
      have small : (2 : ℚ) ^ b ≤ 2 ^ ((52 : ℕ) + 971 : ℤ) :=
        zpow_le_zpow_right₀ (by norm_num) greatest
      rw [zpow_add₀ (by norm_num), zpow_natCast] at small
      rw [Format.precision_double, Format.greatest_double] at great
      generalize (2 : ℚ) ^ (971 : ℤ) = unit at great small unit_pos
      linarith
  | some x =>
      have normal : (2 : ℚ) ^ (Format.double.precision - 1) * 2 ^ Format.double.least ≤ r := by
        refine le_trans ?_ lower
        rw [← zpow_natCast, ← zpow_add₀ (by norm_num)]
        exact zpow_le_zpow_right₀ (by norm_num) least
      have near := Format.abs_toRat_sub_le wide rounded normal
      rw [Format.precision_double] at near
      exact ⟨x, rfl, near⟩

namespace Double

/-- The value of a significand. -/
def Significand.toRat (s : Significand) : ℚ :=
  s.value * 10 ^ s.exponent

/-- Two roundings after one another. -/
theorem abs_sub_le_of_scaled {s p y t : ℚ} (nonneg : 0 ≤ s) (positive : 0 < t)
    (power : |p - t| ≤ t / 2 ^ 53) (result : |y - s * p| ≤ s * p / 2 ^ 53) :
    readingParts * |y - s * t| ≤ s * t := by
  obtain ⟨power_lower, power_upper⟩ := abs_le.mp power
  have product : |s * p - s * t| ≤ s * t / 2 ^ 53 := by
    rw [← mul_sub, abs_mul, abs_of_nonneg nonneg, mul_div_assoc]
    exact mul_le_mul_of_nonneg_left power nonneg
  have triangle := abs_sub_le y (s * p) (s * t)
  have size : s * p ≤ s * t + s * t / 2 ^ 53 := by linarith [(abs_le.mp product).2]
  have st_nonneg : 0 ≤ s * t := mul_nonneg nonneg positive.le
  unfold readingParts
  norm_num at *
  linarith

theorem abs_sub_le_of_quotient {s p y t : ℚ} (nonneg : 0 ≤ s) (positive : 0 < t)
    (power : |p - t| ≤ t / 2 ^ 53) (result : |y - s / p| ≤ s / p / 2 ^ 53) :
    readingParts * |y - s / t| ≤ s / t := by
  obtain ⟨power_lower, power_upper⟩ := abs_le.mp power
  have p_pos : 0 < p := by linarith
  have product : |s / p - s / t| ≤ s / p / 2 ^ 53 := by
    have difference : s / p - s / t = s / p * ((t - p) / t) := by
      field_simp
    have ratio : |(t - p) / t| ≤ 1 / 2 ^ 53 := by
      rw [abs_div, abs_of_pos positive, abs_sub_comm, div_le_div_iff₀ positive (by norm_num)]
      linarith
    rw [difference, abs_mul, abs_of_nonneg (div_nonneg nonneg p_pos.le)]
    calc s / p * |(t - p) / t| ≤ s / p * (1 / 2 ^ 53) :=
          mul_le_mul_of_nonneg_left ratio (div_nonneg nonneg p_pos.le)
      _ = s / p / 2 ^ 53 := by ring
  have triangle := abs_sub_le y (s / p) (s / t)
  have size : s / p ≤ s / t + s / p / 2 ^ 53 := by linarith [(abs_le.mp product).2]
  have quotient_nonneg : 0 ≤ s / t := div_nonneg nonneg positive.le
  unfold readingParts
  norm_num at *
  linarith

/-- What has so many factors of five has more bits than a significand. -/
theorem le_of_five_pow_dvd {m c : ℕ} (positive : 0 < m) (h : 5 ^ 23 ∣ m * 2 ^ c) : 2 ^ 53 ≤ m := by
  have coprime : Nat.Coprime (5 ^ 23) (2 ^ c) := Nat.Coprime.pow 23 c (by decide)
  have dvd : 5 ^ 23 ∣ m := coprime.dvd_of_dvd_mul_right h
  have le := Nat.le_of_dvd positive dvd
  norm_num at le ⊢
  omega

theorem five_pow_dvd_ten_pow {e : ℕ} (large : 23 ≤ e) : 5 ^ 23 ∣ 10 ^ e := by
  calc 5 ^ 23 ∣ 5 ^ e := pow_dvd_pow 5 large
    _ ∣ 10 ^ e := pow_dvd_pow_of_dvd (by decide) e

/-- A decimal with few digits that is a number with few bits has a small power of ten. -/
theorem exponent_bounds {n m : ℕ} {k g : ℤ} (positive : 0 < n) (narrow : n < 2 ^ 53)
    (narrow' : m < 2 ^ 53) (equal : (n : ℚ) * 10 ^ k = m * 2 ^ g) : -22 ≤ k ∧ k ≤ 22 := by
  have m_pos : 0 < m := by
    by_contra zero
    have n_pos : (0 : ℚ) < n := by exact_mod_cast positive
    rw [Nat.eq_zero_of_not_pos zero, Nat.cast_zero, zero_mul] at equal
    exact absurd equal (by positivity)
  have equal := mul_ten_eq_mul_two_iff.mp equal
  unfold tensOverTwos at equal
  dsimp only at equal
  constructor
  · by_contra low
    have none : k.toNat = 0 := by omega
    rw [none, pow_zero, one_mul] at equal
    have dvd : 5 ^ 23 ∣ n * 2 ^ (-g).toNat := by
      rw [equal]
      exact ((five_pow_dvd_ten_pow (by omega)).mul_right _).mul_left _
    exact absurd narrow (not_lt.mpr (le_of_five_pow_dvd positive dvd))
  · by_contra high
    have none : (-k).toNat = 0 := by omega
    rw [none, pow_zero, one_mul] at equal
    have dvd : 5 ^ 23 ∣ m * 2 ^ g.toNat := by
      rw [← equal]
      exact ((five_pow_dvd_ten_pow (by omega)).mul_right _).mul_left _
    exact absurd narrow' (not_lt.mpr (le_of_five_pow_dvd m_pos dvd))

theorem ten_pow_bounds {e : ℕ} (small : e ≤ 70) :
    (2 : ℚ) ^ (0 : ℤ) ≤ 10 ^ e ∧ (10 : ℚ) ^ e ≤ 2 ^ (280 : ℤ) := by
  constructor
  · exact one_le_pow₀ (by norm_num)
  · calc (10 : ℚ) ^ e ≤ (2 ^ 4) ^ e := pow_le_pow_left₀ (by norm_num) (by norm_num) e
      _ ≤ (2 ^ 4) ^ 70 := pow_le_pow_right₀ (by norm_num) small
      _ = 2 ^ (280 : ℤ) := by rw [← pow_mul]; rfl

/-- A small power of ten is rounded well, and the first ones are numbers. -/
theorem exists_nearest?_power {e : ℕ} (small : e ≤ 70) :
    ∃ p, Format.double.nearest? (Nat.pow 10 e : ℕ) = some p ∧
      |p.toRat - 10 ^ e| ≤ 10 ^ e / 2 ^ 53 ∧ (e ≤ 22 → p.toRat = 10 ^ e) ∧
      (2 : ℚ) ^ (-1 : ℤ) ≤ p.toRat ∧ p.toRat ≤ 2 ^ (281 : ℤ) := by
  obtain ⟨lower, upper⟩ := ten_pow_bounds small
  have cast : ((Nat.pow 10 e : ℕ) : ℚ) = 10 ^ e := by
    rw [Nat.pow_eq]
    push_cast
    rfl
  rw [cast]
  obtain ⟨p, rounded, near⟩ := exists_nearest?_double lower upper (by decide) (by decide)
  obtain ⟨below, above⟩ := abs_le.mp near
  refine ⟨p, rounded, near, fun exact => ?_, ?_, ?_⟩
  rotate_left
  · rw [zpow_zero] at lower
    norm_num at below ⊢
    linarith
  · have ten_pos : (0 : ℚ) < 10 ^ e := by positivity
    rw [show (281 : ℤ) = 280 + 1 from rfl, zpow_add_one₀ (by norm_num)]
    refine le_trans ?_ (mul_le_mul_of_nonneg_right upper zero_le_two)
    norm_num at above
    linarith
  have factors : (10 : ℚ) ^ e = (5 ^ e : ℕ) * 2 ^ (e : ℤ) := by
    rw [zpow_natCast]
    push_cast
    rw [← mul_pow]
    norm_num
  have narrow : 5 ^ e < 2 ^ Format.double.precision := by
    calc 5 ^ e ≤ 5 ^ 22 := Nat.pow_le_pow_right (by decide) exact
      _ < 2 ^ 53 := by norm_num
  rw [factors] at rounded ⊢
  exact Format.toRat_eq_of_representable (by decide) narrow (by rw [Format.least_double]; omega)
    (by positivity) rounded

theorem exists_nearest?_natCast {n : ℕ} (positive : 0 < n) (narrow : n < 2 ^ 53) :
    ∃ x, Format.double.nearest? n = some x ∧ x.toRat = n := by
  have lower : (2 : ℚ) ^ (0 : ℤ) ≤ n := by exact_mod_cast positive
  have upper : (n : ℚ) ≤ 2 ^ (53 : ℤ) := by exact_mod_cast narrow.le
  obtain ⟨x, rounded, -⟩ := exists_nearest?_double lower upper (by decide) (by decide)
  refine ⟨x, rounded, ?_⟩
  have unit : (n : ℚ) = n * 2 ^ (0 : ℤ) := by rw [zpow_zero, mul_one]
  rw [unit] at rounded ⊢
  exact Format.toRat_eq_of_representable (by decide) narrow (by decide) positive rounded

/-- A number of the format is read as itself. -/
theorem toRat_eq_of_nearest?_double {r : ℚ} {y : Magnitude} {m : ℕ} {g : ℤ} (positive : 0 < r)
    (narrow : m < 2 ^ 53) (least : -1074 ≤ g) (equal : r = m * 2 ^ g)
    (rounded : Format.double.nearest? r = some y) : y.toRat = r := by
  have m_pos : 0 < m := by
    by_contra zero
    rw [equal, Nat.eq_zero_of_not_pos zero, Nat.cast_zero, zero_mul] at positive
    exact lt_irrefl _ positive
  rw [equal] at rounded ⊢
  exact Format.toRat_eq_of_representable (by decide) narrow least m_pos rounded

section Scaled

variable {n : ℕ} {p : ℚ}

/-- Quotients and products of a significand and a power of ten are in the range. -/
theorem exists_nearest?_div (positive : 0 < n) (narrow : n < 2 ^ 53)
    (lower : (2 : ℚ) ^ (-1 : ℤ) ≤ p) (upper : p ≤ 2 ^ (281 : ℤ)) :
    ∃ y, Format.double.nearest? (n / p) = some y ∧ |y.toRat - n / p| ≤ n / p / 2 ^ 53 := by
  have p_pos : 0 < p := lt_of_lt_of_le (by positivity) lower
  have one_le : (2 : ℚ) ^ (0 : ℤ) ≤ n := by exact_mod_cast positive
  have le : (n : ℚ) ≤ 2 ^ (53 : ℤ) := by exact_mod_cast narrow.le
  have above : (2 : ℚ) ^ (0 - 281 : ℤ) ≤ n / p := by
    rw [zpow_sub₀ (by norm_num)]
    exact div_le_div₀ (Nat.cast_nonneg n) one_le p_pos upper
  have below : n / p ≤ (2 : ℚ) ^ (53 - -1 : ℤ) := by
    rw [zpow_sub₀ (by norm_num)]
    exact div_le_div₀ (by positivity) le (by positivity) lower
  exact exists_nearest?_double above below (by decide) (by decide)

theorem exists_nearest?_mul (positive : 0 < n) (narrow : n < 2 ^ 53)
    (lower : (2 : ℚ) ^ (-1 : ℤ) ≤ p) (upper : p ≤ 2 ^ (281 : ℤ)) :
    ∃ y, Format.double.nearest? (n * p) = some y ∧ |y.toRat - n * p| ≤ n * p / 2 ^ 53 := by
  have p_pos : 0 < p := lt_of_lt_of_le (by positivity) lower
  have one_le : (2 : ℚ) ^ (0 : ℤ) ≤ n := by exact_mod_cast positive
  have le : (n : ℚ) ≤ 2 ^ (53 : ℤ) := by exact_mod_cast narrow.le
  have above : (2 : ℚ) ^ (0 + -1 : ℤ) ≤ n * p := by
    rw [zpow_add₀ (by norm_num)]
    exact mul_le_mul one_le lower (by positivity) (Nat.cast_nonneg n)
  have below : n * p ≤ (2 : ℚ) ^ (53 + 281 : ℤ) := by
    rw [zpow_add₀ (by norm_num)]
    exact mul_le_mul le upper p_pos.le (by positivity)
  exact exists_nearest?_double above below (by decide) (by decide)

end Scaled

/-- **A significand is read** with a small error, and without one if its value is a number. -/
theorem exists_scale? {s : Significand} (positive : 0 < s.value) (narrow : s.value < 2 ^ 53)
    (least : -70 ≤ s.exponent) (greatest : s.exponent ≤ 70) :
    ∃ y, scale? s = some y ∧ readingParts * |y.toRat - s.toRat| ≤ s.toRat ∧
      ∀ (m : ℕ) (g : ℤ), m < 2 ^ 53 → -1074 ≤ g → s.toRat = m * 2 ^ g → y.toRat = s.toRat := by
  obtain ⟨x, rounded, value⟩ := exists_nearest?_natCast positive narrow
  obtain ⟨n, k⟩ := s
  dsimp only at positive narrow least greatest rounded value
  have n_pos : (0 : ℚ) < n := by exact_mod_cast positive
  unfold scale? Significand.toRat
  rw [rounded]
  dsimp only [Option.bind_some, bind]
  rcases lt_or_ge k 0 with negative | nonneg
  · obtain ⟨e, rfl⟩ : ∃ e : ℕ, k = -e := ⟨(-k).toNat, by omega⟩
    have ten_pos : (0 : ℚ) < 10 ^ e := by positivity
    obtain ⟨p, power, near, exact, lower, upper⟩ := exists_nearest?_power (e := e) (by omega)
    obtain ⟨y, result, close⟩ := exists_nearest?_div positive narrow lower upper
    rw [if_pos negative, neg_neg, Int.toNat_natCast, scaleDown, if_pos (by omega), power]
    dsimp only [Option.bind_some, bind]
    rw [value, zpow_neg, zpow_natCast, ← div_eq_mul_inv]
    refine ⟨y, result, abs_sub_le_of_quotient n_pos.le ten_pos near close, ?_⟩
    intro m g narrow' least' equal
    have scaled : (n : ℚ) * 10 ^ (-(e : ℤ)) = m * 2 ^ g := by
      rw [zpow_neg, zpow_natCast, ← div_eq_mul_inv, equal]
    obtain ⟨low, -⟩ := exponent_bounds positive narrow narrow' scaled
    rw [exact (by omega)] at result
    exact toRat_eq_of_nearest?_double (div_pos n_pos ten_pos) narrow' least' equal result
  · obtain ⟨e, rfl⟩ := Int.eq_ofNat_of_zero_le nonneg
    have ten_pos : (0 : ℚ) < 10 ^ e := by positivity
    obtain ⟨p, power, near, exact, lower, upper⟩ := exists_nearest?_power (e := e) (by omega)
    obtain ⟨y, result, close⟩ := exists_nearest?_mul positive narrow lower upper
    rw [if_neg (not_lt.mpr nonneg), if_pos (by omega), Int.toNat_natCast, power]
    dsimp only [Option.bind_some, bind]
    rw [value, zpow_natCast]
    refine ⟨y, result, abs_sub_le_of_scaled n_pos.le ten_pos near close, ?_⟩
    intro m g narrow' least' equal
    have scaled : (n : ℚ) * 10 ^ (e : ℤ) = m * 2 ^ g := by rw [zpow_natCast, equal]
    obtain ⟨-, high⟩ := exponent_bounds positive narrow narrow' scaled
    rw [exact (by omega)] at result
    exact toRat_eq_of_nearest?_double (mul_pos n_pos ten_pos) narrow' least' equal result

/-! ## Digits that fit -/

theorem takeDigits_eq {value : ℕ} {digits : List ℕ}
    (fits : value * 10 ^ digits.length + Decimal.ofDigits digits < UInt64.size) :
    takeDigits value digits = (value * 10 ^ digits.length + Decimal.ofDigits digits, []) := by
  induction digits generalizing value with
  | nil => rw [takeDigits]; simp [Decimal.ofDigits]
  | cons d rest ih =>
      have split : value * 10 ^ (d :: rest).length + Decimal.ofDigits (d :: rest) =
          (value * 10 + d) * 10 ^ rest.length + Decimal.ofDigits rest := by
        have first : Decimal.ofDigits (d :: rest) =
            d * 10 ^ rest.length + Decimal.ofDigits rest := by
          have := Decimal.ofDigits_append [d] rest
          rw [List.singleton_append] at this
          rw [this]
          simp [Decimal.ofDigits]
        rw [first, List.length_cons, pow_succ]
        ring
      rw [split] at fits ⊢
      have one_le : 1 ≤ 10 ^ rest.length := Nat.one_le_pow _ _ (by decide)
      have here : value * 10 + d < UInt64.size := by nlinarith
      rw [takeDigits, if_pos here, ih fits]

theorem readSignificand_eq {whole fraction : List ℕ}
    (fits : Decimal.ofDigits (whole ++ fraction) < UInt64.size) :
    readSignificand whole fraction =
      ⟨Decimal.ofDigits (whole ++ fraction), -(fraction.length : ℤ)⟩ := by
  rw [Decimal.ofDigits_append] at fits ⊢
  have one_le : 1 ≤ 10 ^ fraction.length := Nat.one_le_pow _ _ (by decide)
  have whole_fits : 0 * 10 ^ whole.length + Decimal.ofDigits whole < UInt64.size := by nlinarith
  rw [readSignificand, takeDigits_eq whole_fits, zero_mul, zero_add]
  dsimp only
  rw [takeDigits_eq fits]
  simp

end Double

namespace Written

open Double

/-- The digits of a written number as one integer, and the power of ten of the last. -/
def significand (w : Written) : Significand :=
  ⟨Decimal.ofDigits (Decimal.digitsOf w.whole ++ w.fraction),
    w.exponent.getD 0 - w.fraction.length⟩

theorem ofParts?_eq {w : Written} (negative : Bool) (fits : w.significand.value < UInt64.size)
    (exponent : (w.exponent.getD 0).natAbs ≤ 0x7FFFFFFF)
    (least : -0x7FFFFFFF ≤ w.significand.exponent)
    (greatest : w.significand.exponent ≤ 0x7FFFFFFF) :
    ofParts? negative (Decimal.digitsOf w.whole) w.fraction (w.exponent.getD 0) =
      (scale? w.significand).map (.finite negative) := by
  have inside : ¬(0x7FFFFFFF : ℤ) < (w.exponent.getD 0).natAbs := by omega
  have clamped : max (-0x7FFFFFFF - 1) (min 0x7FFFFFFF w.significand.exponent) =
      w.significand.exponent := by omega
  unfold significand at fits clamped ⊢
  rw [ofParts?, readSignificand_eq fits]
  dsimp only
  rw [if_neg inside, neg_add_eq_sub, clamped]

end Written

/-! ## Digits that are written -/

namespace Decimal

theorem ofDigits_lt {digits : List ℕ} (proper : ∀ d ∈ digits, d < 10) :
    ofDigits digits < 10 ^ digits.length := by
  induction digits using List.reverseRecOn with
  | nil => decide
  | append_singleton rest d ih =>
      rw [ofDigits_append, List.length_append, List.length_singleton, pow_succ]
      have last : d < 10 := proper d (by simp)
      have before := ih fun e mem => proper e (List.mem_append_left _ mem)
      have value : ofDigits [d] = d := Nat.zero_add d
      rw [value]
      omega

/-- The power of ten of the last digit. -/
def scale (d : Decimal) : ℤ :=
  d.exponent - (d.digits.length - 1 : ℕ)

/-- What is written for a decimal has its value, and few digits if the decimal has few. It has a
fraction or an exponent, so that it cannot be taken for an integer. -/
structure IsWrittenAs (d : Decimal) (w : Written) : Prop where
  value : w.significand.toRat = d.toRat
  narrow : w.significand.value < 10 ^ max d.digits.length 14
  scale : w.significand.exponent = d.scale ∨ w.significand.exponent = -1
  mark : w.exponent = none ∨ w.exponent = some d.exponent
  proper : ∀ e ∈ w.fraction, e < 10
  broken : w.fraction ≠ [] ∨ w.exponent ≠ none

variable {d : Decimal}

/-- It is enough that the same digits are written, and that the last has its power of ten. -/
theorem IsWrittenAs.of_digits {w : Written} (proper : ∀ e ∈ d.digits, e < 10)
    (digits : w.significand.value = ofDigits d.digits) (scale : w.significand.exponent = d.scale)
    (mark : w.exponent = none ∨ w.exponent = some d.exponent) (proper' : ∀ e ∈ w.fraction, e < 10)
    (broken : w.fraction ≠ [] ∨ w.exponent ≠ none) : d.IsWrittenAs w where
  value := by
    rw [Double.Significand.toRat, digits, scale]
    rfl
  narrow := by
    rw [digits]
    exact (ofDigits_lt proper).trans_le (Nat.pow_le_pow_right (by decide) (le_max_left _ _))
  scale := .inl scale
  mark := mark
  proper := proper'
  broken := broken

theorem isWrittenAs_scientific (some_digit : d.digits ≠ []) (proper : ∀ e ∈ d.digits, e < 10) :
    d.IsWrittenAs d.scientific := by
  obtain ⟨⟨⟩ | ⟨first, rest⟩, exponent⟩ := d
  · exact absurd rfl some_digit
  · refine .of_digits proper ?_ rfl (.inr rfl) ?_ (.inr (Option.some_ne_none _))
    · show ofDigits (digitsOf first ++ rest) = ofDigits (first :: rest)
      rw [Json.digitsOf_of_lt (proper first List.mem_cons_self), List.singleton_append]
    · exact fun e mem => proper e (List.mem_cons_of_mem first mem)

/-- Below one there are zeros between the point and the digits. -/
theorem isWrittenAs_position_of_neg (some_digit : d.digits ≠ []) (proper : ∀ e ∈ d.digits, e < 10)
    (negative : d.exponent < 0) : d.IsWrittenAs (d.position true) := by
  have no_whole : (d.exponent + 1).toNat = 0 := by omega
  have length_pos := List.length_pos_of_ne_nil some_digit
  have written : d.position true =
      ⟨0, List.replicate (-d.exponent - 1).toNat 0 ++ d.digits, none⟩ := by
    have nonempty : (List.replicate (-d.exponent - 1).toNat 0 ++ d.digits).isEmpty = false := by
      simp [some_digit]
    rw [position, no_whole, if_pos negative, nonempty, List.take_zero, Nat.zero_sub]
    rfl
  rw [written]
  refine .of_digits proper ?_ ?_ (.inl rfl) ?_ (.inl (by simp [some_digit]))
  · have zero : digitsOf 0 = List.replicate 1 0 := by decide
    rw [Written.significand, zero, ofDigits_zeros_append, ofDigits_zeros_append]
  · show (0 : ℤ) - ((List.replicate (-d.exponent - 1).toNat 0 ++ d.digits).length : ℕ) = d.scale
    rw [List.length_append, List.length_replicate, Decimal.scale]
    omega
  · intro e mem
    rcases List.mem_append.mp mem with zero | digit
    · rw [List.eq_of_mem_replicate zero]
      decide
    · exact proper e digit

/-- The point is among the digits. -/
theorem isWrittenAs_position_of_lt (proper : ∀ e ∈ d.digits, e < 10) (nonneg : 0 ≤ d.exponent)
    (split : d.exponent + 1 < d.digits.length) : d.IsWrittenAs (d.position true) := by
  have fraction_ne : d.digits.drop (d.exponent + 1).toNat ≠ [] := by
    rw [Ne, List.drop_eq_nil_iff]
    omega
  have written : d.position true =
      ⟨ofDigits (d.digits.take (d.exponent + 1).toNat), d.digits.drop (d.exponent + 1).toNat,
        none⟩ := by
    have nonempty : (d.digits.drop (d.exponent + 1).toNat).isEmpty = false := by
      simp [fraction_ne]
    have full : (d.exponent + 1).toNat - d.digits.length = 0 := by omega
    rw [position, if_neg (not_lt.mpr nonneg), nonempty, full, List.replicate_zero, List.append_nil]
    rfl
  rw [written]
  refine .of_digits proper ?_ ?_ (.inl rfl) ?_ (.inl fraction_ne)
  · show ofDigits (digitsOf _ ++ d.digits.drop (d.exponent + 1).toNat) = _
    rw [ofDigits_append, Json.ofDigits_digitsOf, ← ofDigits_append, List.take_append_drop]
  · show (0 : ℤ) - ((d.digits.drop (d.exponent + 1).toNat).length : ℕ) = d.scale
    rw [List.length_drop, Decimal.scale]
    omega
  · exact fun e mem => proper e (List.mem_of_mem_drop mem)

/-- The digits end before the point, and a zero is written after it. -/
theorem isWrittenAs_position_of_le (proper : ∀ e ∈ d.digits, e < 10) (some_digit : d.digits ≠ [])
    (short : (d.digits.length : ℤ) ≤ d.exponent + 1) (few : d.exponent ≤ 12) :
    d.IsWrittenAs (d.position true) := by
  have length_pos := List.length_pos_of_ne_nil some_digit
  obtain ⟨z, zeros⟩ : ∃ z : ℕ, (d.exponent + 1).toNat = d.digits.length + z :=
    ⟨(d.exponent + 1).toNat - d.digits.length, by omega⟩
  have written : d.position true = ⟨ofDigits d.digits * 10 ^ z, [0], none⟩ := by
    have nonneg : ¬d.exponent < 0 := by omega
    rw [position, if_neg nonneg, zeros, List.take_of_length_le (by omega),
      List.drop_of_length_le (by omega), Nat.add_sub_cancel_left, ofDigits_append_zeros]
    rfl
  have significand : (d.position true).significand = ⟨ofDigits d.digits * 10 ^ (z + 1), -1⟩ := by
    rw [written, Written.significand]
    dsimp only
    rw [ofDigits_append, Json.ofDigits_digitsOf, pow_succ, ← mul_assoc]
    rfl
  have digits_lt := ofDigits_lt proper
  refine ⟨?_, ?_, .inr ?_, .inl ?_, ?_, .inl ?_⟩
  · have scale : d.exponent - (d.digits.length - 1 : ℕ) = z := by omega
    rw [significand, Double.Significand.toRat, toRat, scale, zpow_natCast, zpow_neg, zpow_one]
    push_cast
    rw [pow_succ]
    field_simp
  · rw [significand]
    calc ofDigits d.digits * 10 ^ (z + 1) < 10 ^ d.digits.length * 10 ^ (z + 1) :=
          Nat.mul_lt_mul_of_pos_right digits_lt (by positivity)
      _ = 10 ^ (d.digits.length + (z + 1)) := (pow_add _ _ _).symm
      _ ≤ 10 ^ max d.digits.length 14 :=
          Nat.pow_le_pow_right (by decide) (le_max_of_le_right (by omega))
  · rw [significand]
  · rw [written]
  · rw [written]
    simp
  · rw [written]
    exact List.cons_ne_nil _ _

/-- **What is written for a decimal has its value.** -/
theorem isWrittenAs_write (some_digit : d.digits ≠ []) (proper : ∀ e ∈ d.digits, e < 10) :
    d.IsWrittenAs (d.write .single) := by
  unfold write
  split
  next inside =>
    obtain ⟨-, few⟩ : Layout.single.least ≤ d.exponent ∧ d.exponent ≤ 12 := inside
    rcases lt_or_ge d.exponent 0 with negative | nonneg
    · exact isWrittenAs_position_of_neg some_digit proper negative
    rcases lt_or_ge (d.exponent + 1) d.digits.length with split | short
    · exact isWrittenAs_position_of_lt proper nonneg split
    · exact isWrittenAs_position_of_le proper some_digit short few
  next => exact isWrittenAs_scientific some_digit proper

end Decimal
end HexWorld
