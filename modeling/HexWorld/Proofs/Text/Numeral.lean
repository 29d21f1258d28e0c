import HexWorld.Text.Integer

/-!
# `Proofs.Text.Numeral` — what is read as an integer, and what is cut off around it

An integer is read from a numeral: an optional sign and one or more ASCII digits. The reader takes a
numeral apart digit by digit and gives up as soon as the value leaves the range; `Spells` says what
the numerals of an integer are, and nothing of how they are read.

## Contents
- `IsDigits`, `Spells`: the numerals of an integer.
- `readInteger_eq_ok_iff`: the reader of a signed range accepts the numerals of its integers.
- `SpellsNat`, `readInteger_eq_ok_iff_of_unsigned`: the same for an unsigned range.
- `spells_toString`: an integer is written by one of its numerals.
- `IsTrimmed`, `trim_padded`, `exists_padding`: what is left of a text without the blanks around it.
- `trim_trim`, `trim_eq_nil_iff`: cutting again changes nothing; of which texts nothing is left.
-/

namespace HexWorld.Text

/-! ## Numerals -/

/-- ASCII digits, at least one. -/
structure IsDigits (digits : List Char) : Prop where
  nonempty : digits ≠ []
  all : ∀ c ∈ digits, c.isDigit = true

/-- The numerals of an integer. Leading zeros are allowed, and so is a plus sign. -/
inductive Spells : List Char → Int → Prop where
  | unsigned {digits} (h : IsDigits digits) : Spells digits (Nat.ofDigitChars 10 digits 0)
  | plus {digits} (h : IsDigits digits) : Spells ('+' :: digits) (Nat.ofDigitChars 10 digits 0)
  | minus {digits} (h : IsDigits digits) :
      Spells ('-' :: digits) (-(Nat.ofDigitChars 10 digits 0 : Int))

theorem isDigit_iff {c : Char} : c.isDigit = true ↔ '0' ≤ c ∧ c ≤ '9' := by
  unfold Char.isDigit
  rw [Bool.and_eq_true, decide_eq_true_eq, decide_eq_true_eq]
  rfl

theorem isBlank_of_isDigit {c : Char} (h : c.isDigit = true) : isBlank c = false := by
  have range : 48 ≤ c.toNat ∧ c.toNat ≤ 57 := isDigit_iff.mp h
  simp only [isBlank, Bool.or_eq_false_iff, Bool.and_eq_false_iff, decide_eq_false_iff_not,
    beq_eq_false_iff_ne]
  omega

theorem contains_iff {range : IntegerRange} {n : Int} :
    range.contains n = true ↔ range.lo ≤ n ∧ n ≤ range.hi := by
  simp [IntegerRange.contains]

theorem digitValue?_of_isDigit {c : Char} (h : c.isDigit = true) :
    digitValue? c = some (c.toNat - '0'.toNat) :=
  if_pos (isDigit_iff.mp h)

theorem digitValue?_of_not_isDigit {c : Char} (h : c.isDigit = false) : digitValue? c = none :=
  if_neg fun range => by
    rw [isDigit_iff.mpr range] at h
    cases h

namespace Spells

variable {text : List Char} {n : Int}

theorem mem (h : Spells text n) {c : Char} (hc : c ∈ text) :
    c.isDigit = true ∨ c = '+' ∨ c = '-' := by
  cases h with
  | unsigned digits => exact .inl (digits.all c hc)
  | plus digits =>
      rcases List.mem_cons.mp hc with sign | hc
      · exact .inr (.inl sign)
      · exact .inl (digits.all c hc)
  | minus digits =>
      rcases List.mem_cons.mp hc with sign | hc
      · exact .inr (.inr sign)
      · exact .inl (digits.all c hc)

theorem nonempty (h : Spells text n) : text ≠ [] := by
  cases h with
  | unsigned digits => exact digits.nonempty
  | plus | minus => exact List.cons_ne_nil _ _

theorem not_isBlank (h : Spells text n) {c : Char} (hc : c ∈ text) : isBlank c = false := by
  rcases h.mem hc with digit | rfl | rfl
  · exact isBlank_of_isDigit digit
  · rfl
  · rfl

end Spells

/-! ## Reading -/

theorem le_ofDigitChars (digits : List Char) (acc : Nat) :
    acc ≤ Nat.ofDigitChars 10 digits acc := by
  rw [Nat.ofDigitChars_eq_ofDigitChars_zero]
  have positive : 0 < 10 ^ digits.length := Nat.pow_pos (by decide)
  have grown : acc ≤ 10 ^ digits.length * acc := Nat.le_mul_of_pos_left acc positive
  omega

/-- The digits are read as their value, unless there is something else among them or the value is
beyond the limit. The value only grows, so no reading is given up too early. -/
theorem readMagnitude_eq_ok_iff {limit acc n : Nat} {exceeded : IntegerFault} {digits : List Char}
    (within : acc ≤ limit) :
    readMagnitude limit exceeded acc digits = .ok n ↔
      (∀ c ∈ digits, c.isDigit = true) ∧ Nat.ofDigitChars 10 digits acc = n ∧ n ≤ limit := by
  induction digits generalizing acc with
  | nil =>
      rw [readMagnitude, Nat.ofDigitChars_nil, Except.ok.injEq]
      constructor
      · rintro rfl
        exact ⟨List.forall_mem_nil _, rfl, within⟩
      · exact fun h => h.2.1
  | cons c rest ih =>
      rw [readMagnitude, List.forall_mem_cons, Nat.ofDigitChars_cons]
      cases digit : c.isDigit with
      | false =>
          rw [digitValue?_of_not_isDigit digit]
          simp
      | true =>
          rw [digitValue?_of_isDigit digit, Nat.mul_comm]
          simp only [true_and]
          split
          next room => exact ih room
          next beyond =>
            constructor
            · intro h
              cases h
            · rintro ⟨-, rfl, small⟩
              exact absurd (Nat.le_trans (le_ofDigitChars rest _) small) beyond

theorem readMagnitude_map_eq_ok_iff {limit : Nat} {n : Int} {exceeded : IntegerFault}
    {digits : List Char} {f : Nat → Int} :
    (readMagnitude limit exceeded 0 digits).map f = .ok n ↔
      (∀ c ∈ digits, c.isDigit = true) ∧ Nat.ofDigitChars 10 digits 0 ≤ limit ∧
        n = f (Nat.ofDigitChars 10 digits 0) := by
  have read {m : Nat} : readMagnitude limit exceeded 0 digits = .ok m ↔
      (∀ c ∈ digits, c.isDigit = true) ∧ Nat.ofDigitChars 10 digits 0 = m ∧ m ≤ limit :=
    readMagnitude_eq_ok_iff (Nat.zero_le limit)
  cases result : readMagnitude limit exceeded 0 digits with
  | ok m =>
      obtain ⟨all, rfl, within⟩ := read.mp result
      constructor
      · intro h
        exact ⟨all, within, (Except.ok.inj h).symm⟩
      · rintro ⟨-, -, rfl⟩
        rfl
  | error fault =>
      constructor
      · intro h
        cases h
      · rintro ⟨all, within, -⟩
        rw [read.mpr ⟨all, rfl, within⟩] at result
        cases result

/-- **What a signed range reads**: the numerals of its integers. -/
theorem readInteger_eq_ok_iff {range : IntegerRange} {text : List Char} {n : Int}
    (negative : range.lo < 0) (positive : 0 ≤ range.hi) :
    readInteger range text = .ok n ↔ Spells text n ∧ range.contains n = true := by
  have digits_iff {digits : List Char} (some : digits ≠ []) :
      (∀ c ∈ digits, c.isDigit = true) ↔ IsDigits digits :=
    ⟨fun all => ⟨some, all⟩, fun h => h.all⟩
  rw [contains_iff]
  unfold readInteger
  split
  next =>
    constructor
    · intro h
      cases h
    · rintro ⟨numeral, -⟩
      exact absurd rfl numeral.nonempty
  next =>
    -- A sign alone is no numeral.
    constructor
    · intro h
      cases h
    · rintro ⟨numeral, -⟩
      cases numeral with
      | unsigned h => cases h.all _ List.mem_cons_self
      | plus h => exact absurd rfl h.nonempty
  next =>
    constructor
    · intro h
      cases h
    · rintro ⟨numeral, -⟩
      cases numeral with
      | unsigned h => cases h.all _ List.mem_cons_self
      | minus h => exact absurd rfl h.nonempty
  next digits some =>
    rw [readMagnitude_map_eq_ok_iff, digits_iff some]
    simp only [Int.ofNat_eq_natCast]
    constructor
    · rintro ⟨h, small, rfl⟩
      exact ⟨.plus h, by omega, by omega⟩
    · rintro ⟨numeral, -, small⟩
      cases numeral with
      | unsigned h => cases h.all _ List.mem_cons_self
      | plus h => exact ⟨h, by omega, rfl⟩
  next digits some =>
    rw [if_pos negative, readMagnitude_map_eq_ok_iff, digits_iff some]
    simp only [Int.ofNat_eq_natCast]
    constructor
    · rintro ⟨h, small, rfl⟩
      exact ⟨.minus h, by omega, by omega⟩
    · rintro ⟨numeral, small, -⟩
      cases numeral with
      | unsigned h => cases h.all _ List.mem_cons_self
      | minus h => exact ⟨h, by omega, rfl⟩
  next some _ _ no_plus no_minus =>
    rw [readMagnitude_map_eq_ok_iff, digits_iff some]
    simp only [Int.ofNat_eq_natCast]
    constructor
    · rintro ⟨h, small, rfl⟩
      exact ⟨.unsigned h, by omega, by omega⟩
    · rintro ⟨numeral, -, small⟩
      cases numeral with
      | unsigned h => exact ⟨h, by omega, rfl⟩
      | plus => exact absurd rfl (no_plus _)
      | minus => exact absurd rfl (no_minus _)

/-- The numerals of a natural number: a minus sign is none of theirs, not even before zero. -/
inductive SpellsNat : List Char → Nat → Prop where
  | plain {digits} (h : IsDigits digits) : SpellsNat digits (Nat.ofDigitChars 10 digits 0)
  | plus {digits} (h : IsDigits digits) : SpellsNat ('+' :: digits) (Nat.ofDigitChars 10 digits 0)

/-- **What an unsigned range reads**: the numerals of its numbers. -/
theorem readInteger_eq_ok_iff_of_unsigned {range : IntegerRange} {text : List Char} {n : Int}
    (unsigned : range.lo = 0) :
    readInteger range text = .ok n ↔ ∃ m : Nat, n = m ∧ SpellsNat text m ∧ m ≤ range.hi.toNat := by
  have digits_iff {digits : List Char} (some : digits ≠ []) :
      (∀ c ∈ digits, c.isDigit = true) ↔ IsDigits digits :=
    ⟨fun all => ⟨some, all⟩, fun h => h.all⟩
  unfold readInteger
  split
  next =>
    constructor
    · intro h
      cases h
    · rintro ⟨m, -, numeral, -⟩
      cases numeral with
      | plain h => exact absurd rfl h.nonempty
  next =>
    -- A sign alone is no numeral.
    constructor
    · intro h
      cases h
    · rintro ⟨m, -, numeral, -⟩
      cases numeral with
      | plain h => cases h.all _ List.mem_cons_self
      | plus h => exact absurd rfl h.nonempty
  next =>
    constructor
    · intro h
      cases h
    · rintro ⟨m, -, numeral, -⟩
      cases numeral with
      | plain h => cases h.all _ List.mem_cons_self
  next digits some =>
    rw [readMagnitude_map_eq_ok_iff, digits_iff some]
    constructor
    · rintro ⟨h, small, rfl⟩
      exact ⟨_, rfl, .plus h, small⟩
    · rintro ⟨m, rfl, numeral, small⟩
      cases numeral with
      | plain h => cases h.all _ List.mem_cons_self
      | plus h => exact ⟨h, small, rfl⟩
  next digits some =>
    rw [if_neg (by omega)]
    constructor
    · intro h
      cases h
    · rintro ⟨m, -, numeral, -⟩
      cases numeral with
      | plain h => cases h.all _ List.mem_cons_self
  next some _ _ no_plus no_minus =>
    rw [readMagnitude_map_eq_ok_iff, digits_iff some]
    constructor
    · rintro ⟨h, small, rfl⟩
      exact ⟨_, rfl, .plain h, small⟩
    · rintro ⟨m, rfl, numeral, small⟩
      cases numeral with
      | plain h => exact ⟨h, small, rfl⟩
      | plus => exact absurd rfl (no_plus _)

/-! ## Writing -/

theorem isDigits_toDigits (n : Nat) : IsDigits (Nat.toDigits 10 n) where
  nonempty := Nat.toDigits_ne_nil
  all _ := Nat.isDigit_of_mem_toDigits (by decide) (by decide)

/-- **An integer is written by one of its numerals.** -/
theorem spells_toString (n : Int) : Spells (toString n).toList n := by
  have digits (m : Nat) : m.repr.toList = Nat.toDigits 10 m := by
    rw [Nat.repr_eq_ofList_toDigits, String.toList_ofList]
  rw [Int.toString_eq_repr, Int.repr_eq_if]
  split
  next nonneg =>
    have value : (Nat.ofDigitChars 10 (Nat.toDigits 10 n.toNat) 0 : Int) = n := by
      rw [Nat.ofDigitChars_ten_toDigits]
      omega
    have numeral := Spells.unsigned (isDigits_toDigits n.toNat)
    rw [value] at numeral
    rw [digits]
    exact numeral
  next negative =>
    have value : -(Nat.ofDigitChars 10 (Nat.toDigits 10 (-n).toNat) 0 : Int) = n := by
      rw [Nat.ofDigitChars_ten_toDigits]
      omega
    have numeral := Spells.minus (isDigits_toDigits (-n).toNat)
    rw [value] at numeral
    rw [String.toList_append, digits]
    exact numeral

/-! ## Blanks -/

/-- Blanks only, or nothing. -/
def IsPadding (text : List Char) : Prop :=
  ∀ c ∈ text, isBlank c = true

/-- Neither end of the text is blank. -/
structure IsTrimmed (text : List Char) : Prop where
  first : ∀ c ∈ text.head?, isBlank c = false
  last : ∀ c ∈ text.getLast?, isBlank c = false

/-- What stands between two ends that are not blank may be. -/
theorem IsTrimmed.between {front back : List Char} (middle : List Char) (h : IsTrimmed front)
    (h' : IsTrimmed back) (some : front ≠ []) (some' : back ≠ []) :
    IsTrimmed (front ++ middle ++ back) := by
  obtain ⟨a, rest, rfl⟩ := List.exists_cons_of_ne_nil some
  refine ⟨h.first, fun c hc => h'.last c ?_⟩
  rw [List.getLast?_append, List.getLast?_eq_some_getLast some', Option.some_or] at hc
  rw [List.getLast?_eq_some_getLast some']
  exact hc

theorem trimStart_padded {pad text : List Char} (padding : IsPadding pad)
    (first : ∀ c ∈ text.head?, isBlank c = false) : trimStart (pad ++ text) = text := by
  unfold trimStart
  rw [List.dropWhile_append_of_pos padding]
  cases text with
  | nil => rfl
  | cons c rest => exact List.dropWhile_cons_of_neg (by simp [first c rfl])

/-- **What stands between blanks is what is left** without them. -/
theorem trim_padded {before text after : List Char} (front : IsPadding before)
    (back : IsPadding after) (trimmed : IsTrimmed text) :
    trim (before ++ text ++ after) = text := by
  have reversed : IsPadding after.reverse := fun c hc => back c (List.mem_reverse.mp hc)
  have from_front : trimStart (before ++ text ++ after) = text ++ after ∨
      text = [] ∧ trimStart (before ++ text ++ after) = [] := by
    cases text with
    | nil =>
        rw [List.append_nil]
        refine .inr ⟨rfl, ?_⟩
        have all : IsPadding (before ++ after) := List.forall_mem_append.mpr ⟨front, back⟩
        rw [← List.append_nil (before ++ after)]
        exact List.dropWhile_append_of_pos all
    | cons c rest =>
        rw [List.append_assoc]
        exact .inl (trimStart_padded front trimmed.first)
  unfold trim
  rcases from_front with front | ⟨rfl, front⟩
  · rw [front, List.reverse_append, trimStart_padded reversed, List.reverse_reverse]
    rw [List.head?_reverse]
    exact trimmed.last
  · rw [front]
    rfl

/-- Any text is what is left of it, between blanks. -/
theorem exists_padding (text : List Char) : ∃ before after,
    text = before ++ trim text ++ after ∧ IsPadding before ∧ IsPadding after := by
  have split (text : List Char) : ∃ pad, text = pad ++ trimStart text ∧ IsPadding pad :=
    ⟨text.takeWhile isBlank, List.takeWhile_append_dropWhile.symm,
      List.all_eq_true.mp List.all_takeWhile⟩
  obtain ⟨before, front, padding⟩ := split text
  obtain ⟨after, back, padding'⟩ := split (trimStart text).reverse
  refine ⟨before, after.reverse, ?_, padding, fun c hc => padding' c (List.mem_reverse.mp hc)⟩
  have middle : trimStart text = trim text ++ after.reverse := by
    rw [← List.reverse_reverse (trimStart text), back, List.reverse_append]
    rfl
  rw [List.append_assoc, ← middle]
  exact front

theorem isTrimmed_trim (text : List Char) : IsTrimmed (trim text) := by
  have first (text : List Char) : ∀ c ∈ (trimStart text).head?, isBlank c = false := by
    intro c head
    have stop := List.head?_dropWhile_not isBlank text
    rw [show (List.dropWhile isBlank text).head? = some c from head] at stop
    exact stop
  refine ⟨fun c head => ?_, fun c last => ?_⟩
  · -- Nothing is cut off in front of what is left at the end.
    obtain ⟨pad, split⟩ : ∃ pad, trimStart text = trim text ++ pad := by
      obtain ⟨pad, split⟩ := List.dropWhile_suffix isBlank (l := (trimStart text).reverse)
      refine ⟨pad.reverse, ?_⟩
      rw [← List.reverse_reverse (trimStart text), ← split, List.reverse_append]
      rfl
    refine first text c ?_
    rw [split, List.head?_append, head]
    rfl
  · rw [trim, List.getLast?_reverse] at last
    exact first (trimStart text).reverse c last

theorem trim_trim (text : List Char) : trim (trim text) = trim text := by
  have whole := trim_padded (List.forall_mem_nil _) (List.forall_mem_nil _) (isTrimmed_trim text)
  rw [List.nil_append, List.append_nil] at whole
  exact whole

theorem trim_eq_nil_iff {text : List Char} : trim text = [] ↔ IsPadding text := by
  constructor
  · intro nothing
    obtain ⟨before, after, split, front, back⟩ := exists_padding text
    rw [split, nothing, List.append_nil]
    exact List.forall_mem_append.mpr ⟨front, back⟩
  · intro padding
    have left : trim (text ++ [] ++ []) = [] :=
      trim_padded padding (List.forall_mem_nil _) ⟨nofun, nofun⟩
    rw [List.append_nil, List.append_nil] at left
    exact left

end HexWorld.Text
