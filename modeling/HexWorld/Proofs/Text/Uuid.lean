import HexWorld.Proofs.Json.Text
import HexWorld.Text.Uuid

/-!
# `Proofs.Text.Uuid` — identifiers are read from their canonical texts

## Contents
- `unhyphenate?_hyphenate`: hyphens that were put in can be taken out again.
- `Uuid.ofText?_text`.
-/

namespace HexWorld.Uuid

open Json

theorem hyphenate_cons (n m : Nat) (rest : List Nat) (digits : List Char) :
    hyphenate (n :: m :: rest) digits =
      digits.take n ++ '-' :: hyphenate (m :: rest) (digits.drop n) := rfl

/-- How many digits groups of these lengths hold. -/
def digitCount : List Nat → Nat
  | [] => 0
  | n :: rest => n + digitCount rest

/-- The hyphens go where the groups end, so there must be digits for all groups. -/
theorem unhyphenate?_hyphenate {lengths : List Nat} {digits : List Char}
    (enough : digitCount lengths ≤ digits.length) :
    unhyphenate? lengths (hyphenate lengths digits) = some digits := by
  induction lengths generalizing digits with
  | nil => rfl
  | cons n rest ih =>
      cases rest with
      | nil => rfl
      | cons m rest =>
          rw [digitCount] at enough
          have count : (digits.take n).length = n := by
            rw [List.length_take]
            omega
          have room : digitCount (m :: rest) ≤ (digits.drop n).length := by
            rw [List.length_drop]
            omega
          have inner := ih room
          rw [hyphenate_cons, unhyphenate?, List.drop_left' count, List.take_left' count]
          · show (unhyphenate? (m :: rest) _).map _ = _
            rw [inner]
            exact congrArg some (List.take_append_drop n digits)
          · exact nofun

theorem length_hyphenate {lengths : List Nat} {digits : List Char}
    (enough : digitCount lengths ≤ digits.length) :
    (hyphenate lengths digits).length = digits.length + (lengths.length - 1) := by
  induction lengths generalizing digits with
  | nil => rfl
  | cons n rest ih =>
      cases rest with
      | nil => rfl
      | cons m rest =>
          rw [digitCount] at enough
          have room : digitCount (m :: rest) ≤ (digits.drop n).length := by
            rw [List.length_drop]
            omega
          have inner := ih room
          rw [hyphenate_cons]
          simp only [List.length_append, List.length_cons, inner, List.length_take,
            List.length_drop]
          omega

theorem length_padHex_bits (u : Uuid) : (padHex 32 u.bits.toNat).length = 32 :=
  length_padHex (by decide) u.bits.isLt

theorem ofDigits?_padHex (u : Uuid) : ofDigits? (padHex 32 u.bits.toNat) = some u := by
  obtain ⟨values, read, number⟩ := mapM_hexValue?_padHex 32 u.bits.toNat
  rw [ofDigits?, length_padHex_bits, read]
  show some (⟨.ofNat 128 (ofHex values)⟩ : Uuid) = some u
  rw [number, BitVec.ofNat_toNat, BitVec.setWidth_eq]

/-- **An identifier is read from its canonical text.** -/
theorem ofText?_text (u : Uuid) : ofText? u.text = some u := by
  have enough : digitCount groups ≤ (padHex 32 u.bits.toNat).length :=
    Nat.le_of_eq (length_padHex_bits u).symm
  have count : u.text.length = 36 := by
    rw [text, length_hyphenate enough, length_padHex_bits]
    rfl
  have body : ofGroups? u.text = some u := by
    rw [ofGroups?, text, unhyphenate?_hyphenate enough]
    exact ofDigits?_padHex u
  unfold ofText?
  rw [count]
  exact body

end HexWorld.Uuid
