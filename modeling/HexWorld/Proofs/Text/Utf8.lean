import HexWorld.Text.Utf8

/-!
# `Proofs.Text.Utf8` — the bytes of a text are decoded to its characters

A text is encoded character by character, and the decoder takes one character off the front at a
time. No byte of an encoded text is stray.

## Contents
- `front?_encoded`: the first character of encoded ones.
- `decode_encoded`, `decode_toUTF8`: all characters of a text.
-/

namespace HexWorld.Text.Utf8

/-! ## One character -/

theorem toNat_byte {n : Nat} (small : n < 0x100) : (UInt8.ofNat n).toNat = n :=
  UInt8.toNat_ofNat_of_lt' small

theorem continuation?_byte {n : Nat} (small : n < 0x40) :
    continuation? (UInt8.ofNat (n + 0x80)) = some n := by
  have value : (UInt8.ofNat (n + 0x80)).toNat = n + 0x80 := toNat_byte (by omega)
  have range : 0x80 ≤ UInt8.ofNat (n + 0x80) ∧ UInt8.ofNat (n + 0x80) < 0xC0 := by
    rw [UInt8.le_iff_toNat_le, UInt8.lt_iff_toNat_lt, value]
    exact ⟨Nat.le_add_left _ _, Nat.add_lt_add_right small _⟩
  rw [continuation?, if_pos range, value, Nat.add_sub_cancel]

theorem scalar?_toNat {least : Nat} {c : Char} (enough : least ≤ c.toNat) :
    scalar? least c.toNat = some c := by
  have valid : c.toNat.isValidChar := c.valid
  rw [scalar?, dif_pos valid, if_pos enough]
  exact congrArg some (Char.ext (UInt32.toNat_inj.mp rfl))

/-! Sequences of one to four bytes, by the bits that they carry. -/

theorem front?_one {n : Nat} (small : n < 0x80) (rest : List UInt8) :
    front? (UInt8.ofNat n :: rest) = (scalar? 0 n).map (·, rest) := by
  have lead : (UInt8.ofNat n).toNat = n := toNat_byte (by omega)
  have first : UInt8.ofNat n < 0x80 := by
    rw [UInt8.lt_iff_toNat_lt, lead]
    exact small
  show (if UInt8.ofNat n < 0x80 then (scalar? 0 (UInt8.ofNat n).toNat).map (·, rest) else _) = _
  rw [if_pos first, lead]

theorem front?_two {a b : Nat} (first : a < 0x20) (second : b < 0x40) (rest : List UInt8) :
    front? (UInt8.ofNat (a + 0xc0) :: UInt8.ofNat (b + 0x80) :: rest) =
      (scalar? 0x80 (a * 64 + b)).map (·, rest) := by
  have lead : (UInt8.ofNat (a + 0xc0)).toNat = a + 0xc0 := toNat_byte (by omega)
  simp only [front?, UInt8.lt_iff_toNat_lt, UInt8.le_iff_toNat_le, lead,
    continuation?_byte second]
  rw [if_neg (by simp), if_pos (by simp; omega), Nat.add_sub_cancel]
  exact Option.map_eq_bind.symm

theorem front?_three {a b c : Nat} (first : a < 0x10) (second : b < 0x40) (third : c < 0x40)
    (rest : List UInt8) :
    front? (UInt8.ofNat (a + 0xe0) :: UInt8.ofNat (b + 0x80) :: UInt8.ofNat (c + 0x80) :: rest) =
      (scalar? 0x800 ((a * 64 + b) * 64 + c)).map (·, rest) := by
  have lead : (UInt8.ofNat (a + 0xe0)).toNat = a + 0xe0 := toNat_byte (by omega)
  simp only [front?, UInt8.lt_iff_toNat_lt, UInt8.le_iff_toNat_le, lead,
    continuation?_byte second, continuation?_byte third]
  rw [if_neg (by simp), if_neg (by simp), if_pos (by simp; omega), Nat.add_sub_cancel]
  exact Option.map_eq_bind.symm

theorem front?_four {a b c d : Nat} (first : a < 0x08) (second : b < 0x40) (third : c < 0x40)
    (fourth : d < 0x40) (rest : List UInt8) :
    front? (UInt8.ofNat (a + 0xf0) :: UInt8.ofNat (b + 0x80) :: UInt8.ofNat (c + 0x80) ::
        UInt8.ofNat (d + 0x80) :: rest) =
      (scalar? 0x10000 (((a * 64 + b) * 64 + c) * 64 + d)).map (·, rest) := by
  have lead : (UInt8.ofNat (a + 0xf0)).toNat = a + 0xf0 := toNat_byte (by omega)
  simp only [front?, UInt8.lt_iff_toNat_lt, UInt8.le_iff_toNat_le, lead,
    continuation?_byte second, continuation?_byte third, continuation?_byte fourth]
  rw [if_neg (by simp), if_neg (by simp), if_neg (by simp), if_pos (by simp; omega),
    Nat.add_sub_cancel]
  exact Option.map_eq_bind.symm

/-- The encoding of a character is taken off the front of what follows it. Its four lengths are
four ranges of the character's number. -/
theorem front?_encoded (c : Char) (rest : List UInt8) :
    front? (String.utf8EncodeChar c ++ rest) = some (c, rest) := by
  have bound : c.toNat < 0x110000 := by
    rcases c.valid with low | ⟨-, high⟩
    · exact Nat.lt_trans low (by decide)
    · exact high
  have last : c.toNat % 0x40 < 0x40 := Nat.mod_lt _ (by decide)
  have second_last : c.toNat / 64 % 0x40 < 0x40 := Nat.mod_lt _ (by decide)
  have third_last : c.toNat / 4096 % 0x40 < 0x40 := Nat.mod_lt _ (by decide)
  show front? ((if c.toNat ≤ 0x7f then _ else if c.toNat ≤ 0x7ff then _
    else if c.toNat ≤ 0xffff then _ else _) ++ rest) = _
  split
  next one =>
    refine (front?_one (Nat.lt_succ_of_le one) rest).trans ?_
    rw [scalar?_toNat (Nat.zero_le _)]
    rfl
  split
  next more two =>
    have value : c.toNat / 64 % 0x20 * 64 + c.toNat % 0x40 = c.toNat := by omega
    have lead : c.toNat / 64 % 0x20 < 0x20 := Nat.mod_lt _ (by decide)
    refine (front?_two lead last rest).trans ?_
    rw [value, scalar?_toNat (Nat.lt_of_not_le more)]
    rfl
  split
  next more three =>
    have value : (c.toNat / 4096 % 0x10 * 64 + c.toNat / 64 % 0x40) * 64 + c.toNat % 0x40 =
        c.toNat := by omega
    have lead : c.toNat / 4096 % 0x10 < 0x10 := Nat.mod_lt _ (by decide)
    refine (front?_three lead second_last last rest).trans ?_
    rw [value, scalar?_toNat (Nat.lt_of_not_le more)]
    rfl
  next more =>
    have value : ((c.toNat / 262144 % 0x08 * 64 + c.toNat / 4096 % 0x40) * 64 +
        c.toNat / 64 % 0x40) * 64 + c.toNat % 0x40 = c.toNat := by omega
    have lead : c.toNat / 262144 % 0x08 < 0x08 := Nat.mod_lt _ (by decide)
    refine (front?_four lead third_last second_last last rest).trans ?_
    rw [value, scalar?_toNat (Nat.lt_of_not_le more)]
    rfl

/-! ## Whole texts -/

/-- Every character has at least one byte, so there are enough steps for all of them. -/
theorem decodeFrom_encoded {text : List Char} {fuel : Nat} (enough : text.length ≤ fuel) :
    decodeFrom fuel (text.flatMap String.utf8EncodeChar) = text.map some := by
  induction text generalizing fuel with
  | nil => cases fuel <;> rfl
  | cons c rest ih =>
      obtain ⟨fuel, rfl⟩ := Nat.exists_eq_add_one_of_ne_zero
        (Nat.ne_of_gt (Nat.lt_of_lt_of_le (Nat.succ_pos rest.length) enough))
      have front := front?_encoded c (rest.flatMap String.utf8EncodeChar)
      rw [List.flatMap_cons]
      obtain ⟨first, bytes, split⟩ :=
        List.exists_cons_of_ne_nil (String.utf8EncodeChar_ne_nil (c := c))
      rw [split, List.cons_append] at front ⊢
      rw [decodeFrom, front]
      show some c :: _ = _
      rw [ih (Nat.le_of_succ_le_succ enough), List.map_cons]

theorem length_le_encoded (text : List Char) :
    text.length ≤ (text.flatMap String.utf8EncodeChar).length := by
  induction text with
  | nil => exact Nat.le_refl _
  | cons c rest ih =>
      have some_byte : 0 < (String.utf8EncodeChar c).length :=
        List.length_pos_iff.mpr String.utf8EncodeChar_ne_nil
      rw [List.flatMap_cons, List.length_append, List.length_cons]
      omega

theorem decode_encoded (text : List Char) :
    decode (text.flatMap String.utf8EncodeChar) = text.map some :=
  decodeFrom_encoded (length_le_encoded text)

theorem toList_loop (bytes : ByteArray) (i : Nat) (before : List UInt8) :
    ByteArray.toList.loop bytes i before = before.reverse ++ bytes.data.toList.drop i := by
  fun_induction ByteArray.toList.loop bytes i before with
  | case1 i before inside ih =>
      have inside' : i < bytes.data.toList.length := by simpa using inside
      rw [ih, List.drop_eq_getElem_cons inside']
      simp [ByteArray.get!, inside]
  | case2 i before outside =>
      rw [List.drop_eq_nil_of_le (by simpa using Nat.le_of_not_lt outside), List.append_nil]

theorem toList_toUTF8 (text : String) :
    text.toUTF8.toList = text.toList.flatMap String.utf8EncodeChar := by
  have bytes : text.toUTF8 = (text.toList.flatMap String.utf8EncodeChar).toByteArray := by
    rw [String.toUTF8_eq_toByteArray, ← String.utf8Encode_toList, List.utf8Encode]
  rw [bytes, ByteArray.toList, toList_loop, List.toList_data_toByteArray]
  rfl

/-- **The bytes of a text are decoded to its characters.** -/
theorem decode_toUTF8 (text : String) : decode text.toUTF8.toList = text.toList.map some := by
  rw [toList_toUTF8, decode_encoded]

end HexWorld.Text.Utf8
