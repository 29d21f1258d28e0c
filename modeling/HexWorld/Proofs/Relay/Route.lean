import HexWorld.Proofs.Json.Text
import HexWorld.Proofs.Text.Utf8
import HexWorld.Relay.Route

/-!
# `Proofs.Relay.Route` — a text as one part of a path

A text is put into a path byte by byte. Some bytes may stand as the character that they are, and
every byte may be written as a percent sign with two hexadecimal digits, in either case. A text has
many such spellings, and the path gives the text back from each of them.

## Contents
- `isPathChar`, the characters that may stand for themselves.
- `Encodes`: bytes and their spellings, with `exists_encodes`.
- `percentDecode_eq`, `percentText?_eq`: spellings are read back.
- `Route.ofParts`, with `parts_ofParts`: a path is split into what it was made of.
- `objectsPath` and `ofUri?_objectsPath`: the paths to the objects of a room.
-/

namespace HexWorld

open Json Text

/-- The characters that may stand for themselves within a part of a path. -/
def isPathChar (c : Char) : Bool :=
  c.isAlphanum || "-._~!$&\x27()*+,;=:@".toList.contains c

/-- A spelling of bytes as one part of a path. -/
inductive Encodes : List UInt8 → List Char → Prop where
  | nil : Encodes [] []
  | plain {c bytes part} (allowed : isPathChar c = true) (rest : Encodes bytes part) :
      Encodes (UInt8.ofNat c.toNat :: bytes) (c :: part)
  | escaped {a b high low bytes part} (first : hexValue? a = some high)
      (second : hexValue? b = some low) (rest : Encodes bytes part) :
      Encodes (UInt8.ofNat (high * 16 + low) :: bytes) ('%' :: a :: b :: part)

/-! ## Characters of a part -/

theorem toNat_lt_of_isAlphanum {c : Char} (h : c.isAlphanum = true) : c.toNat < 0x80 := by
  have ascii {last : Char} (le : c.val ≤ last.val) (small : last.toNat < 0x80) : c.toNat < 0x80 :=
    Nat.lt_of_le_of_lt (UInt32.le_iff_toNat_le.mp le) small
  rcases (Bool.or_eq_true _ _).mp h with letter | digit
  · rcases (Bool.or_eq_true _ _).mp letter with upper | lower
    · exact ascii (of_decide_eq_true upper).2 (by decide)
    · exact ascii (of_decide_eq_true ((Bool.and_eq_true _ _).mp lower).2) (by decide)
  · exact ascii (of_decide_eq_true ((Bool.and_eq_true _ _).mp digit).2) (by decide)

theorem toNat_lt_of_isPathChar {c : Char} (h : isPathChar c = true) : c.toNat < 0x80 := by
  rcases (Bool.or_eq_true _ _).mp h with letter | mark
  · exact toNat_lt_of_isAlphanum letter
  · have ascii : "-._~!$&\x27()*+,;=:@".toList.all (fun d => d.toNat < 0x80) = true := by decide
    exact of_decide_eq_true (List.all_eq_true.mp ascii c (List.contains_iff_mem.mp mark))

theorem utf8EncodeChar_of_lt {c : Char} (h : c.toNat < 0x80) :
    String.utf8EncodeChar c = [UInt8.ofNat c.toNat] :=
  if_pos (Nat.le_of_lt_succ h)

namespace Encodes

variable {bytes : List UInt8} {part : List Char}

/-- A spelling stays within its part of the path, and the path is no query. -/
theorem ne_of_mem (h : Encodes bytes part) : ∀ c ∈ part, c ≠ '/' ∧ c ≠ '?' ∧ c ≠ '#' := by
  have digit {c : Char} {n : Nat} (value : hexValue? c = some n) : c ≠ '/' ∧ c ≠ '?' ∧ c ≠ '#' := by
    refine ⟨?_, ?_, ?_⟩ <;> rintro rfl <;> cases value
  induction h with
  | nil => exact List.forall_mem_nil _
  | plain allowed _ ih =>
      refine List.forall_mem_cons.mpr ⟨⟨?_, ?_, ?_⟩, ih⟩ <;> rintro rfl <;> cases allowed
  | escaped first second _ ih =>
      exact List.forall_mem_cons.mpr ⟨by decide, List.forall_mem_cons.mpr ⟨digit first,
        List.forall_mem_cons.mpr ⟨digit second, ih⟩⟩⟩

/-- Every byte can be escaped, so all bytes have a spelling. -/
theorem exists_encodes (bytes : List UInt8) : ∃ part, Encodes bytes part := by
  induction bytes with
  | nil => exact ⟨[], .nil⟩
  | cons b rest ih =>
      obtain ⟨part, spelled⟩ := ih
      have high : b.toNat / 16 < 16 := by
        have := b.toNat_lt
        omega
      have low : b.toNat % 16 < 16 := Nat.mod_lt _ (by decide)
      have byte : UInt8.ofNat (b.toNat / 16 * 16 + b.toNat % 16) = b := by
        rw [Nat.div_add_mod', UInt8.ofNat_toNat]
      have escaped := Encodes.escaped (hexValue?_digitChar high) (hexValue?_digitChar low) spelled
      rw [byte] at escaped
      exact ⟨_, escaped⟩

/-! ## Reading a part -/

theorem percentDecode_cons {c : Char} (plain : c ≠ '%') (rest : List Char) :
    percentDecode (c :: rest) = String.utf8EncodeChar c ++ percentDecode rest := by
  rw [percentDecode]
  rintro a b rest rfl
  exact absurd rfl plain

/-- **Every spelling is read as the bytes that it spells.** -/
theorem percentDecode_eq (h : Encodes bytes part) : percentDecode part = bytes := by
  induction h with
  | nil => rfl
  | @plain c bytes part allowed rest ih =>
      have literal : c ≠ '%' := by
        rintro rfl
        cases allowed
      rw [percentDecode_cons literal, utf8EncodeChar_of_lt (toNat_lt_of_isPathChar allowed), ih]
      rfl
  | escaped first second rest ih => rw [percentDecode, first, second, ih]

theorem percentText?_eq {t : String} (h : Encodes t.toUTF8.toList part) :
    percentText? part = some t := by
  have text : Utf8.valid? t.toUTF8.toList = some t.toList := by
    rw [Utf8.valid?, Utf8.decode_toUTF8, List.mapM_map]
    exact (List.mapM_pure (m := Option) (f := id)).trans (congrArg some (List.map_id _))
  rw [percentText?, h.percentDecode_eq, text]
  exact congrArg some String.ofList_toList

end Encodes

/-! ## Paths -/

namespace Route

/-- A path of these parts. -/
def ofParts (ps : List (List Char)) : List Char :=
  ps.flatMap ('/' :: ·)

theorem parts_append {part rest first : List Char} {more : List (List Char)}
    (plain : ∀ c ∈ part, c ≠ '/') (others : parts rest = first :: more) :
    parts (part ++ rest) = (part ++ first) :: more := by
  induction part with
  | nil => exact others
  | cons c part ih =>
      obtain ⟨inner, later⟩ := List.forall_mem_cons.mp plain
      rw [List.cons_append, parts, if_neg inner, ih later]
      rfl

/-- A path begins with a slash, so an empty part stands before all others. -/
theorem parts_ofParts {ps : List (List Char)} (plain : ∀ part ∈ ps, ∀ c ∈ part, c ≠ '/') :
    parts (ofParts ps) = [] :: ps := by
  induction ps with
  | nil => rfl
  | cons part rest ih =>
      obtain ⟨first, later⟩ := List.forall_mem_cons.mp plain
      have joined := parts_append first (ih later)
      rw [List.append_nil] at joined
      show parts ('/' :: (part ++ ofParts rest)) = _
      rw [parts, if_pos rfl, joined]

/-- What holds of every character of a path. -/
theorem forall_mem_ofParts {p : Char → Prop} {ps : List (List Char)} (slash : p '/')
    (inner : ∀ part ∈ ps, ∀ c ∈ part, p c) : ∀ c ∈ ofParts ps, p c := by
  intro c hc
  obtain ⟨part, member, hc⟩ := List.mem_flatMap.mp hc
  rcases List.mem_cons.mp hc with rfl | hc
  · exact slash
  · exact inner part member c hc

/-- The path to the objects of the room that a part names. -/
def objectsPath (part : List Char) : List Char :=
  ofParts ["api".toList, "rooms".toList, part, "objects".toList]

/-- **A request for the objects of a room is given the text that its path spells.** -/
theorem ofUri?_objectsPath {t : String} {part : List Char} (h : Encodes t.toUTF8.toList part) :
    ofUri? (objectsPath part) = some (.objects (some t)) := by
  have plain : ∀ p ∈ ["api".toList, "rooms".toList, part, "objects".toList],
      ∀ c ∈ p, c ≠ '/' ∧ c ≠ '?' ∧ c ≠ '#' := by
    have word {s : List Char} (bare : s.all (fun c => c ≠ '/' ∧ c ≠ '?' ∧ c ≠ '#') = true) :
        ∀ c ∈ s, c ≠ '/' ∧ c ≠ '?' ∧ c ≠ '#' :=
      fun c hc => of_decide_eq_true (List.all_eq_true.mp bare c hc)
    refine List.forall_mem_cons.mpr ⟨word (by decide), List.forall_mem_cons.mpr
      ⟨word (by decide), List.forall_mem_cons.mpr ⟨h.ne_of_mem,
        List.forall_mem_singleton.mpr (word (by decide))⟩⟩⟩
  have split : parts (objectsPath part) = [[], "api".toList, "rooms".toList, part,
      "objects".toList] := parts_ofParts fun p member c hc => (plain p member c hc).1
  have whole : (objectsPath part ++ []).takeWhile (fun c => c != '?' && c != '#') =
      objectsPath part ++ [] := by
    refine List.takeWhile_append_of_pos (forall_mem_ofParts (by decide) fun p member c hc => ?_)
    obtain ⟨-, query, fragment⟩ := plain p member c hc
    rw [bne_iff_ne.mpr query, bne_iff_ne.mpr fragment]
    rfl
  rw [List.append_nil] at whole
  have path : withoutHost (objectsPath part) = objectsPath part := rfl
  rw [ofUri?, path, whole, ofPath?, split]
  simp [h.percentText?_eq]

/-- The empty text stands between two slashes. -/
example : ofUri? "/api/rooms//objects".toList = some (.objects (some "")) := by decide +kernel

/-- Escapes in both cases, and a separator that stands for itself. -/
example : ofUri? "/api/rooms/%20%2b1;0%E2%80%83/objects".toList =
    some (.objects (some " +1;0\u2003")) := by decide +kernel

end Route

end HexWorld
