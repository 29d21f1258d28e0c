import HexWorld.Json.Token

/-!
# `Proofs.Json.Text` — texts survive being written and read

A text is written as a string, character by character, some of them escaped. An escape may be read
as a different piece than the one that was written, a unit instead of a character; the text that the
string means is the same.

## Contents
- `mapM_hexValue?_padHex`, `unit?_padHex`: hexadecimal digits are read as the number they write.
- `Piece.reread`, `Literal.reread`: what is read for a piece, and for a whole string.
- `stringBody_render`: a string is read up to its closing quote.
- `text?_reread`: the string that is read means what the written one did.
-/

namespace HexWorld.Json

/-! ## Hexadecimal digits -/

theorem hexValue?_digitChar {d : Nat} (small : d < 16) : hexValue? (Nat.digitChar d) = some d := by
  have all : ∀ d : Fin 16, hexValue? (Nat.digitChar d) = some d.val := by decide
  exact all ⟨d, small⟩

/-- The number that hexadecimal digits write. -/
def ofHex (digits : List Nat) : Nat :=
  digits.foldl (fun n d => n * 16 + d) 0

theorem mapM_hexValue?_toDigits (n : Nat) :
    ∃ ds, (Nat.toDigits 16 n).mapM hexValue? = some ds ∧ ofHex ds = n := by
  induction n using Nat.base_induction 16 (by decide) with
  | single d small =>
      refine ⟨[d], ?_, Nat.zero_add d⟩
      rw [Nat.toDigits_of_lt_base small, List.mapM_cons, hexValue?_digitChar small]
      rfl
  | digit n d small positive ih =>
      obtain ⟨ds, read, value⟩ := ih
      refine ⟨ds ++ [d], ?_, ?_⟩
      · rw [← Nat.toDigits_append_toDigits (by decide) positive small,
          Nat.toDigits_of_lt_base small, List.mapM_append, read, List.mapM_cons,
          hexValue?_digitChar small]
        rfl
      · rw [ofHex] at value ⊢
        rw [List.foldl_append, value, Nat.mul_comm]
        rfl

/-- Padding does not change the number. -/
theorem mapM_hexValue?_padHex (width n : Nat) :
    ∃ ds, (padHex width n).mapM hexValue? = some ds ∧ ofHex ds = n := by
  obtain ⟨ds, read, value⟩ := mapM_hexValue?_toDigits n
  have padded (count : Nat) : ∃ ds, (List.replicate count '0' ++ Nat.toDigits 16 n).mapM
      hexValue? = some ds ∧ ofHex ds = n := by
    induction count with
    | zero => exact ⟨ds, read, value⟩
    | succ count ih =>
        obtain ⟨ds, read, value⟩ := ih
        refine ⟨0 :: ds, ?_, value⟩
        rw [List.replicate_succ, List.cons_append, List.mapM_cons, read]
        rfl
  exact padded _

theorem length_padHex {width n : Nat} (some_digit : 0 < width) (small : n < Nat.pow 16 width) :
    (padHex width n).length = width := by
  have short : (Nat.toDigits 16 n).length ≤ width :=
    (Nat.length_toDigits_le_iff (by decide) some_digit).mpr small
  rw [padHex, List.length_append, List.length_replicate]
  exact Nat.sub_add_cancel short

theorem unit?_padHex (u : UInt16) :
    ∃ a b d e, padHex 4 u.toNat = [a, b, d, e] ∧ unit? a b d e = some u := by
  have count : (padHex 4 u.toNat).length = 4 := length_padHex (by decide) u.toNat_lt
  obtain ⟨ds, read, value⟩ := mapM_hexValue?_padHex 4 u.toNat
  match padHex 4 u.toNat, count, read with
  | [a, b, d, e], _, read =>
    refine ⟨a, b, d, e, rfl, ?_⟩
    simp only [List.mapM_cons, List.mapM_nil, Option.pure_def, Option.bind_eq_bind,
      Option.bind_eq_some_iff, Option.some.injEq] at read
    obtain ⟨a', ha, _, ⟨b', hb, _, ⟨d', hd, _, ⟨e', he, _, rfl, rfl⟩, rfl⟩, rfl⟩, rfl⟩ := read
    have number : ((a' * 16 + b') * 16 + d') * 16 + e' = u.toNat := by
      rw [← value, ofHex]
      simp
    rw [unit?, ha, hb, hd, he]
    show some (((a' * 16 + b') * 16 + d') * 16 + e').toUInt16 = some u
    rw [number]
    exact congrArg some u.ofNat_toNat

/-! ## Characters -/

/-- A unit that is no half of a pair means the character of its number. -/
theorem text?_cons_unit {u : UInt16} (whole : Literal.isHigh u = false ∧ Literal.isLow u = false)
    (s : Literal) : Literal.text? (.unit u :: s) = s.text?.map (Char.ofNat u.toNat :: ·) := by
  obtain ⟨high, low⟩ := whole
  cases s with
  | nil => simp [Literal.text?, high, low]
  | cons p rest => cases p <;> simp [Literal.text?, high, low]

theorem whole_of_control : ∀ n : Fin 0x20,
    (Literal.isHigh n.val.toUInt16 = false ∧ Literal.isLow n.val.toUInt16 = false) ∧
    n.val.toUInt16.toNat = n := by
  decide

/-- How a character is written: as it is, by a letter of its own, or by its number. -/
theorem escapeChar_cases (c : Char) :
    (escapeChar c = [c] ∧ ¬c.toNat < 0x20 ∧ c ≠ '"' ∧ c ≠ '\\') ∨
    (∃ e, escapeChar c = ['\\', e] ∧ e ≠ 'u' ∧ escaped? e = some c) ∨
    (escapeChar c = '\\' :: 'u' :: padHex 4 c.toNat ∧ c.toNat < 0x20) := by
  have letter (c e : Char) (written : escapeChar c = ['\\', e]) (other : e ≠ 'u')
      (read : escaped? e = some c) :
      ∃ e, escapeChar c = ['\\', e] ∧ e ≠ 'u' ∧ escaped? e = some c := ⟨e, written, other, read⟩
  by_cases quote : c = '"'
  · exact .inr (.inl (quote ▸ letter _ '"' rfl (by decide) rfl))
  by_cases slash : c = '\\'
  · exact .inr (.inl (slash ▸ letter _ '\\' rfl (by decide) rfl))
  by_cases newline : c = '\n'
  · exact .inr (.inl (newline ▸ letter _ 'n' rfl (by decide) rfl))
  by_cases carriage : c = '\r'
  · exact .inr (.inl (carriage ▸ letter _ 'r' rfl (by decide) rfl))
  by_cases tab : c = '\t'
  · exact .inr (.inl (tab ▸ letter _ 't' rfl (by decide) rfl))
  by_cases back : c = '\x08'
  · exact .inr (.inl (back ▸ letter _ 'b' rfl (by decide) rfl))
  by_cases feed : c = '\x0c'
  · exact .inr (.inl (feed ▸ letter _ 'f' rfl (by decide) rfl))
  have rest : escapeChar c = if c.toNat < 0x20 then ['\\', 'u'] ++ padHex 4 c.toNat else [c] :=
    escapeChar.eq_8 c quote slash newline carriage tab back feed
  by_cases control : c.toNat < 0x20
  · rw [if_pos control] at rest
    exact .inr (.inr ⟨rest, control⟩)
  · rw [if_neg control] at rest
    exact .inl ⟨rest, control, quote, slash⟩

/-! ## Pieces -/

theorem stringBody_plain {c : Char} (plain : ¬c.toNat < 0x20) (quote : c ≠ '"')
    (slash : c ≠ '\\') (rest : Input) :
    stringBody (some c :: rest) = (stringBody rest).map fun (s, rest) => (.char c :: s, rest) := by
  rw [stringBody]
  · exact if_neg fun h => h.elim plain slash
  · exact quote
  · exact fun _ _ _ _ _ _ => slash
  · exact fun _ _ _ => slash

theorem stringBody_letter {e c : Char} (other : e ≠ 'u') (read : escaped? e = some c)
    (rest : Input) :
    stringBody (some '\\' :: some e :: rest) =
      (stringBody rest).map fun (s, rest) => (.char c :: s, rest) := by
  rw [stringBody]
  · rw [read]
    cases stringBody rest <;> rfl
  · exact fun _ _ _ _ _ _ => other

theorem stringBody_unit (u : UInt16) (rest : Input) :
    stringBody (('\\' :: 'u' :: padHex 4 u.toNat).map some ++ rest) =
      (stringBody rest).map fun (s, rest) => (.unit u :: s, rest) := by
  obtain ⟨a, b, d, e, written, read⟩ := unit?_padHex u
  rw [written]
  show stringBody (some '\\' :: some 'u' :: some a :: some b :: some d :: some e :: rest) = _
  rw [stringBody, read]
  cases stringBody rest <;> rfl

/-- The piece that is read for a character that was written: a unit if it was written by its
number, which takes six characters. -/
def Piece.ofChar (c : Char) : Piece :=
  if (escapeChar c).length = 6 then .unit c.toNat.toUInt16 else .char c

theorem Piece.ofChar_cases (c : Char) :
    (Piece.ofChar c = .char c ∧ ∀ rest : Input,
      stringBody ((escapeChar c).map some ++ rest) =
        (stringBody rest).map fun (s, rest) => (.char c :: s, rest)) ∨
    (c.toNat < 0x20 ∧ Piece.ofChar c = .unit c.toNat.toUInt16 ∧
      escapeChar c = '\\' :: 'u' :: padHex 4 c.toNat) := by
  unfold Piece.ofChar
  rcases escapeChar_cases c with ⟨written, plain, quote, slash⟩ | ⟨e, written, other, read⟩ |
    ⟨written, control⟩
  · rw [written]
    exact .inl ⟨rfl, stringBody_plain plain quote slash⟩
  · rw [written]
    exact .inl ⟨rfl, stringBody_letter other read⟩
  · have count : (padHex 4 c.toNat).length = 4 :=
      length_padHex (by decide) (Nat.lt_trans control (by decide))
    refine .inr ⟨control, ?_, written⟩
    rw [written, List.length_cons, List.length_cons, count]
    exact if_pos rfl

/-- The piece stands for the character, whatever comes after it. -/
theorem Piece.text?_ofChar (c : Char) (s : Literal) :
    Literal.text? (Piece.ofChar c :: s) = s.text?.map (c :: ·) := by
  rcases Piece.ofChar_cases c with ⟨read, -⟩ | ⟨control, read, -⟩
  · rw [read]
    rfl
  · obtain ⟨whole, number⟩ := whole_of_control ⟨c.toNat, control⟩
    rw [read, text?_cons_unit whole, number, Char.ofNat_toNat]

/-- The piece that is read for a piece that was written. -/
def Piece.reread : Piece → Piece
  | .char c => Piece.ofChar c
  | .unit u => .unit u
  | .stray => .char (Char.ofNat 0xFFFD)

/-- **A piece that is written is read.** -/
theorem stringBody_piece (p : Piece) (rest : Input) :
    stringBody (p.render.map some ++ rest) =
      (stringBody rest).map fun (s, rest) => (p.reread :: s, rest) := by
  cases p with
  | char c =>
      show stringBody ((escapeChar c).map some ++ rest) =
        (stringBody rest).map fun (s, rest) => (Piece.ofChar c :: s, rest)
      rcases Piece.ofChar_cases c with ⟨read, body⟩ | ⟨control, read, written⟩
      · rw [read, body]
      · obtain ⟨-, number⟩ := whole_of_control ⟨c.toNat, control⟩
        have body := stringBody_unit c.toNat.toUInt16 rest
        rw [number] at body
        rw [read, written, body]
  | unit u => exact stringBody_unit u rest
  | stray => exact stringBody_plain (by decide) (by decide) (by decide) rest

/-! ## Strings -/

/-- The string that is read for one that was written. -/
def Literal.reread (s : Literal) : Literal :=
  s.map Piece.reread

/-- **A string that is written is read** up to its closing quote. -/
theorem stringBody_render (s : Literal) (rest : Input) :
    stringBody ((s.flatMap Piece.render).map some ++ some '"' :: rest) =
      some (s.reread, rest) := by
  induction s with
  | nil => exact stringBody.eq_3 rest
  | cons p s ih =>
      rw [List.flatMap_cons, List.map_append, List.append_assoc, stringBody_piece, ih]
      rfl

/-- **A string means the same** after it was written and read. -/
theorem text?_reread {s : Literal} {text : List Char} (means : s.text? = some text) :
    s.reread.text? = some text := by
  induction s using Literal.text?.induct generalizing text with
  | case1 => exact means
  | case2 c rest ih =>
      obtain ⟨text', means', rfl⟩ := Option.map_eq_some_iff.mp means
      show Literal.text? (Piece.ofChar c :: Literal.reread rest) = _
      rw [Piece.text?_ofChar, ih means']
      rfl
  | case3 high low rest first second ih =>
      have pair (s : Literal) : Literal.text? (.unit high :: .unit low :: s) =
          s.text?.map (Literal.joined high low :: ·) := by
        rw [Literal.text?, if_pos first, if_pos second]
      rw [pair] at means
      obtain ⟨text', means', rfl⟩ := Option.map_eq_some_iff.mp means
      show Literal.text? (.unit high :: .unit low :: Literal.reread rest) = _
      rw [pair, ih means']
      rfl
  | case4 high low rest first second =>
      rw [Literal.text?, if_pos first, if_neg second] at means
      cases means
  | case5 high low rest first second =>
      rw [Literal.text?, if_neg first, if_pos second] at means
      cases means
  | case6 high low rest first second ih =>
      have whole : Literal.isHigh high = false ∧ Literal.isLow high = false :=
        ⟨Bool.eq_false_iff.mpr first, Bool.eq_false_iff.mpr second⟩
      rw [text?_cons_unit whole] at means
      obtain ⟨text', means', rfl⟩ := Option.map_eq_some_iff.mp means
      show Literal.text? (.unit high :: Literal.reread (.unit low :: rest)) = _
      rw [text?_cons_unit whole, ih means']
      rfl
  | case7 u rest alone half =>
      rw [Literal.text?, if_pos half] at means
      · cases means
      · exact alone
  | case8 u rest alone whole ih =>
      have whole : Literal.isHigh u = false ∧ Literal.isLow u = false := by simpa using whole
      rw [text?_cons_unit whole] at means
      obtain ⟨text', means', rfl⟩ := Option.map_eq_some_iff.mp means
      show Literal.text? (.unit u :: Literal.reread rest) = _
      rw [text?_cons_unit whole, ih means']
      rfl
  | case9 rest => cases means

/-- A control character without a letter of its own is read as a unit; a quote is not. -/
example : Literal.reread (.ofText ['\x1b', '"']) = [.unit 0x1b, .char '"'] := by decide

end HexWorld.Json
