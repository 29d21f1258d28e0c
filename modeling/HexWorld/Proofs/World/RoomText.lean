import HexWorld.Proofs.Json.Document
import HexWorld.Proofs.Text.Numeral
import HexWorld.World.Json

/-!
# `Proofs.World.RoomText` — rooms and the texts that name them

A room has many texts and one of them is canonical. `Writes` is the grammar of the texts, and says
nothing of the order in which a reader cuts, splits and cuts again. The reader accepts the grammar
and nothing else; the canonical text is read back as its room, so it tells rooms apart wherever it
stands for them, as a string or as a name in an object.

## Contents
- `Writes`: the texts of a room.
- `parseAxis?_eq_some_iff`, `ofText?_eq_some_iff`, `parse_eq_ok_iff`: what is read.
- `parse_text`, `text_injective`: the canonical text.
- `ofJson?_string`, `names_toJson`: rooms in JSON.
- `reads_and_writes_rooms`.
-/

namespace HexWorld.RoomId

open Text Json

/-! ## The grammar -/

/-- The texts of the room in column `q` and row `r`: two numerals on either side of a separator,
with blanks around each of them. -/
inductive Writes : List Char → Int → Int → Prop where
  | intro {front column behind before row back : List Char} {separator : Char} {q r : Int}
      (front_blank : IsPadding front) (column_numeral : Spells column q)
      (behind_blank : IsPadding behind) (separates : separator = ',' ∨ separator = ';')
      (before_blank : IsPadding before) (row_numeral : Spells row r)
      (back_blank : IsPadding back) :
      Writes (front ++ column ++ behind ++ separator :: (before ++ row ++ back)) q r

/-- A coordinate. -/
def InRange (n : Int) : Prop :=
  -0x80000000 ≤ n ∧ n < 0x80000000

theorem inRange_toInt (n : Int32) : InRange n.toInt :=
  ⟨n.le_toInt, n.toInt_lt⟩

theorem isSeparator_iff {c : Char} : isSeparator c = true ↔ c = ',' ∨ c = ';' := by
  simp [isSeparator]

theorem isSeparator_of_isBlank {c : Char} (h : isBlank c = true) : isSeparator c = false := by
  rw [Bool.eq_false_iff, Ne, isSeparator_iff]
  rintro (rfl | rfl) <;> cases h

theorem isSeparator_of_spells {numeral : List Char} {n : Int} (h : Spells numeral n) {c : Char}
    (hc : c ∈ numeral) : isSeparator c = false := by
  rw [Bool.eq_false_iff, Ne, isSeparator_iff]
  rcases h.mem hc with digit | rfl | rfl
  · rintro (rfl | rfl) <;> cases digit
  · decide
  · decide

theorem isTrimmed_of_spells {numeral : List Char} {n : Int} (h : Spells numeral n) :
    IsTrimmed numeral where
  first _ hc := h.not_isBlank (List.mem_of_head? hc)
  last _ hc := h.not_isBlank (List.mem_of_getLast? hc)

/-! ## Reading -/

theorem contains_signed_iff {n : Int} : (IntegerRange.signed 32).contains n = true ↔ InRange n := by
  rw [contains_iff]
  show -(2147483648 : Int) ≤ n ∧ n ≤ 2147483648 - 1 ↔ -0x80000000 ≤ n ∧ n < 0x80000000
  omega

/-- One coordinate is read from its numerals, with blanks around them. -/
theorem parseAxis?_eq_some_iff {text : List Char} {n : Int32} :
    parseAxis? text = some n ↔ ∃ before numeral after, text = before ++ numeral ++ after ∧
      IsPadding before ∧ Spells numeral n.toInt ∧ IsPadding after := by
  have read {m : Int} : readInteger (.signed 32) (trim text) = .ok m ↔
      Spells (trim text) m ∧ InRange m := by
    rw [readInteger_eq_ok_iff (by decide) (by decide), contains_signed_iff]
  constructor
  · intro h
    unfold parseAxis? at h
    cases result : readInteger (.signed 32) (trim text) with
    | error fault =>
        rw [result] at h
        cases h
    | ok m =>
        rw [result] at h
        obtain ⟨numeral, low, high⟩ := read.mp result
        obtain rfl : Int32.ofInt m = n := Option.some.inj h
        obtain ⟨before, after, split, front, back⟩ := exists_padding text
        refine ⟨before, trim text, after, split, front, ?_, back⟩
        rw [Int32.toInt_ofInt_of_le low high]
        exact numeral
  · rintro ⟨before, numeral, after, rfl, front, h, back⟩
    have middle : trim (before ++ numeral ++ after) = numeral :=
      trim_padded front back (isTrimmed_of_spells h)
    rw [middle] at read
    unfold parseAxis?
    rw [middle, read.mpr ⟨h, inRange_toInt n⟩]
    exact congrArg some (Int32.ofInt_toInt n)

/-- The two sides of the first separator. -/
theorem ofText?_eq_some_iff_split {text : List Char} {room : RoomId} :
    ofText? text = some room ↔ ∃ left separator right, trim text = left ++ separator :: right ∧
      (∀ c ∈ left, isSeparator c = false) ∧ isSeparator separator = true ∧
      parseAxis? left = some room.axial.q ∧ parseAxis? right = some room.axial.r := by
  constructor
  · intro h
    unfold ofText? at h
    have split := List.takeWhile_append_dropWhile (p := fun c => !isSeparator c) (l := trim text)
    have left := List.all_eq_true.mp (List.all_takeWhile (p := fun c => !isSeparator c)
      (l := trim text))
    have stop := List.head?_dropWhile_not (fun c => !isSeparator c) (trim text)
    simp only at h
    generalize List.takeWhile (fun c => !isSeparator c) (trim text) = taken at h split left
    generalize List.dropWhile (fun c => !isSeparator c) (trim text) = dropped at h split stop
    cases dropped with
    | nil => cases h
    | cons separator right =>
        cases column : parseAxis? taken with
        | none => simp [column] at h
        | some q =>
            cases row : parseAxis? right with
            | none => simp [column, row] at h
            | some r =>
                simp only [column, row] at h
                cases h
                exact ⟨taken, separator, right, split.symm, fun c hc => by simpa using left c hc,
                  by simpa using stop, column, row⟩
  · rintro ⟨left, separator, right, split, plain, stop, column, row⟩
    have pass : ∀ c ∈ left, (!isSeparator c) = true := fun c hc => by rw [plain c hc]; rfl
    have taken : (trim text).takeWhile (fun c => !isSeparator c) = left := by
      rw [split, List.takeWhile_append_of_pos pass, List.takeWhile_cons_of_neg (by simp [stop]),
        List.append_nil]
    have dropped : (trim text).dropWhile (fun c => !isSeparator c) = separator :: right := by
      rw [split, List.dropWhile_append_of_pos pass, List.dropWhile_cons_of_neg (by simp [stop])]
    unfold ofText?
    simp only [taken, dropped, column, row]
    rfl

/-- **The reader accepts the grammar and nothing else.** -/
theorem ofText?_eq_some_iff {text : List Char} {room : RoomId} :
    ofText? text = some room ↔ Writes text room.axial.q.toInt room.axial.r.toInt := by
  rw [ofText?_eq_some_iff_split]
  constructor
  · rintro ⟨left, separator, right, split, -, separates, column, row⟩
    obtain ⟨front, q, behind, rfl, front_blank, column_numeral, behind_blank⟩ :=
      parseAxis?_eq_some_iff.mp column
    obtain ⟨before, r, back, rfl, before_blank, row_numeral, back_blank⟩ :=
      parseAxis?_eq_some_iff.mp row
    obtain ⟨outer, last, whole, outer_blank, last_blank⟩ := exists_padding text
    -- The blanks at the ends of the text join those around the numerals.
    have joined : text =
        (outer ++ front) ++ q ++ behind ++ separator :: (before ++ r ++ (back ++ last)) := by
      rw [whole, split]
      simp only [List.append_assoc, List.cons_append]
    rw [joined]
    exact .intro (List.forall_mem_append.mpr ⟨outer_blank, front_blank⟩) column_numeral
      behind_blank (isSeparator_iff.mp separates) before_blank row_numeral
      (List.forall_mem_append.mpr ⟨back_blank, last_blank⟩)
  · rintro ⟨front_blank, column, behind_blank, separates, before_blank, row, back_blank⟩
    rename_i front q behind before r back separator
    refine ⟨q ++ behind, separator, before ++ r, ?_, ?_, isSeparator_iff.mpr separates, ?_, ?_⟩
    · have ends : IsTrimmed (q ++ (behind ++ separator :: before) ++ r) :=
        (isTrimmed_of_spells column).between _ (isTrimmed_of_spells row) column.nonempty
          row.nonempty
      have inner : q ++ behind ++ separator :: (before ++ r) =
          q ++ (behind ++ separator :: before) ++ r := by
        simp only [List.append_assoc, List.cons_append]
      have whole : front ++ q ++ behind ++ separator :: (before ++ r ++ back) =
          front ++ (q ++ (behind ++ separator :: before) ++ r) ++ back := by
        simp only [List.append_assoc, List.cons_append]
      rw [whole, inner]
      exact trim_padded front_blank back_blank ends
    · exact List.forall_mem_append.mpr ⟨fun c hc => isSeparator_of_spells column hc,
        fun c hc => isSeparator_of_isBlank (behind_blank c hc)⟩
    · exact parseAxis?_eq_some_iff.mpr
        ⟨[], q, behind, rfl, List.forall_mem_nil _, column, behind_blank⟩
    · exact parseAxis?_eq_some_iff.mpr
        ⟨before, r, [], (List.append_nil _).symm, before_blank, row, List.forall_mem_nil _⟩

theorem parse_eq_ok_iff {text : String} {room : RoomId} :
    parse text = .ok room ↔ Writes text.toList room.axial.q.toInt room.axial.r.toInt := by
  rw [← ofText?_eq_some_iff]
  unfold parse
  cases ofText? text.toList <;> simp

/-- A text that is refused is told as it was given. -/
theorem parse_eq_error_iff {text : String} :
    parse text = .error ⟨text⟩ ↔ ¬∃ q r, Writes text.toList q r ∧ InRange q ∧ InRange r := by
  constructor
  · rintro refused ⟨q, r, writes, ⟨low, high⟩, low', high'⟩
    have read : parse text = .ok ⟨.ofInt q, .ofInt r⟩ := by
      rw [parse_eq_ok_iff, Int32.toInt_ofInt_of_le low high, Int32.toInt_ofInt_of_le low' high']
      exact writes
    rw [read] at refused
    cases refused
  · intro none
    cases result : ofText? text.toList with
    | none =>
        unfold parse
        rw [result]
    | some room =>
        exact absurd ⟨_, _, ofText?_eq_some_iff.mp result, inRange_toInt _, inRange_toInt _⟩ none

/-- Blanks around a text do not matter to the room that it names. -/
theorem parse_trim_eq_ok_iff {text : String} {room : RoomId} :
    parse (String.ofList (trim text.toList)) = .ok room ↔ parse text = .ok room := by
  have same : ofText? (trim text.toList) = ofText? text.toList := by
    unfold ofText?
    rw [trim_trim]
  unfold parse
  rw [String.toList_ofList, same]
  cases ofText? text.toList <;> simp

/-! ## The canonical text -/

theorem writes_text (room : RoomId) :
    Writes room.text.toList room.axial.q.toInt room.axial.r.toInt := by
  have canonical : room.text.toList =
      [] ++ (toString room.axial.q.toInt).toList ++ [] ++
        ',' :: ([] ++ (toString room.axial.r.toInt).toList ++ []) := by
    show (toString room.axial.q.toInt ++ "," ++ toString room.axial.r.toInt).toList = _
    simp
  have blank : IsPadding [] := List.forall_mem_nil _
  rw [canonical]
  exact .intro blank (spells_toString _) blank (.inl rfl) blank (spells_toString _) blank

theorem parse_text (room : RoomId) : parse room.text = .ok room :=
  parse_eq_ok_iff.mpr (writes_text room)

theorem text_injective {a b : RoomId} (h : a.text = b.text) : a = b := by
  have same : parse a.text = .ok b := h ▸ parse_text b
  exact Except.ok.inj ((parse_text a).symm.trans same)

/-! ## JSON -/

/-- A document that is a text is the room of that text. -/
theorem ofJson?_string (text : String) :
    (Value.ofString? (Value.ofString text).render).bind ofJson? = (parse text).toOption := by
  have means : Literal.text? (Literal.reread (.ofText text.toList)) = some text.toList :=
    text?_reread (Literal.text?_ofText _)
  rw [Value.ofString, Value.ofString?_render (Value.isProper_ofText text.toList)]
  show (Literal.text? (Literal.reread (.ofText text.toList))).bind ofText? = _
  rw [means]
  show ofText? text.toList = _
  unfold parse
  cases ofText? text.toList <;> rfl

/-- The names of the members are the texts of the rooms, and no two are the same. -/
theorem names_toJson {α : Type} (f : α → Value) (m : RoomMap α) : ∃ members,
    m.toJson f = .object members ∧
      members.map (·.1.text?) = m.keys.map (fun room => some room.text.toList) ∧
      (members.map (·.1.text?)).Nodup := by
  have names : (m.entries.map fun e => (Literal.ofText e.1.text.toList, f e.2)).map (·.1.text?) =
      m.keys.map fun room => some room.text.toList := by
    rw [RoomMap.keys, List.map_map, List.map_map]
    exact List.map_congr_left fun e _ => Literal.text?_ofText _
  refine ⟨m.entries.map fun e => (Literal.ofText e.1.text.toList, f e.2), ?_, names, ?_⟩
  · rw [RoomMap.toJson, Value.ofFields, List.map_map]
    rfl
  · rw [names, RoomMap.keys, List.map_map, List.nodup_iff_pairwise_ne, List.pairwise_map]
    refine m.increasing.imp fun {a b} before same => ?_
    have same_room : a.1 = b.1 :=
      text_injective (String.toList_inj.mp (Option.some.inj same))
    rw [same_room] at before
    exact RoomId.lt_irrefl b.1 before

/-- **Rooms and their texts.** A text is read as a room exactly when it is one of the room's texts,
and a text of no room is refused as it was given. The canonical text of a room is read back as the
room, also from a document; it is the only room with that text, so the members of an object over
rooms have different names; and reading and writing once leaves a canonical text, which stays. -/
theorem reads_and_writes_rooms :
    (∀ text room, parse text = .ok room ↔
      Writes text.toList room.axial.q.toInt room.axial.r.toInt) ∧
    (∀ text, parse text = .error ⟨text⟩ ↔
      ¬∃ q r, Writes text.toList q r ∧ InRange q ∧ InRange r) ∧
    (∀ room, parse room.text = .ok room) ∧
    (∀ a b : RoomId, a.text = b.text ↔ a = b) ∧
    (∀ {α : Type} (f : α → Value) (m : RoomMap α), ∃ members, m.toJson f = .object members ∧
      members.map (·.1.text?) = m.keys.map (fun room => some room.text.toList) ∧
      (members.map (·.1.text?)).Nodup) ∧
    (∀ text, ((parse text).bind fun room => (parse room.text).map RoomId.text) =
      (parse text).map RoomId.text) ∧
    (∀ text, (Value.ofString? (Value.ofString text).render).bind ofJson? =
      (parse text).toOption) ∧
    ∀ room : RoomId, (Value.ofString? room.toJson.render).bind ofJson? = some room := by
  refine ⟨fun _ _ => parse_eq_ok_iff, fun _ => parse_eq_error_iff, parse_text, ?_, names_toJson, ?_,
    ofJson?_string, ?_⟩
  · exact fun a b => ⟨text_injective, congrArg RoomId.text⟩
  · intro text
    cases parse text with
    | error refused => rfl
    | ok room =>
        show (parse room.text).map RoomId.text = .ok room.text
        rw [parse_text]
        rfl
  · intro room
    have read := ofJson?_string room.text
    rw [parse_text] at read
    exact read

/-- Other blanks than spaces, a plus sign, leading zeros and a negative zero. -/
example : (parse "\u2003+007\u0085;\t-0\n").toOption = some ⟨7, 0⟩ := by decide

end HexWorld.RoomId
