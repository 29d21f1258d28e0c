import HexWorld.Json.Document
import HexWorld.Proofs.Json.Token
import HexWorld.Proofs.Text.Utf8

/-!
# `Proofs.Json.Document` — values survive being written and read

A value is read back as the same tree, with its strings as they are spelled. Every part of it means
what it did.

## Contents
- `Value.reread`: the value that is read for one that was written.
- `ofTokens?_tokens`: the tokens of a value are put together again.
- `Value.IsProper`, `ofText?_renderChars`, `ofString?_render`, `ofBytes?_render`: a value is read
  from its text and from the bytes of the text.
- `isMeaningful_reread`: what meant something still does.
-/

namespace HexWorld.Json

namespace Value

/-! ## What is read -/

mutual
/-- The value that is read for one that was written. -/
def reread : Value → Value
  | .null => .null
  | .bool b => .bool b
  | .number n => .number n
  | .string s => .string (Literal.reread s)
  | .array items => .array (itemsReread items)
  | .object members => .object (membersReread members)

def itemsReread : List Value → List Value
  | [] => []
  | v :: rest => v.reread :: itemsReread rest

def membersReread : List (Literal × Value) → List (Literal × Value)
  | [] => []
  | (name, v) :: rest => (Literal.reread name, v.reread) :: membersReread rest
end

theorem itemsReread_eq (items : List Value) : itemsReread items = items.map reread := by
  induction items with
  | nil => rfl
  | cons v rest ih => rw [itemsReread, ih, List.map_cons]

theorem membersReread_eq (members : List (Literal × Value)) :
    membersReread members = members.map fun (name, v) => (Literal.reread name, v.reread) := by
  induction members with
  | nil => rfl
  | cons member rest ih =>
      obtain ⟨name, v⟩ := member
      rw [membersReread, ih, List.map_cons]

mutual
theorem tokens_reread : ∀ v : Value, v.reread.tokens = v.tokens.map Token.reread
  | .null | .bool _ | .number _ | .string _ => rfl
  | .array [] | .object [] => rfl
  | .array (v :: rest) => by
      show Token.arrayOpen :: v.reread.tokens ++ itemTokens (itemsReread rest) = _
      rw [tokens_reread v, itemTokens_reread rest, tokens, List.map_append]
      rfl
  | .object ((name, v) :: rest) => by
      show Token.objectOpen :: .string (Literal.reread name) :: .colon :: v.reread.tokens ++
        memberTokens (membersReread rest) = _
      rw [tokens_reread v, memberTokens_reread rest, tokens, List.map_append]
      rfl

theorem itemTokens_reread : ∀ items : List Value,
    itemTokens (itemsReread items) = (itemTokens items).map Token.reread
  | [] => rfl
  | v :: rest => by
      show Token.comma :: v.reread.tokens ++ itemTokens (itemsReread rest) = _
      rw [tokens_reread v, itemTokens_reread rest, itemTokens, List.map_append]
      rfl

theorem memberTokens_reread : ∀ members : List (Literal × Value),
    memberTokens (membersReread members) = (memberTokens members).map Token.reread
  | [] => rfl
  | (name, v) :: rest => by
      show Token.comma :: .string (Literal.reread name) :: .colon :: v.reread.tokens ++
        memberTokens (membersReread rest) = _
      rw [tokens_reread v, memberTokens_reread rest, memberTokens, List.map_append]
      rfl
end

/-! ## Tokens put together again -/

open Assembly

/-- Where a list may also be closed, a value is read as it is elsewhere: it does not begin with a
closing bracket. -/
theorem foldlM_valueOrClose (v : Value) (frames : List Frame) :
    v.tokens.foldlM step ⟨.valueOrClose, frames⟩ = v.tokens.foldlM step ⟨.value, frames⟩ := by
  have begins : ∃ t ts, v.tokens = t :: ts ∧ t ≠ .arrayClose := by
    cases v with
    | array items => cases items <;> exact ⟨_, _, rfl, nofun⟩
    | object members => cases members <;> exact ⟨_, _, rfl, nofun⟩
    | _ => exact ⟨_, _, rfl, nofun⟩
  obtain ⟨t, ts, split, other⟩ := begins
  have first : step ⟨.valueOrClose, frames⟩ t = step ⟨.value, frames⟩ t := if_neg other
  rw [split, List.foldlM_cons, List.foldlM_cons, first]

mutual
/-- The tokens of a value put the value where it belongs, whatever containers are open. -/
theorem foldlM_tokens : ∀ (v : Value) (frames : List Frame),
    v.tokens.foldlM step ⟨.value, frames⟩ = put v frames
  | .null, frames | .bool _, frames | .number _, frames | .string _, frames => bind_pure _
  | .array [], frames => bind_pure (put (.array []) frames)
  | .object [], frames => bind_pure (put (.object []) frames)
  | .array (v :: rest), frames => by
      show (v.tokens ++ itemTokens rest).foldlM step ⟨.valueOrClose, .array [] :: frames⟩ = _
      rw [List.foldlM_append, foldlM_valueOrClose, foldlM_tokens v]
      exact foldlM_itemTokens rest [v] frames
  | .object ((name, v) :: rest), frames => by
      show (v.tokens ++ memberTokens rest).foldlM step ⟨.value, .member [] name :: frames⟩ = _
      rw [List.foldlM_append, foldlM_tokens v]
      exact foldlM_memberTokens rest [(name, v)] frames

/-- Further items come after those that are there, which are kept last first. -/
theorem foldlM_itemTokens : ∀ (items done : List Value) (frames : List Frame),
    (itemTokens items).foldlM step ⟨.commaOrClose, .array done :: frames⟩ =
      put (.array (done.reverse ++ items)) frames
  | [], done, frames => by
      rw [List.append_nil]
      exact bind_pure _
  | v :: rest, done, frames => by
      show (v.tokens ++ itemTokens rest).foldlM step ⟨.value, .array done :: frames⟩ = _
      rw [List.foldlM_append, foldlM_tokens v]
      have next := foldlM_itemTokens rest (v :: done) frames
      rw [List.reverse_cons, List.append_assoc] at next
      exact next

theorem foldlM_memberTokens : ∀ (members done : List (Literal × Value)) (frames : List Frame),
    (memberTokens members).foldlM step ⟨.commaOrClose, .object done :: frames⟩ =
      put (.object (done.reverse ++ members)) frames
  | [], done, frames => by
      rw [List.append_nil]
      exact bind_pure _
  | (name, v) :: rest, done, frames => by
      show (v.tokens ++ memberTokens rest).foldlM step ⟨.value, .member done name :: frames⟩ = _
      rw [List.foldlM_append, foldlM_tokens v]
      have next := foldlM_memberTokens rest ((name, v) :: done) frames
      rw [List.reverse_cons, List.append_assoc] at next
      exact next
end

/-- **The tokens of a value are put together to the value.** -/
theorem ofTokens?_tokens (v : Value) : ofTokens? v.tokens = some v := by
  show (v.tokens.foldlM step ⟨.value, []⟩).bind result? = _
  rw [foldlM_tokens]
  rfl

/-! ## Documents -/

/-- The fractions of all numbers hold decimal digits. -/
def IsProper (v : Value) : Prop :=
  ∀ t ∈ v.tokens, t.IsProper

theorem isProper_ofText (text : List Char) : (ofText text).IsProper :=
  List.forall_mem_singleton.mpr trivial

section Separation

open Token

theorem separated_cons {t : Token} {ts : List Token} (other : t.isNumber = false)
    (h : Separated ts) : Separated (t :: ts) :=
  ⟨fun number => absurd number (by rw [other]; exact Bool.false_ne_true), h⟩

theorem head_itemTokens (items : List Value) (ts : List Token) :
    ∀ t ∈ (itemTokens items ++ ts).head?, t.isNumber = false := by
  cases items <;> rintro _ ⟨⟩ <;> rfl

theorem head_memberTokens (members : List (Literal × Value)) (ts : List Token) :
    ∀ t ∈ (memberTokens members ++ ts).head?, t.isNumber = false := by
  cases members <;> rintro _ ⟨⟩ <;> rfl

mutual
theorem separated_tokens : ∀ (v : Value) {ts : List Token},
    (∀ t ∈ ts.head?, t.isNumber = false) → Separated ts → Separated (v.tokens ++ ts)
  | .null, _, _, h | .bool _, _, _, h | .string _, _, _, h => separated_cons rfl h
  | .number _, _, apart, h => ⟨fun _ => apart, h⟩
  | .array [], _, _, h | .object [], _, _, h => separated_cons rfl (separated_cons rfl h)
  | .array (v :: rest), ts, apart, h => by
      have items := separated_itemTokens rest h
      rw [tokens, List.cons_append, List.cons_append, List.append_assoc]
      exact separated_cons rfl (separated_tokens v (head_itemTokens rest ts) items)
  | .object ((name, v) :: rest), ts, apart, h => by
      have members := separated_memberTokens rest h
      rw [tokens, List.cons_append, List.cons_append, List.append_assoc]
      exact separated_cons rfl (separated_cons rfl (separated_cons rfl
        (separated_tokens v (head_memberTokens rest ts) members)))

theorem separated_itemTokens : ∀ (items : List Value) {ts : List Token},
    Separated ts → Separated (itemTokens items ++ ts)
  | [], _, h => separated_cons rfl h
  | v :: rest, ts, h => by
      have items := separated_itemTokens rest h
      rw [itemTokens, List.cons_append, List.cons_append, List.append_assoc]
      exact separated_cons rfl (separated_tokens v (head_itemTokens rest ts) items)

theorem separated_memberTokens : ∀ (members : List (Literal × Value)) {ts : List Token},
    Separated ts → Separated (memberTokens members ++ ts)
  | [], _, h => separated_cons rfl h
  | (name, v) :: rest, ts, h => by
      have members := separated_memberTokens rest h
      rw [memberTokens, List.cons_append, List.cons_append, List.append_assoc]
      exact separated_cons rfl (separated_cons rfl (separated_cons rfl
        (separated_tokens v (head_memberTokens rest ts) members)))
end

end Separation

/-- **A value is read back from its text.** -/
theorem ofText?_renderChars {v : Value} (proper : v.IsProper) :
    ofText? v.renderChars = some v.reread := by
  have separated : Token.Separated v.tokens := by
    have alone : Token.Separated (v.tokens ++ []) := separated_tokens v nofun trivial
    rwa [List.append_nil] at alone
  show (Token.scan? ((v.tokens.flatMap Token.render).map some)).bind ofTokens? = _
  rw [Token.scan?_render proper separated]
  show ofTokens? (v.tokens.map Token.reread) = _
  rw [← tokens_reread, ofTokens?_tokens]

theorem ofString?_render {v : Value} (proper : v.IsProper) :
    ofString? v.render = some v.reread := by
  rw [ofString?, render, String.toList_ofList, ofText?_renderChars proper]

/-- **A value is read back from the bytes of its text.** -/
theorem ofBytes?_render {v : Value} (proper : v.IsProper) :
    ofBytes? v.render.toUTF8.toList = some v.reread := by
  rw [ofBytes?, Text.Utf8.decode_toUTF8]
  exact ofString?_render proper

/-! ## Meaning -/

theorem isSome_text?_reread {s : Literal} (means : s.text?.isSome = true) :
    (Literal.reread s).text?.isSome = true := by
  obtain ⟨text, means⟩ := Option.isSome_iff_exists.mp means
  rw [text?_reread means]
  rfl

mutual
/-- **Every part of a value still means something** after it was written and read. -/
theorem isMeaningful_reread : ∀ {v : Value} {depth : Nat},
    v.isMeaningful depth = true → v.reread.isMeaningful depth = true
  | .null, _, h | .bool _, _, h | .number _, _, h => h
  | .string _, _, h => isSome_text?_reread h
  | .array _, 0, h | .object _, 0, h => h
  | .array _, _ + 1, h => itemsMeaningful_reread h
  | .object _, _ + 1, h => membersMeaningful_reread h

theorem itemsMeaningful_reread : ∀ {items : List Value} {depth : Nat},
    itemsMeaningful depth items = true → itemsMeaningful depth (itemsReread items) = true
  | [], _, h => h
  | v :: rest, _, h => by
      rw [itemsMeaningful, Bool.and_eq_true] at h
      rw [itemsReread, itemsMeaningful, Bool.and_eq_true]
      exact ⟨isMeaningful_reread h.1, itemsMeaningful_reread h.2⟩

theorem membersMeaningful_reread : ∀ {members : List (Literal × Value)} {depth : Nat},
    membersMeaningful depth members = true →
      membersMeaningful depth (membersReread members) = true
  | [], _, h => h
  | (name, v) :: rest, _, h => by
      rw [membersMeaningful, Bool.and_eq_true, Bool.and_eq_true] at h
      rw [membersReread, membersMeaningful, Bool.and_eq_true, Bool.and_eq_true]
      exact ⟨⟨isSome_text?_reread h.1.1, isMeaningful_reread h.1.2⟩,
        membersMeaningful_reread h.2⟩
end

end Value

end HexWorld.Json
