import HexWorld.Json.Record
import HexWorld.Proofs.Json.Document

/-!
# `Proofs.Json.Record` — records survive being written and read

A record that was written is read field by field: every name stands for one slot, which holds what
is read for the field.

## Contents
- `Value.IsWritten`: what a value that is written looks like; lists and records of such values.
- `uint64?_reread` and its like, `listOf_reread`, `nullable_reread`: what is found in a field.
- `slots_reread`: the slots of a record that was written.
-/

namespace HexWorld.Json

open Text

/-! ## What is written -/

namespace Value

/-- Numbers are made of digits, every part means something, and containers lie at most `depth`
deep. -/
structure IsWritten (depth : Nat) (v : Value) : Prop where
  proper : v.IsProper
  meaningful : v.isMeaningful depth = true

theorem isProper_itemTokens {items : List Value} (h : ∀ v ∈ items, v.IsProper) :
    ∀ t ∈ itemTokens items, t.IsProper := by
  induction items with
  | nil => exact List.forall_mem_singleton.mpr trivial
  | cons v rest ih =>
      obtain ⟨first, rest_proper⟩ := List.forall_mem_cons.mp h
      rw [itemTokens, List.cons_append, List.forall_mem_cons, List.forall_mem_append]
      exact ⟨trivial, first, ih rest_proper⟩

theorem isProper_memberTokens {members : List (Literal × Value)}
    (h : ∀ m ∈ members, m.2.IsProper) : ∀ t ∈ memberTokens members, t.IsProper := by
  induction members with
  | nil => exact List.forall_mem_singleton.mpr trivial
  | cons member rest ih =>
      obtain ⟨first, rest_proper⟩ := List.forall_mem_cons.mp h
      rw [memberTokens]
      simp only [List.cons_append, List.forall_mem_cons, List.forall_mem_append]
      exact ⟨trivial, trivial, trivial, first, ih rest_proper⟩

theorem itemsMeaningful_of_forall {depth : Nat} {items : List Value}
    (h : ∀ v ∈ items, v.isMeaningful depth = true) : itemsMeaningful depth items = true := by
  induction items with
  | nil => rfl
  | cons v rest ih =>
      obtain ⟨first, rest_meaningful⟩ := List.forall_mem_cons.mp h
      rw [itemsMeaningful, first, ih rest_meaningful]
      rfl

theorem membersMeaningful_of_forall {depth : Nat} {members : List (Literal × Value)}
    (h : ∀ m ∈ members, m.1.text?.isSome = true ∧ m.2.isMeaningful depth = true) :
    membersMeaningful depth members = true := by
  induction members with
  | nil => rfl
  | cons member rest ih =>
      obtain ⟨⟨name, first⟩, rest_meaningful⟩ := List.forall_mem_cons.mp h
      rw [membersMeaningful, name, first, ih rest_meaningful]
      rfl

variable {depth : Nat}

theorem IsWritten.array {items : List Value} (h : ∀ v ∈ items, v.IsWritten depth) :
    (Value.array items).IsWritten (depth + 1) where
  proper := by
    cases items with
    | nil => exact List.forall_mem_cons.mpr ⟨trivial, List.forall_mem_singleton.mpr trivial⟩
    | cons v items =>
        obtain ⟨first, written⟩ := List.forall_mem_cons.mp h
        rw [IsProper, tokens, List.cons_append, List.forall_mem_cons, List.forall_mem_append]
        exact ⟨trivial, first.proper, isProper_itemTokens fun v mem => (written v mem).proper⟩
  meaningful := itemsMeaningful_of_forall fun v mem => (h v mem).meaningful

theorem IsWritten.object {members : List (Literal × Value)}
    (h : ∀ m ∈ members, m.1.text?.isSome = true ∧ m.2.IsWritten depth) :
    (Value.object members).IsWritten (depth + 1) where
  proper := by
    cases members with
    | nil => exact List.forall_mem_cons.mpr ⟨trivial, List.forall_mem_singleton.mpr trivial⟩
    | cons member members =>
        obtain ⟨⟨-, first⟩, written⟩ := List.forall_mem_cons.mp h
        rw [IsProper, tokens]
        simp only [List.cons_append, List.forall_mem_cons, List.forall_mem_append]
        exact ⟨trivial, trivial, trivial, first.proper,
          isProper_memberTokens fun m mem => (written m mem).2.proper⟩
  meaningful := membersMeaningful_of_forall fun m mem => ⟨(h m mem).1, (h m mem).2.meaningful⟩

theorem IsWritten.ofFields {fields : List (String × Value)}
    (h : ∀ f ∈ fields, f.2.IsWritten depth) : (Value.ofFields fields).IsWritten (depth + 1) := by
  refine .object fun m mem => ?_
  obtain ⟨⟨name, v⟩, field, rfl⟩ := List.mem_map.mp mem
  refine ⟨?_, h _ field⟩
  rw [Literal.text?_ofText]
  rfl

@[simp] theorem isWritten_null : Value.null.IsWritten depth :=
  ⟨List.forall_mem_singleton.mpr trivial, rfl⟩

theorem IsWritten.ofOption {α : Type} {write : α → Value} (a? : Option α)
    (h : ∀ a, (write a).IsWritten depth) : (Value.ofOption write a?).IsWritten depth := by
  cases a? with
  | none => exact isWritten_null
  | some a => exact h a

@[simp] theorem isWritten_ofText (text : List Char) : (Value.ofText text).IsWritten depth where
  proper := isProper_ofText text
  meaningful := by
    show (Literal.text? _).isSome = true
    rw [Literal.text?_ofText]
    rfl

@[simp] theorem isWritten_ofString (text : String) : (Value.ofString text).IsWritten depth :=
  isWritten_ofText _

/-- The integers of 64 bits, with or without a sign, are written so that they can be read. -/
theorem int?_ofInt {n : Int} (low : -0x8000000000000000 ≤ n) (high : n < 0x10000000000000000) :
    (Number.ofInt n).int? = some n := by
  have integral : ¬(!(Number.ofInt n).isIntegral) = true := Bool.false_ne_true
  rw [Number.int?, if_neg integral]
  by_cases negative : n < 0
  · have sign : (Number.ofInt n).negative = true := decide_eq_true negative
    have range : n.natAbs ≠ 0 ∧ n.natAbs ≤ 0x8000000000000000 := by omega
    have value : -(n.natAbs : Int) = n := by omega
    rw [if_pos sign]
    exact (if_pos range).trans (congrArg some value)
  · have sign : ¬(Number.ofInt n).negative = true := fun h => negative (of_decide_eq_true h)
    have range : n.natAbs < UInt64.size := by
      show n.natAbs < 0x10000000000000000
      omega
    have value : (n.natAbs : Int) = n := by omega
    rw [if_neg sign]
    exact (if_pos range).trans (congrArg some value)

theorem isWritten_ofInt {n : Int} (low : -0x8000000000000000 ≤ n) (high : n < 0x10000000000000000) :
    (Value.ofInt n).IsWritten depth where
  proper := List.forall_mem_singleton.mpr (List.forall_mem_nil _)
  meaningful := by
    show (Number.double? _).isSome = true
    rw [Number.double?, int?_ofInt low high]
    rfl

@[simp] theorem isWritten_ofUInt64 (n : UInt64) : (Value.ofUInt64 n).IsWritten depth :=
  isWritten_ofInt (by omega) (Int.ofNat_lt.mpr n.toNat_lt)

@[simp] theorem isWritten_ofUInt32 (n : UInt32) : (Value.ofUInt32 n).IsWritten depth := by
  have bound := n.toNat_lt
  exact isWritten_ofInt (by omega) (by omega)

@[simp] theorem isWritten_ofInt64 (n : Int64) : (Value.ofInt64 n).IsWritten depth :=
  isWritten_ofInt n.le_toInt (Int.lt_trans n.toInt_lt (by decide))

@[simp] theorem isWritten_ofInt32 (n : Int32) : (Value.ofInt32 n).IsWritten depth := by
  have low := n.le_toInt
  have high := n.toInt_lt
  exact isWritten_ofInt (by omega) (by omega)

end Value

/-! ## What is found -/

section Words

/-- An integer of a range of at most 64 bits is found again. -/
theorem int?_reread {range : IntegerRange} {n : Int} (within : range.contains n = true)
    (low : -0x8000000000000000 ≤ n) (high : n < 0x10000000000000000) :
    (Value.ofInt n).reread.int? range = some n := by
  show ((Number.ofInt n).int?).filter range.contains = some n
  rw [Value.int?_ofInt low high, Option.filter_some, if_pos within]

@[simp] theorem uint64?_reread (n : UInt64) : (Value.ofUInt64 n).reread.uint64? = some n := by
  have bound : (n.toNat : Int) < 0x10000000000000000 := Int.ofNat_lt.mpr n.toNat_lt
  have within : (IntegerRange.unsigned 64).contains n.toNat = true := by
    rw [contains_iff]
    exact ⟨Int.natCast_nonneg _, Int.le_sub_one_of_lt bound⟩
  show ((Value.ofInt n.toNat).reread.int? (.unsigned 64)).map _ = _
  rw [int?_reread within (by omega) bound]
  exact congrArg some n.ofNat_toNat

@[simp] theorem uint32?_reread (n : UInt32) : (Value.ofUInt32 n).reread.uint32? = some n := by
  have bound : (n.toNat : Int) < 0x100000000 := Int.ofNat_lt.mpr n.toNat_lt
  have within : (IntegerRange.unsigned 32).contains n.toNat = true := by
    rw [contains_iff]
    exact ⟨Int.natCast_nonneg _, Int.le_sub_one_of_lt bound⟩
  show ((Value.ofInt n.toNat).reread.int? (.unsigned 32)).map _ = _
  rw [int?_reread within (by omega) (by omega)]
  exact congrArg some n.ofNat_toNat

@[simp] theorem int64?_reread (n : Int64) : (Value.ofInt64 n).reread.int64? = some n := by
  have within : (IntegerRange.signed 64).contains n.toInt = true := by
    rw [contains_iff]
    exact ⟨n.le_toInt, Int.le_sub_one_of_lt n.toInt_lt⟩
  show ((Value.ofInt n.toInt).reread.int? (.signed 64)).map _ = _
  rw [int?_reread within n.le_toInt (Int.lt_trans n.toInt_lt (by decide))]
  exact congrArg some n.ofInt_toInt

@[simp] theorem int32?_reread (n : Int32) : (Value.ofInt32 n).reread.int32? = some n := by
  have low := n.le_toInt
  have high := n.toInt_lt
  have within : (IntegerRange.signed 32).contains n.toInt = true := by
    rw [contains_iff]
    exact ⟨low, Int.le_sub_one_of_lt high⟩
  show ((Value.ofInt n.toInt).reread.int? (.signed 32)).map _ = _
  rw [int?_reread within (by omega) (by omega)]
  exact congrArg some n.ofInt_toInt

end Words

@[simp] theorem text?_reread_ofText (text : List Char) :
    (Value.ofText text).reread.text? = some text :=
  text?_reread (Literal.text?_ofText text)

@[simp] theorem text?_reread_ofString (text : String) :
    (Value.ofString text).reread.text? = some text.toList :=
  text?_reread_ofText text.toList

@[simp] theorem string?_reread (text : String) :
    (Value.ofString text).reread.string? = some text := by
  rw [Value.string?, text?_reread_ofString]
  exact congrArg some String.ofList_toList

variable {α β : Type}

@[simp] theorem required_some (read : Value → Option α) (v : Value) :
    required read (some v) = read v := rfl

@[simp] theorem optional_some (absent : α) (read : Value → Option α) (v : Value) :
    Json.optional absent read (some v) = read v := rfl

theorem mapM_eq_some_map {f : α → Option β} {g : α → β} {items : List α}
    (h : ∀ a ∈ items, f a = some (g a)) : items.mapM f = some (items.map g) := by
  induction items with
  | nil => rfl
  | cons a rest ih =>
      obtain ⟨first, rest_found⟩ := List.forall_mem_cons.mp h
      rw [List.mapM_cons, first, ih rest_found]
      rfl

/-- A list is found again if its items are. -/
theorem listOf_reread {read : Value → Option α} {write : α → Value} (items : List α)
    (h : ∀ a, read (write a).reread = some a) :
    listOf read (Value.array (items.map write)).reread = some items := by
  show (Value.itemsReread (items.map write)).mapM read = some items
  rw [Value.itemsReread_eq, List.map_map, List.mapM_map]
  exact (mapM_eq_some_map fun a _ => h a).trans (congrArg some (List.map_id items))

/-- What may be absent is found again if it can be told from an absent one. -/
theorem nullable_reread {read : Value → Option α} {write : α → Value} (a? : Option α)
    (h : ∀ a, read (write a).reread = some a) (present : ∀ a, (write a).reread ≠ .null) :
    nullable read (some (Value.ofOption write a?).reread) = some a? := by
  cases a? with
  | none => rfl
  | some a =>
      show nullable read (some (write a).reread) = some (some a)
      rw [nullable, h]
      · rfl
      · exact present a

/-! ## Slots -/

/-- A field is the only member with its name. -/
theorem filter_name {fields : List (String × Value)} (distinct : (fields.map Prod.fst).Nodup)
    {f : String × Value} (mem : f ∈ fields) :
    fields.filter (·.1.toList = f.1.toList) = [f] := by
  induction fields with
  | nil => cases mem
  | cons g rest ih =>
      rw [List.map_cons, List.nodup_cons] at distinct
      obtain ⟨fresh, distinct⟩ := distinct
      rcases List.mem_cons.mp mem with rfl | later
      · have none_later : rest.filter (·.1.toList = f.1.toList) = [] := by
          rw [List.filter_eq_nil_iff]
          intro g later same
          have name : g.1 = f.1 := String.toList_inj.mp (of_decide_eq_true same)
          exact fresh (name ▸ List.mem_map_of_mem later)
        rw [List.filter_cons_of_pos (by simp), none_later]
      · have other : g.1.toList ≠ f.1.toList := by
          intro same
          have name : g.1 = f.1 := String.toList_inj.mp same
          exact fresh (name ▸ List.mem_map_of_mem later)
        rw [List.filter_cons_of_neg (by simpa using other), ih distinct later]

theorem member?_of_mem {fields : List (String × Value)} (distinct : (fields.map Prod.fst).Nodup)
    {f : String × Value} (mem : f ∈ fields) :
    member? (fields.map fun f => (f.1.toList, f.2.reread)) f.1 = some (some f.2.reread) := by
  have found : (fields.map fun f => (f.1.toList, f.2.reread)).filter (·.1 = f.1.toList) =
      [(f.1.toList, f.2.reread)] := by
    rw [List.filter_map]
    show (fields.filter (·.1.toList = f.1.toList)).map _ = _
    rw [filter_name distinct mem]
    rfl
  rw [member?, found]

theorem reread_ofFields (fields : List (String × Value)) : (Value.ofFields fields).reread =
    .object (fields.map fun f => (Literal.reread (.ofText f.1.toList), f.2.reread)) := by
  show Value.object (Value.membersReread _) = _
  rw [Value.membersReread_eq, List.map_map]
  rfl

/-- The names of the members are the texts that were written for them. -/
theorem namedMembers?_reread (fields : List (String × Value)) :
    namedMembers? (fields.map fun f => (Literal.reread (.ofText f.1.toList), f.2.reread)) =
      some (fields.map fun f => (f.1.toList, f.2.reread)) := by
  rw [namedMembers?, List.mapM_map]
  refine mapM_eq_some_map fun f _ => ?_
  show (Literal.text? _).map _ = _
  rw [text?_reread (Literal.text?_ofText _)]
  rfl

/-- **The slots of a record that was written** hold what is read for its fields. -/
theorem slots_reread {fields : List (String × Value)} {names : List String}
    (named : fields.map Prod.fst = names) (distinct : names.Nodup) :
    slots names (Value.ofFields fields).reread = some (fields.map fun f => some f.2.reread) := by
  subst named
  rw [reread_ofFields]
  show (namedMembers? _).bind _ = _
  rw [namedMembers?_reread]
  show (fields.map Prod.fst).mapM (member? _) = _
  rw [List.mapM_map]
  exact mapM_eq_some_map fun f mem => member?_of_mem distinct mem

end HexWorld.Json
