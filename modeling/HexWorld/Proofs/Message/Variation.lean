import HexWorld.Proofs.Message.Envelope

/-!
# `Proofs.Message.Variation` — values that differ in what a reader may not mind

A record is read from an object by the names of its fields. The order of the members does not
matter, members with other names are of no account, and a field that is given twice is an error, at
any depth. `Alters` is one such change to a value of some shape; `Tolerates` says of a reader that it
does not notice the harmless changes and refuses the others. Readers are put together from readers
of their parts, and so are the proofs that they tolerate their shapes.

## Contents
- `Shape`, what a reader looks for in a value; `Alters` and `Varies`, changes to values of a shape.
- `Changes` and `changes_of_alters`: what a change does to the members that a record gives.
- `SlotsAlter` and `slotsAlter`: what it does to the slots of the record.
- `Tolerates`, with `tolerates_leaf`, `tolerates_listOf` and `tolerates_record`.
- `Shape.Fits` and `isMeaningful_of_alters`: harmless changes leave a value meaningful.
-/

namespace HexWorld.Json

/-! ## Shapes -/

/-- What a reader looks for: a record with these fields, a list, or anything without records. -/
inductive Shape where
  | leaf
  | list (item : Shape)
  | record (fields : List (String × Shape))

namespace Shape

/-- What is looked for in a member of an object. -/
def member (name : Option (List Char)) : Shape → Shape
  | record fields => ((fields.find? fun f => some f.1.toList = name).map (·.2)).getD leaf
  | _ => leaf

/-- What is looked for in an item of an array, which may be a record too. -/
def item (i : Nat) : Shape → Shape
  | list s => s
  | record fields => (fields[i]?.map (·.2)).getD leaf
  | leaf => leaf

end Shape

/-- One change to a value of a shape. A change `repeats` if it gives a field of a record once more;
otherwise it puts the members of any object into another order, or puts a member with another name
into a record. Values of such members are less than a hundred deep. -/
inductive Alters : Shape → (repeats : Bool) → Value → Value → Prop where
  | permute {s members members'} (same : members.Perm members') :
      Alters s false (.object members) (.object members')
  | insert {fields front name text v back} (named : Literal.text? name = some text)
      (strange : ∀ f ∈ fields, f.1.toList ≠ text) (ordinary : v.isMeaningful 99 = true) :
      Alters (.record fields) false (.object (front ++ back))
        (.object (front ++ (name, v) :: back))
  | again {fields front name f v back} (declared : f ∈ fields)
      (named : Literal.text? name = some f.1.toList)
      (present : ∃ m ∈ front ++ back, m.1.text? = some f.1.toList) :
      Alters (.record fields) true (.object (front ++ back))
        (.object (front ++ (name, v) :: back))
  | member {s repeats front name v v' back} (inner : Alters (s.member name.text?) repeats v v') :
      Alters s repeats (.object (front ++ (name, v) :: back))
        (.object (front ++ (name, v') :: back))
  | item {s repeats front v v' back} (inner : Alters (s.item front.length) repeats v v') :
      Alters s repeats (.array (front ++ v :: back)) (.array (front ++ v' :: back))

/-- Any number of changes that repeat nothing. -/
inductive Varies (s : Shape) : Value → Value → Prop where
  | refl {v} : Varies s v v
  | step {u v w} (before : Varies s u v) (last : Alters s false v w) : Varies s u w

namespace Alters

variable {s : Shape} {repeats : Bool} {v v' : Value}

/-- Nothing can be repeated where no record is. -/
theorem repeats_eq_false (h : Alters .leaf repeats v v') : repeats = false := by
  generalize leaf : Shape.leaf = s at h
  induction h with
  | permute => rfl
  | insert | again => cases leaf
  | member _ ih | item _ ih =>
      subst leaf
      exact ih rfl

/-- Only objects and arrays can change. -/
theorem cases_container (h : Alters s repeats v v') :
    (∃ members members', v = .object members ∧ v' = .object members') ∨
      ∃ items items', v = .array items ∧ v' = .array items' := by
  cases h with
  | permute | insert | again | member => exact .inl ⟨_, _, rfl, rfl⟩
  | item => exact .inr ⟨_, _, rfl, rfl⟩

end Alters

/-! ## Members of a record -/

section Given

variable {name : String} {m : Literal × Value}
  {front back members members' : List (Literal × Value)}

theorem given_append : given name (front ++ back) = given name front ++ given name back := by
  rw [given, List.filter_append, List.map_append]
  rfl

theorem given_cons_of_eq (here : m.1.text? = some name.toList) :
    given name (m :: back) = m.2 :: given name back := by
  rw [given, List.filter_cons_of_pos (by simp [here]), List.map_cons]
  rfl

theorem given_cons_of_ne (other : m.1.text? ≠ some name.toList) :
    given name (m :: back) = given name back := by
  rw [given, List.filter_cons_of_neg (by simp [other])]
  rfl

theorem given_ne_nil (present : ∃ m ∈ members, m.1.text? = some name.toList) :
    given name members ≠ [] := by
  obtain ⟨m, mem, text⟩ := present
  exact List.ne_nil_of_mem
    (List.mem_map.mpr ⟨m, List.mem_filter.mpr ⟨mem, decide_eq_true text⟩, rfl⟩)

theorem perm_given (same : members.Perm members') :
    (given name members).Perm (given name members') :=
  (same.filter _).map _

end Given

section Few

variable {α : Type}

/-- Only lists of two and more have another order. -/
theorem eq_or_many_of_perm {xs ys : List α} (same : xs.Perm ys) :
    xs = ys ∨ ∃ x x' rest y y' others, xs = x :: x' :: rest ∧ ys = y :: y' :: others := by
  rcases xs with _ | ⟨x, _ | ⟨x', rest⟩⟩
  · exact .inl same.nil_eq
  · exact .inl same.singleton_eq
  · have length := same.length_eq
    rcases ys with _ | ⟨y, _ | ⟨y', others⟩⟩
    · cases length
    · cases length
    · exact .inr ⟨x, x', rest, y, y', others, rfl, rfl⟩

/-- An item is the only one, or one of two and more. -/
theorem alone_or_many (front : List α) (x : α) (back : List α) :
    (front = [] ∧ back = []) ∨
      front ++ back ≠ [] ∧ ∃ y y' rest, front ++ x :: back = y :: y' :: rest := by
  rcases front with _ | ⟨y, _ | ⟨y', front⟩⟩
  · cases back with
    | nil => exact .inl ⟨rfl, rfl⟩
    | cons y back => exact .inr ⟨List.cons_ne_nil _ _, x, y, back, rfl⟩
  · exact .inr ⟨List.cons_ne_nil _ _, y, x, back, rfl⟩
  · exact .inr ⟨List.cons_ne_nil _ _, y, y', _, rfl⟩

end Few

theorem atMostOnce_eq_of_perm {xs ys : List Value} (same : xs.Perm ys) :
    atMostOnce xs = atMostOnce ys := by
  rcases eq_or_many_of_perm same with rfl | ⟨_, _, _, _, _, _, rfl, rfl⟩ <;> rfl

theorem atMostOnce_of_two {front back : List Value} (v : Value) (other : front ++ back ≠ []) :
    atMostOnce (front ++ v :: back) = none := by
  rcases alone_or_many front v back with ⟨rfl, rfl⟩ | ⟨-, _, _, _, many⟩
  · exact absurd rfl other
  · rw [many]
    rfl

/-- What a change to an object does to the fields that it gives: it keeps them all, or it concerns
one field, which is repeated or has one of its values changed. -/
inductive Changes (fields : List (String × Shape)) :
    Bool → List (Literal × Value) → List (Literal × Value) → Prop where
  | keeps {members members'}
      (all : ∀ f ∈ fields, atMostOnce (given f.1 members') = atMostOnce (given f.1 members)) :
      Changes fields false members members'
  | again {members members' f} (declared : f ∈ fields)
      (twice : atMostOnce (given f.1 members') = none)
      (others : ∀ g ∈ fields, g.1 ≠ f.1 → given g.1 members' = given g.1 members) :
      Changes fields true members members'
  | inner {repeats members members' f front v v' back} (declared : f ∈ fields)
      (alters : Alters f.2 repeats v v') (before : given f.1 members = front ++ v :: back)
      (after : given f.1 members' = front ++ v' :: back)
      (others : ∀ g ∈ fields, g.1 ≠ f.1 → given g.1 members' = given g.1 members) :
      Changes fields repeats members members'

/-- A member concerns no field but the one it is named after. -/
theorem given_member_of_ne {name : Literal} {text : String} (other : name.text? ≠ some text.toList)
    (front back : List (Literal × Value)) (v : Value) :
    given text (front ++ (name, v) :: back) = given text (front ++ back) := by
  rw [given_append, given_cons_of_ne other, given_append]

theorem given_member_of_eq {name : Literal} {text : String} (here : name.text? = some text.toList)
    (front back : List (Literal × Value)) (v : Value) :
    given text (front ++ (name, v) :: back) = given text front ++ v :: given text back := by
  rw [given_append, given_cons_of_eq here]

/-- **A change to an object, field by field.** -/
theorem changes_of_alters {fields : List (String × Shape)} {repeats : Bool}
    {members members' : List (Literal × Value)}
    (h : Alters (.record fields) repeats (.object members) (.object members')) :
    Changes fields repeats members members' := by
  have apart {name : Literal} {f g : String × Shape} (named : name.text? = some f.1.toList)
      (other : g.1 ≠ f.1) : name.text? ≠ some g.1.toList := by
    rw [named]
    exact fun same => other (String.toList_inj.mp (Option.some.inj same).symm)
  cases h with
  | permute same => exact .keeps fun f _ => (atMostOnce_eq_of_perm (perm_given same)).symm
  | insert named strange ordinary =>
      refine .keeps fun f declared => congrArg atMostOnce (given_member_of_ne ?_ _ _ _)
      rw [named]
      exact fun same => strange f declared (Option.some.inj same).symm
  | again declared named present =>
      refine .again declared ?_ fun g _ other => given_member_of_ne (apart named other) _ _ _
      rw [given_member_of_eq named]
      refine atMostOnce_of_two _ ?_
      rw [← given_append]
      exact given_ne_nil present
  | @member _ _ front name v v' back inner =>
      rw [Shape.member] at inner
      cases found : fields.find? fun f => some f.1.toList = name.text? with
      | none =>
          -- The change lies in a value that nobody looks into.
          rw [found] at inner
          cases inner.repeats_eq_false
          refine .keeps fun f declared => congrArg atMostOnce ?_
          have other : name.text? ≠ some f.1.toList := fun same => by
            simpa [same] using List.find?_eq_none.mp found f declared
          rw [given_member_of_ne other, given_member_of_ne other]
      | some f =>
          rw [found] at inner
          have same := List.find?_some found
          have named : name.text? = some f.1.toList := (of_decide_eq_true same).symm
          refine .inner (List.mem_of_find?_eq_some found) inner (given_member_of_eq named ..)
            (given_member_of_eq named ..) fun g _ other => ?_
          rw [given_member_of_ne (apart named other), given_member_of_ne (apart named other)]

/-- A change neither brings a name without a text nor takes one away. -/
theorem isNamed_of_alters {s : Shape} {repeats : Bool} {members members' : List (Literal × Value)}
    (h : Alters s repeats (.object members) (.object members')) :
    IsNamed members' ↔ IsNamed members := by
  cases h with
  | permute same =>
      exact ⟨fun h m mem => h m (same.mem_iff.mp mem), fun h m mem => h m (same.mem_iff.mpr mem)⟩
  | insert named | again _ named => simp [IsNamed, named, or_imp, forall_and]
  | member => simp [IsNamed, or_imp, forall_and]

/-! ## Slots of a record -/

/-- What a change does to the slots of a record: none if it repeats nothing, or they are lost, or one
of them has its value changed. -/
inductive SlotsAlter (fields : List (String × Shape)) :
    Bool → Option (List (Option Value)) → Option (List (Option Value)) → Prop where
  | same {slots} : SlotsAlter fields false slots slots
  | lost {slots} : SlotsAlter fields true slots none
  | missing {repeats} : SlotsAlter fields repeats none none
  | inner {repeats front v v' back f} (place : fields[front.length]? = some f)
      (alters : Alters f.2 repeats v v') :
      SlotsAlter fields repeats (some (front ++ some v :: back)) (some (front ++ some v' :: back))

section MapM

variable {α β : Type} {f g : α → Option β}

theorem length_of_mapM {xs : List α} {ys : List β} (h : xs.mapM f = some ys) :
    ys.length = xs.length := by
  induction xs generalizing ys with
  | nil =>
      cases h
      rfl
  | cons x xs ih =>
      rw [List.mapM_cons] at h
      obtain ⟨y, -, h⟩ := Option.bind_eq_some_iff.mp h
      obtain ⟨rest, tail, h⟩ := Option.bind_eq_some_iff.mp h
      cases h
      rw [List.length_cons, List.length_cons, ih tail]

theorem mapM_congr {xs : List α} (same : ∀ x ∈ xs, f x = g x) : xs.mapM f = xs.mapM g := by
  induction xs with
  | nil => rfl
  | cons x xs ih =>
      obtain ⟨first, rest⟩ := List.forall_mem_cons.mp same
      rw [List.mapM_cons, List.mapM_cons, first, ih rest]

theorem mapM_append_cons (front : List α) (x : α) (back : List α) :
    (front ++ x :: back).mapM f = (front.mapM f).bind fun ys =>
      (f x).bind fun y => (back.mapM f).map fun zs => ys ++ y :: zs := by
  rw [List.mapM_append, List.mapM_cons]
  show Option.bind _ _ = Option.bind _ _
  congr
  funext ys
  cases f x with
  | none => rfl
  | some y => cases back.mapM f <;> rfl

theorem mapM_eq_none {xs : List α} {x : α} (mem : x ∈ xs) (fails : f x = none) :
    xs.mapM f = none := by
  obtain ⟨front, back, rfl⟩ := List.append_of_mem mem
  rw [mapM_append_cons, fails]
  cases front.mapM f <;> rfl

end MapM

/-- The slots that fields give. -/
theorem slots_fields {fields : List (String × Shape)} {members : List (Literal × Value)}
    (named : IsNamed members) : slots (fields.map (·.1)) (.object members) =
      fields.mapM fun f => atMostOnce (given f.1 members) := by
  rw [slots_object named, List.mapM_map]
  rfl

/-- A name without a text spoils the whole object. -/
theorem slots_of_not_isNamed {members : List (Literal × Value)} (h : ¬IsNamed members)
    (names : List String) : slots names (.object members) = none := by
  obtain ⟨m, mem, nameless⟩ : ∃ m ∈ members, m.1.text? = none := by
    simpa [IsNamed] using h
  have none : namedMembers? members = none := by
    refine mapM_eq_none mem ?_
    show m.1.text?.map _ = _
    rw [nameless]
    rfl
  show (namedMembers? members).bind _ = _
  rw [none]
  rfl

/-- The slots that an array gives, around one of its items. -/
theorem slots_array (fields : List (String × Shape)) (front : List Value) (v : Value)
    (back : List Value) : slots (fields.map (·.1)) (.array (front ++ v :: back)) =
      if front.length + (back.length + 1) ≤ fields.length then
        some (front.map some ++ some v :: (back.map some ++
          List.replicate (fields.length - (front.length + (back.length + 1))) none))
      else none := by
  simp [slots]

theorem slotsAlter_of_changes {fields : List (String × Shape)} {repeats : Bool}
    {members members' : List (Literal × Value)} (distinct : (fields.map (·.1)).Nodup)
    (h : Changes fields repeats members members') :
    SlotsAlter fields repeats (fields.mapM fun f => atMostOnce (given f.1 members))
      (fields.mapM fun f => atMostOnce (given f.1 members')) := by
  cases h with
  | keeps all =>
      rw [mapM_congr all]
      exact .same
  | again declared twice =>
      rw [mapM_eq_none (f := fun f => atMostOnce (given f.1 members')) declared twice]
      exact .lost
  | @inner _ _ _ f before v v' after declared alters old new others =>
      by_cases alone : before ++ after = []
      · -- Only this field's slot differs, and it is filled before and after.
        obtain ⟨rfl, rfl⟩ := List.append_eq_nil_iff.mp alone
        obtain ⟨front, back, rfl⟩ := List.append_of_mem declared
        rw [List.map_append, List.map_cons, List.perm_middle.nodup_iff, List.nodup_cons] at distinct
        have others : ∀ g ∈ front ++ back,
            atMostOnce (given g.1 members') = atMostOnce (given g.1 members) := by
          intro g mem
          refine congrArg atMostOnce (others g ?_ fun same => distinct.1 ?_)
          · rcases List.mem_append.mp mem with mem | mem
            · exact List.mem_append_left _ mem
            · exact List.mem_append_right _ (List.mem_cons_of_mem f mem)
          · rw [← List.map_append, ← same]
            exact List.mem_map_of_mem mem
        rw [mapM_append_cons, mapM_append_cons,
          mapM_congr fun g mem => others g (List.mem_append_left back mem),
          mapM_congr fun g mem => others g (List.mem_append_right front mem), old, new]
        cases first : front.mapM fun g => atMostOnce (given g.1 members) with
        | none => exact .missing
        | some ys =>
            cases back.mapM fun g => atMostOnce (given g.1 members) with
            | none => exact .missing
            | some zs =>
                refine .inner ?_ alters
                rw [length_of_mapM first, List.getElem?_append_right (Nat.le_refl _), Nat.sub_self]
                rfl
      · have gone : atMostOnce (given f.1 members) = none := by
          rw [old, atMostOnce_of_two v alone]
        have gone' : atMostOnce (given f.1 members') = none := by
          rw [new, atMostOnce_of_two v' alone]
        rw [mapM_eq_none declared gone, mapM_eq_none declared gone']
        exact .missing

/-- **A change to a value, slot by slot.** An array gives its slots by their places. -/
theorem slotsAlter {fields : List (String × Shape)} {repeats : Bool} {v v' : Value}
    (distinct : (fields.map (·.1)).Nodup) (h : Alters (.record fields) repeats v v') :
    SlotsAlter fields repeats (slots (fields.map (·.1)) v) (slots (fields.map (·.1)) v') := by
  rcases h.cases_container with ⟨members, members', rfl, rfl⟩ | ⟨items, items', rfl, rfl⟩
  · by_cases named : IsNamed members
    · rw [slots_fields named, slots_fields ((isNamed_of_alters h).mpr named)]
      exact slotsAlter_of_changes distinct (changes_of_alters h)
    · rw [slots_of_not_isNamed named,
        slots_of_not_isNamed fun named' => named ((isNamed_of_alters h).mp named')]
      exact .missing
  · cases h with
    | @item _ _ front v v' back inner =>
        rw [slots_array, slots_array]
        by_cases fits : front.length + (back.length + 1) ≤ fields.length
        · rw [if_pos fits, if_pos fits]
          obtain ⟨f, field⟩ : ∃ f, fields[front.length]? = some f :=
            ⟨_, List.getElem?_eq_getElem (show front.length < fields.length by omega)⟩
          rw [Shape.item, field] at inner
          refine .inner ?_ inner
          rw [List.length_map, field]
        · rw [if_neg fits, if_neg fits]
          exact .missing

/-! ## Readers -/

section Readers

variable {α β : Type} {s : Shape}

/-- A reader does not notice a harmless change, and refuses a value in which something is
repeated. -/
def Tolerates (s : Shape) (read : Value → Option α) : Prop :=
  ∀ repeats v v', Alters s repeats v v' → read v' = if repeats then none else read v

theorem Tolerates.read_of_varies {read : Value → Option α} (h : Tolerates s read) {v v' : Value}
    (varies : Varies s v v') : read v' = read v := by
  induction varies with
  | refl => rfl
  | step _ last ih => exact (h false _ _ last).trans ih

/-- The same for a reader of a slot that is filled. -/
def SlotTolerates (s : Shape) (read : Option Value → Option α) : Prop :=
  ∀ repeats v v', Alters s repeats v v' → read (some v') = if repeats then none else read (some v)

/-- The same for a reader of all slots of a record. -/
def RowTolerates (fields : List (String × Shape)) (read : List (Option Value) → Option α) : Prop :=
  ∀ repeats front v v' back f, fields[front.length]? = some f → Alters f.2 repeats v v' →
    read (front ++ some v' :: back) = if repeats then none else read (front ++ some v :: back)

theorem Tolerates.required {read : Value → Option α} (h : Tolerates s read) :
    SlotTolerates s (required read) :=
  h

theorem Tolerates.optional {read : Value → Option α} (h : Tolerates s read) (absent : α) :
    SlotTolerates s (optional absent read) :=
  h

/-- What changes is no `null`, before or after. -/
theorem Tolerates.nullable {read : Value → Option α} (h : Tolerates s read) :
    SlotTolerates s (nullable read) := by
  intro repeats v v' alters
  have reads := h repeats v v' alters
  rcases alters.cases_container with ⟨_, _, rfl, rfl⟩ | ⟨_, _, rfl, rfl⟩
  · show (read _).map some = if repeats then none else (read _).map some
    rw [reads]
    cases repeats <;> rfl
  · show (read _).map some = if repeats then none else (read _).map some
    rw [reads]
    cases repeats <;> rfl

theorem Tolerates.bind {read : Value → Option α} (h : Tolerates s read) (f : α → Option β) :
    Tolerates s fun v => (read v).bind f := by
  intro repeats v v' alters
  show (read v').bind f = if repeats then none else (read v).bind f
  rw [h repeats v v' alters]
  cases repeats <;> rfl

theorem Tolerates.map {read : Value → Option α} (h : Tolerates s read) (f : α → β) :
    Tolerates s fun v => (read v).map f := by
  simpa only [Option.map_eq_bind] using h.bind (some ∘ f)

/-- Reads the first slot and then the others. -/
def next (read : Option Value → Option β) (others : β → List (Option Value) → Option α) :
    List (Option Value) → Option α
  | [] => none
  | slot :: rest => (read slot).bind fun b => others b rest

/-- All slots have been read. -/
def done (a : α) : List (Option Value) → Option α :=
  fun _ => some a

theorem rowTolerates_done (a : α) : RowTolerates [] (done a) := by
  intro repeats front v v' back f place
  cases place

theorem RowTolerates.next {f : String × Shape} {fields : List (String × Shape)}
    {read : Option Value → Option β} {others : β → List (Option Value) → Option α}
    (first : SlotTolerates f.2 read) (rest : ∀ b, RowTolerates fields (others b)) :
    RowTolerates (f :: fields) (next read others) := by
  intro repeats front v v' back g place alters
  cases front with
  | nil =>
      cases place
      show (read (some v')).bind _ = if repeats then none else (read (some v)).bind _
      rw [first repeats v v' alters]
      cases repeats <;> rfl
  | cons slot front =>
      show (read slot).bind _ = if repeats then none else (read slot).bind _
      cases read slot with
      | none => cases repeats <;> rfl
      | some b => exact rest b repeats front v v' back g place alters

/-- A record is read field by field. -/
theorem mapM_bind_next {slot? : String → Option (Option Value)} {name : String}
    {names : List String} {read : Option Value → Option β}
    {others : β → List (Option Value) → Option α} {a : α} :
    ((name :: names).mapM slot?).bind (next read others) = some a ↔
      ∃ b, (∃ slot, slot? name = some slot ∧ read slot = some b) ∧
        (names.mapM slot?).bind (others b) = some a := by
  rw [List.mapM_cons]
  cases slot? name with
  | none => simp
  | some slot =>
      cases names.mapM slot? with
      | none => simp
      | some slots => simp [next, Option.bind_eq_some_iff]

theorem length_slots {names : List String} {v : Value} {row : List (Option Value)}
    (h : slots names v = some row) : row.length = names.length := by
  unfold slots at h
  split at h
  · obtain ⟨texts, -, h⟩ := Option.bind_eq_some_iff.mp h
    exact length_of_mapM h
  · split at h
    next fits =>
      cases h
      rw [List.length_append, List.length_map, List.length_replicate]
      omega
    next => cases h
  · cases h

/-- Two readers of rows of one length are the same if they are the same for every first slot. -/
theorem row_cons {n : Nat} {f g : List (Option Value) → Option α}
    (h : ∀ slot row, row.length = n → f (slot :: row) = g (slot :: row)) :
    ∀ row, row.length = n + 1 → f row = g row := by
  intro row length
  obtain ⟨slot, rest, rfl⟩ := List.exists_cons_of_length_eq_add_one length
  exact h slot rest (Nat.succ.inj length)

theorem row_nil {f g : List (Option Value) → Option α} (h : f [] = g []) :
    ∀ row, row.length = 0 → f row = g row := by
  intro row length
  rw [List.eq_nil_of_length_eq_zero length]
  exact h

/-- **A reader of records tolerates its shape** if it reads one slot after the other, each by a
reader that tolerates the shape of the field. -/
theorem tolerates_record {fields : List (String × Shape)} {read : Value → Option α}
    {whole row : List (Option Value) → Option α} (distinct : (fields.map (·.1)).Nodup)
    (reads : ∀ v, read v = (slots (fields.map (·.1)) v).bind whole)
    (same : ∀ slots, slots.length = fields.length → whole slots = row slots)
    (h : RowTolerates fields row) : Tolerates (.record fields) read := by
  have rows (v : Value) : read v = (slots (fields.map (·.1)) v).bind row := by
    rw [reads]
    cases found : slots (fields.map (·.1)) v with
    | none => rfl
    | some slots => exact same slots ((length_slots found).trans (List.length_map _))
  intro repeats v v' alters
  rw [rows, rows]
  have changed := slotsAlter distinct alters
  generalize slots (fields.map (·.1)) v = before, slots (fields.map (·.1)) v' = after at changed
  cases changed with
  | same | lost => rfl
  | missing => cases repeats <;> rfl
  | inner place alters => exact h _ _ _ _ _ _ place alters

/-- Readers that do not look into containers. -/
theorem tolerates_leaf {read : Value → Option α} (arrays : ∀ items, read (.array items) = none)
    (objects : ∀ members, read (.object members) = none) : Tolerates .leaf read := by
  intro repeats v v' alters
  rcases alters.cases_container with ⟨_, _, rfl, rfl⟩ | ⟨_, _, rfl, rfl⟩
  · rw [objects, objects]
    cases repeats <;> rfl
  · rw [arrays, arrays]
    cases repeats <;> rfl

theorem tolerates_listOf {read : Value → Option α} (h : Tolerates s read) :
    Tolerates (.list s) (listOf read) := by
  intro repeats v v' alters
  rcases alters.cases_container with ⟨_, _, rfl, rfl⟩ | ⟨items, items', rfl, rfl⟩
  · cases repeats <;> rfl
  · cases alters with
    | @item _ _ front v v' back inner =>
        show (front ++ v' :: back).mapM read =
          if repeats then none else (front ++ v :: back).mapM read
        rw [mapM_append_cons, mapM_append_cons, h repeats v v' inner]
        cases repeats with
        | false => rfl
        | true => cases front.mapM read <;> rfl

theorem kindName?_of_two (setting : Setting) (m m' : Literal × Value)
    (rest : List (Literal × Value)) : kindName? setting (.object (m :: m' :: rest)) = none := by
  simp [kindName?]

/-- The value of the one member counts only as far as it is `null` or empty. -/
theorem kindName?_of_alters {setting : Setting} {name : Literal} {v v' : Value}
    (h : Alters .leaf false v v') :
    kindName? setting (.object [(name, v')]) = kindName? setting (.object [(name, v)]) := by
  cases h with
  | permute same =>
      rcases eq_or_many_of_perm same with rfl | ⟨_, _, _, _, _, _, rfl, rfl⟩
      · rfl
      · simp [kindName?]
  | @member _ _ front =>
      cases front <;> simp [kindName?]
  | item => rfl

/-- A kind may be named by an object, of which nothing but one member counts. -/
theorem tolerates_kindName? (setting : Setting) : Tolerates .leaf (kindName? setting) := by
  intro repeats v v' alters
  cases alters.repeats_eq_false
  show kindName? setting v' = kindName? setting v
  cases alters with
  | permute same =>
      rcases eq_or_many_of_perm same with rfl | ⟨_, _, _, _, _, _, rfl, rfl⟩
      · rfl
      · rw [kindName?_of_two, kindName?_of_two]
  | @member _ _ front name v v' back inner =>
      rcases alone_or_many front (name, v) back with ⟨rfl, rfl⟩ | ⟨more, _, _, _, many⟩
      · exact kindName?_of_alters inner
      · rcases alone_or_many front (name, v') back with ⟨rfl, rfl⟩ | ⟨-, _, _, _, many'⟩
        · exact absurd rfl more
        · rw [many, many', kindName?_of_two, kindName?_of_two]
  | item => rfl

end Readers

/-! ## Depth -/

/-- At this depth there is room for everything that the shape holds, and for what may be put into its
records. -/
inductive Shape.Fits : Nat → Shape → Prop where
  | leaf {depth} : Fits depth .leaf
  | list {depth s} (item : Fits depth s) : Fits (depth + 1) (.list s)
  | record {depth fields} (room : 99 ≤ depth) (inner : ∀ f ∈ fields, Fits depth f.2) :
      Fits (depth + 1) (.record fields)

namespace Shape.Fits

variable {depth : Nat} {s : Shape}

theorem member (h : Fits (depth + 1) s) (name : Option (List Char)) :
    Fits depth (s.member name) := by
  cases h with
  | leaf | list => exact .leaf
  | @record _ fields room inner =>
      rw [Shape.member]
      cases found : fields.find? fun f => some f.1.toList = name with
      | none => exact .leaf
      | some f => exact inner f (List.mem_of_find?_eq_some found)

theorem item (h : Fits (depth + 1) s) (i : Nat) : Fits depth (s.item i) := by
  cases h with
  | leaf => exact .leaf
  | list item => exact item
  | @record _ fields room inner =>
      rw [Shape.item]
      cases found : fields[i]? with
      | none => exact .leaf
      | some f => exact inner f (List.mem_of_getElem? found)

end Shape.Fits

namespace Value

theorem itemsMeaningful_eq_all (depth : Nat) (items : List Value) :
    itemsMeaningful depth items = items.all (isMeaningful depth) := by
  induction items with
  | nil => rfl
  | cons v rest ih => rw [itemsMeaningful, ih, List.all_cons]

theorem membersMeaningful_eq_all (depth : Nat) (members : List (Literal × Value)) :
    membersMeaningful depth members =
      members.all fun m => m.1.text?.isSome && isMeaningful depth m.2 := by
  induction members with
  | nil => rfl
  | cons m rest ih => rw [membersMeaningful, ih, List.all_cons]

theorem isMeaningful_succ {depth : Nat} {v : Value} (h : v.isMeaningful depth = true) :
    v.isMeaningful (depth + 1) = true := by
  induction depth generalizing v with
  | zero =>
      cases v with
      | null | bool | number | string => exact h
      | array | object => cases h
  | succ depth ih =>
      cases v with
      | null | bool | number | string => exact h
      | array items =>
          rw [isMeaningful, itemsMeaningful_eq_all, List.all_eq_true] at h ⊢
          exact fun v mem => ih (h v mem)
      | object members =>
          rw [isMeaningful, membersMeaningful_eq_all, List.all_eq_true] at h ⊢
          intro m mem
          obtain ⟨name, inner⟩ := Bool.and_eq_true_iff.mp (h m mem)
          exact Bool.and_eq_true_iff.mpr ⟨name, ih inner⟩

theorem isMeaningful_mono {depth depth' : Nat} {v : Value} (le : depth ≤ depth')
    (h : v.isMeaningful depth = true) : v.isMeaningful depth' = true := by
  induction le with
  | refl => exact h
  | step _ ih => exact isMeaningful_succ ih

end Value

/-- **Harmless changes leave a value meaningful**, or meaningless. -/
theorem isMeaningful_of_alters {s : Shape} {depth : Nat} {v v' : Value} (fits : s.Fits depth)
    (h : Alters s false v v') : v'.isMeaningful depth = v.isMeaningful depth := by
  generalize harmless : false = repeats at h
  induction h generalizing depth with
  | permute same =>
      cases depth with
      | zero => rfl
      | succ depth =>
          rw [Value.isMeaningful, Value.isMeaningful, Value.membersMeaningful_eq_all,
            Value.membersMeaningful_eq_all]
          exact same.symm.all_eq
  | insert named strange ordinary =>
      cases fits with
      | record room =>
          simp [Value.isMeaningful, Value.membersMeaningful_eq_all, named,
            Value.isMeaningful_mono room ordinary]
  | again => cases harmless
  | member inner ih =>
      cases depth with
      | zero => rfl
      | succ depth =>
          simp [Value.isMeaningful, Value.membersMeaningful_eq_all,
            ih (fits.member _) harmless]
  | item inner ih =>
      cases depth with
      | zero => rfl
      | succ depth =>
          simp [Value.isMeaningful, Value.itemsMeaningful_eq_all, ih (fits.item _) harmless]

end HexWorld.Json
