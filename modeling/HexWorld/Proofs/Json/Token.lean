import HexWorld.Proofs.Json.Text
import HexWorld.Proofs.Text.Numeral

/-!
# `Proofs.Json.Token` — tokens survive being written and read

Tokens are written one after the other with nothing in between. Where one of them ends can be seen
from the token alone, except for numbers, which go on as long as what follows continues them: two
numbers must not be adjacent.

## Contents
- `Stops`, `Ends`: what does not continue a number.
- `number?_render`: a number is read back from its digits.
- `Token.reread`, `token?_render`: what is read for a token.
- `Token.Separated`, `scan?_render`: all tokens of an input.
-/

namespace HexWorld.Json

open Text

/-! ## Digits -/

/-- The character does not continue a number. -/
structure Stops (c : Char) : Prop where
  digit : c.isDigit = false
  point : c ≠ '.'
  exponent : c ≠ 'e' ∧ c ≠ 'E'

/-- The input does not begin with a digit. -/
def NoDigit (input : Input) : Prop :=
  ∀ c, input.head? = some (some c) → c.isDigit = false

/-- The input does not continue a number. -/
def Ends (input : Input) : Prop :=
  ∀ c, input.head? = some (some c) → Stops c

theorem Ends.noDigit {input : Input} (ends : Ends input) : NoDigit input :=
  fun c first => (ends c first).digit

/-- The digits at the front are found, and no more than these. -/
theorem digitRun_append {digits : List Char} (all : ∀ c ∈ digits, c.isDigit = true) {rest : Input}
    (ends : NoDigit rest) :
    digitRun (digits.map some ++ rest) = (digits.map fun c => c.toNat - '0'.toNat, rest) := by
  induction digits with
  | nil =>
      show digitRun rest = ([], rest)
      cases rest with
      | nil => rfl
      | cons c rest =>
          cases c with
          | none => rfl
          | some c =>
              rw [digitRun, digitValue?_of_not_isDigit (ends c rfl)]
  | cons c digits ih =>
      have digit : c.isDigit = true := all c List.mem_cons_self
      have rest_digits := ih fun c mem => all c (List.mem_cons_of_mem _ mem)
      rw [List.map_cons, List.cons_append, digitRun, digitValue?_of_isDigit digit, rest_digits]
      rfl

theorem isDigit_toDigits (n : Nat) : ∀ c ∈ Nat.toDigits 10 n, c.isDigit = true :=
  (isDigits_toDigits n).all

theorem digitRun_toDigits (n : Nat) {rest : Input} (ends : NoDigit rest) :
    digitRun ((Nat.toDigits 10 n).map some ++ rest) = (Decimal.digitsOf n, rest) :=
  digitRun_append (isDigit_toDigits n) ends

theorem digitRun_digits {digits : List Nat} (all : ∀ d ∈ digits, d < 10) {rest : Input}
    (ends : NoDigit rest) :
    digitRun ((digits.map digitChar).map some ++ rest) = (digits, rest) := by
  have chars : ∀ c ∈ digits.map digitChar, c.isDigit = true := by
    intro c mem
    obtain ⟨d, digit, rfl⟩ := List.mem_map.mp mem
    rw [digitChar, Nat.isDigit_digitChar, decide_eq_true (all d digit)]
  have values : (digits.map digitChar).map (fun c => c.toNat - '0'.toNat) = digits := by
    rw [List.map_map]
    refine (List.map_congr_left fun d digit => ?_).trans (List.map_id digits)
    exact Nat.toNat_digitChar_sub_48_of_lt_ten (all d digit)
  rw [digitRun_append chars ends, values]

theorem digitsOf_of_lt {d : Nat} (small : d < 10) : Decimal.digitsOf d = [d] := by
  rw [Decimal.digitsOf, Nat.toDigits_of_lt_base small]
  exact congrArg (fun d => [d]) (Nat.toNat_digitChar_sub_48_of_lt_ten small)

theorem digitsOf_append {n d : Nat} (positive : 0 < n) (small : d < 10) :
    Decimal.digitsOf (10 * n + d) = Decimal.digitsOf n ++ [d] := by
  have last : Decimal.digitsOf d = [d] := digitsOf_of_lt small
  rw [Decimal.digitsOf] at last
  rw [Decimal.digitsOf, ← Nat.toDigits_append_toDigits (by decide) positive small,
    List.map_append, last, Decimal.digitsOf]

theorem ofDigits_digitsOf (n : Nat) : Decimal.ofDigits (Decimal.digitsOf n) = n := by
  induction n using Nat.base_induction 10 (by decide) with
  | single d small =>
      rw [digitsOf_of_lt small]
      exact Nat.zero_add d
  | digit n d small positive ih =>
      rw [Decimal.ofDigits] at ih ⊢
      rw [digitsOf_append positive small, List.foldl_append, ih, Nat.mul_comm]
      rfl

theorem digitsOf_ne_nil (n : Nat) : Decimal.digitsOf n ≠ [] :=
  fun none => Nat.toDigits_ne_nil (List.map_eq_nil_iff.mp none)

/-- Only zero is written with a zero in front, and then it is the only digit. -/
theorem digitsOf_ne_zero_cons (n d : Nat) (rest : List Nat) :
    Decimal.digitsOf n ≠ 0 :: d :: rest := by
  have head {n : Nat} (positive : 0 < n) : (Decimal.digitsOf n).head? ≠ some 0 := by
    induction n using Nat.base_induction 10 (by decide) with
    | single d small =>
        rw [digitsOf_of_lt small]
        exact fun zero => Nat.ne_of_gt positive (Option.some.inj zero)
    | digit n d small some_digits ih =>
        obtain ⟨first, more, split⟩ := List.exists_cons_of_ne_nil (digitsOf_ne_nil n)
        rw [digitsOf_append some_digits small, split, List.cons_append]
        rw [split] at ih
        exact ih some_digits
  intro digits
  cases Nat.eq_zero_or_pos n with
  | inl zero =>
      rw [zero] at digits
      cases digits
  | inr positive =>
      apply head positive
      rw [digits]
      rfl

/-! ## Numbers -/

/-- The fraction holds decimal digits. -/
def Number.IsProper (n : Number) : Prop :=
  ∀ d ∈ n.fraction, d < 10

/-- A point and the digits after it, if there are any. -/
def fractionChars (fraction : List Nat) : List Char :=
  if fraction.isEmpty then [] else '.' :: fraction.map digitChar

/-- The mark of an exponent, its sign and its digits. -/
def exponentChars : Option Int → List Char
  | none => []
  | some e => 'e' :: (if e < 0 then '-' else '+') :: Nat.toDigits 10 e.natAbs

theorem Number.render_eq (n : Number) :
    n.render = (if n.negative then ['-'] else []) ++ (Nat.toDigits 10 n.whole ++
      (fractionChars n.fraction ++ exponentChars n.exponent)) := by
  have parts : n.render = (if n.negative then ['-'] else []) ++ Nat.toDigits 10 n.whole ++
      fractionChars n.fraction ++ exponentChars n.exponent := by
    obtain ⟨⟨whole, fraction, exponent⟩, negative⟩ := n
    cases exponent <;> rfl
  rw [parts, List.append_assoc, List.append_assoc]

/-- What follows the fraction begins neither with a digit nor with a point. -/
theorem head_exponentChars (exponent : Option Int) {rest : Input} (ends : Ends rest) {c : Char}
    (first : ((exponentChars exponent).map some ++ rest).head? = some (some c)) :
    c.isDigit = false ∧ c ≠ '.' := by
  cases exponent with
  | none => exact ⟨(ends c first).digit, (ends c first).point⟩
  | some e =>
      cases first
      decide

/-- What follows the integer part does not begin with a digit. -/
theorem noDigit_fractionChars (fraction : List Nat) {rest : Input} (ends : NoDigit rest) :
    NoDigit ((fractionChars fraction).map some ++ rest) := by
  intro c first
  cases fraction with
  | nil => exact ends c first
  | cons d fraction =>
      cases first
      rfl

theorem fraction?_render {fraction : List Nat} (proper : ∀ d ∈ fraction, d < 10) {rest : Input}
    (ends : NoDigit rest) (no_point : rest.head? ≠ some (some '.')) :
    fraction? ((fractionChars fraction).map some ++ rest) = some (fraction, rest) := by
  cases fraction with
  | nil =>
      show fraction? rest = some ([], rest)
      rw [fraction?]
      rintro rest rfl
      exact no_point rfl
  | cons d fraction =>
      show fraction? (some '.' :: (((d :: fraction).map digitChar).map some ++ rest)) = _
      rw [fraction?, digitRun_digits proper ends]

theorem exponentDigits?_render (negative : Bool) (n : Nat) {rest : Input} (ends : NoDigit rest) :
    exponentDigits? negative ((Nat.toDigits 10 n).map some ++ rest) =
      some (some (if negative then -(n : Int) else n), rest) := by
  rw [exponentDigits?, digitRun_toDigits n ends]
  split
  next none => exact absurd (congrArg Prod.fst none) (digitsOf_ne_nil n)
  next digits rest' found =>
    cases found
    rw [ofDigits_digitsOf]

theorem exponent?_render (exponent : Option Int) {rest : Input} (ends : Ends rest) :
    exponent? ((exponentChars exponent).map some ++ rest) = some (exponent, rest) := by
  cases exponent with
  | none =>
      show exponent? rest = some (none, rest)
      cases rest with
      | nil => rfl
      | cons c rest =>
          cases c with
          | none => rfl
          | some c =>
              obtain ⟨-, -, small, capital⟩ := ends c rfl
              exact if_neg (not_or.mpr ⟨small, capital⟩)
  | some e =>
      by_cases negative : e < 0
      · have value : -(e.natAbs : Int) = e := by omega
        rw [exponentChars, if_pos negative]
        show exponentDigits? true ((Nat.toDigits 10 e.natAbs).map some ++ rest) = _
        rw [exponentDigits?_render true _ ends.noDigit, if_pos rfl, value]
      · have value : (e.natAbs : Int) = e := by omega
        rw [exponentChars, if_neg negative]
        show exponentDigits? false ((Nat.toDigits 10 e.natAbs).map some ++ rest) = _
        rw [exponentDigits?_render false _ ends.noDigit, if_neg Bool.false_ne_true, value]

theorem unsigned?_render {n : Number} (proper : n.IsProper) {rest : Input} (ends : Ends rest) :
    unsigned? n.negative ((Nat.toDigits 10 n.whole ++
      (fractionChars n.fraction ++ exponentChars n.exponent)).map some ++ rest) =
        some (n, rest) := by
  have after_fraction {c : Char} := head_exponentChars n.exponent ends (c := c)
  have no_digit : NoDigit ((exponentChars n.exponent).map some ++ rest) :=
    fun c first => (after_fraction first).1
  have fraction := fraction?_render proper no_digit fun first => (after_fraction first).2 rfl
  have whole := digitRun_toDigits n.whole (noDigit_fractionChars n.fraction no_digit)
  rw [List.map_append, List.map_append, List.append_assoc, List.append_assoc, unsigned?, whole]
  split
  next none => exact absurd (congrArg Prod.fst none) (digitsOf_ne_nil _)
  next zero => exact absurd (congrArg Prod.fst zero) (digitsOf_ne_zero_cons _ _ _)
  next digits rest' some zero found =>
    cases found
    show (fraction? _).bind _ = _
    rw [fraction]
    show (exponent? _).bind _ = _
    rw [exponent?_render n.exponent ends, ofDigits_digitsOf]
    rfl

/-- A number begins with a sign or a digit. -/
theorem Number.render_eq_cons (n : Number) : ∃ c cs, n.render = c :: cs ∧
    (c = '-' ∧ n.negative = true ∨ c.isDigit = true ∧ n.negative = false) := by
  obtain ⟨d, digits, split⟩ := List.exists_cons_of_ne_nil (Nat.toDigits_ne_nil (b := 10)
    (n := n.whole))
  have digit : d.isDigit = true := isDigit_toDigits n.whole d (split ▸ List.mem_cons_self)
  rw [n.render_eq, split]
  cases n.negative with
  | true => exact ⟨_, _, rfl, .inl ⟨rfl, rfl⟩⟩
  | false => exact ⟨_, _, rfl, .inr ⟨digit, rfl⟩⟩

/-- **A number is read back** if what follows does not continue it. -/
theorem number?_render {n : Number} (proper : n.IsProper) {rest : Input} (ends : Ends rest) :
    number? (n.render.map some ++ rest) = some (n, rest) := by
  have read := unsigned?_render proper ends
  obtain ⟨c, cs, split, first⟩ := n.render_eq_cons
  have parts := n.render_eq
  rcases first with ⟨-, negative⟩ | ⟨digit, positive⟩
  · rw [negative] at read parts
    rw [parts]
    exact read
  · rw [positive] at read parts
    have body : n.render = Nat.toDigits 10 n.whole ++
        (fractionChars n.fraction ++ exponentChars n.exponent) := parts
    rw [← body, split] at read
    rw [split, List.map_cons, List.cons_append, number?]
    · exact read
    · rintro rest ⟨⟩
      cases digit

/-! ## Tokens -/

def Token.isNumber : Token → Bool
  | .number _ => true
  | _ => false

/-- The fraction of a number holds decimal digits. -/
def Token.IsProper : Token → Prop
  | .number n => n.IsProper
  | _ => True

/-- The token that is read for a token that was written. -/
def Token.reread : Token → Token
  | .string s => .string (Literal.reread s)
  | t => t

/-- A token does not begin with a blank, and only a number continues a number. -/
theorem Token.render_eq_cons (t : Token) : ∃ c cs, t.render = c :: cs ∧ isGap c = false ∧
    (t.isNumber = false → Stops c) := by
  have stop {c : Char} (digit : c.isDigit = false) (point : c ≠ '.') (small : c ≠ 'e')
      (capital : c ≠ 'E') : Stops c := ⟨digit, point, small, capital⟩
  cases t with
  | number n =>
      obtain ⟨c, cs, split, first⟩ := n.render_eq_cons
      refine ⟨c, cs, split, ?_, fun other => by cases other⟩
      rw [Bool.eq_false_iff]
      intro gap
      simp only [isGap, Bool.or_eq_true, beq_iff_eq] at gap
      rcases first with ⟨rfl, -⟩ | ⟨digit, -⟩
      · simp at gap
      · rcases gap with ((rfl | rfl) | rfl) | rfl <;> cases digit
  | bool b =>
      cases b
      all_goals exact ⟨_, _, rfl, by decide, fun _ => ⟨by decide, by decide, by decide⟩⟩
  | _ => exact ⟨_, _, rfl, by decide, fun _ => ⟨by decide, by decide, by decide⟩⟩

theorem token?_of_start {c : Char} (start : c = '-' ∨ c.isDigit = true) (rest : Input) :
    token? (some c :: rest) =
      (number? (some c :: rest)).map fun (n, rest) => (.number n, rest) := by
  rw [token?]
  all_goals
    rintro rest ⟨⟩
    revert start
    decide

theorem ends_append {t : Token} (other : t.isNumber = false) (rest : Input) :
    Ends (t.render.map some ++ rest) := by
  obtain ⟨c, cs, split, -, stop⟩ := t.render_eq_cons
  rw [split]
  rintro _ ⟨⟩
  exact stop other

/-- **A token that is written is read** if the next one does not continue it. -/
theorem token?_render {t : Token} (proper : t.IsProper) {rest : Input}
    (ends : t.isNumber = true → Ends rest) :
    token? (t.render.map some ++ rest) = some (t.reread, rest) := by
  cases t with
  | number n =>
      have read := number?_render proper (ends rfl)
      obtain ⟨c, cs, split, first⟩ := n.render_eq_cons
      have start : c = '-' ∨ c.isDigit = true := first.imp And.left And.left
      show token? (n.render.map some ++ rest) = _
      rw [split] at read ⊢
      rw [List.map_cons, List.cons_append] at read ⊢
      rw [token?_of_start start, read]
      rfl
  | string s =>
      have read := stringBody_render s rest
      show token? (some '"' :: ((s.flatMap Piece.render ++ ['"']).map some ++ rest)) = _
      rw [List.map_append, List.append_assoc]
      show (stringBody _).map _ = _
      rw [List.map_singleton, List.singleton_append, read]
      rfl
  | bool b => cases b <;> rfl
  | _ => rfl

/-! ## All tokens -/

namespace Token

/-- No number follows another. -/
def Separated : List Token → Prop
  | [] => True
  | t :: rest => (t.isNumber = true → ∀ u ∈ rest.head?, u.isNumber = false) ∧ Separated rest

theorem ends_flatMap {ts : List Token} (other : ∀ t ∈ ts.head?, t.isNumber = false) :
    Ends ((ts.flatMap render).map some) := by
  cases ts with
  | nil =>
      intro c first
      cases first
  | cons t ts =>
      rw [List.flatMap_cons, List.map_append]
      exact ends_append (other t rfl) _

/-- Every token has at least one character, so there are enough steps for all of them. -/
theorem scanFrom_render {ts : List Token} (proper : ∀ t ∈ ts, t.IsProper)
    (separated : Separated ts) {fuel : Nat} (enough : (ts.flatMap render).length ≤ fuel) :
    scanFrom fuel ((ts.flatMap render).map some) = some (ts.map reread) := by
  induction ts generalizing fuel with
  | nil => cases fuel <;> rfl
  | cons t ts ih =>
      obtain ⟨apart, separated⟩ := separated
      obtain ⟨head_proper, proper⟩ := List.forall_mem_cons.mp proper
      obtain ⟨c, cs, split, gap, -⟩ := t.render_eq_cons
      have read := token?_render head_proper fun number => ends_flatMap (apart number)
      rw [List.flatMap_cons, List.length_append, split, List.length_cons] at enough
      obtain ⟨fuel, rfl⟩ : ∃ more, fuel = more + 1 := ⟨fuel - 1, by omega⟩
      rw [List.flatMap_cons, List.map_append]
      rw [split, List.map_cons, List.cons_append] at read ⊢
      have no_gap : ¬(some c).any isGap = true := by simp [gap]
      rw [scanFrom, if_neg no_gap, read]
      show (scanFrom fuel _).bind _ = _
      rw [ih proper separated (by omega)]
      rfl

/-- **Tokens that are written are read.** -/
theorem scan?_render {ts : List Token} (proper : ∀ t ∈ ts, t.IsProper)
    (separated : Separated ts) : scan? ((ts.flatMap render).map some) = some (ts.map reread) :=
  scanFrom_render proper separated (Nat.le_of_eq (List.length_map _).symm)

end Token

end HexWorld.Json
