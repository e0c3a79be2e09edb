import Quiesce.Proofs.Text.Numerals
import Quiesce.Proofs.Toml.Strings
import Quiesce.Toml.Reader

/-!
Values on a line of their own: which texts stand for which value, wherever a value may stand.
Numerals, truth values and strings each come back from the text that they are written as.
-/
namespace Quiesce.Toml

open Text (digitsValue)

/-- A text before the end of a line that stands for a value. It starts where the value starts. -/
structure Shows (written : List Char) (value : Toml) : Prop where
  starts : ∀ c ∈ written.head?, isBlank c = false
  read : ∀ depth fuel rest,
    readValue depth (fuel + 1) (written ++ '\n' :: rest) = some (value, '\n' :: rest)

/-! ### Numerals -/

theorem digitsValue_toDigits (n : Nat) : digitsValue 10 (Nat.toDigits 10 n) = n := by
  have same : ∀ (cs : List Char) (acc : Nat), (∀ c ∈ cs, c.isDigit = true) →
      cs.foldl (fun acc c => acc * 10 + (Text.hexDigit? c).getD 0) acc =
        Nat.ofDigitChars 10 cs acc := by
    intro cs
    induction cs with
    | nil => exact fun acc _ => rfl
    | cons c cs ih =>
        intro acc digits
        obtain ⟨here, later⟩ := List.forall_mem_cons.mp digits
        have value : (Text.hexDigit? c).getD 0 = c.toNat - '0'.toNat := by
          rw [Text.hexDigit?, if_pos here]
          rfl
        rw [List.foldl_cons, ih _ later, Nat.ofDigitChars_cons, value, Nat.mul_comm]
  exact (same _ 0 fun c => Numeral.isDigit_of_mem_toDigits).trans Nat.ofDigitChars_ten_toDigits

theorem ne_of_isDigit {c d : Char} (digit : c.isDigit = true) (other : d.isDigit = false) :
    c ≠ d := by
  rintro rfl
  rw [other] at digit
  cases digit

/-- A numeral starts with a digit, and with a zero only for zero itself. -/
theorem toDigits_eq_cons (n : Nat) : ∃ c cs, Nat.toDigits 10 n = c :: cs ∧ c.isDigit = true ∧
    (0 < n → c ≠ '0') := by
  induction n using Nat.strongRecOn with
  | ind n ih =>
      by_cases small : n < 10
      · have single : ∀ n < 10, (Nat.digitChar n).isDigit = true ∧
          (0 < n → Nat.digitChar n ≠ '0') := by decide
        exact ⟨n.digitChar, [], Nat.toDigits_of_lt_base small, single n small⟩
      · obtain ⟨c, cs, front, digit, notZero⟩ := ih (n / 10) (by omega)
        refine ⟨c, cs ++ [(n % 10).digitChar], ?_, digit, fun _ => notZero (by omega)⟩
        rw [Nat.toDigits_of_base_le (by decide) (by omega), front, List.cons_append]

theorem readRun_digits {digits : List Char} (all : ∀ c ∈ digits, c.isDigit = true)
    {needed : Bool} (starts : digits ≠ [] ∨ needed = false) (rest : List Char) :
    readRun Char.isDigit needed (digits ++ '\n' :: rest) = some (digits, '\n' :: rest) := by
  induction digits generalizing needed with
  | nil =>
      have notNeeded : needed = false := starts.resolve_left fun h => h rfl
      rw [notNeeded]
      rfl
  | cons c cs ih =>
      obtain ⟨here, later⟩ := List.forall_mem_cons.mp all
      rw [List.cons_append, readRun, if_pos here, ih later (.inr rfl)]
      rfl

theorem readWhole_toDigits (n : Nat) (rest : List Char) :
    readWhole (Nat.toDigits 10 n ++ '\n' :: rest) = some (Nat.toDigits 10 n, '\n' :: rest) := by
  obtain rfl | positive := Nat.eq_zero_or_pos n
  · rfl
  · obtain ⟨c, cs, digits, _, notZero⟩ := toDigits_eq_cons n
    rw [← readRun_digits (fun _ => Numeral.isDigit_of_mem_toDigits) (.inl Nat.toDigits_ne_nil),
      digits]
    unfold readWhole
    split
    case h_1 same => exact absurd (List.cons.inj same).1 (notZero positive)
    case h_2 => rfl

/-- What follows a fixed number of digits at the start of a numeral is a digit or the line's end. -/
theorem next_of_readFixed {digits : List Char} (all : ∀ c ∈ digits, c.isDigit = true) {k v : Nat}
    {rest r : List Char} (h : readFixed k (digits ++ '\n' :: rest) = some (v, r)) :
    ∃ c cs, r = c :: cs ∧ (c.isDigit = true ∨ c = '\n') := by
  rw [readFixed] at h
  split at h
  case isFalse => cases h
  case isTrue taken =>
    obtain ⟨-, same⟩ := Prod.mk.inj (Option.some.inj h)
    simp only [Bool.and_eq_true, decide_eq_true_eq, List.all_eq_true] at taken
    obtain ⟨-, taken⟩ := taken
    have short : k ≤ digits.length := by
      refine Nat.le_of_not_lt fun long => ?_
      have past : '\n' ∈ (digits ++ '\n' :: rest).take k := by
        rw [List.take_append, List.mem_append]
        exact .inr (List.mem_take_iff_getElem.mpr ⟨0, by simp; omega, rfl⟩)
      exact absurd (taken '\n' past) (by decide)
    rw [List.drop_append_of_le_length short] at same
    subst same
    cases left : digits.drop k with
    | nil => exact ⟨'\n', rest, rfl, .inr rfl⟩
    | cons c cs =>
        have mem : c ∈ digits := List.mem_of_mem_drop (left ▸ List.mem_cons_self)
        exact ⟨c, _, rfl, .inl (all c mem)⟩

theorem startsMoment_digits {digits : List Char} (all : ∀ c ∈ digits, c.isDigit = true)
    (rest : List Char) : startsMoment (digits ++ '\n' :: rest) = false := by
  unfold startsMoment
  split
  case h_1 day =>
    obtain ⟨c, cs, same, next⟩ := next_of_readFixed all day
    obtain ⟨rfl, -⟩ := List.cons.inj same
    exact absurd next (by decide)
  case h_2 hour _ =>
    obtain ⟨c, cs, same, next⟩ := next_of_readFixed all hour
    obtain ⟨rfl, -⟩ := List.cons.inj same
    exact absurd next (by decide)
  case h_3 => rfl

theorem readDecimal_toDigits {n : Nat} (fits : n ≤ 9223372036854775807) (rest : List Char) :
    readDecimal false (Nat.toDigits 10 n ++ '\n' :: rest) = some (int n, '\n' :: rest) := by
  have number : intOf? false n = some (int n) := if_pos fits
  have exponent : readExponent ('\n' :: rest) = some (none, '\n' :: rest) := rfl
  rw [readDecimal, readWhole_toDigits]
  simp [exponent, digitsValue_toDigits, number]

/-- A numeral is neither one in another base nor the name of a number. -/
theorem readNumber_toDigits {n : Nat} (fits : n ≤ 9223372036854775807) (rest : List Char) :
    readNumber (Nat.toDigits 10 n ++ '\n' :: rest) = some (int n, '\n' :: rest) := by
  have signed {c : Char} {cs : List Char} (digit : c.isDigit = true) :
      readNumber.signed false (c :: cs) = readDecimal false (c :: cs) := by
    unfold readNumber.signed
    split
    case h_1 same => exact absurd (List.cons.inj same).1 (ne_of_isDigit digit rfl)
    case h_2 same => exact absurd (List.cons.inj same).1 (ne_of_isDigit digit rfl)
    case h_3 => rfl
  rw [← readDecimal_toDigits fits rest]
  obtain rfl | positive := Nat.eq_zero_or_pos n
  · rfl
  obtain ⟨c, cs, digits, digit, notZero⟩ := toDigits_eq_cons n
  have notZero : c ≠ '0' := notZero positive
  rw [digits, List.cons_append, ← signed digit]
  unfold readNumber
  split
  case h_1 same => exact absurd (List.cons.inj same).1 (ne_of_isDigit digit rfl)
  case h_2 same => exact absurd (List.cons.inj same).1 (ne_of_isDigit digit rfl)
  case h_3 same => exact absurd (List.cons.inj same).1 notZero
  case h_4 same => exact absurd (List.cons.inj same).1 notZero
  case h_5 same => exact absurd (List.cons.inj same).1 notZero
  case h_6 => rfl

/-- No value of another kind starts with a digit. -/
theorem readValue_digit {c : Char} (digit : c.isDigit = true) (depth fuel : Nat)
    (cs : List Char) : readValue depth (fuel + 1) (c :: cs) =
      if startsMoment (c :: cs) then readMoment .literal (c :: cs) else readNumber (c :: cs) := by
  have other {d : Char} := ne_of_isDigit (d := d) digit
  simp only [readValue, other (d := '"') rfl, other (d := '\'') rfl, other (d := '[') rfl,
    other (d := '\x7b') rfl, other (d := 't') rfl, other (d := 'f') rfl, decide_false,
    Bool.or_self, Bool.false_eq_true, ite_false]

theorem isBlank_of_isBareKeyChar {c : Char} (h : isBareKeyChar c = true) : isBlank c = false := by
  refine Bool.eq_false_iff.mpr fun blank => ?_
  have blank : c = ' ' ∨ c = '\t' := by simpa [isBlank] using blank
  obtain rfl | rfl := blank
  · cases h
  · cases h

theorem shows_toDigits {n : Nat} (fits : n ≤ 9223372036854775807) :
    Shows (Nat.toDigits 10 n) (int n) where
  starts := fun c first => by
    have digit := Numeral.isDigit_of_mem_toDigits (List.mem_of_mem_head? first)
    exact isBlank_of_isBareKeyChar (by simp [isBareKeyChar, Char.isAlphanum, digit])
  read := fun depth fuel rest => by
    have number := readNumber_toDigits fits rest
    have noMoment : startsMoment (Nat.toDigits 10 n ++ '\n' :: rest) = false :=
      startsMoment_digits (fun _ => Numeral.isDigit_of_mem_toDigits) rest
    obtain ⟨c, cs, digits, digit, _⟩ := toDigits_eq_cons n
    rw [digits, List.cons_append] at number noMoment ⊢
    rw [readValue_digit digit, noMoment, if_neg Bool.false_ne_true, number]

/-! ### Truth values and strings -/

theorem shows_true : Shows "true".toList (bool true) := by
  have letters : "true".toList = ['t', 'r', 'u', 'e'] := by decide
  rw [letters]
  refine ⟨?_, fun depth fuel rest => by simp [readValue]⟩
  rintro c ⟨⟩
  rfl

theorem shows_false : Shows "false".toList (bool false) := by
  have letters : "false".toList = ['f', 'a', 'l', 's', 'e'] := by decide
  rw [letters]
  refine ⟨?_, fun depth fuel rest => by simp [readValue]⟩
  rintro c ⟨⟩
  rfl

theorem head_writeString (text : List Char) :
    ∃ cs, writeString text = '"' :: cs ∨ writeString text = '\'' :: cs := by
  rw [writeString]
  split
  · exact ⟨_, .inl rfl⟩
  · exact ⟨_, .inr rfl⟩
  · exact ⟨_, .inl rfl⟩
  · exact ⟨_, .inr rfl⟩

theorem shows_writeString (text : String) : Shows (writeString text.toList) (str text) where
  starts := fun c first => by
    obtain ⟨cs, written | written⟩ := head_writeString text.toList
    · rw [written] at first
      cases first
      rfl
    · rw [written] at first
      cases first
      rfl
  read := fun depth fuel rest => by
    have follows : Follows ('\n' :: rest) := by
      rintro c ⟨⟩
      decide
    have read := readString_writeString text.toList follows
    obtain ⟨cs, written | written⟩ := head_writeString text.toList
    · rw [written] at read ⊢
      rw [List.cons_append] at read ⊢
      simp [readValue, read]
    · rw [written] at read ⊢
      rw [List.cons_append] at read ⊢
      simp [readValue, read]

end Quiesce.Toml
