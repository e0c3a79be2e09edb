import Quiesce.Proofs.Text.Numerals

/-!
Which texts are numerals, and of which number. There is at least one digit, a sign may stand in
front, and zeros before the first other digit do not matter. A numeral is read exactly if its
number fits, and it is then read as that number.
-/
namespace Quiesce.Numeral

variable {limit : Nat}

/-- A numeral of a natural number, with or without a plus sign. -/
inductive Unsigned : List Char → Nat → Prop where
  | plain {digits} (some : digits ≠ []) (all : ∀ c ∈ digits, c.isDigit = true) :
      Unsigned digits (Nat.ofDigitChars 10 digits 0)
  | plus {digits} (some : digits ≠ []) (all : ∀ c ∈ digits, c.isDigit = true) :
      Unsigned ('+' :: digits) (Nat.ofDigitChars 10 digits 0)

/-- A numeral of an integer, which may also have a minus sign. -/
inductive Signed : List Char → Int → Prop where
  | unsigned {cs n} (numeral : Unsigned cs n) : Signed cs n
  | minus {digits} (some : digits ≠ []) (all : ∀ c ∈ digits, c.isDigit = true) :
      Signed ('-' :: digits) (-(Nat.ofDigitChars 10 digits 0 : Int))

theorem digit?_eq_some_iff {c : Char} {d : Nat} :
    digit? c = some d ↔ c.isDigit = true ∧ c.toNat - 48 = d := by
  unfold digit?
  split <;> simp_all

theorem le_ofDigitChars (cs : List Char) (acc : Nat) : acc ≤ Nat.ofDigitChars 10 cs acc := by
  rw [Nat.ofDigitChars_eq_ofDigitChars_zero]
  have scaled : 1 * acc ≤ 10 ^ cs.length * acc :=
    Nat.mul_le_mul_right acc (Nat.one_le_pow _ _ (by decide))
  omega

/-- Digits are read up to the end exactly if the number that they all make up fits: the values on
the way to it are not larger. -/
theorem readDigits_eq_ok_iff {beyond : Fault} {cs : List Char} {acc n : Nat} (fits : acc ≤ limit) :
    readDigits limit beyond acc cs = .ok n ↔
      (∀ c ∈ cs, c.isDigit = true) ∧ Nat.ofDigitChars 10 cs acc = n ∧ n ≤ limit := by
  induction cs generalizing acc with
  | nil =>
      simp only [readDigits, Except.ok.injEq, List.not_mem_nil, false_implies, implies_true,
        true_and, Nat.ofDigitChars_nil]
      exact ⟨fun h => ⟨h, h ▸ fits⟩, And.left⟩
  | cons c cs ih =>
      cases digit : digit? c with
      | none =>
          have noDigit : c.isDigit = false := by
            cases h : c.isDigit with
            | false => rfl
            | true => exact absurd (digit?_eq_some_iff.mpr ⟨h, rfl⟩) (by simp [digit])
          simp [readDigits, digit, noDigit]
      | some d =>
          obtain ⟨isDigit, rfl⟩ := digit?_eq_some_iff.mp digit
          have next : Nat.ofDigitChars 10 (c :: cs) acc =
              Nat.ofDigitChars 10 cs (acc * 10 + (c.toNat - 48)) := by
            rw [Nat.ofDigitChars_cons, Nat.mul_comm 10 acc]
            rfl
          rw [next]
          simp only [readDigits, digit, List.mem_cons, forall_eq_or_imp, isDigit, true_and]
          split
          · rename_i large
            have more := le_ofDigitChars cs (acc * 10 + (c.toNat - 48))
            constructor
            · intro h
              cases h
            · rintro ⟨_, rfl, small⟩
              omega
          · rename_i small
            exact ih (Nat.not_lt.mp small)

/-- Text without a plus sign in front is a numeral if it is all digits. -/
theorem unsigned_iff_of_ne_plus {c : Char} {cs : List Char} {n : Nat} (h : c ≠ '+') :
    Unsigned (c :: cs) n ↔
      (∀ d ∈ c :: cs, d.isDigit = true) ∧ Nat.ofDigitChars 10 (c :: cs) 0 = n := by
  constructor
  · intro numeral
    cases numeral with
    | plain some all => exact ⟨all, rfl⟩
    | plus some all => exact absurd rfl h
  · rintro ⟨all, rfl⟩
    exact .plain (List.cons_ne_nil c cs) all

theorem unsigned_plus_iff {cs : List Char} {n : Nat} :
    Unsigned ('+' :: cs) n ↔
      cs ≠ [] ∧ (∀ d ∈ cs, d.isDigit = true) ∧ Nat.ofDigitChars 10 cs 0 = n := by
  constructor
  · intro numeral
    cases numeral with
    | plain some all => exact absurd (all '+' List.mem_cons_self) (by decide)
    | plus some all => exact ⟨some, all, rfl⟩
  · rintro ⟨some, all, rfl⟩
    exact .plus some all

theorem signed_iff_of_ne_minus {c : Char} {cs : List Char} {n : Int} (h : c ≠ '-') :
    Signed (c :: cs) n ↔ ∃ m : Nat, Unsigned (c :: cs) m ∧ (m : Int) = n := by
  constructor
  · intro numeral
    cases numeral with
    | unsigned numeral => exact ⟨_, numeral, rfl⟩
    | minus some all => exact absurd rfl h
  · rintro ⟨m, numeral, rfl⟩
    exact .unsigned numeral

theorem signed_minus_iff {cs : List Char} {n : Int} :
    Signed ('-' :: cs) n ↔
      cs ≠ [] ∧ (∀ d ∈ cs, d.isDigit = true) ∧ -(Nat.ofDigitChars 10 cs 0 : Int) = n := by
  constructor
  · intro numeral
    cases numeral with
    | unsigned numeral =>
        have digits := ((unsigned_iff_of_ne_plus (by decide)).mp numeral).1
        exact absurd (digits '-' List.mem_cons_self) (by decide)
    | minus some all => exact ⟨some, all, rfl⟩
  · rintro ⟨some, all, rfl⟩
    exact .minus some all

theorem readNat_of_ne_plus {c : Char} {cs : List Char} (h : c ≠ '+') :
    readNat limit (c :: cs) = readDigits limit .tooLarge 0 (c :: cs) := by
  cases cs with
  | nil => rfl
  | cons d cs =>
      unfold readNat
      split <;> simp_all

/-- A numeral is read as its number exactly if that fits. -/
theorem readNat_eq_ok_iff {cs : List Char} {n : Nat} :
    readNat limit cs = .ok n ↔ Unsigned cs n ∧ n ≤ limit := by
  cases cs with
  | nil =>
      have none : ¬ Unsigned [] n := fun numeral => by
        cases numeral with
        | plain some all => exact some rfl
      simp [readNat, none]
  | cons c cs =>
      by_cases plus : c = '+'
      · subst plus
        rw [unsigned_plus_iff]
        cases cs with
        | nil =>
            have refused : readNat limit ['+'] = .error .invalidDigit := rfl
            simp [refused]
        | cons d cs =>
            have rest : readNat limit ('+' :: d :: cs) =
                readDigits limit .tooLarge 0 (d :: cs) := rfl
            rw [rest, readDigits_eq_ok_iff (Nat.zero_le limit)]
            simp [and_assoc]
      · rw [readNat_of_ne_plus plus, unsigned_iff_of_ne_plus plus,
          readDigits_eq_ok_iff (Nat.zero_le limit), and_assoc]

theorem readInt_of_ne_minus {c : Char} {cs : List Char} (h : c ≠ '-') :
    readInt limit (c :: cs) = (readNat limit (c :: cs)).map Int.ofNat := by
  cases cs with
  | nil => rfl
  | cons d cs =>
      unfold readInt readNat
      split <;> simp_all

theorem map_eq_ok_iff {α β : Type} {read : Except Fault α} {f : α → β} {b : β} :
    read.map f = .ok b ↔ ∃ a, read = .ok a ∧ f a = b := by
  cases read <;> simp [Except.map]

theorem readInt_eq_ok_iff {cs : List Char} {n : Int} :
    readInt limit cs = .ok n ↔ Signed cs n ∧ -(limit + 1 : Int) ≤ n ∧ n ≤ limit := by
  cases cs with
  | nil =>
      have none : ¬ Signed [] n := fun numeral => by
        cases numeral with
        | unsigned numeral =>
            cases numeral with
            | plain some all => exact some rfl
      simp [readInt, none]
  | cons c cs =>
      by_cases minus : c = '-'
      · subst minus
        rw [signed_minus_iff]
        cases cs with
        | nil =>
            have refused : readInt limit ['-'] = .error .invalidDigit := rfl
            simp [refused]
        | cons d cs =>
            have rest : readInt limit ('-' :: d :: cs) =
                (readDigits (limit + 1) .tooSmall 0 (d :: cs)).map fun m => -Int.ofNat m := rfl
            rw [rest, map_eq_ok_iff]
            constructor
            · rintro ⟨m, read, rfl⟩
              obtain ⟨all, rfl, fits⟩ := (readDigits_eq_ok_iff (Nat.zero_le _)).mp read
              rw [Int.ofNat_eq_natCast]
              exact ⟨⟨List.cons_ne_nil d cs, all, rfl⟩, by omega, by omega⟩
            · rintro ⟨⟨_, all, rfl⟩, above, _⟩
              exact ⟨_, (readDigits_eq_ok_iff (Nat.zero_le _)).mpr ⟨all, rfl, by omega⟩, rfl⟩
      · rw [readInt_of_ne_minus minus, signed_iff_of_ne_minus minus, map_eq_ok_iff]
        constructor
        · rintro ⟨m, read, rfl⟩
          obtain ⟨numeral, fits⟩ := readNat_eq_ok_iff.mp read
          rw [Int.ofNat_eq_natCast]
          exact ⟨⟨m, numeral, rfl⟩, by omega, by omega⟩
        · rintro ⟨⟨m, numeral, rfl⟩, _, below⟩
          exact ⟨m, readNat_eq_ok_iff.mpr ⟨numeral, by omega⟩, rfl⟩

theorem readUInt32_eq_ok_iff {cs : List Char} {n : UInt32} :
    readUInt32 cs = .ok n ↔ Unsigned cs n.toNat := by
  rw [readUInt32, map_eq_ok_iff]
  constructor
  · rintro ⟨m, read, rfl⟩
    obtain ⟨numeral, fits⟩ := readNat_eq_ok_iff.mp read
    rwa [UInt32.toNat_ofNat_of_lt' (Nat.lt_succ_of_le fits)]
  · intro numeral
    exact ⟨n.toNat, readNat_eq_ok_iff.mpr ⟨numeral, Nat.le_of_lt_succ n.toNat_lt⟩,
      UInt32.ofNat_toNat⟩

theorem readInt32_eq_ok_iff {cs : List Char} {n : Int32} :
    readInt32 cs = .ok n ↔ Signed cs n.toInt := by
  rw [readInt32, map_eq_ok_iff]
  constructor
  · rintro ⟨m, read, rfl⟩
    obtain ⟨numeral, above, below⟩ := readInt_eq_ok_iff.mp read
    rwa [Int32.toInt_ofInt_of_le (by omega) (by omega)]
  · intro numeral
    have below := n.toInt_lt
    have above := n.le_toInt
    exact ⟨n.toInt, readInt_eq_ok_iff.mpr ⟨numeral, by omega, by omega⟩, n.ofInt_toInt⟩

end Quiesce.Numeral
