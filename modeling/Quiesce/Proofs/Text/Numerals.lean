import Quiesce.Proofs.Text.Words
import Quiesce.Text.Numeral

/-!
A number that is written out in decimal is read back, whatever word it has to fit into, and its
numeral is a single word.
-/
namespace Quiesce.Numeral

open Text (isBlank Unbroken)

variable {limit : Nat}

theorem digit?_digitChar {d : Nat} (h : d < 10) : digit? d.digitChar = some d := by
  have value := Nat.toNat_digitChar_of_lt_ten h
  simp only [digit?, Nat.isDigit_digitChar, h, decide_true, ite_true, value,
    Nat.add_sub_cancel_left]

/-- One more digit, if the number still fits. -/
theorem readDigits_concat {beyond : Fault} {cs : List Char} {acc n d : Nat}
    (h : readDigits limit beyond acc cs = .ok n) (hd : d < 10) (fits : n * 10 + d ≤ limit) :
    readDigits limit beyond acc (cs ++ [d.digitChar]) = .ok (n * 10 + d) := by
  induction cs generalizing acc with
  | nil =>
      cases h
      simp only [List.nil_append, readDigits, digit?_digitChar hd, if_neg (Nat.not_lt.mpr fits)]
  | cons c cs ih =>
      simp only [List.cons_append, readDigits] at h ⊢
      cases digit : digit? c with
      | none =>
          rw [digit] at h
          cases h
      | some first =>
          rw [digit] at h
          by_cases large : acc * 10 + first > limit
          · simp only [large, ite_true] at h
            cases h
          · simp only [large, ite_false] at h ⊢
            exact ih h

theorem readDigits_toDigits (beyond : Fault) {n : Nat} (h : n ≤ limit) :
    readDigits limit beyond 0 (Nat.toDigits 10 n) = .ok n := by
  induction n using Nat.strongRecOn with
  | ind n ih =>
      by_cases small : n < 10
      · have nothing : readDigits limit beyond 0 [] = .ok 0 := rfl
        have one := readDigits_concat nothing small (by omega)
        rw [Nat.toDigits_of_lt_base small]
        simpa using one
      · have before := ih (n / 10) (by omega) (by omega)
        have all := readDigits_concat before (Nat.mod_lt n (by decide)) (by omega)
        rw [Nat.toDigits_of_base_le (by decide) (by omega), all]
        congr 1
        omega

theorem isDigit_of_mem_toDigits {n : Nat} {c : Char} (h : c ∈ Nat.toDigits 10 n) :
    c.isDigit = true :=
  Nat.isDigit_of_mem_toDigits (by decide) (by decide) h

/-- Without a sign in front, all characters are digits. -/
theorem readNat_toDigits {n : Nat} (h : n ≤ limit) : readNat limit (Nat.toDigits 10 n) = .ok n := by
  have value := readDigits_toDigits .tooLarge h
  have digits : ∀ c ∈ Nat.toDigits 10 n, c.isDigit = true := fun c => isDigit_of_mem_toDigits
  unfold readNat
  split
  · rename_i none
    exact absurd none Nat.toDigits_ne_nil
  · rename_i one
    rw [← one]
    exact value
  · rename_i sign
    exact absurd (digits '+' (sign ▸ List.mem_cons_self)) (by decide)
  · exact value

theorem readInt_toDigits {n : Nat} (h : n ≤ limit) :
    readInt limit (Nat.toDigits 10 n) = .ok n := by
  have value := readDigits_toDigits .tooLarge h
  have digits : ∀ c ∈ Nat.toDigits 10 n, c.isDigit = true := fun c => isDigit_of_mem_toDigits
  unfold readInt
  split
  · rename_i none
    exact absurd none Nat.toDigits_ne_nil
  · rename_i one
    rw [← one, value]
    rfl
  · rename_i sign
    exact absurd (digits '+' (sign ▸ List.mem_cons_self)) (by decide)
  · rename_i sign
    exact absurd (digits '-' (sign ▸ List.mem_cons_self)) (by decide)
  · rw [value]
    rfl

theorem readInt_neg_toDigits {n : Nat} (h : n ≤ limit + 1) :
    readInt limit ('-' :: Nat.toDigits 10 n) = .ok (-n) := by
  have value := readDigits_toDigits .tooSmall h
  cases digits : Nat.toDigits 10 n with
  | nil => exact absurd digits Nat.toDigits_ne_nil
  | cons c cs =>
      rw [digits] at value
      simp only [readInt, value]
      rfl

theorem toList_toString_nat (n : Nat) : (toString n).toList = Nat.toDigits 10 n :=
  String.toList_ofList

theorem isDigit_of_mem_toString {n : Nat} {c : Char} (h : c ∈ (toString n).toList) :
    c.isDigit = true := by
  rw [toList_toString_nat] at h
  exact isDigit_of_mem_toDigits h

theorem startsWith_toString (n : Nat) {c : Char} (h : c.isDigit = false) (cs : List Char) :
    (toString n).startsWith (String.ofList (c :: cs)) = false := by
  rw [String.startsWith_string_eq_false_iff, String.toList_ofList]
  intro first
  rw [isDigit_of_mem_toString (first.subset List.mem_cons_self)] at h
  cases h

theorem readUInt32_toString (n : UInt32) : readUInt32 (toString n).toList = .ok n := by
  have fits : n.toNat ≤ 4294967295 := Nat.le_of_lt_succ n.toNat_lt
  have written : (toString n).toList = Nat.toDigits 10 n.toNat := toList_toString_nat n.toNat
  rw [written, readUInt32, readNat_toDigits fits]
  exact congrArg Except.ok UInt32.ofNat_toNat

theorem readUInt64_toString (n : UInt64) : readUInt64 (toString n).toList = .ok n := by
  have fits : n.toNat ≤ 18446744073709551615 := Nat.le_of_lt_succ n.toNat_lt
  have written : (toString n).toList = Nat.toDigits 10 n.toNat := toList_toString_nat n.toNat
  rw [written, readUInt64, readNat_toDigits fits]
  exact congrArg Except.ok UInt64.ofNat_toNat

theorem toList_toString_int (n : Int) :
    (toString n).toList =
      if n < 0 then '-' :: Nat.toDigits 10 n.natAbs else Nat.toDigits 10 n.natAbs := by
  cases n with
  | ofNat n => exact toList_toString_nat n
  | negSucc n =>
      have written : (toString (Int.negSucc n)).toList = ("-" ++ (n + 1).repr).toList := rfl
      rw [written, String.toList_append, if_pos (Int.negSucc_lt_zero n)]
      exact congrArg ('-' :: ·) (toList_toString_nat (n + 1))

theorem readInt32_toString (n : Int32) : readInt32 (toString n).toList = .ok n := by
  have below := n.toInt_lt
  have above := n.le_toInt
  have written : (toString n).toList = _ := toList_toString_int n.toInt
  rw [written, readInt32]
  by_cases negative : n.toInt < 0
  · rw [if_pos negative, readInt_neg_toDigits (by omega)]
    have value : -(n.toInt.natAbs : Int) = n.toInt := by omega
    exact congrArg Except.ok ((congrArg Int32.ofInt value).trans n.ofInt_toInt)
  · rw [if_neg negative, readInt_toDigits (by omega)]
    have value : (n.toInt.natAbs : Int) = n.toInt := by omega
    exact congrArg Except.ok ((congrArg Int32.ofInt value).trans n.ofInt_toInt)

theorem isBlank_of_isDigit {c : Char} (h : c.isDigit = true) : isBlank c = false := by
  obtain ⟨low, high⟩ := Char.isDigit_iff_toNat.mp h
  change 48 ≤ c.toNat at low
  change c.toNat ≤ 57 at high
  simp only [isBlank, Bool.or_eq_false_iff, Bool.and_eq_false_iff, decide_eq_false_iff_not,
    beq_eq_false_iff_ne]
  omega

theorem unbroken_toDigits (n : Nat) : Unbroken (Nat.toDigits 10 n) :=
  fun _ hc => isBlank_of_isDigit (isDigit_of_mem_toDigits hc)

theorem unbroken_toString_uint32 (n : UInt32) : Unbroken (toString n).toList := by
  have written : (toString n).toList = Nat.toDigits 10 n.toNat := toList_toString_nat n.toNat
  rw [written]
  exact unbroken_toDigits n.toNat

theorem unbroken_toString_int32 (n : Int32) : Unbroken (toString n).toList := by
  have written : (toString n).toList = _ := toList_toString_int n.toInt
  rw [written]
  split
  · exact Text.Unbroken.cons rfl (unbroken_toDigits _)
  · exact unbroken_toDigits _

end Quiesce.Numeral
