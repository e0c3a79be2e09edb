import Quiesce.Proofs.Text.Words

/-!
Texts as they are sent, in bytes. A text comes back from its bytes, and a byte below 128 stands for
the character of that number and is in the bytes of no other one, so that the end of a line is only
where it was put.
-/
namespace Quiesce.Text

theorem toList_loop (b : ByteArray) (i : Nat) (r : List UInt8) :
    ByteArray.toList.loop b i r = r.reverse ++ b.data.toList.drop i := by
  fun_induction ByteArray.toList.loop b i r with
  | case1 i r inside ih =>
      have more : i < b.data.toList.length := by simpa using inside
      have byte : b.get! i = b.data.toList[i] := by
        simp [ByteArray.get!, getElem!_pos b.data i (by simpa using more)]
      rw [ih, List.drop_eq_getElem_cons more, byte]
      simp
  | case2 i r outside =>
      have none : b.data.toList.length ≤ i := by simpa using outside
      rw [List.drop_eq_nil_of_le none, List.append_nil]

theorem toList_bytes (b : ByteArray) : b.toList = b.data.toList :=
  toList_loop b 0 []

theorem toList_toUTF8 (s : String) : s.toUTF8.toList = s.toList.flatMap String.utf8EncodeChar := by
  rw [toList_bytes, String.toUTF8, ← String.utf8Encode_toList, List.utf8Encode,
    List.toList_data_toByteArray]

theorem fromUTF8?_bytes (s : String) : String.fromUTF8? s.toUTF8 = some s :=
  dif_pos s.isValidUTF8

theorem fromUTF8?_toUTF8 (s : String) :
    String.fromUTF8? ⟨s.toUTF8.toList.toArray⟩ = some s := by
  have back : (⟨s.toUTF8.toList.toArray⟩ : ByteArray) = s.toUTF8 := by
    rw [toList_bytes]
  rw [back, fromUTF8?_bytes]

/-- The first bytes of longer characters, and the bytes that continue them, are at least 128. -/
theorem not_ascii {n m k : Nat} (some : 0 < m) (low : 128 ≤ k) (high : k + m ≤ 256) :
    ¬ (UInt8.ofNat (n % m + k)).toNat < 128 := by
  have rest := Nat.mod_lt n some
  rw [UInt8.toNat_ofNat', Nat.mod_eq_of_lt (by omega)]
  omega

theorem toNat_of_mem_utf8EncodeChar {b : UInt8} {c : Char} (h : b ∈ String.utf8EncodeChar c)
    (ascii : b.toNat < 128) : c.toNat = b.toNat := by
  simp only [String.utf8EncodeChar] at h
  split at h
  · rename_i small
    obtain rfl := List.mem_singleton.mp h
    rw [UInt8.toNat_ofNat', Nat.mod_eq_of_lt (by omega)]
    rfl
  · -- Every byte of a longer character is at least 128.
    refine absurd ascii ?_
    split at h
    · simp only [List.mem_cons, List.not_mem_nil, or_false] at h
      rcases h with rfl | rfl <;> exact not_ascii (by decide) (by decide) (by decide)
    · split at h
      all_goals
        simp only [List.mem_cons, List.not_mem_nil, or_false] at h
        rcases h with rfl | rfl | rfl | rfl <;>
          exact not_ascii (by decide) (by decide) (by decide)

/-- The byte of a character below 128 is in a text only where that character is. -/
theorem mem_of_mem_toUTF8 {s : String} {c : Char} (ascii : c.toNat < 128)
    (h : UInt8.ofNat c.toNat ∈ s.toUTF8.toList) : c ∈ s.toList := by
  rw [toList_toUTF8] at h
  obtain ⟨d, inside, byte⟩ := List.mem_flatMap.mp h
  have number : (UInt8.ofNat c.toNat).toNat = c.toNat := by
    rw [UInt8.toNat_ofNat', Nat.mod_eq_of_lt (by omega)]
  have same := toNat_of_mem_utf8EncodeChar byte (number.symm ▸ ascii)
  rw [number] at same
  exact (Char.toNat_inj.mp same) ▸ inside

end Quiesce.Text
