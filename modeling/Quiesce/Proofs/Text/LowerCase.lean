import Quiesce.Text.Lower

/-!
Names in ASCII and their spellings in other letters. What is in lower case holds neither a capital
of ASCII nor the only other character whose small letter is one of ASCII, the sign for a degree
Kelvin. A text in lower case that spells a name in other letters is therefore that name.
-/
namespace Quiesce.Text

/-- Characters that are not turned into another one of ASCII. -/
def IsSettled (c : Char) : Prop := (c.toNat < 65 ∨ 90 < c.toNat) ∧ c.toNat ≠ 8490

theorem toLower_ascii : ∀ n < 128,
    IsSettled (Char.ofNat n).toLower ∧ (IsSettled (Char.ofNat n) →
      (Char.ofNat n).toLower = Char.ofNat n) := by
  unfold IsSettled
  decide

/-- The small letters of a range are beyond ASCII, but for the one of the Kelvin sign. -/
theorem of_mem_ranges : ∀ r ∈ capitalRanges,
    (128 ≤ r.1 + r.2.2.2 ∨ r.1 = 8490 ∧ r.2.1 = 8490 ∧ r.2.2.2 = -8383) ∧
      (8490 < r.1 + r.2.2.2 ∨ r.2.1 + r.2.2.2 < 8490) ∧
      (r.2.1 + r.2.2.2 < 55296 ∨ 57343 < r.1 + r.2.2.2 ∧ r.2.1 + r.2.2.2 < 1114112) := by
  decide +kernel

theorem toNat_ofNat {n : Nat} (valid : n < 55296 ∨ 57343 < n ∧ n < 1114112) :
    (Char.ofNat n).toNat = n := by
  have valid : n.isValidChar := valid
  rw [Char.ofNat, dif_pos valid]
  rfl

theorem smallLetter?_eq_some {n : Nat} {c : Char} (h : smallLetter? n = some c) :
    IsSettled c ∧ (c.toNat < 128 → n = 8490) := by
  obtain ⟨⟨first, last, step, distance⟩, found, rfl⟩ := Option.map_eq_some_iff.mp h
  have inside := List.find?_some found
  simp only [Bool.and_eq_true, decide_eq_true_eq] at inside
  obtain ⟨⟨low, high⟩, _⟩ := inside
  have low : first ≤ n := low
  have high : n ≤ last := high
  obtain ⟨beyond, apart, valid⟩ : (128 ≤ first + distance ∨
      first = 8490 ∧ last = 8490 ∧ distance = -8383) ∧
      (8490 < first + distance ∨ last + distance < 8490) ∧
      (last + distance < 55296 ∨ 57343 < first + distance ∧ last + distance < 1114112) :=
    of_mem_ranges _ (List.mem_of_find?_eq_some found)
  have value : (Char.ofNat (n + distance).toNat).toNat = (n + distance).toNat :=
    toNat_ofNat (by omega)
  change IsSettled (Char.ofNat (n + distance).toNat) ∧
    ((Char.ofNat (n + distance).toNat).toNat < 128 → n = 8490)
  rw [IsSettled, value]
  omega

theorem isSettled_of_mem_lowerChar {c d : Char} (h : d ∈ lowerChar c) : IsSettled d := by
  by_cases ascii : c.toNat < 128
  · simp only [lowerChar, ascii, ite_true, List.mem_singleton] at h
    rw [h, ← Char.ofNat_toNat c]
    exact (toLower_ascii _ ascii).1
  · by_cases dotted : c = '\u0130'
    · subst dotted
      have both : lowerChar '\u0130' = ['i', '\u0307'] := by decide
      have settled : IsSettled 'i' ∧ IsSettled '\u0307' := by unfold IsSettled; decide
      rw [both] at h
      rcases List.mem_cons.mp h with rfl | h
      · exact settled.1
      · rw [List.mem_singleton.mp h]
        exact settled.2
    · simp only [lowerChar, ascii, dotted, ite_false, List.mem_singleton] at h
      subst h
      cases letter : smallLetter? c.toNat with
      | some small => exact (smallLetter?_eq_some letter).1
      | none =>
          have kelvin : smallLetter? 8490 = some 'k' := by decide
          refine ⟨.inr ?_, ?_⟩
          · simp only [Option.getD_none]
            omega
          · intro sign
            rw [Option.getD_none] at sign
            rw [sign, kelvin] at letter
            cases letter

theorem isSettled_of_mem_lowerAfter {before cs : List Char} {d : Char}
    (h : d ∈ lowerAfter before cs) : IsSettled d := by
  induction cs generalizing before with
  | nil => cases h
  | cons c cs ih =>
      rcases List.mem_append.mp h with first | rest
      · split at first
        · rw [List.mem_singleton.mp first, lowerSigma]
          split <;> exact ⟨by decide, by decide⟩
        · exact isSettled_of_mem_lowerChar first
      · exact ih rest

theorem lowerChar_of_ascii {c : Char} (settled : IsSettled c)
    (ascii : ∀ d ∈ lowerChar c, d.toNat < 128) : lowerChar c = [c] := by
  by_cases small : c.toNat < 128
  · simp only [lowerChar, small, ite_true]
    have same := (toLower_ascii _ small).2
    rw [Char.ofNat_toNat] at same
    rw [same settled]
  · by_cases dotted : c = '\u0130'
    · subst dotted
      exact absurd (ascii '\u0307' (by decide)) (by decide)
    · simp only [lowerChar, small, dotted, ite_false] at ascii ⊢
      have only := ascii _ List.mem_cons_self
      cases letter : smallLetter? c.toNat with
      | some d =>
          rw [letter, Option.getD_some] at only
          exact absurd ((smallLetter?_eq_some letter).2 only) settled.2
      | none => rfl

/-- Settled characters that spell a name of ASCII are that name. -/
theorem lowerAfter_of_ascii {before cs : List Char} (settled : ∀ c ∈ cs, IsSettled c)
    (ascii : ∀ d ∈ lowerAfter before cs, d.toNat < 128) : lowerAfter before cs = cs := by
  induction cs generalizing before with
  | nil => rfl
  | cons c cs ih =>
      have rest : lowerAfter (c :: before) cs = cs :=
        ih (fun d inside => settled d (List.mem_cons_of_mem c inside))
          fun d inside => ascii d (List.mem_append_right _ inside)
      by_cases sigma : c = '\u03a3'
      · subst sigma
        have small := ascii (lowerSigma before cs) (by simp [lowerAfter])
        rw [lowerSigma] at small
        split at small <;> exact absurd small (by decide)
      · have same : lowerChar c = [c] :=
          lowerChar_of_ascii (settled c List.mem_cons_self) fun d inside =>
            ascii d (by simp [lowerAfter, sigma, inside])
        simp only [lowerAfter, sigma, ite_false, same, rest, List.singleton_append]

/-- Characters of ASCII only. -/
def IsPlain (text : String) : Prop := ∀ c ∈ text.toList, c.toNat < 128

instance (text : String) : Decidable (IsPlain text) :=
  decidable_of_iff (text.toList.all fun c => c.toNat < 128) (by simp [IsPlain])

/-- What is settled and spells a name of ASCII in any letters is that name. -/
theorem lower_of_settled {text : String} (settled : ∀ c ∈ text.toList, IsSettled c)
    (plain : IsPlain (lower text)) : lower text = text := by
  have same : lowerAfter [] text.toList = text.toList :=
    lowerAfter_of_ascii settled fun c inside => plain c (by rwa [lower, String.toList_ofList])
  rw [lower, same, String.ofList_toList]

/-- What is in lower case has no other spelling of a name in ASCII. -/
theorem lower_lower_of_isPlain {text : String} (plain : IsPlain (lower (lower text))) :
    lower (lower text) = lower text := by
  refine lower_of_settled (fun c inside => ?_) plain
  rw [lower, String.toList_ofList] at inside
  exact isSettled_of_mem_lowerAfter inside

/-- A character that is its own small letter is kept in lower case. -/
theorem mem_lowerAfter {c : Char} (small : lowerChar c = [c]) {before cs : List Char}
    (h : c ∈ cs) : c ∈ lowerAfter before cs := by
  have other : c ≠ '\u03a3' := fun sigma => absurd (sigma ▸ small) (by decide)
  induction cs generalizing before with
  | nil => cases h
  | cons d cs ih =>
      rw [lowerAfter]
      rcases List.mem_cons.mp h with rfl | later
      · rw [if_neg other, small]
        exact List.mem_cons_self
      · exact List.mem_append_right _ (ih later)

theorem mem_lower {c : Char} (small : lowerChar c = [c]) {text : String} (h : c ∈ text.toList) :
    c ∈ (lower text).toList := by
  rw [lower, String.toList_ofList]
  exact mem_lowerAfter small h

end Quiesce.Text
