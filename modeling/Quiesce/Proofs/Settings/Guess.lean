import Mathlib.Data.List.TakeDrop
import Mathlib.Data.List.TakeWhile
import Quiesce.Proofs.Text.LowerCase
import Quiesce.Proofs.Text.NumeralForms
import Quiesce.Proofs.Text.Words
import Quiesce.Address
import Quiesce.Settings.Environment

/-!
What the text of a variable is taken for. Switches and numbers are looked for in it, and addresses
are made of digits too. But a number has no colon and one point at most, in whichever of its forms
it is written, and an address has a colon or three points: no address is taken for a number.
-/
namespace Quiesce

namespace Text

/-- Neither a colon nor a point. -/
def Solid (cs : List Char) : Prop := ∀ c ∈ cs, c ≠ ':' ∧ c ≠ '.'

instance (cs : List Char) : Decidable (Solid cs) :=
  List.decidableBAll (fun c => c ≠ ':' ∧ c ≠ '.') cs

/-- No colon, and no second point. -/
structure Undivided (cs : List Char) : Prop where
  colon : ':' ∉ cs
  point : cs.count '.' ≤ 1

theorem Solid.of_isDigit {cs : List Char} (h : ∀ c ∈ cs, c.isDigit = true) : Solid cs := by
  intro c inside
  constructor <;> rintro rfl <;> exact absurd (h _ inside) (by decide)

theorem Solid.cons {c : Char} {cs : List Char} (first : c ≠ ':' ∧ c ≠ '.') (h : Solid cs) :
    Solid (c :: cs) :=
  List.forall_mem_cons.mpr ⟨first, h⟩

theorem Solid.append {as bs : List Char} (h : Solid as) (k : Solid bs) : Solid (as ++ bs) :=
  List.forall_mem_append.mpr ⟨h, k⟩

theorem Solid.undivided {cs : List Char} (h : Solid cs) : Undivided cs where
  colon inside := (h _ inside).1 rfl
  point := by
    rw [List.count_eq_zero.mpr fun inside => (h _ inside).2 rfl]
    exact Nat.zero_le 1

/-- A point between texts without one is the only one. -/
theorem Solid.undivided_append {as bs : List Char} (h : Solid as) (k : Solid bs) :
    Undivided (as ++ '.' :: bs) where
  colon inside := by
    rcases List.mem_append.mp inside with left | right
    · exact (h _ left).1 rfl
    · rcases List.mem_cons.mp right with same | right
      · exact absurd same (by decide)
      · exact (k _ right).1 rfl
  point := by
    rw [List.count_append, List.count_cons_self,
      List.count_eq_zero.mpr fun inside => (h _ inside).2 rfl,
      List.count_eq_zero.mpr fun inside => (k _ inside).2 rfl]

theorem Undivided.cons {c : Char} {cs : List Char} (first : c ≠ ':' ∧ c ≠ '.')
    (h : Undivided cs) : Undivided (c :: cs) where
  colon inside := (List.mem_cons.mp inside).elim (fun same => first.1 same.symm) h.colon
  point := by
    rw [List.count_cons_of_ne first.2]
    exact h.point

end Text

open Text (Solid Undivided)

/-! ### Numbers -/

namespace Numeral

theorem undivided_of_unsigned {cs : List Char} {n : Nat} (h : Unsigned cs n) : Undivided cs := by
  cases h with
  | plain _ all => exact (Solid.of_isDigit all).undivided
  | plus _ all => exact (Solid.of_isDigit all).undivided.cons (by decide)

theorem undivided_of_readInt64 {cs : List Char} {n : Int} (h : readInt64 cs = .ok n) :
    Undivided cs := by
  cases (readInt_eq_ok_iff.mp h).1 with
  | unsigned numeral => exact undivided_of_unsigned numeral
  | minus _ all => exact (Solid.of_isDigit all).undivided.cons (by decide)

end Numeral

namespace Decimal

theorem splitSign_cases (cs : List Char) :
    cs = (splitSign cs).2 ∨ ∃ sign, (sign ≠ ':' ∧ sign ≠ '.') ∧ cs = sign :: (splitSign cs).2 := by
  unfold splitSign
  split
  · exact .inr ⟨'+', by decide, rfl⟩
  · exact .inr ⟨'-', by decide, rfl⟩
  · exact .inl rfl

/-- A power of ten is a mark, a sign or none, and digits. -/
theorem solid_of_readPower? {cs : List Char} {n : Int} (h : readPower? cs = some n) :
    Solid cs := by
  cases cs with
  | nil => exact fun c none => nomatch none
  | cons mark cs =>
      simp only [readPower?] at h
      split at h
      · rename_i known
        split at h
        · cases h
        · rename_i digits
          simp only [Bool.or_eq_true, Bool.not_eq_true', not_or, Bool.not_eq_false,
            List.all_eq_true] at digits
          have behind : Solid (splitSign cs).2 := .of_isDigit digits.2
          have after : Solid cs := by
            rcases splitSign_cases cs with plain | ⟨sign, apart, signed⟩
            · exact plain ▸ behind
            · exact signed ▸ behind.cons apart
          refine after.cons ?_
          rcases known with rfl | rfl <;> decide
      · cases h

/-- A number without a sign is digits, with a point among them or none, and a power of ten. -/
theorem undivided_of_readPlain? {negative : Bool} {cs : List Char} {x : Binary64}
    (h : readPlain? negative cs = some x) : Undivided cs := by
  have digits (ds : List Char) : Solid (ds.takeWhile Char.isDigit) :=
    .of_isDigit fun _ inside => List.mem_takeWhile_imp inside
  rw [← List.takeWhile_append_dropWhile (p := Char.isDigit) (l := cs)]
  rw [readPlain?, List.span_eq_takeWhile_dropWhile] at h
  dsimp only at h
  generalize cs.dropWhile Char.isDigit = rest at h ⊢
  split at h
  · rename_i behind
    rw [← List.takeWhile_append_dropWhile (p := Char.isDigit) (l := behind)]
    rw [List.span_eq_takeWhile_dropWhile] at h
    split at h
    · cases h
    · obtain ⟨power, read, _⟩ := Option.bind_eq_some_iff.mp h
      exact (digits cs).undivided_append ((digits behind).append (solid_of_readPower? read))
  · split at h
    · cases h
    · obtain ⟨power, read, _⟩ := Option.bind_eq_some_iff.mp h
      exact ((digits cs).append (solid_of_readPower? read)).undivided

/-- The names of what is no finite number have letters alone. -/
theorem solid_of_word {cs : List Char} {word : String} (letters : Solid word.toList)
    (h : String.ofList (cs.map Char.toLower) = word) : Solid cs := by
  intro c inside
  have small : c.toLower ∈ word.toList := by
    rw [← h, String.toList_ofList]
    exact List.mem_map_of_mem inside
  constructor <;> rintro rfl
  · exact (letters _ small).1 rfl
  · exact (letters _ small).2 rfl

theorem undivided_of_read? {cs : List Char} {x : Binary64} (h : read? cs = some x) :
    Undivided cs := by
  have unsigned : Undivided (splitSign cs).2 := by
    simp only [read?] at h
    split at h
    · rename_i infinite
      rcases infinite with short | long
      · exact (solid_of_word (by decide) short).undivided
      · exact (solid_of_word (by decide) long).undivided
    · split at h
      · rename_i noNumber
        exact (solid_of_word (by decide) noNumber).undivided
      · exact undivided_of_readPlain? h
  rcases splitSign_cases cs with plain | ⟨sign, apart, signed⟩
  · exact plain ▸ unsigned
  · exact signed ▸ unsigned.cons apart

end Decimal

/-! ### Addresses -/

namespace Address

/-- What comes of as many pieces has as many parts. -/
theorem length_of_mapM {α β : Type} {f : α → Option β} {as : List α} {bs : List β}
    (h : as.mapM f = some bs) : bs.length = as.length := by
  induction as generalizing bs with
  | nil =>
      cases h
      rfl
  | cons a as ih =>
      rw [List.mapM_cons] at h
      obtain ⟨b, _, h⟩ := Option.bind_eq_some_iff.mp h
      obtain ⟨rest, others, h⟩ := Option.bind_eq_some_iff.mp h
      cases h
      rw [List.length_cons, List.length_cons, ih others]

theorem points_of_readV4? {cs : List Char} {octets : List Nat} (h : readV4? cs = some octets) :
    cs.count '.' = 3 := by
  obtain ⟨read, pieces, h⟩ := Option.bind_eq_some_iff.mp h
  split at h
  · rename_i four
    have cut := Text.length_splitWhen (· = '.') cs
    rw [← length_of_mapM pieces, four] at cut
    have points : cs.count '.' = cs.countP (· = '.') := List.count_eq_countP ..
    omega
  · cases h

theorem of_cutGap {cs before after : List Char} (h : cutGap cs = some (before, after)) :
    cs = before ++ ':' :: ':' :: after := by
  induction cs generalizing before with
  | nil => cases h
  | cons c cs ih =>
      rw [cutGap] at h
      split at h
      · rename_i colons
        cases h
        obtain ⟨rest, rfl⟩ := List.head?_eq_some_iff.mp colons.2
        rw [colons.1]
        rfl
      · obtain ⟨⟨front, _⟩, cut, same⟩ := Option.map_eq_some_iff.mp h
        cases same
        rw [ih cut]
        rfl

/-- A piece stands for one group, or for two where it is of octets. -/
theorem length_readGroups? {octets : Bool} {piece : List Char} {groups : List Nat}
    (h : readGroups? octets [piece] = some groups) : groups.length ≤ 2 := by
  unfold readGroups? at h
  split at h
  · cases h
    exact Nat.le_succ 1
  · split at h
    · cases h
      exact le_rfl
    · cases h

theorem colon_of_readV6? {cs : List Char} {groups : List Nat} (h : readV6? cs = some groups) :
    ':' ∈ cs := by
  unfold readV6? at h
  cases gap : cutGap cs with
  | some sides =>
      rw [of_cutGap gap]
      exact List.mem_append_right _ List.mem_cons_self
  | none =>
      rw [gap] at h
      obtain ⟨read, pieces, h⟩ := Option.bind_eq_some_iff.mp h
      split at h
      · rename_i eight
        by_contra absent
        have whole : Text.splitWhen (· = ':') cs = [cs] :=
          Text.splitWhen_of_none fun c inside =>
            decide_eq_false fun colon => absent (colon ▸ inside)
        rw [whole] at pieces
        have few := length_readGroups? pieces
        omega
      · cases h

/-- An address has a colon, or more points than one. -/
theorem not_undivided {text : String} (h : (read? text).isSome) : ¬ Undivided text.toList := by
  intro undivided
  unfold read? at h
  split at h
  · have three := points_of_readV4? ‹_›
    have one := undivided.point
    omega
  · rw [Option.isSome_map] at h
    obtain ⟨groups, read⟩ := Option.isSome_iff_exists.mp h
    exact undivided.colon (colon_of_readV6? read)

end Address

/-! ### Taken for -/

namespace Settings.Environment

/-- What has a colon or a second point is neither a switch nor a number. -/
theorem guess_of_not_undivided {text : String} (h : ¬ Undivided text.toList) :
    guess text = .text text := by
  have word {name : String} (letters : Solid name.toList) : Text.lower text ≠ name := by
    rintro rfl
    refine h (Solid.undivided fun c inside => ⟨?_, ?_⟩)
    · rintro rfl
      exact (letters _ (Text.mem_lower (by decide) inside)).1 rfl
    · rintro rfl
      exact (letters _ (Text.mem_lower (by decide) inside)).2 rfl
  unfold guess
  split
  · exact absurd ‹_› (word (by decide))
  · exact absurd ‹_› (word (by decide))
  · cases number : Numeral.readInt64 text.toList with
    | ok n => exact absurd (Numeral.undivided_of_readInt64 number) h
    | error _ =>
        cases real : Decimal.read? text.toList with
        | some x => exact absurd (Decimal.undivided_of_read? real) h
        | none => rfl

end Settings.Environment

end Quiesce
