import Quiesce.Text.Split

/-!
Putting text together and cutting it apart again. Words joined by white space come out as they
went in, a part before a separator comes back if it does not hold the separator itself, and no
word that is cut out of a text is empty or has white space in it.
-/
namespace Quiesce.Text

/-- A text without white space. -/
def Unbroken (cs : List Char) : Prop := ∀ c ∈ cs, isBlank c = false

instance (cs : List Char) : Decidable (Unbroken cs) :=
  List.decidableBAll (isBlank · = false) cs

theorem Unbroken.cons {c : Char} {cs : List Char} (h : isBlank c = false) (k : Unbroken cs) :
    Unbroken (c :: cs) := by
  intro d hd
  rcases List.mem_cons.mp hd with rfl | inside
  · exact h
  · exact k d inside

theorem Unbroken.append {as bs : List Char} (h : Unbroken as) (k : Unbroken bs) :
    Unbroken (as ++ bs) := by
  intro c hc
  rcases List.mem_append.mp hc with left | right
  · exact h c left
  · exact k c right

section Split

variable {α : Type} {sep : α → Bool}

theorem splitWhen_ne_nil (as : List α) : splitWhen sep as ≠ [] := by
  induction as with
  | nil => exact List.cons_ne_nil _ _
  | cons a as ih =>
      simp only [splitWhen]
      split
      · exact List.cons_ne_nil _ _
      · split <;> exact List.cons_ne_nil _ _

/-- A separator is in no piece. -/
theorem sep_of_mem_splitWhen {as piece : List α} {a : α} (hp : piece ∈ splitWhen sep as)
    (ha : a ∈ piece) : sep a = false := by
  induction as generalizing piece with
  | nil =>
      rw [splitWhen, List.mem_singleton] at hp
      rw [hp] at ha
      cases ha
  | cons b as ih =>
      cases hb : sep b with
      | true =>
          simp only [splitWhen, hb, ite_true, List.mem_cons] at hp
          rcases hp with rfl | later
          · cases ha
          · exact ih later ha
      | false =>
          cases pieces : splitWhen sep as with
          | nil => exact absurd pieces (splitWhen_ne_nil as)
          | cons first rest =>
              simp only [splitWhen, hb, pieces, Bool.false_eq_true, ite_false, List.mem_cons] at hp
              rcases hp with rfl | later
              · rcases List.mem_cons.mp ha with rfl | inFirst
                · exact hb
                · exact ih (pieces ▸ List.mem_cons_self) inFirst
              · exact ih (pieces ▸ List.mem_cons_of_mem first later) ha

theorem splitWhen_of_none {as : List α} (h : ∀ a ∈ as, sep a = false) :
    splitWhen sep as = [as] := by
  induction as with
  | nil => rfl
  | cons a as ih =>
      have rest := ih (fun b hb => h b (List.mem_cons_of_mem a hb))
      simp only [splitWhen, h a List.mem_cons_self, rest, Bool.false_eq_true, ite_false]

/-- The piece up to the first separator, and the pieces after it. -/
theorem splitWhen_append {as : List α} {b : α} (h : ∀ a ∈ as, sep a = false)
    (hb : sep b = true) (bs : List α) :
    splitWhen sep (as ++ b :: bs) = as :: splitWhen sep bs := by
  induction as with
  | nil => simp only [List.nil_append, splitWhen, hb, ite_true]
  | cons a as ih =>
      have rest := ih (fun c hc => h c (List.mem_cons_of_mem a hc))
      simp only [List.cons_append, splitWhen, h a List.mem_cons_self, rest, Bool.false_eq_true,
        ite_false]

/-- A separator parts the pieces before it from those behind it. -/
theorem splitWhen_append_cons {a : α} (ends : sep a = true) (before after : List α) :
    splitWhen sep (before ++ a :: after) = splitWhen sep before ++ splitWhen sep after := by
  induction before with
  | nil => simp [splitWhen, ends]
  | cons b before ih =>
      by_cases cut : sep b = true
      · simp [splitWhen, cut, ih]
      · cases pieces : splitWhen sep before with
        | nil => exact absurd pieces (splitWhen_ne_nil before)
        | cons piece pieces' => simp [splitWhen, cut, ih, pieces]

/-- There is a piece before each separator, and one after the last. -/
theorem length_splitWhen (sep : α → Bool) (as : List α) :
    (splitWhen sep as).length = as.countP sep + 1 := by
  induction as with
  | nil => rfl
  | cons a as ih =>
      cases cut : sep a with
      | true => simp only [splitWhen, cut, ite_true, List.length_cons, ih, List.countP_cons]
      | false =>
          rw [List.countP_cons_of_neg (by simp [cut]), ← ih]
          cases pieces : splitWhen sep as with
          | nil => exact absurd pieces (splitWhen_ne_nil as)
          | cons first rest =>
              simp only [splitWhen, cut, pieces, Bool.false_eq_true, ite_false, List.length_cons]

end Split

/-- At least one character, and none of white space. -/
def IsWord (cs : List Char) : Prop := cs ≠ [] ∧ Unbroken cs

instance (cs : List Char) : Decidable (IsWord cs) :=
  inferInstanceAs (Decidable (cs ≠ [] ∧ Unbroken cs))

theorem isWord_of_mem_words {cs word : List Char} (h : word ∈ words cs) : IsWord word := by
  obtain ⟨piece, kept⟩ := List.mem_filter.mp h
  exact ⟨by simpa using kept, fun _ hc => sep_of_mem_splitWhen piece hc⟩

/-- Words with single spaces between them. -/
def spaced (ws : List (List Char)) : List Char := [' '].intercalate ws

theorem spaced_singleton (w : List Char) : spaced [w] = w := by
  simp [spaced]

theorem spaced_cons_cons (w v : List Char) (ws : List (List Char)) :
    spaced (w :: v :: ws) = w ++ ' ' :: spaced (v :: ws) := by
  simp [spaced, List.intercalate_cons_cons]

theorem of_mem_spaced {ws : List (List Char)} {c : Char} (h : c ∈ spaced ws) :
    c = ' ' ∨ ∃ w ∈ ws, c ∈ w := by
  induction ws with
  | nil => cases h
  | cons w ws ih =>
      cases ws with
      | nil =>
          rw [spaced_singleton] at h
          exact .inr ⟨w, List.mem_cons_self, h⟩
      | cons v ws =>
          rw [spaced_cons_cons] at h
          rcases List.mem_append.mp h with first | later
          · exact .inr ⟨w, List.mem_cons_self, first⟩
          · rcases List.mem_cons.mp later with space | rest
            · exact .inl space
            · exact (ih rest).imp_right fun ⟨u, hu, hc⟩ => ⟨u, List.mem_cons_of_mem w hu, hc⟩

theorem words_spaced {ws : List (List Char)} (h : ∀ w ∈ ws, IsWord w) : words (spaced ws) = ws := by
  induction ws with
  | nil => rfl
  | cons w ws ih =>
      obtain ⟨some, unbroken⟩ := h w List.mem_cons_self
      cases ws with
      | nil =>
          have whole := splitWhen_of_none unbroken
          simp [spaced_singleton, words, whole, some]
      | cons v ws =>
          have blank : isBlank ' ' = true := rfl
          have cut := splitWhen_append unbroken blank (spaced (v :: ws))
          have rest := ih (fun u hu => h u (List.mem_cons_of_mem w hu))
          simp only [words] at rest ⊢
          simp [spaced_cons_cons, cut, some, rest]

/-- A text that ends in a word has nothing to be trimmed. -/
theorem trimEnd_spaced (cs : List Char) {ws : List (List Char)} (h : ∀ w ∈ ws, IsWord w)
    (some : ws ≠ []) : trimEnd (cs ++ spaced ws) = cs ++ spaced ws := by
  induction ws generalizing cs with
  | nil => exact absurd rfl some
  | cons w ws ih =>
      cases ws with
      | nil =>
          obtain ⟨some, unbroken⟩ := h w List.mem_cons_self
          have last : isBlank (w.getLast some) = false := unbroken _ (List.getLast_mem some)
          rw [spaced_singleton, ← List.dropLast_concat_getLast some, ← List.append_assoc]
          simp [trimEnd, last]
      | cons v ws =>
          have rest := ih (cs ++ w ++ [' ']) (fun u hu => h u (List.mem_cons_of_mem w hu))
            (List.cons_ne_nil v ws)
          simpa [spaced_cons_cons] using rest

theorem stripStart?_append (start cs : List Char) : stripStart? start (start ++ cs) = some cs := by
  induction start with
  | nil => rfl
  | cons c start ih =>
      simp only [List.cons_append, stripStart?, ite_true]
      exact ih

theorem mem_of_stripStart? {c : Char} {start cs rest : List Char}
    (h : stripStart? start cs = some rest) (inside : c ∈ rest) : c ∈ cs := by
  induction start generalizing cs with
  | nil =>
      cases h
      exact inside
  | cons p start ih =>
      cases cs with
      | nil => cases h
      | cons d cs =>
          rw [stripStart?] at h
          split at h
          · exact List.mem_cons_of_mem d (ih h)
          · cases h

theorem cutAt_append {sep : Char} {before after : List Char} (h : sep ∉ before) :
    cutAt sep (before ++ sep :: after) = some (before, after) := by
  induction before with
  | nil => simp only [List.nil_append, cutAt, ite_true]
  | cons c before ih =>
      have other : c ≠ sep := fun same => h (same ▸ List.mem_cons_self)
      have rest := ih (fun inside => h (List.mem_cons_of_mem c inside))
      simp only [List.cons_append, cutAt, other, ite_false, rest, Option.map_some]

theorem cutAt_of_not_mem {sep : Char} {cs : List Char} (h : sep ∉ cs) : cutAt sep cs = none := by
  induction cs with
  | nil => rfl
  | cons c cs ih =>
      have other : c ≠ sep := fun same => h (same ▸ List.mem_cons_self)
      have rest := ih fun inside => h (List.mem_cons_of_mem c inside)
      simp only [cutAt, other, ite_false, rest, Option.map_none]

theorem of_cutAt {sep : Char} {cs before after : List Char}
    (h : cutAt sep cs = some (before, after)) : cs = before ++ sep :: after := by
  induction cs generalizing before with
  | nil => cases h
  | cons c cs ih =>
      simp only [cutAt] at h
      split at h
      · rename_i same
        cases h
        rw [same, List.nil_append]
      · obtain ⟨⟨before, _⟩, cut, pair⟩ := Option.map_eq_some_iff.mp h
        cases pair
        rw [List.cons_append, ← ih cut]

end Quiesce.Text
