import Quiesce.Proofs.Text.Words

/-!
What the words of a text are and what is left of it when the white space at its end is dropped,
said without the way in which they are found. Any two words have white space between them, and
there may be more of it anywhere but inside a word; every text has words in this sense, and has
them in one way only.
-/
namespace Quiesce.Text

/-- The words of a text, in their order. -/
inductive HasWords : List Char → List (List Char) → Prop where
  | nil : HasWords [] []
  | blank {c cs ws} (space : isBlank c = true) (rest : HasWords cs ws) : HasWords (c :: cs) ws
  | last {w} (word : IsWord w) : HasWords w [w]
  | word {w c cs ws} (word : IsWord w) (space : isBlank c = true) (rest : HasWords cs ws) :
      HasWords (w ++ c :: cs) (w :: ws)

theorem words_cons_of_blank {c : Char} (space : isBlank c = true) (cs : List Char) :
    words (c :: cs) = words cs := by
  simp [words, splitWhen, space]

theorem words_of_isWord {w : List Char} (h : IsWord w) : words w = [w] := by
  simp [words, splitWhen_of_none h.2, h.1]

theorem words_append_blank {w : List Char} (h : IsWord w) {c : Char} (space : isBlank c = true)
    (cs : List Char) : words (w ++ c :: cs) = w :: words cs := by
  simp [words, splitWhen_append h.2 space, h.1]

theorem HasWords.words_eq {cs : List Char} {ws : List (List Char)} (h : HasWords cs ws) :
    words cs = ws := by
  induction h with
  | nil => rfl
  | blank space _ ih => rw [words_cons_of_blank space, ih]
  | last word => exact words_of_isWord word
  | word word space _ ih => rw [words_append_blank word space, ih]

/-- Up to its first white space a text is unbroken. -/
theorem unbroken_takeWhile (cs : List Char) : Unbroken (cs.takeWhile (!isBlank ·)) := by
  intro c hc
  simpa using List.all_eq_true.mp List.all_takeWhile c hc

/-- The recursion is on the length: a word is taken off together with the white space after it. -/
theorem hasWords_words (cs : List Char) : HasWords cs (words cs) := by
  induction hn : cs.length using Nat.strongRecOn generalizing cs with
  | ind n ih =>
      subst hn
      have whole : cs.takeWhile (!isBlank ·) ++ cs.dropWhile (!isBlank ·) = cs :=
        List.takeWhile_append_dropWhile
      have unbroken := unbroken_takeWhile cs
      generalize cs.takeWhile (!isBlank ·) = w at whole unbroken
      cases left : cs.dropWhile (!isBlank ·) with
      | nil =>
          rw [left, List.append_nil] at whole
          subst whole
          cases w with
          | nil => exact .nil
          | cons c w =>
              have word : IsWord (c :: w) := ⟨List.cons_ne_nil c w, unbroken⟩
              rw [words_of_isWord word]
              exact .last word
      | cons c rest =>
          have space : isBlank c = true := by
            have first := List.head?_dropWhile_not (!isBlank ·) cs
            rw [left] at first
            simpa using first
          rw [left] at whole
          subst whole
          have shorter := ih rest.length (by simp; omega) rest rfl
          cases w with
          | nil =>
              rw [List.nil_append, words_cons_of_blank space]
              exact .blank space shorter
          | cons d w =>
              have word : IsWord (d :: w) := ⟨List.cons_ne_nil d w, unbroken⟩
              rw [words_append_blank word space]
              exact .word word space shorter

theorem words_eq_iff {cs : List Char} {ws : List (List Char)} :
    words cs = ws ↔ HasWords cs ws :=
  ⟨fun h => h ▸ hasWords_words cs, HasWords.words_eq⟩

/-- A text without words is white space. -/
theorem HasWords.blank_of_nil {cs : List Char} (h : HasWords cs []) :
    ∀ c ∈ cs, isBlank c = true := by
  generalize none : ([] : List (List Char)) = ws at h
  induction h with
  | nil => simp
  | blank space _ ih => simpa [space] using ih none
  | last _ | word _ _ _ _ => cases none

/-- The second text is the first one without the white space at its end. -/
def Trimmed (cs text : List Char) : Prop :=
  ∃ tail, cs = text ++ tail ∧ (∀ c ∈ tail, isBlank c = true) ∧
    ∀ c ∈ text.getLast?, isBlank c = false

theorem trimmed_trimEnd (cs : List Char) : Trimmed cs (trimEnd cs) := by
  refine ⟨(cs.reverse.takeWhile isBlank).reverse, ?_, ?_, ?_⟩
  · rw [trimEnd, ← List.reverse_append, List.takeWhile_append_dropWhile, List.reverse_reverse]
  · intro c hc
    exact List.all_eq_true.mp List.all_takeWhile c (List.mem_reverse.mp hc)
  · intro c hc
    rw [trimEnd, List.getLast?_reverse] at hc
    have first := List.head?_dropWhile_not isBlank cs.reverse
    rw [Option.mem_def.mp hc] at first
    simpa using first

theorem Trimmed.trimEnd_eq {cs text : List Char} (h : Trimmed cs text) : trimEnd cs = text := by
  obtain ⟨tail, rfl, blank, last⟩ := h
  have dropped : (text ++ tail).reverse.dropWhile isBlank = text.reverse := by
    rw [List.reverse_append, List.dropWhile_append_of_pos (by simpa using blank)]
    cases reversed : text.reverse with
    | nil => rfl
    | cons c rest =>
        have stays : isBlank c = false := by
          apply last
          rw [← List.head?_reverse, reversed]
          rfl
        rw [List.dropWhile_cons_of_neg (by simp [stays])]
  rw [trimEnd, dropped, List.reverse_reverse]

theorem trimEnd_eq_iff {cs text : List Char} : trimEnd cs = text ↔ Trimmed cs text :=
  ⟨fun h => h ▸ trimmed_trimEnd cs, Trimmed.trimEnd_eq⟩

theorem stripStart?_eq_some_iff {start cs rest : List Char} :
    stripStart? start cs = some rest ↔ cs = start ++ rest := by
  refine ⟨fun h => ?_, fun h => h ▸ stripStart?_append start rest⟩
  induction start generalizing cs with
  | nil => exact Option.some.inj h
  | cons p start ih =>
      cases cs with
      | nil => cases h
      | cons c cs =>
          simp only [stripStart?] at h
          split at h
          · rename_i same
            rw [same, List.cons_append, ih h]
          · cases h

end Quiesce.Text
