import Quiesce.Proofs.Text.Numerals
import Quiesce.StatusLine

/-!
Status lines come back from their text, unless a value in them has white space in it or a control
address spells the word for its absence. Lines with such a value are never read, so that what is
read from any text, however it is spaced and whatever else stands in it, is stable from then on.
-/
namespace Quiesce.StatusLine

open Text

/-- The lines that can be read from some text. -/
def Readable : StatusLine → Prop
  | ready _ none | stage _ => True
  | ready _ (some control) => Unbroken control.toList ∧ control ≠ "none"
  | stopped reason _ => Unbroken reason.toList

instance (s : StatusLine) : Decidable s.Readable := by
  unfold Readable
  split <;> infer_instance

/-! ### From a line to its text and back -/

def factWord (key : String) (value : List Char) : List Char := key.toList ++ '=' :: value

theorem isWord_factWord {key : String} {value : List Char} (h : Unbroken key.toList)
    (k : Unbroken value) : IsWord (factWord key value) := by
  refine ⟨List.append_ne_nil_of_right_ne_nil _ (List.cons_ne_nil _ _), h.append ?_⟩
  exact Unbroken.cons rfl k

/-- The words that a line is made of, after its first five characters. -/
def wordsOf : StatusLine → List (List Char)
  | ready pid control => ["ready".toList, factWord "pid" (toString pid).toList,
      factWord "control" (control.getD "none").toList]
  | stage s => ["state".toList, s.name.toList]
  | stopped reason code => ["stopped".toList, factWord "reason" reason.toList,
      factWord "code" (toString code).toList]

theorem toList_render (s : StatusLine) :
    s.render.toList = "dvm: ".toList ++ spaced s.wordsOf := by
  cases s with
  | ready pid control =>
      have text : (ready pid control).render =
          "dvm: ready pid=" ++ toString pid ++ " control=" ++ control.getD "none" := rfl
      rw [text, wordsOf]
      generalize toString pid = number
      simp [factWord, spaced_cons_cons, spaced_singleton]
  | stage s =>
      have text : (stage s).render = "dvm: state " ++ s.name := rfl
      simp [text, wordsOf, spaced_cons_cons, spaced_singleton]
  | stopped reason code =>
      have text : (stopped reason code).render =
          "dvm: stopped reason=" ++ reason ++ " code=" ++ toString code := rfl
      rw [text, wordsOf]
      generalize toString code = number
      simp [factWord, spaced_cons_cons, spaced_singleton]

theorem isWord_of_mem_wordsOf {s : StatusLine} (h : s.Readable) :
    ∀ w ∈ s.wordsOf, IsWord w := by
  cases s with
  | ready pid control =>
      have value : Unbroken (control.getD "none").toList := by
        cases control with
        | none => decide
        | some control => exact h.1
      simp only [wordsOf, List.mem_cons, List.not_mem_nil, or_false, forall_eq_or_imp, forall_eq]
      exact ⟨by decide, isWord_factWord (by decide) (Numeral.unbroken_toString_uint32 pid),
        isWord_factWord (by decide) value⟩
  | stage s =>
      simp only [wordsOf, List.mem_cons, List.not_mem_nil, or_false, forall_eq_or_imp, forall_eq]
      cases s <;> decide
  | stopped reason code =>
      simp only [wordsOf, List.mem_cons, List.not_mem_nil, or_false, forall_eq_or_imp, forall_eq]
      exact ⟨by decide, isWord_factWord (by decide) h,
        isWord_factWord (by decide) (Numeral.unbroken_toString_int32 code)⟩

theorem facts_pair (key other : String) (h : '=' ∉ key.toList) (k : '=' ∉ other.toList)
    (value another : List Char) :
    facts [factWord key value, factWord other another] =
      [(key.toList, value), (other.toList, another)] := by
  have first : cutAt '=' (factWord key value) = some (key.toList, value) := cutAt_append h
  have second : cutAt '=' (factWord other another) = some (other.toList, another) :=
    cutAt_append k
  simp only [facts, List.filterMap_cons, first, second, List.filterMap_nil]

/-- Of two facts with a key that are both kept, the second one counts. -/
theorem lastValue?_pair (key : String) (keep : List Char → Bool) (f g : Fact) :
    lastValue? key keep [f, g] =
      if g.1 = key.toList ∧ keep g.2 = true then some g.2
      else if f.1 = key.toList ∧ keep f.2 = true then some f.2
      else none := by
  have holds (a : Fact) : (a.1 == key.toList && keep a.2) = true ↔
      a.1 = key.toList ∧ keep a.2 = true := by
    rw [Bool.and_eq_true, beq_iff_eq]
  simp only [lastValue?, List.reverse_cons, List.reverse_nil, List.nil_append,
    List.singleton_append, List.find?_cons]
  cases hg : g.1 == key.toList && keep g.2 with
  | true => rw [if_pos ((holds g).mp hg), Option.map_some]
  | false =>
      rw [if_neg (fun both => Bool.false_ne_true (hg.symm.trans ((holds g).mpr both)))]
      cases hf : f.1 == key.toList && keep f.2 with
      | true => rw [if_pos ((holds f).mp hf), Option.map_some]
      | false =>
          rw [if_neg (fun both => Bool.false_ne_true (hf.symm.trans ((holds f).mpr both)))]
          rfl

theorem lastValue?_first (key other : String) {keep : List Char → Bool} {value : List Char}
    (h : other.toList ≠ key.toList) (kept : keep value = true) (another : List Char) :
    lastValue? key keep [(key.toList, value), (other.toList, another)] = some value := by
  rw [lastValue?_pair, if_neg (fun both => h both.1), if_pos ⟨rfl, kept⟩]

theorem lastValue?_second (key : String) {keep : List Char → Bool} {value : List Char} (f : Fact)
    (kept : keep value = true) : lastValue? key keep [f, (key.toList, value)] = some value := by
  rw [lastValue?_pair, if_pos ⟨rfl, kept⟩]

theorem readReady_of_readable {pid : UInt32} {control : Option String}
    (h : (ready pid control).Readable) :
    readReady (ready pid control).wordsOf.tail = .ok (ready pid control) := by
  have number : lastValue? "pid" (fun _ => true)
      [("pid".toList, (toString pid).toList), ("control".toList, (control.getD "none").toList)] =
        some (toString pid).toList :=
    lastValue?_first "pid" "control" (by decide) rfl _
  have address : lastValue? "control" (· != "none".toList)
      [("pid".toList, (toString pid).toList), ("control".toList, (control.getD "none").toList)] =
        control.map String.toList := by
    cases control with
    | none =>
        have key : ¬ "pid".toList = "control".toList := by decide
        rw [lastValue?_pair, if_neg (fun both => absurd both.2 (by decide)),
          if_neg (fun both => key both.1)]
        rfl
    | some control =>
        have other : control.toList ≠ "none".toList := fun same => h.2 (String.toList_inj.mp same)
        exact lastValue?_second "control" _ (bne_iff_ne.mpr other)
  have back : (control.map String.toList).map String.ofList = control := by
    cases control <;> simp
  simp only [readReady, wordsOf, List.tail_cons, facts_pair "pid" "control" (by decide)
    (by decide), number, address, Option.bind_some, Numeral.readUInt32_toString,
    Except.toOption, back]

theorem readStopped_of_readable (reason : String) (code : Int32) :
    readStopped (stopped reason code).wordsOf.tail = .ok (stopped reason code) := by
  have label : lastValue? "reason" (fun _ => true)
      [("reason".toList, reason.toList), ("code".toList, (toString code).toList)] =
        some reason.toList :=
    lastValue?_first "reason" "code" (by decide) rfl _
  have number : lastValue? "code" (fun _ => true)
      [("reason".toList, reason.toList), ("code".toList, (toString code).toList)] =
        some (toString code).toList :=
    lastValue?_second "code" _ rfl
  simp only [readStopped, wordsOf, List.tail_cons, facts_pair "reason" "code" (by decide)
    (by decide), label, number, Option.bind_some, Numeral.readInt32_toString,
    Except.toOption, String.ofList_toList]

theorem readWords_wordsOf {s : StatusLine} (h : s.Readable) : readWords s.wordsOf = .ok s := by
  cases s with
  | ready pid control => exact readReady_of_readable h
  | stage s => cases s <;> rfl
  | stopped reason code => exact readStopped_of_readable reason code

theorem read_render {s : StatusLine} (h : s.Readable) : read s.render = .ok s := by
  have words_s := isWord_of_mem_wordsOf h
  have some : s.wordsOf ≠ [] := by cases s <;> exact List.cons_ne_nil _ _
  have trimmed : trimEnd s.render.toList = "dvm: ".toList ++ spaced s.wordsOf := by
    rw [toList_render, trimEnd_spaced _ words_s some]
  simp only [read, trimmed, stripStart?_append, words_spaced words_s]
  exact readWords_wordsOf h

/-! ### What can be read at all -/

theorem unbroken_of_lastValue? {key : String} {keep : List Char → Bool} {ws : List (List Char)}
    {value : List Char} (h : ∀ w ∈ ws, Unbroken w)
    (found : lastValue? key keep (facts ws) = some value) :
    Unbroken value ∧ keep value = true := by
  obtain ⟨⟨k, v⟩, first, rfl⟩ := Option.map_eq_some_iff.mp found
  have kept := List.find?_some first
  obtain ⟨word, inside, cut⟩ :=
    List.mem_filterMap.mp (List.mem_reverse.mp (List.mem_of_find?_eq_some first))
  have whole := h word inside
  rw [of_cutAt cut] at whole
  refine ⟨fun c hc => whole c ?_, (Bool.and_eq_true_iff.mp kept).2⟩
  exact List.mem_append_right _ (List.mem_cons_of_mem _ hc)

theorem readable_of_readReady {ws : List (List Char)} {s : StatusLine}
    (h : ∀ w ∈ ws, Unbroken w) (hs : readReady ws = .ok s) : s.Readable := by
  simp only [readReady] at hs
  split at hs
  · cases hs
  · cases hs
    cases found : lastValue? "control" (· != "none".toList) (facts ws) with
    | none => trivial
    | some value =>
        obtain ⟨unbroken, other⟩ := unbroken_of_lastValue? h found
        refine ⟨?_, ?_⟩
        · rw [String.toList_ofList]
          exact unbroken
        · rintro same
          rw [← same, String.toList_ofList] at other
          exact bne_iff_ne.mp other rfl

theorem readable_of_readStage {ws : List (List Char)} {s : StatusLine}
    (hs : readStage ws = .ok s) : s.Readable := by
  unfold readStage at hs
  split at hs
  · cases hs
  · split at hs <;> cases hs
    trivial

theorem readable_of_readStopped {ws : List (List Char)} {s : StatusLine}
    (h : ∀ w ∈ ws, Unbroken w) (hs : readStopped ws = .ok s) : s.Readable := by
  simp only [readStopped] at hs
  split at hs
  · cases hs
  · cases hs
  · rename_i reason code label number
    cases hs
    obtain ⟨unbroken, _⟩ := unbroken_of_lastValue? h label
    rw [Readable, String.toList_ofList]
    exact unbroken

theorem readable_of_readWords {ws : List (List Char)} {s : StatusLine}
    (h : ∀ w ∈ ws, Unbroken w) (hs : readWords ws = .ok s) : s.Readable := by
  unfold readWords at hs
  split at hs
  · cases hs
  · rename_i verb rest
    have unbroken : ∀ w ∈ rest, Unbroken w := fun w hw => h w (List.mem_cons_of_mem verb hw)
    split at hs
    · exact readable_of_readReady unbroken hs
    · split at hs
      · exact readable_of_readStage hs
      · split at hs
        · exact readable_of_readStopped unbroken hs
        · cases hs

theorem readable_of_read {line : String} {s : StatusLine} (h : read line = .ok s) :
    s.Readable := by
  unfold read at h
  split at h
  · cases h
  · exact readable_of_readWords (fun w hw => (isWord_of_mem_words hw).2) h

/-- A line comes back from its own text exactly if it can be read from some text at all, and these
are the lines without white space in a value whose address is not the word for none. So whatever is
read from a text stays as it is from then on. -/
theorem reading_stable :
    (∀ s : StatusLine, read s.render = .ok s ↔ s.Readable) ∧
    (∀ s : StatusLine, (∃ line, read line = .ok s) ↔ s.Readable) ∧
    ∀ line s, read line = .ok s → read s.render = .ok s := by
  refine ⟨fun s => ⟨readable_of_read, read_render⟩, ?_, ?_⟩
  · intro s
    constructor
    · rintro ⟨line, h⟩
      exact readable_of_read h
    · intro h
      exact ⟨s.render, read_render h⟩
  · intro line s h
    exact read_render (readable_of_read h)

/-- A line with much that does not count: spaces, a key given twice, an unknown one. -/
theorem reading_stable_untidy :
    read "dvm: ready  pid=x control=a=b up=1\tpid=+42 \n" = .ok (.ready 42 (some "a=b")) ∧
    read (ready 42 (some "a=b")).render = .ok (.ready 42 (some "a=b")) := by
  have untidy : read "dvm: ready  pid=x control=a=b up=1\tpid=+42 \n" =
      .ok (.ready 42 (some "a=b")) := rfl
  exact ⟨untidy, reading_stable.2.2 _ _ untidy⟩

end Quiesce.StatusLine
