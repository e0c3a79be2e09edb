import Quiesce.Proofs.StatusLine.RoundTrip
import Quiesce.Proofs.Text.NumeralForms
import Quiesce.Proofs.Text.Spacing

/-!
Which lines are status lines, and what they say. The grammar is over the words of a line: of the
words that give a key the last one counts, a control address that is the word for its absence is
no address at all, and all other words are passed over. The reader accepts the lines of the grammar
and no others.
-/
namespace Quiesce.StatusLine

open Text

/-! ### The grammar -/

/-- The words of a line after its mark, whatever white space is at its end. -/
def LineWords (line : String) (ws : List (List Char)) : Prop :=
  ∃ body, Trimmed line.toList ("dvm: ".toList ++ body) ∧ HasWords body ws

/-- The last of the words that give a value of this kind to a key gives it this one. -/
def LastValue (key : String) (kind : List Char → Prop) (ws : List (List Char))
    (value : List Char) : Prop :=
  kind value ∧ ∃ before after, ws = before ++ factWord key value :: after ∧
    ∀ other, factWord key other ∈ after → ¬ kind other

/-- The address that words give, or that they give none. -/
def Address (ws : List (List Char)) : Option String → Prop
  | some address => LastValue "control" (· ≠ "none".toList) ws address.toList
  | none => ∀ value, factWord "control" value ∈ ws → value = "none".toList

/-- What the words of a line say. -/
inductive Says : List (List Char) → StatusLine → Prop where
  | ready {ws number pid control} (last : LastValue "pid" (fun _ => True) ws number)
      (numeral : Numeral.Unsigned number pid.toNat) (address : Address ws control) :
      Says ("ready".toList :: ws) (.ready pid control)
  | stage (s : Stage) (ws) : Says ("state".toList :: s.name.toList :: ws) (.stage s)
  | stopped {ws reason number code}
      (label : LastValue "reason" (fun _ => True) ws reason.toList)
      (last : LastValue "code" (fun _ => True) ws number)
      (numeral : Numeral.Signed number code.toInt) :
      Says ("stopped".toList :: ws) (.stopped reason code)

/-! ### Facts -/

section Facts

variable {key : String} {keep : List Char → Bool} {ws : List (List Char)} {value : List Char}

/-- Whether a word gives a value that is kept to a key. -/
def gives (key : String) (keep : List Char → Bool) (word : List Char) : Bool :=
  (cutAt '=' word).any fun fact => fact.1 == key.toList && keep fact.2

theorem gives_factWord (plain : '=' ∉ key.toList) :
    gives key keep (factWord key value) = keep value := by
  have cut : cutAt '=' (factWord key value) = some (key.toList, value) := cutAt_append plain
  simp [gives, cut]

theorem eq_factWord_of_gives {word : List Char} (h : gives key keep word = true) :
    ∃ value, cutAt '=' word = some (key.toList, value) ∧ word = factWord key value ∧
      keep value = true := by
  obtain ⟨⟨k, v⟩, cut, fits⟩ := (Option.any_eq_true _ _).mp h
  obtain ⟨rfl, kept⟩ : k = key.toList ∧ keep v = true := by simpa using fits
  exact ⟨v, cut, of_cutAt cut, kept⟩

theorem lastValue?_facts :
    lastValue? key keep (facts ws) =
      ((ws.reverse.find? (gives key keep)).bind (cutAt '=')).map (·.2) := by
  rw [lastValue?, facts, ← List.filterMap_reverse, List.find?_filterMap]
  rfl

theorem lastValue?_eq_some_iff (plain : '=' ∉ key.toList) :
    lastValue? key keep (facts ws) = some value ↔
      LastValue key (fun v => keep v = true) ws value := by
  rw [lastValue?_facts]
  constructor
  · -- the first word of the reversed list that gives a value, and none before it
    intro found
    obtain ⟨fact, bound, rfl⟩ := Option.map_eq_some_iff.mp found
    obtain ⟨word, first, cut⟩ := Option.bind_eq_some_iff.mp bound
    obtain ⟨given, after, before, split, rest⟩ := List.find?_eq_some_iff_append.mp first
    obtain ⟨v, cut', rfl, kept⟩ := eq_factWord_of_gives given
    cases cut.symm.trans cut'
    refine ⟨kept, before.reverse, after.reverse, ?_, ?_⟩
    · rw [← List.reverse_reverse ws, split]
      simp
    · intro other inside
      have skipped := rest _ (List.mem_reverse.mp inside)
      rw [gives_factWord plain] at skipped
      simpa using skipped
  · rintro ⟨kept, before, after, rfl, rest⟩
    have first : (before ++ factWord key value :: after).reverse.find? (gives key keep) =
        some (factWord key value) := by
      refine List.find?_eq_some_iff_append.mpr
        ⟨(gives_factWord plain).trans kept, after.reverse, before.reverse, by simp, ?_⟩
      intro word inside
      cases given : gives key keep word with
      | false => rfl
      | true =>
          obtain ⟨other, _, rfl, keeps⟩ := eq_factWord_of_gives given
          exact absurd keeps (rest other (List.mem_reverse.mp inside))
    have cut : cutAt '=' (factWord key value) = some (key.toList, value) := cutAt_append plain
    rw [first, Option.bind_some, cut, Option.map_some]

theorem lastValue?_eq_none_iff (plain : '=' ∉ key.toList) :
    lastValue? key keep (facts ws) = none ↔
      ∀ value, factWord key value ∈ ws → keep value = false := by
  constructor
  · intro absent value inside
    cases kept : keep value with
    | false => rfl
    | true =>
        have given : gives key keep (factWord key value) = true :=
          (gives_factWord plain).trans kept
        rw [lastValue?_facts] at absent
        cases found : ws.reverse.find? (gives key keep) with
        | none =>
            rw [List.find?_eq_none] at found
            exact absurd given (found _ (List.mem_reverse.mpr inside))
        | some word =>
            obtain ⟨v, cut, _⟩ := eq_factWord_of_gives (List.find?_some found)
            simp [found, cut] at absent
  · intro absent
    cases found : lastValue? key keep (facts ws) with
    | none => rfl
    | some value =>
        obtain ⟨kept, before, after, rfl, _⟩ := (lastValue?_eq_some_iff plain).mp found
        rw [absent value (by simp)] at kept
        cases kept

end Facts

/-! ### Reading the words of a line -/

section Reading

variable {ws : List (List Char)} {s : StatusLine}

theorem toOption_eq_some_iff {α β : Type} {read : Except α β} {b : β} :
    read.toOption = some b ↔ read = .ok b := by
  cases read <;> simp [Except.toOption]

theorem lastValue?_true_iff (key : String) (plain : '=' ∉ key.toList) {value : List Char} :
    lastValue? key (fun _ => true) (facts ws) = some value ↔
      LastValue key (fun _ => True) ws value := by
  rw [lastValue?_eq_some_iff plain]
  simp [LastValue]

theorem address_iff {control : Option String} :
    (lastValue? "control" (· != "none".toList) (facts ws)).map String.ofList = control ↔
      Address ws control := by
  have plain : '=' ∉ "control".toList := by decide
  cases control with
  | none =>
      rw [Option.map_eq_none_iff, lastValue?_eq_none_iff plain]
      simp [Address]
  | some address =>
      have text (value : List Char) : String.ofList value = address ↔ value = address.toList :=
        ⟨fun h => h ▸ String.toList_ofList.symm, fun h => h ▸ String.ofList_toList⟩
      simp only [Option.map_eq_some_iff, text, exists_eq_right, lastValue?_eq_some_iff plain,
        Address, bne_iff_ne]

theorem readReady_eq_ok_iff :
    readReady ws = .ok s ↔ Says ("ready".toList :: ws) s := by
  have number : ∀ pid, ((lastValue? "pid" (fun _ => true) (facts ws)).bind fun v =>
      (Numeral.readUInt32 v).toOption) = some pid ↔
        ∃ v, LastValue "pid" (fun _ => True) ws v ∧ Numeral.Unsigned v pid.toNat := by
    intro pid
    simp only [Option.bind_eq_some_iff, toOption_eq_some_iff, Numeral.readUInt32_eq_ok_iff,
      lastValue?_true_iff "pid" (by decide)]
  constructor
  · intro h
    simp only [readReady] at h
    split at h
    · cases h
    · rename_i pid found
      cases h
      obtain ⟨v, last, numeral⟩ := (number pid).mp found
      exact .ready last numeral (address_iff.mp rfl)
  · intro h
    cases h with
    | ready last numeral address =>
        simp only [readReady, (number _).mpr ⟨_, last, numeral⟩, address_iff.mpr address]

theorem name_of_ofName? {name : String} {stage : Stage} (h : Stage.ofName? name = some stage) :
    stage.name = name := by
  unfold Stage.ofName? at h
  split at h <;> cases h <;> rfl

theorem readStage_eq_ok_iff :
    readStage ws = .ok s ↔ Says ("state".toList :: ws) s := by
  constructor
  · intro h
    cases ws with
    | nil => cases h
    | cons word rest =>
        simp only [readStage] at h
        split at h
        · cases h
        · rename_i stage named
          cases h
          have word : word = stage.name.toList := by
            rw [name_of_ofName? named, String.toList_ofList]
          rw [word]
          exact .stage stage rest
  · intro h
    cases h with
    | stage stage rest => simp only [readStage, String.ofList_toList, Stage.ofName?_name]

theorem readStopped_eq_ok_iff :
    readStopped ws = .ok s ↔ Says ("stopped".toList :: ws) s := by
  have number : ∀ code, ((lastValue? "code" (fun _ => true) (facts ws)).bind fun v =>
      (Numeral.readInt32 v).toOption) = some code ↔
        ∃ v, LastValue "code" (fun _ => True) ws v ∧ Numeral.Signed v code.toInt := by
    intro code
    simp only [Option.bind_eq_some_iff, toOption_eq_some_iff, Numeral.readInt32_eq_ok_iff,
      lastValue?_true_iff "code" (by decide)]
  have label (reason : List Char) : lastValue? "reason" (fun _ => true) (facts ws) = some reason ↔
      LastValue "reason" (fun _ => True) ws reason :=
    lastValue?_true_iff "reason" (by decide)
  constructor
  · intro h
    simp only [readStopped] at h
    split at h
    · cases h
    · cases h
    · rename_i reason code named found
      cases h
      obtain ⟨v, last, numeral⟩ := (number code).mp found
      refine .stopped ?_ last numeral
      rw [String.toList_ofList]
      exact (label reason).mp named
  · intro h
    cases h with
    | stopped named last numeral =>
        simp only [readStopped, (number _).mpr ⟨_, last, numeral⟩, (label _).mpr named,
          String.ofList_toList]

theorem readWords_eq_ok_iff : readWords ws = .ok s ↔ Says ws s := by
  cases ws with
  | nil => constructor <;> intro h <;> cases h
  | cons verb rest =>
      by_cases ready : verb = "ready".toList
      · rw [readWords, if_pos ready, ready, readReady_eq_ok_iff]
      by_cases stage : verb = "state".toList
      · rw [readWords, if_neg ready, if_pos stage, stage, readStage_eq_ok_iff]
      by_cases stopped : verb = "stopped".toList
      · rw [readWords, if_neg ready, if_neg stage, if_pos stopped, stopped,
          readStopped_eq_ok_iff]
      · rw [readWords, if_neg ready, if_neg stage, if_neg stopped]
        constructor
        · intro h
          cases h
        intro h
        cases h with
        | ready => exact absurd rfl ready
        | stage => exact absurd rfl stage
        | stopped => exact absurd rfl stopped

end Reading

/-! ### Reading a line -/

/-- The mark ends in a space, so that what is left of a line is not the mark alone. -/
theorem ne_nil_of_lineWords {line : String} {ws : List (List Char)} (h : LineWords line ws) :
    ws ≠ [] := by
  rintro rfl
  obtain ⟨body, ⟨_, _, _, last⟩, words⟩ := h
  have blank := words.blank_of_nil
  have ending : ∀ c ∈ ("dvm: ".toList ++ body).getLast?, isBlank c = true := by
    intro c hc
    cases body with
    | nil =>
        have space : "dvm: ".toList.getLast? = some ' ' := by decide
        rw [List.append_nil, space] at hc
        cases hc
        rfl
    | cons d body =>
        rw [List.getLast?_append, List.getLast?_cons, Option.some_or] at hc
        rw [← List.getLast?_cons] at hc
        exact blank c (List.mem_of_getLast? hc)
  cases found : ("dvm: ".toList ++ body).getLast? with
  | none => simp at found
  | some c =>
      have spaced := ending c found
      rw [last c found] at spaced
      cases spaced

theorem lineWords_iff {line : String} {ws : List (List Char)} :
    LineWords line ws ↔ ∃ body,
      stripStart? "dvm: ".toList (trimEnd line.toList) = some body ∧ words body = ws := by
  simp only [LineWords, stripStart?_eq_some_iff, words_eq_iff, trimEnd_eq_iff]

theorem LineWords.unique {line : String} {ws others : List (List Char)} (h : LineWords line ws)
    (again : LineWords line others) : ws = others := by
  obtain ⟨body, marked, rfl⟩ := lineWords_iff.mp h
  obtain ⟨body', marked', rfl⟩ := lineWords_iff.mp again
  rw [marked] at marked'
  rw [Option.some.inj marked']

theorem read_of_lineWords {line : String} {ws : List (List Char)} (h : LineWords line ws) :
    read line = readWords ws := by
  obtain ⟨body, marked, rfl⟩ := lineWords_iff.mp h
  simp only [read, marked]

theorem read_of_no_lineWords {line : String} (h : ∀ ws, ¬ LineWords line ws) :
    read line = .error (.foreign line) := by
  unfold read
  split
  · rfl
  · rename_i body marked
    exact absurd (lineWords_iff.mpr ⟨body, marked, rfl⟩) (h _)

/-! ### The lines of the grammar -/

/-- Only a line without words could be called empty. -/
theorem readWords_ne_empty {ws : List (List Char)} (h : ws ≠ []) :
    readWords ws ≠ .error .empty := by
  cases ws with
  | nil => exact absurd rfl h
  | cons verb rest =>
      intro got
      simp only [readWords] at got
      split at got
      · simp only [readReady] at got
        split at got <;> cases got
      split at got
      · unfold readStage at got
        split at got
        · cases got
        · split at got <;> cases got
      split at got
      · simp only [readStopped] at got
        split at got <;> cases got
      · cases got

theorem quoting_ne {mark text : String} (name : String) (n : Nat)
    (long : n ≤ mark.toList.length) (differs : mark.toList.take n ≠ text.toList.take n) :
    mark ++ name ++ "'" ≠ text := by
  rintro rfl
  refine differs ?_
  rw [String.append_assoc, String.toList_append, List.take_append_of_le_length long]

theorem Fault.eq_empty_of_message {fault : Fault} (h : fault.message = "empty status line") :
    fault = .empty := by
  cases fault with
  | empty => rfl
  | foreign name | unknownStage name | unknownVerb name =>
      exact absurd h (quoting_ne name 1 (by decide) (by decide))
  | noPid | noStage | noReason | noCode => exact absurd h (by decide)

/-- The lines of the grammar are read as what they say, and no line is read otherwise: any other
one is refused, and none for being empty. -/
theorem read_grammar (line : String) :
    (∀ s, read line = .ok s ↔ ∃ ws, LineWords line ws ∧ Says ws s) ∧
    ((∀ ws s, LineWords line ws → ¬ Says ws s) →
      ∃ fault, read line = .error fault) ∧
    ∀ fault, read line = .error fault → fault.message ≠ "empty status line" := by
  have accepts (s : StatusLine) : read line = .ok s ↔ ∃ ws, LineWords line ws ∧ Says ws s := by
    by_cases marked : ∃ ws, LineWords line ws
    · obtain ⟨ws, marked⟩ := marked
      rw [read_of_lineWords marked, readWords_eq_ok_iff]
      refine ⟨fun said => ⟨ws, marked, said⟩, ?_⟩
      rintro ⟨other, again, said⟩
      rwa [marked.unique again]
    · rw [read_of_no_lineWords (not_exists.mp marked)]
      constructor
      · intro h
        cases h
      · rintro ⟨ws, other, _⟩
        exact absurd ⟨ws, other⟩ marked
  have refuses : read line ≠ .error .empty := by
    by_cases marked : ∃ ws, LineWords line ws
    · obtain ⟨ws, marked⟩ := marked
      rw [read_of_lineWords marked]
      exact readWords_ne_empty (ne_nil_of_lineWords marked)
    · rw [read_of_no_lineWords (not_exists.mp marked)]
      intro h
      cases h
  refine ⟨accepts, fun other => ?_, fun fault got text => refuses ?_⟩
  · cases got : read line with
    | ok s =>
        obtain ⟨ws, marked, said⟩ := (accepts s).mp got
        exact absurd said (other ws s marked)
    | error fault => exact ⟨fault, rfl⟩
  · rw [got, Fault.eq_empty_of_message text]

/-- A later number that cannot be read takes an earlier one back; a later word for no address takes
none back. -/
example : read "dvm: ready pid=7 pid=x" = .error .noPid ∧
    read "dvm: ready pid=7 control=a:1 control=none" = .ok (.ready 7 (some "a:1")) :=
  ⟨rfl, rfl⟩

end Quiesce.StatusLine
