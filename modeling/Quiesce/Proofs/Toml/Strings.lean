import Quiesce.Toml.Printer
import Quiesce.Toml.Text

/-!
Strings in TOML come back from their text, whatever they hold. An escape is undone where it is read,
in both kinds that have escapes; the other two kinds are taken only for texts in which everything
stands for itself. Quotes within three quotes are counted as they pass, and never reach three.
-/
namespace Quiesce.Toml

/-! ### Escapes -/

theorem hexDigit?_upperHex : ∀ n < 16, Text.hexDigit? (escapeCode?.upperHex n) = some n := by
  decide

theorem scalar?_toNat (c : Char) : scalar? c.toNat = some c := by
  have valid : c.toNat.isValidChar := c.valid
  rw [scalar?, if_pos valid, Char.ofNat_toNat]

theorem lt_of_needsCode {c : Char} (h : needsCode c = true) : c.toNat < 128 := by
  simp only [needsCode, Bool.or_eq_true, Bool.and_eq_true, decide_eq_true_eq] at h
  omega

/-- How a character is escaped: by a letter that stands for it, or by its code. -/
theorem escapeCode?_cases {c : Char} {code : List Char} (h : escapeCode? c = some code) :
    (∃ e, code = ['\\', e] ∧ codeLength? e = none ∧ escape? e = some c) ∨
      c.toNat < 128 ∧ code = ['\\', 'u', '0', '0', escapeCode?.upperHex (c.toNat / 16),
        escapeCode?.upperHex (c.toNat % 16)] := by
  have letter {d e : Char} (same : c = d) (h : some ['\\', e] = some code)
      (known : codeLength? e = none ∧ escape? e = some d) :
      ∃ e, code = ['\\', e] ∧ codeLength? e = none ∧ escape? e = some c :=
    ⟨e, (Option.some.inj h).symm, known.1, same ▸ known.2⟩
  unfold escapeCode? at h
  iterate 6
    split at h
    case isTrue same => exact .inl (letter same h (by decide))
  split at h
  case isTrue coded => exact .inr ⟨lt_of_needsCode coded, (Option.some.inj h).symm⟩
  case isFalse => cases h

/-- What is not escaped stands for itself. -/
theorem isPlain_of_escapeCode?_eq_none {c : Char} (h : escapeCode? c = none) :
    isPlain c = true ∧ c ≠ '\\' ∧ c ≠ '\n' ∧ c ≠ '\r' := by
  unfold escapeCode? at h
  repeat' split at h
  all_goals simp_all [needsCode, isPlain]

theorem isPlain_of_not_needsCode {c : Char} (h : needsCode c = false) (inLine : c ≠ '\n') :
    isPlain c = true := by
  by_cases tab : c = '\t'
  · rw [tab]
    decide
  · simp only [needsCode, ne_eq, tab, inLine, not_false_eq_true, decide_true, Bool.and_true,
      Bool.or_eq_false_iff, decide_eq_false_iff_not] at h
    simp only [isPlain, tab, decide_false, Bool.false_or, Bool.and_eq_true, decide_eq_true_eq]
    omega

/-! ### On one line -/

theorem readBasic_escape {e c : Char} (known : codeLength? e = none ∧ escape? e = some c)
    (cs : List Char) :
    readBasic .text ('\\' :: e :: cs) = push c (readBasic .text cs) := by
  rw [readBasic, if_neg (by decide), if_pos rfl, readBasic, known.1, known.2]

theorem scalar?_digits {c : Char} :
    scalar? ((((0 * 16 + 0) * 16 + 0) * 16 + c.toNat / 16) * 16 + c.toNat % 16) = some c := by
  have whole : (((0 * 16 + 0) * 16 + 0) * 16 + c.toNat / 16) * 16 + c.toNat % 16 = c.toNat := by
    omega
  rw [whole, scalar?_toNat]

theorem readBasic_code {c : Char} (ascii : c.toNat < 128) (cs : List Char) :
    readBasic .text (['\\', 'u', '0', '0', escapeCode?.upperHex (c.toNat / 16),
      escapeCode?.upperHex (c.toNat % 16)] ++ cs) = push c (readBasic .text cs) := by
  have digit {left value d : Nat} {h : Char} (known : Text.hexDigit? h = some d)
      (more : ¬ left ≤ 1) (cs : List Char) : readBasic (.code left value) (h :: cs) =
        readBasic (.code (left - 1) (value * 16 + d)) cs := by
    simp only [readBasic, known, more, ite_false]
  have start : readBasic .escape ('u' :: '0' :: '0' :: escapeCode?.upperHex (c.toNat / 16) ::
      escapeCode?.upperHex (c.toNat % 16) :: cs) = readBasic (.code 4 0) ('0' :: '0' ::
        escapeCode?.upperHex (c.toNat / 16) :: escapeCode?.upperHex (c.toNat % 16) :: cs) := rfl
  simp only [List.cons_append, List.nil_append]
  rw [readBasic, if_neg (by decide), if_pos rfl, start, digit (d := 0) rfl (by decide),
    digit (d := 0) rfl (by decide),
    digit (hexDigit?_upperHex (c.toNat / 16) (by omega)) (by decide)]
  simp only [readBasic, hexDigit?_upperHex (c.toNat % 16) (by omega), scalar?_digits]
  rfl

theorem readBasic_escapeBasic (text rest : List Char) :
    readBasic .text (escapeBasic text ++ '"' :: rest) = some (text, rest) := by
  induction text with
  | nil => rfl
  | cons c cs ih =>
      have pushed : push c (readBasic .text (escapeBasic cs ++ '"' :: rest)) =
          some (c :: cs, rest) := by rw [ih]; rfl
      rw [escapeBasic]
      split
      case isTrue quote =>
        subst quote
        exact (readBasic_escape (by decide) _).trans pushed
      case isFalse other =>
        cases coded : escapeCode? c with
        | some code =>
            rw [Option.getD_some, List.append_assoc]
            obtain ⟨e, rfl, known⟩ | ⟨ascii, rfl⟩ := escapeCode?_cases coded
            · exact (readBasic_escape known _).trans pushed
            · exact (readBasic_code ascii _).trans pushed
        | none =>
            obtain ⟨plain, notEscape, _⟩ := isPlain_of_escapeCode?_eq_none coded
            rw [Option.getD_none, List.append_assoc, List.singleton_append, readBasic,
              if_neg other, if_neg notEscape, if_pos plain, pushed]

theorem readLiteral_append {text : List Char} (plain : ∀ c ∈ text, c ≠ '\'' ∧ isPlain c = true)
    (rest : List Char) : readLiteral (text ++ '\'' :: rest) = some (text, rest) := by
  induction text with
  | nil => rfl
  | cons c cs ih =>
      obtain ⟨⟨other, here⟩, later⟩ := List.forall_mem_cons.mp plain
      rw [List.cons_append, readLiteral, if_neg other, if_pos here, ih later]
      rfl

/-! ### Over several lines -/

/-- Text behind a string that is no part of it: it does not go on with a quote. -/
def Follows (rest : List Char) : Prop := ∀ c ∈ rest.head?, c ≠ '"' ∧ c ≠ '\''

theorem closeQuotes_of_ne {quote : Char} {rest : List Char}
    (ends : ∀ c ∈ rest.head?, c ≠ quote) : closeQuotes quote rest = ([], rest) := by
  match rest with
  | [] => rfl
  | [a] | a :: _ :: _ =>
      have other : a ≠ quote := ends a rfl
      simp only [closeQuotes, other, ite_false]

theorem closeQuotes_cons {quote : Char} {rest : List Char}
    (ends : ∀ c ∈ rest.head?, c ≠ quote) : closeQuotes quote (quote :: rest) = ([quote], rest) := by
  match rest with
  | [] => simp only [closeQuotes, ite_true]
  | a :: _ =>
      have other : a ≠ quote := ends a rfl
      simp only [closeQuotes, other, ite_true, ite_false]

theorem closeQuotes_cons_cons (quote : Char) (rest : List Char) :
    closeQuotes quote (quote :: quote :: rest) = ([quote, quote], rest) := by
  simp only [closeQuotes, ite_true]

theorem Follows.single {rest : List Char} (h : Follows rest) : ∀ c ∈ rest.head?, c ≠ '\'' :=
  fun c first => (h c first).2

theorem Follows.double {rest : List Char} (h : Follows rest) : ∀ c ∈ rest.head?, c ≠ '"' :=
  fun c first => (h c first).1

theorem le_longestRun (c : Char) (run : Nat) (text : List Char) : run ≤ longestRun c run text := by
  induction text generalizing run with
  | nil => exact Nat.le_refl run
  | cons a as ih =>
      rw [longestRun]
      split
      · exact Nat.le_of_succ_le (ih (run + 1))
      · exact Nat.le_max_left _ _

theorem not_mem_of_longestRun {c : Char} {text : List Char} (none : longestRun c 0 text = 0) :
    c ∉ text := by
  induction text with
  | nil => exact List.not_mem_nil
  | cons a as ih =>
      rw [longestRun] at none
      split at none
      · have more := le_longestRun c (0 + 1) as
        omega
      · have none : longestRun c 0 as = 0 := by omega
        rw [List.mem_cons, not_or]
        exact ⟨fun same => ‹¬a = c› same.symm, ih none⟩

/-- Behind at most two quotes, three more of them close the text, and the first belong to it. -/
theorem readLongLiteral_close {quotes : Nat} (few : quotes ≤ 2) {rest : List Char}
    (follows : Follows rest) : readLongLiteral quotes (single ++ rest) =
      some (List.replicate quotes '\'', rest) := by
  match quotes with
  | 0 =>
      simp only [single, List.cons_append, List.nil_append, readLongLiteral, ite_true]
      exact congrArg some (closeQuotes_of_ne follows.single)
  | 1 =>
      simp only [single, List.cons_append, List.nil_append, readLongLiteral, ite_true]
      exact congrArg some (closeQuotes_cons follows.single)
  | 2 =>
      simp only [single, List.cons_append, List.nil_append, readLongLiteral, ite_true]
      exact congrArg some (closeQuotes_cons_cons _ _)

theorem readLongLiteral_append {text : List Char} (plain : ∀ c ∈ text, needsCode c = false)
    {rest : List Char} (follows : Follows rest) {quotes : Nat}
    (few : longestRun '\'' quotes text ≤ 2) : readLongLiteral quotes (text ++ (single ++ rest)) =
      some (List.replicate quotes '\'' ++ text, rest) := by
  induction text generalizing quotes with
  | nil =>
      have few : quotes ≤ 2 := few
      rw [List.nil_append, readLongLiteral_close few follows, List.append_nil]
  | cons c cs ih =>
      obtain ⟨here, later⟩ := List.forall_mem_cons.mp plain
      rw [longestRun] at few
      rw [List.cons_append, readLongLiteral]
      by_cases quote : c = '\''
      · subst quote
        rw [if_pos rfl] at few
        -- A third quote in a row would be one more than the text has.
        have notThird : quotes ≠ 2 := by
          have counted := le_longestRun '\'' (quotes + 1) cs
          omega
        rw [if_pos rfl, if_neg notThird, ih later few, List.replicate_succ']
        simp only [List.append_assoc, List.singleton_append]
      · rw [if_neg quote] at few
        have notReturn : c ≠ '\r' := fun same => by
          rw [same] at here
          exact absurd here (by decide)
        have stands : (c = '\n' || isPlain c) = true := by
          by_cases newline : c = '\n'
          · simp [newline]
          · simp [isPlain_of_not_needsCode here newline]
        rw [if_neg quote, if_neg notReturn, if_pos stands,
          ih later (Nat.le_trans (Nat.le_max_right _ _) few)]
        rfl

theorem readLongBasic_close {quotes : Nat} (few : quotes ≤ 2) {rest : List Char}
    (follows : Follows rest) : readLongBasic (.text quotes false) (double ++ rest) =
      some (List.replicate quotes '"', rest) := by
  match quotes with
  | 0 =>
      simp only [double, List.cons_append, List.nil_append, readLongBasic, ite_true]
      exact congrArg some (closeQuotes_of_ne follows.double)
  | 1 =>
      simp only [double, List.cons_append, List.nil_append, readLongBasic, ite_true]
      exact congrArg some (closeQuotes_cons follows.double)
  | 2 =>
      simp only [double, List.cons_append, List.nil_append, readLongBasic, ite_true]
      exact congrArg some (closeQuotes_cons_cons _ _)

theorem readLongBasic_backslash (quotes : Nat) (cs : List Char) :
    readLongBasic (.text quotes false) ('\\' :: cs) =
      pushMany quotes '"' (readLongBasic .escape cs) := by
  rw [readLongBasic, if_neg (by decide), if_neg (by decide), if_neg (by decide), if_pos rfl]

theorem readLongBasic_escape {e c : Char} (known : codeLength? e = none ∧ escape? e = some c)
    (quotes : Nat) (cs : List Char) :
    readLongBasic (.text quotes false) ('\\' :: e :: cs) =
      pushMany quotes '"' (push c (readLongBasic (.text 0 false) cs)) := by
  rw [readLongBasic_backslash, readLongBasic, known.1, known.2]

theorem readLongBasic_code {c : Char} (ascii : c.toNat < 128) (quotes : Nat) (cs : List Char) :
    readLongBasic (.text quotes false) (['\\', 'u', '0', '0', escapeCode?.upperHex (c.toNat / 16),
      escapeCode?.upperHex (c.toNat % 16)] ++ cs) =
      pushMany quotes '"' (push c (readLongBasic (.text 0 false) cs)) := by
  have digit {left value d : Nat} {h : Char} (known : Text.hexDigit? h = some d)
      (more : ¬ left ≤ 1) (cs : List Char) : readLongBasic (.code left value) (h :: cs) =
        readLongBasic (.code (left - 1) (value * 16 + d)) cs := by
    simp only [readLongBasic, known, more, ite_false]
  have start : readLongBasic .escape ('u' :: '0' :: '0' :: escapeCode?.upperHex (c.toNat / 16) ::
      escapeCode?.upperHex (c.toNat % 16) :: cs) = readLongBasic (.code 4 0) ('0' :: '0' ::
        escapeCode?.upperHex (c.toNat / 16) :: escapeCode?.upperHex (c.toNat % 16) :: cs) := rfl
  simp only [List.cons_append, List.nil_append]
  rw [readLongBasic_backslash, start, digit (d := 0) rfl (by decide),
    digit (d := 0) rfl (by decide),
    digit (hexDigit?_upperHex (c.toNat / 16) (by omega)) (by decide)]
  simp only [readLongBasic, hexDigit?_upperHex (c.toNat % 16) (by omega), scalar?_digits]
  rfl

/-- A character that stands for itself ends a run of quotes. -/
theorem readLongBasic_plain {c : Char} (other : c ≠ '"') (notEscape : c ≠ '\\')
    (notReturn : c ≠ '\r') (stands : (c = '\n' || isPlain c) = true) (quotes : Nat)
    (cs : List Char) : readLongBasic (.text quotes false) (c :: cs) =
      pushMany quotes '"' (push c (readLongBasic (.text 0 false) cs)) := by
  rw [readLongBasic, if_neg other, Bool.false_and, if_neg Bool.false_ne_true, if_neg notReturn,
    if_neg notEscape, if_pos stands]

theorem readLongBasic_escapeLong (text : List Char) {rest : List Char} (follows : Follows rest)
    {quotes : Nat} (few : quotes ≤ 2) :
    readLongBasic (.text quotes false) (escapeLong quotes text ++ (double ++ rest)) =
      some (List.replicate quotes '"' ++ text, rest) := by
  -- The reader counts the quotes just as the writer does, and starts anew with it at an escape.
  induction text generalizing quotes with
  | nil => rw [escapeLong, List.nil_append, readLongBasic_close few follows, List.append_nil]
  | cons c cs ih =>
      have after : pushMany quotes '"' (push c (readLongBasic (.text 0 false)
          (escapeLong 0 cs ++ (double ++ rest)))) =
          some (List.replicate quotes '"' ++ c :: cs, rest) := by
        rw [ih (Nat.zero_le 2)]
        rfl
      rw [escapeLong]
      split
      case isTrue quote =>
        subst quote
        split
        case isTrue third => exact (readLongBasic_escape (by decide) _ _).trans after
        case isFalse notThird =>
          rw [List.cons_append, readLongBasic, if_pos rfl, if_neg notThird,
            ih (by omega), List.replicate_succ']
          simp only [List.append_assoc, List.singleton_append]
      case isFalse other =>
        split
        case isTrue newline =>
          subst newline
          have plain := readLongBasic_plain (c := '\n') (by decide) (by decide) (by decide)
            (by decide) quotes (escapeLong 0 cs ++ (double ++ rest))
          exact plain.trans after
        case isFalse inLine =>
          cases coded : escapeCode? c with
          | some code =>
              rw [Option.getD_some, List.append_assoc]
              obtain ⟨e, rfl, known⟩ | ⟨ascii, rfl⟩ := escapeCode?_cases coded
              · exact (readLongBasic_escape known _ _).trans after
              · exact (readLongBasic_code ascii _ _).trans after
          | none =>
              obtain ⟨plain, notEscape, _, notReturn⟩ := isPlain_of_escapeCode?_eq_none coded
              rw [Option.getD_none, List.append_assoc, List.singleton_append,
                readLongBasic_plain other notEscape notReturn (by simp [plain]), after]


/-! ### All four kinds -/

theorem leadingLine_dropped {text body : List Char}
    (first : '\n' ∉ text → ∀ c ∈ body.head?, c ≠ '\n' ∧ c ≠ '\r') :
    dropLineEnd (leadingLine text ++ body) = body := by
  rw [leadingLine]
  split
  case isTrue => rfl
  case isFalse inLine =>
    have inLine : '\n' ∉ text := by simpa using inLine
    match body, first inLine with
    | [], _ => rfl
    | c :: cs, first =>
        obtain ⟨notLine, notReturn⟩ := first c rfl
        rw [List.nil_append]
        unfold dropLineEnd
        split
        case h_1 same => exact absurd (List.cons.inj same).1 notLine
        case h_2 same => exact absurd (List.cons.inj same).1 notReturn
        case h_3 => rfl

/-- Each kind but the first is taken only for texts that it can show. -/
theorem kindOf_cases (text : List Char) :
    kindOf text = .basic ∨
      kindOf text = .literal ∧ text ≠ [] ∧ (∀ c ∈ text, needsCode c = false) ∧
        '\n' ∉ text ∧ '\'' ∉ text ∨
      kindOf text = .longBasic ∨
      kindOf text = .longLiteral ∧ (∀ c ∈ text, needsCode c = false) ∧
        longestRun '\'' 0 text ≤ 2 := by
  have shown (h : (!text.any needsCode) = true) : ∀ c ∈ text, needsCode c = false := by
    simpa using h
  by_cases basic : (!text.any needsCode && !text.contains '\\' &&
      decide (longestRun '"' 0 text = 0) && !text.contains '\n') = true
  · exact .inl (by rw [kindOf, if_pos basic])
  by_cases literal : (!text.any needsCode && decide (longestRun '\'' 0 text = 0) &&
      !text.contains '\n') = true
  · refine .inr (.inl ⟨by rw [kindOf, if_neg basic, if_pos literal], ?_, ?_⟩)
    · rintro rfl
      exact basic rfl
    · simp only [Bool.and_eq_true, decide_eq_true_eq] at literal
      obtain ⟨⟨codes, single⟩, lines⟩ := literal
      exact ⟨shown codes, by simpa using lines, not_mem_of_longestRun single⟩
  by_cases longBasic : (!text.any needsCode && !text.contains '\\' &&
      decide (longestRun '"' 0 text ≤ 2)) = true
  · exact .inr (.inr (.inl (by rw [kindOf, if_neg basic, if_neg literal, if_pos longBasic])))
  by_cases longLiteral : (!text.any needsCode && decide (longestRun '\'' 0 text ≤ 2)) = true
  · refine .inr (.inr (.inr ⟨by rw [kindOf, if_neg basic, if_neg literal, if_neg longBasic,
      if_pos longLiteral], ?_⟩))
    simp only [Bool.and_eq_true, decide_eq_true_eq] at longLiteral
    exact ⟨shown longLiteral.1, longLiteral.2⟩
  by_cases lines : text.contains '\n' = true
  · exact .inr (.inr (.inl (by
      rw [kindOf, if_neg basic, if_neg literal, if_neg longBasic, if_neg longLiteral,
        if_pos lines])))
  · exact .inl (by rw [kindOf, if_neg basic, if_neg literal, if_neg longBasic,
      if_neg longLiteral, if_neg lines])

/-- An escaped text does not start with a quote. -/
theorem head_escapeBasic (c : Char) (cs : List Char) :
    ∃ d ds, escapeBasic (c :: cs) = d :: ds ∧ d ≠ '"' := by
  rw [escapeBasic]
  split
  case isTrue => exact ⟨'\\', _, rfl, by decide⟩
  case isFalse other =>
    cases coded : escapeCode? c with
    | none => exact ⟨c, escapeBasic cs, rfl, other⟩
    | some code =>
        obtain ⟨e, rfl, _⟩ | ⟨_, rfl⟩ := escapeCode?_cases coded
        · exact ⟨'\\', _, rfl, by decide⟩
        · exact ⟨'\\', _, rfl, by decide⟩

theorem head_escapeLong {text : List Char} (inLine : '\n' ∉ text) (rest : List Char) :
    ∀ c ∈ (escapeLong 0 text ++ (double ++ rest)).head?, c ≠ '\n' ∧ c ≠ '\r' := by
  cases text with
  | nil =>
      rintro c ⟨⟩
      decide
  | cons a as =>
      have first {d : Char} {ds : List Char} (other : d ≠ '\n' ∧ d ≠ '\r') :
          ∀ c ∈ (d :: ds).head?, c ≠ '\n' ∧ c ≠ '\r' := by
        rintro c ⟨⟩
        exact other
      rw [escapeLong]
      split
      case isTrue => exact first (by decide)
      case isFalse other =>
        have inLine : a ≠ '\n' := fun same => inLine (same ▸ List.mem_cons_self)
        rw [if_neg inLine]
        cases coded : escapeCode? a with
        | none =>
            obtain ⟨_, _, notLine, notReturn⟩ := isPlain_of_escapeCode?_eq_none coded
            exact first ⟨notLine, notReturn⟩
        | some code =>
            obtain ⟨e, rfl, _⟩ | ⟨_, rfl⟩ := escapeCode?_cases coded
            · exact first (by decide)
            · exact first (by decide)

theorem readString_basic {cs : List Char} (first : ∀ ds, cs ≠ '"' :: '"' :: ds) :
    readString ('"' :: cs) = readBasic .text cs := by
  unfold readString
  split
  case h_1 same => exact absurd (List.cons.inj same).2 (first _)
  case h_2 same => rw [(List.cons.inj same).2]
  case h_3 same => cases same
  case h_4 same => cases same
  case h_5 none _ _ => exact absurd rfl (none cs)

theorem readString_literal {cs : List Char} (first : ∀ ds, cs ≠ '\'' :: '\'' :: ds) :
    readString ('\'' :: cs) = readLiteral cs := by
  unfold readString
  split
  case h_1 same => cases same
  case h_2 same => cases same
  case h_3 same => exact absurd (List.cons.inj same).2 (first _)
  case h_4 same => rw [(List.cons.inj same).2]
  case h_5 none => exact absurd rfl (none cs)

/-- A string is read back from its text, up to what follows. -/
theorem readString_writeString (text : List Char) {rest : List Char} (follows : Follows rest) :
    readString (writeString text ++ rest) = some (text, rest) := by
  obtain kind | ⟨kind, some, plain, inLine, other⟩ | kind | ⟨kind, plain, few⟩ := kindOf_cases text
  · have written : writeString text ++ rest = '"' :: (escapeBasic text ++ '"' :: rest) := by
      simp [writeString, kind]
    have notThree : ∀ ds, escapeBasic text ++ '"' :: rest ≠ '"' :: '"' :: ds := by
      intro ds same
      cases text with
      | nil =>
          have next : rest = '"' :: ds := (List.cons.inj same).2
          exact follows.double '"' (next ▸ rfl) rfl
      | cons c cs =>
          obtain ⟨d, _, escaped, other⟩ := head_escapeBasic c cs
          rw [escaped] at same
          exact other (List.cons.inj same).1
    rw [written, readString_basic notThree, readBasic_escapeBasic]
  · have written : writeString text ++ rest = '\'' :: (text ++ '\'' :: rest) := by
      simp [writeString, kind]
    have notThree : ∀ ds, text ++ '\'' :: rest ≠ '\'' :: '\'' :: ds := by
      intro ds same
      cases text with
      | nil => exact some rfl
      | cons c cs => exact other ((List.cons.inj same).1 ▸ List.mem_cons_self)
    have stands : ∀ c ∈ text, c ≠ '\'' ∧ isPlain c = true := fun c mem =>
      ⟨fun same => other (same ▸ mem),
        isPlain_of_not_needsCode (plain c mem) fun same => inLine (same ▸ mem)⟩
    rw [written, readString_literal notThree, readLiteral_append stands]
  · have written : writeString text ++ rest =
        double ++ (leadingLine text ++ (escapeLong 0 text ++ (double ++ rest))) := by
      simp [writeString, kind]
    have start (cs : List Char) : readString (double ++ cs) =
        readLongBasic (.text 0 false) (dropLineEnd cs) := rfl
    rw [written, start, leadingLine_dropped (head_escapeLong · rest),
      readLongBasic_escapeLong text follows (Nat.zero_le 2)]
    rfl
  · have written : writeString text ++ rest =
        single ++ (leadingLine text ++ (text ++ (single ++ rest))) := by
      simp [writeString, kind]
    have start (cs : List Char) : readString (single ++ cs) =
        readLongLiteral 0 (dropLineEnd cs) := rfl
    have first (inLine : '\n' ∉ text) :
        ∀ c ∈ (text ++ (single ++ rest)).head?, c ≠ '\n' ∧ c ≠ '\r' := by
      intro c head
      cases text with
      | nil =>
          cases head
          decide
      | cons a as =>
          cases head
          refine ⟨fun same => inLine (same ▸ List.mem_cons_self), fun same => ?_⟩
          have coded := plain c List.mem_cons_self
          rw [same] at coded
          cases coded
    rw [written, start, leadingLine_dropped first, readLongLiteral_append plain follows few]
    rfl

end Quiesce.Toml
