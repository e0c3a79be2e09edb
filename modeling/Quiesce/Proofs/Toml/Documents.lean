import Quiesce.Proofs.Toml.Values
import Quiesce.Toml.Settled

/-!
Documents of sections. A section is a header and lines that give a value to a key each; an empty
line stands between two sections. Such a document is read as the table of its sections, in their
order, whatever texts the values are written as.
-/
namespace Quiesce.Toml

/-! ### Names -/

/-- A name that stands without quotes. -/
structure Bare (name : String) : Prop where
  some : name.toList ≠ []
  all : name.toList.all isBareKeyChar = true

theorem Bare.forall_mem {name : String} (bare : Bare name) :
    ∀ c ∈ name.toList, isBareKeyChar c = true := List.all_eq_true.mp bare.all

theorem Bare.ne_momentKey {name : String} (bare : Bare name) : name ≠ momentKey := by
  rintro rfl
  exact absurd (bare.forall_mem '$' (by decide)) (by decide)

/-- A bare name ends where other characters follow. -/
theorem span_bare {word : List Char} (all : ∀ c ∈ word, isBareKeyChar c = true) {rest : List Char}
    (ends : ∀ c ∈ rest.head?, isBareKeyChar c = false) :
    (word ++ rest).takeWhile isBareKeyChar = word ∧
      (word ++ rest).dropWhile isBareKeyChar = rest := by
  induction word with
  | nil =>
      cases rest with
      | nil => exact ⟨rfl, rfl⟩
      | cons c cs =>
          have other := ends c rfl
          simp [other]
  | cons c cs ih =>
      obtain ⟨here, later⟩ := List.forall_mem_cons.mp all
      obtain ⟨taken, dropped⟩ := ih later
      simp [here, taken, dropped]

theorem readKeyPart_bare {name : String} (bare : Bare name) {rest : List Char}
    (ends : ∀ c ∈ rest.head?, isBareKeyChar c = false) :
    readKeyPart (name.toList ++ rest) = some (name, rest) := by
  obtain ⟨taken, dropped⟩ := span_bare bare.forall_mem ends
  have noQuote {c : Char} (quote : isBareKeyChar c = false) (cs : List Char) :
      name.toList ++ rest ≠ c :: cs := by
    intro same
    cases letters : name.toList with
    | nil => exact bare.some letters
    | cons d ds =>
        rw [letters] at same
        have first := bare.forall_mem d (letters ▸ List.mem_cons_self)
        rw [(List.cons.inj same).1, quote] at first
        cases first
  unfold readKeyPart
  split
  case h_1 same => exact absurd same (noQuote (by decide) _)
  case h_2 same => exact absurd same (noQuote (by decide) _)
  case h_3 => simp [taken, dropped, bare.some]

theorem skipBlanks_of_head {cs : List Char} (starts : ∀ c ∈ cs.head?, isBlank c = false) :
    skipBlanks cs = cs := by
  cases cs with
  | nil => rfl
  | cons c cs => rw [skipBlanks, List.dropWhile_cons_of_neg (by simp [starts c rfl])]

theorem Bare.head {name : String} (bare : Bare name) :
    ∃ c cs, name.toList = c :: cs ∧ isBareKeyChar c = true := by
  cases letters : name.toList with
  | nil => exact absurd letters bare.some
  | cons c cs => exact ⟨c, cs, rfl, bare.forall_mem c (letters ▸ List.mem_cons_self)⟩

theorem readKey_bare {name : String} (bare : Bare name) (limit : Nat) {r : List Char}
    (ends : ∀ c ∈ r.head?, isBareKeyChar c = false)
    (noPoint : ∀ c ∈ (skipBlanks r).head?, c ≠ '.') :
    readKey (limit + 1) (name.toList ++ r) = some ([name], skipBlanks r) := by
  obtain ⟨c, cs, letters, letter⟩ := bare.head
  have start : skipBlanks (name.toList ++ r) = name.toList ++ r := by
    refine skipBlanks_of_head ?_
    rw [letters]
    rintro d ⟨⟩
    exact isBlank_of_isBareKeyChar letter
  rw [readKey, start, readKeyPart_bare bare ends]
  simp only [Option.bind_eq_bind, Option.bind_some]
  split
  case h_1 point => exact absurd rfl (noPoint '.' (point ▸ rfl))
  case h_2 => rfl

/-! ### Tables that grow at their ends -/

section

variable {name : String} {entries : Entries}

theorem alter_absent (absent : name ∉ entries.map Prod.fst)
    (change : Option Node → Option Node) :
    alter name change entries = (change none).map fun node => entries ++ [(name, node)] := by
  induction entries with
  | nil => cases changed : change none <;> simp [alter, changed]
  | cons e rest ih =>
      obtain ⟨n, node⟩ := e
      rw [List.map_cons, List.mem_cons, not_or] at absent
      rw [alter, if_neg fun same => absent.1 same.symm, ih absent.2]
      cases change none <;> rfl

theorem alter_last (absent : name ∉ entries.map Prod.fst) (node : Node)
    (change : Option Node → Option Node) :
    alter name change (entries ++ [(name, node)]) =
      (change (some node)).map fun node => entries ++ [(name, node)] := by
  induction entries with
  | nil => cases changed : change (some node) <;> simp [alter, changed]
  | cons e rest ih =>
      obtain ⟨n, first⟩ := e
      rw [List.map_cons, List.mem_cons, not_or] at absent
      rw [List.cons_append, alter, if_neg fun same => absent.1 same.symm, ih absent.2]
      cases change (some node) <;> rfl

theorem openTable_absent (absent : name ∉ entries.map Prod.fst) :
    openTable [] name entries = some (entries ++ [(name, .table .header [])]) := by
  have missing : entries.find? (·.1 == name) = none := by
    rw [List.find?_eq_none]
    intro e inside same
    exact absent (List.mem_map.mpr ⟨e, inside, by simpa using same⟩)
  simp only [openTable, descend, missing]

/-- A line gives its value to the table that was opened last. -/
theorem add_last {key : String} {inner : Entries} (absent : name ∉ entries.map Prod.fst)
    (fresh : key ∉ inner.map Prod.fst) (value : Toml) :
    Draft.add ⟨entries ++ [(name, .table .header inner)], [name]⟩ [key] value =
      some ⟨entries ++ [(name, .table .header (inner ++ [(key, .leaf value)]))], [name]⟩ := by
  have added : addValue [] key value .header inner = some (inner ++ [(key, .leaf value)]) := by
    rw [addValue, descend, if_neg (by decide), alter_absent fresh]
    rfl
  have last : [key].getLast?.getD "" = key := rfl
  rw [Draft.add, last]
  simp only [List.dropLast_singleton, descend, alter_last absent, Bool.false_and,
    Bool.false_eq_true, ite_false, added]
  rfl

end

/-! ### Lines -/

/-- What reading the rest of a document comes to, with fuel for each of its characters. A line takes
one unit of fuel and at least one character, so the fuel never runs out first. -/
def ReadsTo (d : Draft) (cs : List Char) (whole : Draft) : Prop :=
  ∀ fuel, cs.length < fuel → readLines fuel d cs = some whole

theorem ReadsTo.nil (d : Draft) : ReadsTo d [] d := by
  intro fuel enough
  obtain ⟨fuel, rfl⟩ := Nat.exists_eq_succ_of_ne_zero (Nat.ne_of_gt enough)
  rfl

theorem ReadsTo.newline {d whole : Draft} {cs : List Char} (rest : ReadsTo d cs whole) :
    ReadsTo d ('\n' :: cs) whole := by
  intro fuel enough
  rw [List.length_cons] at enough
  have same : readLines fuel d ('\n' :: cs) = readLines fuel d cs := by
    cases fuel with
    | zero => rfl
    | succ fuel => rw [readLines, readLines, skipTrivia, if_pos rfl]
  rw [same]
  exact rest fuel (by omega)

/-- A line is read, and then the rest. -/
theorem ReadsTo.line {d next whole : Draft} {text rest : List Char}
    (start : ∃ c cs, text = c :: cs ∧ (c = '[' ∨ isBareKeyChar c = true))
    (read : ∀ fuel, readLine (fuel + 1) d text = some (next, '\n' :: rest))
    (shorter : rest.length < text.length) (later : ReadsTo next rest whole) :
    ReadsTo d text whole := by
  obtain ⟨c, cs, rfl, start⟩ := start
  intro fuel enough
  obtain ⟨fuel, rfl⟩ := Nat.exists_eq_succ_of_ne_zero (Nat.ne_of_gt (Nat.zero_lt_of_lt enough))
  have other {d : Char} (space : ¬ (d = '[' ∨ isBareKeyChar d = true)) : c ≠ d := by
    rintro rfl
    exact space start
  have noTrivia : skipTrivia false (c :: cs) = some (c :: cs) := by
    simp [skipTrivia, isBlank, other (d := '\n') (by decide), other (d := '\r') (by decide),
      other (d := ' ') (by decide), other (d := '\t') (by decide), other (d := '#') (by decide)]
  have ended : endLine ('\n' :: rest) = some rest := rfl
  have read := read (2 * (c :: cs).length + 1)
  rw [readLines, noTrivia]
  simp only [Option.bind_eq_bind, Option.bind_some, read, ended]
  exact later fuel (by omega)

/-- A key and the text of its value. -/
structure Line where
  key : String
  written : List Char
  value : Toml
  bare : Bare key
  shows : Shows written value
  /-- No table, so that it does not stand for a moment. -/
  settled : settled? value = some value

def Line.write (l : Line) : List Char := l.key.toList ++ " = ".toList ++ l.written ++ ['\n']

/-- A key with a whole number. -/
def Line.number (key : String) (bare : Bare key) (n : Nat) (fits : n ≤ 9223372036854775807) :
    Line where
  key
  written := Nat.toDigits 10 n
  value := .int n
  bare
  shows := shows_toDigits fits
  settled := rfl

/-- A key with a string. -/
def Line.text (key : String) (bare : Bare key) (text : String) : Line where
  key
  written := writeString text.toList
  value := .str text
  bare
  shows := shows_writeString text
  settled := rfl

def Line.leaf (l : Line) : String × Node := (l.key, .leaf l.value)

structure Section where
  name : String
  lines : List Line
  bare : Bare name
  distinct : (lines.map Line.key).Nodup

def Section.write (s : Section) : List Char :=
  '[' :: s.name.toList ++ [']', '\n'] ++ s.lines.flatMap Line.write

def Section.node (s : Section) : String × Node :=
  (s.name, .table .header (s.lines.map Line.leaf))

def Section.entries (s : Section) : List (String × Toml) := s.lines.map fun l => (l.key, l.value)

def document : List Section → List Char
  | [] => []
  | first :: later => first.write ++ later.flatMap ('\n' :: ·.write)

section

variable {name : String} {above : Entries} {whole : Draft} {rest : List Char}

theorem Line.readLine_write (l : Line) {inner : Entries} (absent : name ∉ above.map Prod.fst)
    (fresh : l.key ∉ inner.map Prod.fst) (fuel : Nat) (rest : List Char) :
    readLine (fuel + 1) ⟨above ++ [(name, .table .header inner)], [name]⟩ (l.write ++ rest) =
      some (⟨above ++ [(name, .table .header (inner ++ [l.leaf]))], [name]⟩, '\n' :: rest) := by
  obtain ⟨c, cs, letters, letter⟩ := l.bare.head
  have noHeader : c ≠ '[' := by
    rintro rfl
    cases letter
  have key : readKey maxKeyParts (l.write ++ rest) =
      some ([l.key], '=' :: ' ' :: (l.written ++ '\n' :: rest)) := by
    have sign : " = ".toList = [' ', '=', ' '] := by decide
    have text : l.write ++ rest =
        l.key.toList ++ ' ' :: '=' :: ' ' :: (l.written ++ '\n' :: rest) := by
      simp [Line.write, sign]
    rw [text]
    refine readKey_bare l.bare 78 ?_ ?_
    · rintro _ ⟨⟩
      decide
    · rintro _ ⟨⟩
      decide
  have value : readValue 80 (fuel + 1) (skipBlanks (' ' :: (l.written ++ '\n' :: rest))) =
      some (l.value, '\n' :: rest) := by
    have start : skipBlanks (l.written ++ '\n' :: rest) = l.written ++ '\n' :: rest := by
      refine skipBlanks_of_head ?_
      cases shown : l.written with
      | nil =>
          rintro _ ⟨⟩
          decide
      | cons a as =>
          rintro _ ⟨⟩
          exact l.shows.starts a (shown ▸ rfl)
    exact (congrArg _ start).trans (l.shows.read 80 fuel rest)
  have first : l.write ++ rest = c :: (cs ++ " = ".toList ++ l.written ++ ['\n'] ++ rest) := by
    simp [Line.write, letters]
  rw [first] at key ⊢
  unfold readLine
  split
  case h_1 same => exact absurd (List.cons.inj same).1 noHeader
  case h_2 same => exact absurd (List.cons.inj same).1 noHeader
  case h_3 =>
    simp only [key, Option.bind_eq_bind, Option.bind_some, value, add_last absent fresh]
    rfl

theorem Line.readsTo (l : Line) {inner : Entries} (absent : name ∉ above.map Prod.fst)
    (fresh : l.key ∉ inner.map Prod.fst)
    (later : ReadsTo ⟨above ++ [(name, .table .header (inner ++ [l.leaf]))], [name]⟩ rest whole) :
    ReadsTo ⟨above ++ [(name, .table .header inner)], [name]⟩ (l.write ++ rest) whole := by
  refine ReadsTo.line ?_ (fun fuel => l.readLine_write absent fresh fuel rest) ?_ later
  · obtain ⟨c, cs, letters, letter⟩ := l.bare.head
    exact ⟨c, _, by rw [Line.write, letters]; rfl, .inr letter⟩
  · simp only [Line.write, List.length_append, List.length_cons]
    omega

theorem readsTo_lines (lines : List Line) (inner : Entries) (absent : name ∉ above.map Prod.fst)
    (distinct : (inner.map Prod.fst ++ lines.map Line.key).Nodup)
    (later : ReadsTo ⟨above ++ [(name, .table .header (inner ++ lines.map Line.leaf))], [name]⟩
      rest whole) :
    ReadsTo ⟨above ++ [(name, .table .header inner)], [name]⟩
      (lines.flatMap Line.write ++ rest) whole := by
  induction lines generalizing inner with
  | nil => simpa using later
  | cons l lines ih =>
      have fresh : l.key ∉ inner.map Prod.fst := fun inside =>
        (List.nodup_append.mp distinct).2.2 _ inside _ List.mem_cons_self rfl
      rw [List.flatMap_cons, List.append_assoc]
      refine l.readsTo absent fresh (ih _ ?_ ?_)
      · simpa [Line.leaf] using distinct
      · simpa using later

/-- A section adds its table behind those above it. -/
theorem Section.readsTo (s : Section) {header : List String}
    (absent : s.name ∉ above.map Prod.fst)
    (later : ReadsTo ⟨above ++ [s.node], [s.name]⟩ rest whole) :
    ReadsTo ⟨above, header⟩ (s.write ++ rest) whole := by
  have key (cs : List Char) : readKey maxKeyParts (s.name.toList ++ ']' :: cs) =
      some ([s.name], ']' :: cs) := by
    refine readKey_bare s.bare 78 ?_ ?_
    · rintro _ ⟨⟩
      decide
    · rintro _ ⟨⟩
      decide
  have text : s.write ++ rest =
      '[' :: (s.name.toList ++ ']' :: '\n' :: (s.lines.flatMap Line.write ++ rest)) := by
    simp [Section.write]
  rw [text]
  refine ReadsTo.line ⟨_, _, rfl, .inl rfl⟩ (fun fuel => ?_) ?_
    (readsTo_lines s.lines [] absent s.distinct later)
  · obtain ⟨c, cs, letters, letter⟩ := s.bare.head
    have single : c ≠ '[' := by
      rintro rfl
      cases letter
    have last : [s.name].getLast?.getD "" = s.name := rfl
    have opened (cs : List Char) :
        readHeader false ⟨above, header⟩ (s.name.toList ++ ']' :: cs) =
          some (⟨above ++ [(s.name, .table .header [])], [s.name]⟩, cs) := by
      simp [readHeader, key, openTable_absent absent]
    rw [← opened, letters, List.cons_append]
    unfold readLine
    split
    case h_1 same => exact absurd (List.cons.inj (List.cons.inj same).2).1 single
    case h_2 same => rw [(List.cons.inj same).2]
    case h_3 other => exact absurd rfl (other _)
  · simp only [List.length_cons, List.length_append]
    omega

end

theorem readsTo_sections (sections : List Section) (above : Entries) (header : List String)
    (distinct : (above.map Prod.fst ++ sections.map Section.name).Nodup) :
    ∃ last, ReadsTo ⟨above, header⟩ (sections.flatMap ('\n' :: ·.write))
      ⟨above ++ sections.map Section.node, last⟩ := by
  induction sections generalizing above header with
  | nil => exact ⟨header, by simpa using ReadsTo.nil _⟩
  | cons s sections ih =>
      have absent : s.name ∉ above.map Prod.fst := fun inside =>
        (List.nodup_append.mp distinct).2.2 _ inside _ List.mem_cons_self rfl
      obtain ⟨last, later⟩ := ih (above ++ [s.node]) [s.name]
        (by simpa [Section.node] using distinct)
      refine ⟨last, ?_⟩
      rw [List.flatMap_cons, List.cons_append]
      exact ReadsTo.newline (s.readsTo absent (by simpa using later))

/-! ### Whole documents -/

theorem entriesToToml_leaves (lines : List Line) :
    entriesToToml (lines.map Line.leaf) = lines.map fun l => (l.key, l.value) := by
  induction lines with
  | nil => rfl
  | cons l lines ih =>
      rw [List.map_cons, List.map_cons, Line.leaf, entriesToToml, Node.toToml, ih]

theorem entriesToToml_nodes (sections : List Section) :
    entriesToToml (sections.map Section.node) =
      sections.map fun s => (s.name, .table s.entries) := by
  induction sections with
  | nil => rfl
  | cons s sections ih =>
      rw [List.map_cons, List.map_cons, Section.node, entriesToToml, Node.toToml,
        entriesToToml_leaves, ih]
      rfl

/-- A document is read as the table of its sections. -/
theorem read?_document {sections : List Section} (distinct : (sections.map Section.name).Nodup) :
    read? (String.ofList (document sections)) =
      some (sections.map fun s => (s.name, .table s.entries)) := by
  have lines : ∃ last, ReadsTo {} (document sections) ⟨sections.map Section.node, last⟩ := by
    cases sections with
    | nil => exact ⟨[], ReadsTo.nil _⟩
    | cons first later =>
        obtain ⟨last, rest⟩ := readsTo_sections later [first.node] [first.name] distinct
        exact ⟨last, first.readsTo List.not_mem_nil rest⟩
  have noMark : dropMark (document sections) = document sections := by
    cases sections with
    | nil => rfl
    | cons first later => rfl
  obtain ⟨last, lines⟩ := lines
  rw [read?, String.toList_ofList, noMark, lines _ (Nat.lt_succ_self _)]
  exact congrArg some (entriesToToml_nodes sections)

/-- No date and no time is written as a table in such a document. -/
theorem settledEntries?_of_forall {entries : List (String × Toml)}
    (all : ∀ e ∈ entries, settled? e.2 = some e.2) : settledEntries? entries = some entries := by
  induction entries with
  | nil => rfl
  | cons e entries ih =>
      obtain ⟨here, later⟩ := List.forall_mem_cons.mp all
      simp [settledEntries?, here, ih later]

theorem settled?_table {entries : List (String × Toml)}
    (names : ∀ e ∈ entries, e.1 ≠ momentKey) (all : ∀ e ∈ entries, settled? e.2 = some e.2) :
    settled? (.table entries) = some (.table entries) := by
  cases entries with
  | nil => rfl
  | cons e entries =>
      obtain ⟨here, later⟩ := List.forall_mem_cons.mp all
      rw [settled?, if_neg (names e List.mem_cons_self), here, settledEntries?_of_forall later]
      rfl

theorem readSettled?_document {sections : List Section}
    (distinct : (sections.map Section.name).Nodup) :
    readSettled? (String.ofList (document sections)) =
      some (.table (sections.map fun s => (s.name, .table s.entries))) := by
  rw [readSettled?, read?_document distinct]
  refine settled?_table ?_ ?_
  · intro e inside
    obtain ⟨s, _, rfl⟩ := List.mem_map.mp inside
    exact s.bare.ne_momentKey
  · intro e inside
    obtain ⟨s, _, rfl⟩ := List.mem_map.mp inside
    refine settled?_table ?_ ?_
    · intro e inside
      obtain ⟨l, _, rfl⟩ := List.mem_map.mp inside
      exact l.bare.ne_momentKey
    · intro e inside
      obtain ⟨l, _, rfl⟩ := List.mem_map.mp inside
      exact l.settled

end Quiesce.Toml
