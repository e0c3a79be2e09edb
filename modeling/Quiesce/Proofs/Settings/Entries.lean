import Quiesce.Proofs.Settings.Overlay

/-!
The entries of a source, laid over a table one after the other. For one name in one section an entry
either spares it, and then says something of it or nothing, or it breaks up the section. While every
entry spares the name, all that the table holds of it in the end is what was there before and what
the entries say of it, laid over one another.
-/
namespace Quiesce.Settings

open Text (lower)

/-- Two steps that go well have gone well one after the other. -/
theorem ok_of_bind {ε α β : Type} {x : Except ε α} {f : α → Except ε β} {b : β}
    (h : x >>= f = .ok b) : ∃ a, x = .ok a ∧ f a = .ok b := by
  cases x with
  | error e => cases h
  | ok a => exact ⟨a, rfl, h⟩

namespace KeyPath

/-- What is read of a path: nothing, a name behind a point, or a position in brackets. -/
theorem readSteps?_cases {fuel : Nat} {cs : List Char} {steps : List KeyStep}
    (h : readSteps? fuel cs = some steps) :
    (cs = [] ∧ steps = []) ∨
      (∃ fewer rest more, fuel = fewer + 1 ∧ cs = '.' :: rest ∧
        readSteps? fewer (rest.dropWhile isNameChar) = some more ∧
        steps = .child (String.ofList (rest.takeWhile isNameChar)) :: more) ∨
      ∃ rest index more, cs = '[' :: rest ∧ steps = .item index :: more := by
  unfold readSteps? at h
  split at h
  case h_1 => exact .inl ⟨rfl, (Option.some.inj h).symm⟩
  case h_3 fewer rest =>
    dsimp only at h
    split at h
    · cases h
    · obtain ⟨more, read, same⟩ := Option.bind_eq_some_iff.mp h
      exact .inr (.inl ⟨fewer, rest, more, rfl, rfl, read, (Option.some.inj same).symm⟩)
  case h_4 fewer rest =>
    obtain ⟨⟨index, after⟩, _, h⟩ := Option.bind_eq_some_iff.mp h
    obtain ⟨more, _, same⟩ := Option.bind_eq_some_iff.mp h
    exact .inr (.inr ⟨rest, index, more, rfl, (Option.some.inj same).symm⟩)
  all_goals cases h

/-- Without a bracket there are no positions in a path. -/
theorem child_of_mem_readSteps? {fuel : Nat} {cs : List Char} {steps : List KeyStep}
    (h : readSteps? fuel cs = some steps) (plain : '[' ∉ cs) :
    ∀ step ∈ steps, ∃ name, step = .child name := by
  induction fuel generalizing cs steps with
  | zero =>
      obtain ⟨_, rfl⟩ | ⟨_, _, _, more, _⟩ | ⟨_, _, _, rfl, _⟩ := readSteps?_cases h
      · exact fun step none => nomatch none
      · cases more
      · exact absurd List.mem_cons_self plain
  | succ fuel ih =>
      obtain ⟨_, rfl⟩ | ⟨fewer, rest, more, same, rfl, read, rfl⟩ | ⟨_, _, _, rfl, _⟩ :=
        readSteps?_cases h
      · exact fun step none => nomatch none
      · cases same
        refine List.forall_mem_cons.mpr ⟨⟨_, rfl⟩, ih read fun inside => plain ?_⟩
        exact List.mem_cons_of_mem _ ((List.dropWhile_sublist _).mem inside)
      · exact absurd List.mem_cons_self plain

theorem eq_of_read? {text : String} {path : KeyPath} (h : read? text = some path) :
    path.head = String.ofList (text.toList.takeWhile isNameChar) ∧
      readSteps? text.toList.length (text.toList.dropWhile isNameChar) = some path.steps := by
  unfold read? at h
  dsimp only at h
  split at h
  · cases h
  · obtain ⟨steps, read, same⟩ := Option.bind_eq_some_iff.mp h
    cases same
    exact ⟨rfl, read⟩

/-- A path without steps is the name it was read from. -/
theorem head_eq_of_read? {text : String} {path : KeyPath} (h : read? text = some path)
    (alone : path.steps = []) : path.head = text := by
  obtain ⟨head, steps⟩ := eq_of_read? h
  rw [alone] at steps
  have whole : text.toList.takeWhile isNameChar ++ text.toList.dropWhile isNameChar = text.toList :=
    List.takeWhile_append_dropWhile
  obtain ⟨nothing, _⟩ | ⟨_, _, _, _, _, _, steps⟩ | ⟨_, _, _, _, steps⟩ := readSteps?_cases steps
  · rw [nothing, List.append_nil] at whole
    rw [head, whole, String.ofList_toList]
  · cases steps
  · cases steps

theorem child_of_read? {text : String} {path : KeyPath} (h : read? text = some path)
    (plain : '[' ∉ text.toList) : ∀ step ∈ path.steps, ∃ name, step = .child name :=
  child_of_mem_readSteps? (eq_of_read? h).2 fun inside =>
    plain ((List.dropWhile_sublist _).mem inside)

/-- A path through tables alone can always be followed. -/
theorem exists_putAt (value : Sourced) {steps : List KeyStep}
    (children : ∀ step ∈ steps, ∃ name, step = .child name) (here : Sourced) :
    ∃ changed, putAt value steps here = .ok changed := by
  induction steps generalizing here with
  | nil => exact ⟨value, by rw [putAt]⟩
  | cons step rest ih =>
      obtain ⟨⟨name, rfl⟩, others⟩ := List.forall_mem_cons.mp children
      cases rest with
      | nil => exact ⟨_, by rw [putAt]⟩
      | cons next rest =>
          obtain ⟨changed, put⟩ := ih others
            ((Sourced.valueOf? (lower name) here.asTable.2).getD .nothing)
          simp only [putAt, put]
          exact ⟨_, rfl⟩

theorem exists_put {text : String} {path : KeyPath} (h : read? text = some path)
    (plain : '[' ∉ text.toList) (value root : Sourced) :
    ∃ changed, path.put value root = .ok changed := by
  have children := child_of_read? h plain
  unfold put
  split
  · exact ⟨_, rfl⟩
  · obtain ⟨changed, put⟩ := exists_putAt value children
      ((Sourced.valueOf? (lower path.head) root.asTable.2).getD .nothing)
    simp only [put]
    exact ⟨_, rfl⟩

end KeyPath

namespace Sourced

/-! ### A name in a section -/

def sectionOf (part : String) (root : Sourced) : Sourced :=
  (valueOf? part root.asTable.2).getD empty

def at? (part name : String) (root : Sourced) : Option Sourced :=
  valueOf? name (sectionOf part root).asTable.2

def isTable : Sourced → Bool
  | table _ _ => true
  | _ => false

/-- No name at the top and in the section is another spelling of one that is looked for. -/
structure FoldedAt (part : String) (root : Sourced) : Prop where
  top : Folded root.asTable.2
  inside : Folded (sectionOf part root).asTable.2

/-- What an entry says of the name, as a table for the section or by a path to the name. -/
def givenAt (part name : String) (entry : String × Sourced) : List Sourced :=
  match KeyPath.read? entry.1 with
  | some ⟨head, [.child child]⟩ =>
    if lower head = part ∧ lower child = name then [entry.2] else []
  | some ⟨_, _ :: _⟩ => []
  | _ => if lower entry.1 = part then given name entry.2.asTable.2 else []

/-- An entry leaves the section a table, and no path in it goes on behind the name. -/
def Spares (part name : String) (entry : String × Sourced) : Prop :=
  match KeyPath.read? entry.1 with
  | some ⟨head, .child child :: rest⟩ => lower head = part → lower child = name → rest = []
  | some ⟨head, .item _ :: _⟩ => lower head ≠ part
  | _ => lower entry.1 = part → entry.2.isTable

theorem sectionOf_setEntry (part other : String) (source : Option String) (value : Sourced)
    (entries : Entries) : sectionOf part (table source (setEntry other value entries)) =
      if other = part then value else (valueOf? part entries).getD empty := by
  rw [sectionOf, asTable, valueOf?_setEntry]
  split <;> rfl

theorem getD_nothing_asTable (part : String) (root : Sourced) :
    ((valueOf? part root.asTable.2).getD nothing).asTable = (sectionOf part root).asTable := by
  rw [sectionOf]
  cases valueOf? part root.asTable.2 <;> rfl

theorem at?_put {part name : String} (isPart : IsKeyName part) (isName : IsKeyName name)
    {root : Sourced} (folded : FoldedAt part root) (other : String) (value : Sourced)
    (spares : lower other = part → value.isTable) :
    FoldedAt part (put root other value) ∧ at? part name (put root other value) =
      stack (at? part name root)
        (if lower other = part then given name value.asTable.2 else []) := by
  have top := folded_put folded.top other value
  have found := valueOf?_put folded.top isPart other value
  by_cases here : lower other = part
  · cases value with
    | table source incoming =>
        have after : sectionOf part (put root other (table source incoming)) =
            putAll (sectionOf part root) incoming := by
          rw [sectionOf, found, if_pos here]
          rfl
        refine ⟨⟨top, ?_⟩, ?_⟩
        · rw [after]
          exact folded_putAll folded.inside incoming
        · rw [at?, after, valueOf?_putAll folded.inside isName, if_pos here]
          rfl
    | list _ _ | scalar _ _ => exact nomatch spares here
  · have after : sectionOf part (put root other value) = sectionOf part root := by
      rw [sectionOf, found, if_neg here]
      rfl
    refine ⟨⟨top, after ▸ folded.inside⟩, ?_⟩
    rw [at?, after, if_neg here]
    rfl

end Sourced

namespace KeyPath

open Sourced

/-- A path into another section leaves the section as it is; one into the section hands it on to the
steps behind. -/
theorem sectionOf_put (part : String) {path : KeyPath} {value root changed : Sourced}
    (steps : path.steps ≠ []) (put : path.put value root = .ok changed) :
    ∃ next, putAt value path.steps
        ((valueOf? (lower path.head) root.asTable.2).getD .nothing) = .ok next ∧
      changed.asTable.2 = setEntry (lower path.head) next root.asTable.2 ∧
      sectionOf part changed = if lower path.head = part then next else sectionOf part root := by
  unfold KeyPath.put at put
  split at put
  · contradiction
  · obtain ⟨next, laid, same⟩ := ok_of_bind put
    cases same
    exact ⟨next, laid, rfl, sectionOf_setEntry ..⟩

theorem valueOf?_putAt {name child : String} (isName : IsKeyName name) {rest : List KeyStep}
    {value here next : Sourced} (folded : Folded here.asTable.2)
    (spares : lower child = name → rest = [])
    (put : putAt value (.child child :: rest) here = .ok next) :
    Folded next.asTable.2 ∧ valueOf? name next.asTable.2 =
      stack (valueOf? name here.asTable.2)
        (if lower child = name ∧ rest = [] then [value] else []) := by
  cases rest with
  | nil =>
      rw [putAt, Except.ok.injEq] at put
      subst put
      let table : Sourced := .table here.asTable.1 here.asTable.2
      have folded : Folded table.asTable.2 := folded
      refine ⟨folded_put folded child value, ?_⟩
      rw [valueOf?_put folded isName]
      by_cases same : lower child = name
      · rw [if_pos same, if_pos ⟨same, rfl⟩]
        rfl
      · rw [if_neg same, if_neg fun both => same both.1]
        rfl
  | cons step rest =>
      have other : lower child ≠ name := fun same => nomatch spares same
      rw [putAt] at put
      · obtain ⟨inner, _, same⟩ := ok_of_bind put
        cases same
        refine ⟨folded.setEntry (isFolded_lower child) inner, ?_⟩
        rw [asTable, valueOf?_setEntry, if_neg other, if_neg fun both => other both.1]
        rfl
      · exact nofun

end KeyPath

/-- Lays a single entry over a table. -/
def layEntry (root : Sourced) (entry : String × Sourced) : Except Overflow Sourced :=
  match KeyPath.read? entry.1 with
  | some path => path.put entry.2 root
  | none => .ok (root.put entry.1 entry.2)

theorem layOver_cons (root : Sourced) (entry : String × Sourced)
    (entries : List (String × Sourced)) :
    layOver root (entry :: entries) = layEntry root entry >>= (layOver · entries) := rfl

variable {part name : String} (isPart : IsKeyName part) (isName : IsKeyName name)

include isPart isName

theorem at?_layEntry {root changed : Sourced} {entry : String × Sourced}
    (folded : root.FoldedAt part) (spares : Sourced.Spares part name entry)
    (laid : layEntry root entry = .ok changed) : changed.FoldedAt part ∧
      changed.at? part name = Sourced.stack (root.at? part name)
        (Sourced.givenAt part name entry) := by
  obtain ⟨key, value⟩ := entry
  unfold layEntry at laid
  unfold Sourced.Spares at spares
  unfold Sourced.givenAt
  dsimp only at laid spares ⊢
  cases read : KeyPath.read? key with
  | none =>
      simp only [read, Except.ok.injEq] at laid spares ⊢
      subst laid
      exact Sourced.at?_put isPart isName folded key value spares
  | some path =>
      obtain ⟨head, steps⟩ := path
      simp only [read] at laid spares ⊢
      cases steps with
      | nil =>
          have alone : head = key := KeyPath.head_eq_of_read? read rfl
          subst alone
          simp only [KeyPath.put, Except.ok.injEq] at laid
          subst laid
          exact Sourced.at?_put isPart isName folded head value spares
      | cons step rest =>
          obtain ⟨next, put, top, after⟩ :=
            KeyPath.sectionOf_put part (List.cons_ne_nil step rest) laid
          have foldedTop : Sourced.Folded changed.asTable.2 := by
            rw [top]
            exact folded.top.setEntry (isFolded_lower head) next
          dsimp only at put after
          by_cases here : lower head = part
          · rw [if_pos here] at after
            cases step with
            | item index => exact absurd here spares
            | child child =>
                have before := Sourced.getD_nothing_asTable part root
                rw [here] at put
                obtain ⟨foldedNext, found⟩ := KeyPath.valueOf?_putAt isName
                  (before ▸ folded.inside) (spares here) put
                rw [before] at found
                refine ⟨⟨foldedTop, after ▸ foldedNext⟩, ?_⟩
                rw [Sourced.at?, after, found]
                cases rest with
                | nil => simp only [here, true_and, and_true]; rfl
                | cons next rest => simp only [reduceCtorEq, and_false, ite_false]; rfl
          · rw [if_neg here] at after
            refine ⟨⟨foldedTop, after ▸ folded.inside⟩, ?_⟩
            rw [Sourced.at?, after]
            cases step with
            | item index => rfl
            | child child =>
                cases rest with
                | nil => simp only [here, false_and, ite_false]; rfl
                | cons next rest => rfl

/-- Over any number of entries that spare a name, what they say of it is laid over what was there,
in their order. -/
theorem at?_layOver {root changed : Sourced} {entries : List (String × Sourced)}
    (folded : root.FoldedAt part) (spares : ∀ entry ∈ entries, Sourced.Spares part name entry)
    (laid : layOver root entries = .ok changed) : changed.FoldedAt part ∧
      changed.at? part name = Sourced.stack (root.at? part name)
        (entries.flatMap (Sourced.givenAt part name)) := by
  induction entries generalizing root with
  | nil =>
      cases laid
      exact ⟨folded, rfl⟩
  | cons entry entries ih =>
      obtain ⟨next, first, rest⟩ := ok_of_bind (layOver_cons root entry entries ▸ laid)
      obtain ⟨spare, others⟩ := List.forall_mem_cons.mp spares
      obtain ⟨foldedNext, atNext⟩ := at?_layEntry isPart isName folded spare first
      obtain ⟨foldedLast, atLast⟩ := ih foldedNext others rest
      refine ⟨foldedLast, ?_⟩
      rw [atLast, atNext, List.flatMap_cons, Sourced.stack_append]

omit isPart isName

theorem exists_layEntry {entry : String × Sourced} (plain : '[' ∉ entry.1.toList)
    (root : Sourced) : ∃ changed, layEntry root entry = .ok changed := by
  unfold layEntry
  split
  · exact KeyPath.exists_put ‹_› plain _ _
  · exact ⟨_, rfl⟩

/-- Without a bracket in a name, no entry leads out of a list. -/
theorem exists_layOver {entries : List (String × Sourced)}
    (plain : ∀ entry ∈ entries, '[' ∉ entry.1.toList) (root : Sourced) :
    ∃ changed, layOver root entries = .ok changed := by
  induction entries generalizing root with
  | nil => exact ⟨root, rfl⟩
  | cons entry entries ih =>
      obtain ⟨first, others⟩ := List.forall_mem_cons.mp plain
      obtain ⟨next, laid⟩ := exists_layEntry first root
      rw [layOver_cons, laid]
      exact ih others next

end Quiesce.Settings
