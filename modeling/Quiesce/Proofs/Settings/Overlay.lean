import Quiesce.Proofs.Text.LowerCase
import Quiesce.Settings.KeyPath

/-!
One source laid over another, as it is seen from one name in one section. Names are folded to lower
case on the way in, so a section and a name in it stay where they are looked for, and what an entry
of a source says of them can be read off the entry: nothing, a value to lay over the one that is
there, or, if its name is a path that breaks up the section, the loss of both.
-/
namespace Quiesce.Settings

open Text (lower IsPlain lower_lower_of_isPlain)

/-- A name by which values are looked for: in ASCII and in lower case. -/
def IsKeyName (name : String) : Prop := lower name = name ∧ IsPlain name

/-- A name that is not another spelling of one that values are looked for by. -/
def IsFolded (name : String) : Prop := IsPlain (lower name) → lower name = name

theorem isFolded_lower (name : String) : IsFolded (lower name) := lower_lower_of_isPlain

theorem IsFolded.eq_of_lower {name other : String} (folded : IsFolded other)
    (known : IsKeyName name) (h : lower other = name) : other = name := by
  rw [← h]
  exact (folded (h ▸ known.2)).symm

namespace Sourced

def Folded (entries : Entries) : Prop := ∀ e ∈ entries, IsFolded e.1

theorem folded_nil : Folded [] := fun _ none => nomatch none

theorem valueOf?_setEntry (name other : String) (value : Sourced) (entries : Entries) :
    valueOf? name (setEntry other value entries) =
      if other = name then some value else valueOf? name entries := by
  induction entries with
  | nil => by_cases h : other = name <;> simp [setEntry, valueOf?, h]
  | cons e rest ih =>
      obtain ⟨n, v⟩ := e
      unfold valueOf? at ih ⊢
      by_cases here : n = other
      · subst here
        by_cases h : n = name <;> simp [setEntry, h]
      · by_cases first : n = name
        · subst first
          simp [setEntry, here, Ne.symm here]
        · simp [setEntry, here, first, ih]

theorem Folded.setEntry {entries : Entries} (folded : Folded entries) {name : String}
    (new : IsFolded name) (value : Sourced) : Folded (setEntry name value entries) := by
  induction entries with
  | nil => exact fun e inside => List.mem_singleton.mp inside ▸ new
  | cons e rest ih =>
      obtain ⟨n, v⟩ := e
      have ⟨first, others⟩ := List.forall_mem_cons.mp folded
      by_cases here : n = name
      · simp only [Sourced.setEntry, here, ite_true]
        exact List.forall_mem_cons.mpr ⟨new, others⟩
      · simp only [Sourced.setEntry, here, ite_false]
        exact List.forall_mem_cons.mpr ⟨first, ih others⟩

theorem Folded.of_valueOf? {entries : Entries} (folded : Folded entries) {name : String}
    (here : (valueOf? name entries).isSome) : IsFolded name := by
  obtain ⟨value, found⟩ := Option.isSome_iff_exists.mp here
  obtain ⟨e, at_, _⟩ := Option.map_eq_some_iff.mp found
  have same : e.1 = name := by simpa using List.find?_some at_
  exact same ▸ folded e (List.mem_of_find?_eq_some at_)

/-! ### A value laid over another -/

/-- What stands where a value was laid over an old one: a table adds to what is there. -/
def overlay (old : Option Sourced) : Sourced → Sourced
  | table _ incoming => putAll (old.getD empty) incoming
  | list source items => list source items
  | scalar source value => scalar source value

/-- The name under which a leaf is put among entries. -/
def leafName (name : String) (entries : Entries) : String :=
  if (valueOf? name entries).isSome then name else lower name

theorem Folded.leafName {entries : Entries} (folded : Folded entries) (name : String) :
    IsFolded (leafName name entries) := by
  unfold Sourced.leafName
  split
  · exact folded.of_valueOf? ‹_›
  · exact isFolded_lower name

theorem leafName_eq_iff {entries : Entries} (folded : Folded entries) {name : String}
    (known : IsKeyName name) (other : String) :
    leafName other entries = name ↔ lower other = name := by
  unfold leafName
  split
  · refine ⟨?_, (folded.of_valueOf? ‹_›).eq_of_lower known⟩
    rintro rfl
    exact known.1
  · rfl

theorem putLeaf_asTable (root : Sourced) (name : String) (value : Sourced) :
    (put.putLeaf root name value).asTable.2 =
      setEntry (leafName name root.asTable.2) value root.asTable.2 := rfl

theorem put_table_asTable (root : Sourced) (name : String) (source : Option String)
    (incoming : Entries) : (put root name (table source incoming)).asTable.2 =
      setEntry (lower name) (overlay (valueOf? (lower name) root.asTable.2) (table source incoming))
        root.asTable.2 := by
  rw [put]
  rfl

theorem folded_put {root : Sourced} (folded : Folded root.asTable.2) (name : String)
    (value : Sourced) : Folded (put root name value).asTable.2 := by
  cases value with
  | table source incoming =>
      rw [put_table_asTable]
      exact folded.setEntry (isFolded_lower name) _
  | list _ _ | scalar _ _ =>
      rw [put, putLeaf_asTable]
      exact folded.setEntry (folded.leafName name) _

/-- Putting a value changes what is found under its name in lower case, and nothing else. -/
theorem valueOf?_put {root : Sourced} (folded : Folded root.asTable.2) {name : String}
    (known : IsKeyName name) (other : String) (value : Sourced) :
    valueOf? name (put root other value).asTable.2 =
      if lower other = name then some (overlay (valueOf? name root.asTable.2) value)
      else valueOf? name root.asTable.2 := by
  cases value with
  | table source incoming =>
      rw [put_table_asTable, valueOf?_setEntry]
      split <;> simp_all
  | list _ _ | scalar _ _ =>
      rw [put, putLeaf_asTable, valueOf?_setEntry]
      simp only [leafName_eq_iff folded known, overlay]

/-- What entries say of a name, in whatever letters they spell it. -/
def given (name : String) (entries : Entries) : List Sourced :=
  (entries.filter fun e => lower e.1 = name).map (·.2)

/-- Values laid over one another, the last one on top. -/
def stack (old : Option Sourced) (values : List Sourced) : Option Sourced :=
  values.foldl (fun old value => some (overlay old value)) old

theorem stack_append (old : Option Sourced) (values more : List Sourced) :
    stack old (values ++ more) = stack (stack old values) more := List.foldl_append

theorem folded_putAll {root : Sourced} (folded : Folded root.asTable.2) (incoming : Entries) :
    Folded (putAll root incoming).asTable.2 := by
  induction incoming generalizing root with
  | nil => rwa [putAll]
  | cons e rest ih =>
      rw [putAll]
      exact ih (folded_put folded _ _)

theorem valueOf?_putAll {root : Sourced} (folded : Folded root.asTable.2) {name : String}
    (known : IsKeyName name) (incoming : Entries) :
    valueOf? name (putAll root incoming).asTable.2 =
      stack (valueOf? name root.asTable.2) (given name incoming) := by
  induction incoming generalizing root with
  | nil => rw [putAll]; rfl
  | cons e rest ih =>
      rw [putAll, ih (folded_put folded _ _), valueOf?_put folded known]
      by_cases here : lower e.1 = name
      · simp only [given, here, ite_true, List.filter_cons, decide_true, List.map_cons]
        rfl
      · simp only [given, here, ite_false, List.filter_cons, decide_false, Bool.false_eq_true]

/-- Whatever is laid over a value with entries, a table comes of it. -/
theorem putAll_cons_eq_table (root : Sourced) (e : String × Sourced) (rest : Entries) :
    ∃ source entries, putAll root (e :: rest) = table source entries := by
  induction rest generalizing root e with
  | nil =>
      rw [putAll, putAll]
      obtain ⟨name, value⟩ := e
      cases value <;> rw [put] <;> exact ⟨_, _, rfl⟩
  | cons next rest ih =>
      rw [putAll]
      exact ih _ next

end Sourced

end Quiesce.Settings
