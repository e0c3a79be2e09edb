import Quiesce.Proofs.Settings.Guess
import Quiesce.Proofs.Settings.Layers
import Quiesce.Settings.Validity

/-!
Keys that a variable sets. The last one to do so counts, whatever is in the file and whatever other
variables say: they leave the value where it is, or put something there that does not suit the key
and is not loaded. So an address from a variable is the one that is loaded.
-/
namespace Quiesce.Settings

open Text (lower)
open Sourced (FoldedAt at? sectionOf valueOf? Spares givenAt)

/-! ### Keys of variables -/

theorem Environment.mem_pointed {c : Char} {cs : List Char} (h : c ∈ pointed cs) :
    c = '.' ∨ c ∈ cs := by
  induction cs using pointed.induct with
  | case1 cs ih =>
      rw [pointed] at h
      rcases List.mem_cons.mp h with point | later
      · exact .inl point
      · exact (ih later).imp_right fun inside =>
          List.mem_cons_of_mem _ (List.mem_cons_of_mem _ inside)
  | case2 d cs single ih =>
      rw [pointed] at h
      · rcases List.mem_cons.mp h with rfl | later
        · exact .inr List.mem_cons_self
        · exact (ih later).imp_right (List.mem_cons_of_mem _)
      · exact single
  | case3 => cases h

/-- The key of a variable is in lower case. -/
theorem Environment.isSettled_of_mem_key? {name key : String} (h : key? name = some key) {c : Char}
    (inside : c ∈ key.toList) : Text.IsSettled c := by
  obtain ⟨rest, stripped, rfl⟩ := Option.map_eq_some_iff.mp h
  rw [String.toList_ofList] at inside
  rcases mem_pointed inside with rfl | inside
  · exact ⟨by decide, by decide⟩
  · have lowered := Text.mem_of_stripStart? stripped inside
    rw [lower, String.toList_ofList] at lowered
    exact Text.isSettled_of_mem_lowerAfter lowered

/-- A key is another one than `k`, and neither the section of `k` nor a position in it. -/
structure Key.Beside (k : Key) (key : String) : Prop where
  path : key ≠ k.path
  part : key ≠ k.part
  item : ¬ (k.part ++ "[").toList <+: key.toList

theorem Key.path_toList (k : Key) : k.path.toList = k.part.toList ++ '.' :: k.name.toList := by
  cases k <;> decide

/-- A path whose head spells the section of a key begins with that section. -/
theorem Key.head_of_read? {k : Key} {key : String} {path : KeyPath}
    (settled : ∀ c ∈ key.toList, Text.IsSettled c) (read : KeyPath.read? key = some path)
    (here : lower path.head = k.part) :
    key.toList = k.part.toList ++ key.toList.dropWhile KeyPath.isNameChar := by
  have head := (KeyPath.eq_of_read? read).1
  have same : path.head = k.part := by
    refine (Text.lower_of_settled (fun c inside => ?_) (here ▸ k.isKeyName_part.2)).symm.trans here
    rw [head, String.toList_ofList] at inside
    exact settled c ((List.takeWhile_sublist _).mem inside)
  have front : k.part.toList = key.toList.takeWhile KeyPath.isNameChar := by
    rw [← same, head, String.toList_ofList]
  rw [front, List.takeWhile_append_dropWhile]

theorem Key.Beside.not_item {k : Key} {key : String} (beside : k.Beside key)
    (settled : ∀ c ∈ key.toList, Text.IsSettled c) {head : String} {index : Int}
    {rest : List KeyStep} (read : KeyPath.read? key = some ⟨head, .item index :: rest⟩) :
    lower head ≠ k.part := by
  intro here
  obtain ⟨_, none⟩ | ⟨_, _, _, _, _, _, child⟩ | ⟨behind, _, _, bracket, _⟩ :=
    KeyPath.readSteps?_cases (KeyPath.eq_of_read? read).2
  · cases none
  · cases child
  · refine beside.item ⟨behind, ?_⟩
    rw [k.head_of_read? settled read here, bracket, String.toList_append, List.append_assoc]
    rfl

theorem Key.Beside.not_child {k : Key} {key : String} (beside : k.Beside key)
    (settled : ∀ c ∈ key.toList, Text.IsSettled c) {head child : String}
    (read : KeyPath.read? key = some ⟨head, [.child child]⟩) (here : lower head = k.part) :
    lower child ≠ k.name := by
  intro named
  obtain ⟨_, none⟩ | ⟨_, behind, _, _, point, last, single⟩ | ⟨_, _, _, _, item⟩ :=
    KeyPath.readSteps?_cases (KeyPath.eq_of_read? read).2
  · cases none
  · cases single
    have whole := k.head_of_read? settled read here
    rw [point] at whole
    have ended : behind.dropWhile KeyPath.isNameChar = [] := by
      obtain ⟨ended, _⟩ | ⟨_, _, _, _, _, _, more⟩ | ⟨_, _, _, _, more⟩ :=
        KeyPath.readSteps?_cases last
      · exact ended
      · cases more
      · cases more
    have all : behind.takeWhile KeyPath.isNameChar = behind := by
      have parts := List.takeWhile_append_dropWhile (p := KeyPath.isNameChar) (l := behind)
      rwa [ended, List.append_nil] at parts
    rw [all] at named
    have name : String.ofList behind = k.name := by
      have plain : Text.IsPlain (lower (String.ofList behind)) := named ▸ k.isKeyName_name.2
      refine (Text.lower_of_settled (fun c inside => ?_) plain).symm.trans named
      rw [String.toList_ofList] at inside
      refine settled c ?_
      rw [whole]
      exact List.mem_append_right _ (List.mem_cons_of_mem _ inside)
    refine beside.path (String.toList_injective ?_)
    rw [whole, k.path_toList, ← name, String.toList_ofList]
  · cases item

/-- Laid down beside a key, a value leaves what the key has as it is, or else it leads past the
key. -/
theorem Key.Beside.cases {k : Key} {key : String} (beside : k.Beside key)
    (settled : ∀ c ∈ key.toList, Text.IsSettled c) (value : Sourced) :
    (Spares k.part k.name (key, value) ∧ givenAt k.part k.name (key, value) = []) ∨
    ∃ head child next rest, KeyPath.read? key = some ⟨head, .child child :: next :: rest⟩ ∧
      lower head = k.part ∧ lower child = k.name := by
  have whole : lower key ≠ k.part := fun same =>
    beside.part ((Text.lower_of_settled settled (same ▸ k.isKeyName_part.2)).symm.trans same)
  unfold Spares givenAt
  dsimp only
  cases read : KeyPath.read? key with
  | none => exact .inl ⟨fun same => absurd same whole, if_neg whole⟩
  | some path =>
      obtain ⟨head, steps⟩ := path
      match steps with
      | [] => exact .inl ⟨fun same => absurd same whole, if_neg whole⟩
      | .item _ :: _ => exact .inl ⟨beside.not_item settled read, rfl⟩
      | [.child child] =>
          exact .inl ⟨fun _ _ => rfl, if_neg fun both =>
            beside.not_child settled read both.1 both.2⟩
      | .child child :: next :: rest =>
          by_cases both : lower head = k.part ∧ lower child = k.name
          · exact .inr ⟨head, child, next, rest, rfl, both⟩
          · exact .inl ⟨fun here named => absurd ⟨here, named⟩ both, rfl⟩

/-! ### Under later entries -/

namespace Sourced

theorem folded_overlay {old : Option Sourced} (folded : Folded (old.getD empty).asTable.2)
    (value : Sourced) : Folded (overlay old value).asTable.2 := by
  cases value with
  | table _ incoming => exact folded_putAll folded incoming
  | list _ _ | scalar _ _ => exact folded_nil

theorem foldedAt_put {part : String} (isPart : IsKeyName part) {root : Sourced}
    (folded : FoldedAt part root) (name : String) (value : Sourced) :
    FoldedAt part (put root name value) := by
  refine ⟨folded_put folded.top name value, ?_⟩
  rw [sectionOf, valueOf?_put folded.top isPart]
  split
  · exact folded_overlay folded.inside value
  · exact folded.inside

end Sourced

theorem KeyPath.folded_putAt {steps : List KeyStep} (some : steps ≠ [])
    {value here next : Sourced} (folded : Sourced.Folded here.asTable.2)
    (put : putAt value steps here = .ok next) : Sourced.Folded next.asTable.2 := by
  unfold putAt at put
  split at put
  · contradiction
  · cases put
    have table : Sourced.Folded (Sourced.table here.asTable.1 here.asTable.2).asTable.2 := folded
    exact Sourced.folded_put table _ _
  · obtain ⟨inner, _, same⟩ := ok_of_bind put
    cases same
    exact folded.setEntry (isFolded_lower _) inner
  · obtain ⟨inner, _, same⟩ := ok_of_bind put
    cases same
    exact Sourced.folded_nil

/-- Whatever an entry does, names stay in lower case. -/
theorem foldedAt_layEntry {part : String} (isPart : IsKeyName part) {root changed : Sourced}
    {entry : String × Sourced} (folded : root.FoldedAt part)
    (laid : layEntry root entry = .ok changed) : changed.FoldedAt part := by
  unfold layEntry at laid
  split at laid
  · rename_i path _
    by_cases alone : path.steps = []
    · rw [KeyPath.put, alone] at laid
      cases laid
      exact Sourced.foldedAt_put isPart folded _ _
    · obtain ⟨next, put, top, after⟩ := KeyPath.sectionOf_put part alone laid
      refine ⟨top ▸ folded.top.setEntry (isFolded_lower _) next, ?_⟩
      rw [after]
      split
      · rename_i here
        rw [here] at put
        have before := Sourced.getD_nothing_asTable part root
        exact KeyPath.folded_putAt alone (before ▸ folded.inside) put
      · exact folded.inside
  · cases laid
    exact Sourced.foldedAt_put isPart folded _ _

theorem foldedAt_layOver {part : String} (isPart : IsKeyName part) {root changed : Sourced}
    {entries : List (String × Sourced)} (folded : root.FoldedAt part)
    (laid : layOver root entries = .ok changed) : changed.FoldedAt part := by
  induction entries generalizing root with
  | nil =>
      cases laid
      exact folded
  | cons entry entries ih =>
      obtain ⟨next, first, rest⟩ := ok_of_bind (layOver_cons root entry entries ▸ laid)
      exact ih (foldedAt_layEntry isPart folded first) rest

theorem layOver_append (root : Sourced) (entries more : List (String × Sourced)) :
    layOver root (entries ++ more) = layOver root entries >>= (layOver · more) :=
  List.foldlM_append

namespace Key

theorem coerce_list (k : Key) (source : Option String) (items : List Sourced) (value : k.Value) :
    k.coerce (.list source items) ≠ .ok value := by
  cases k <;> exact nofun

/-- On the way to a value there are tables and lists, which suit no key. -/
theorem coerce_putAt (k : Key) {steps : List KeyStep} (some : steps ≠ [])
    {value here next : Sourced} (put : KeyPath.putAt value steps here = .ok next)
    (result : k.Value) :
    k.coerce next ≠ .ok result := by
  unfold KeyPath.putAt at put
  split at put
  · contradiction
  · cases put
    obtain ⟨source, entries, table⟩ := Sourced.putAll_cons_eq_table
      (.table here.asTable.1 here.asTable.2) (_, value) []
    rw [Sourced.putAll, Sourced.putAll] at table
    rw [table]
    exact k.coerce_table source entries result
  · obtain ⟨inner, _, same⟩ := ok_of_bind put
    cases same
    exact k.coerce_table _ _ result
  · obtain ⟨inner, _, same⟩ := ok_of_bind put
    cases same
    exact k.coerce_list _ _ result

/-- If what stands at a key suits it at all, it suits it as the value does. -/
def Holds (k : Key) (value root : Sourced) : Prop :=
  ∃ top, root.at? k.part k.name = some top ∧
    ∀ result, k.coerce top = .ok result → k.coerce value = .ok result

/-- An entry beside a key leaves its value, or puts something there that does not suit the key. -/
theorem Holds.layEntry {k : Key} {value root changed : Sourced} (holds : k.Holds value root)
    (folded : root.FoldedAt k.part) {entry : String × Sourced} (beside : k.Beside entry.1)
    (settled : ∀ c ∈ entry.1.toList, Text.IsSettled c)
    (laid : Settings.layEntry root entry = .ok changed) : k.Holds value changed := by
  obtain ⟨top, held, suits⟩ := holds
  rcases beside.cases settled entry.2 with
    ⟨spares, silent⟩ | ⟨head, child, step, rest, read, here, named⟩
  · refine ⟨top, ?_, suits⟩
    rw [(at?_layEntry k.isKeyName_part k.isKeyName_name folded spares laid).2, silent]
    exact held
  · simp only [Settings.layEntry, read] at laid
    obtain ⟨next, put, _, after⟩ := KeyPath.sectionOf_put k.part (List.cons_ne_nil _ _) laid
    rw [KeyPath.putAt] at put
    · obtain ⟨inner, deeper, same⟩ := ok_of_bind put
      cases same
      refine ⟨inner, ?_, fun result suit => absurd suit ?_⟩
      · rw [at?, after, if_pos here, named, Sourced.asTable, Sourced.valueOf?_setEntry, if_pos rfl]
      · exact k.coerce_putAt (List.cons_ne_nil step rest) deeper result
    · intro none
      cases none

theorem Holds.layOver {k : Key} {value root changed : Sourced} (holds : k.Holds value root)
    (folded : root.FoldedAt k.part) {entries : List (String × Sourced)}
    (beside : ∀ entry ∈ entries, k.Beside entry.1 ∧ ∀ c ∈ entry.1.toList, Text.IsSettled c)
    (laid : Settings.layOver root entries = .ok changed) : k.Holds value changed := by
  induction entries generalizing root with
  | nil =>
      cases laid
      exact holds
  | cons entry entries ih =>
      obtain ⟨next, first, rest⟩ := ok_of_bind (layOver_cons root entry entries ▸ laid)
      obtain ⟨⟨apart, settled⟩, others⟩ := List.forall_mem_cons.mp beside
      exact ih (holds.layEntry folded apart settled first)
        (foldedAt_layEntry k.isKeyName_part folded first) others rest

/-- Variables set a key to a text: one that spells the key has it, and none that comes later sets
the key or its section anew. -/
def SetTo (k : Key) (text : String) (vars : List (String × String)) : Prop :=
  ∃ before name after, vars = before ++ (name, text) :: after ∧
    Environment.key? name = some k.path ∧
    ∀ v ∈ after, ∀ key, Environment.key? v.1 = some key → k.Beside key

/-- What variables set a key to is loaded for it, whatever else they and the file say. -/
theorem SetTo.coerce {k : Key} {text : String} {sources : Sources} {path : String} {s : Settings}
    (given : k.SetTo text sources.environment) (loaded : load sources path = .ok s) :
    k.coerce (.scalar (some Environment.sourceName) (Environment.guess text)) = .ok (k.get s) := by
  obtain ⟨before, name, after, order, spelled, beside⟩ := given
  obtain ⟨file, table, _, laid, settings⟩ := load_eq_ok_iff.mp loaded
  let entry : String × Sourced :=
    (k.path, .scalar (some Environment.sourceName) (Environment.guess text))
  have entries : Environment.entries sources.environment =
      Environment.entries before ++ entry :: Environment.entries after := by
    simp only [order, Environment.entries, List.filterMap_append, List.filterMap_cons, spelled]
    rfl
  obtain ⟨first, byDefault, laid⟩ := ok_of_bind laid
  obtain ⟨second, byFile, laid⟩ := ok_of_bind laid
  rw [entries, layOver_append] at laid
  obtain ⟨third, byBefore, laid⟩ := ok_of_bind laid
  obtain ⟨fourth, byVariable, byAfter⟩ := ok_of_bind (layOver_cons third entry _ ▸ laid)
  have folded := foldedAt_layOver k.isKeyName_part (foldedAt_layOver k.isKeyName_part
    (foldedAt_layOver k.isKeyName_part (Sourced.foldedAt_empty k.part) byDefault) byFile) byBefore
  obtain ⟨folded, held⟩ := at?_layEntry k.isKeyName_part k.isKeyName_name folded
    (k.spares_path k entry.2) byVariable
  rw [k.givenAt_path, if_pos rfl] at held
  have holds : k.Holds entry.2 fourth := ⟨entry.2, held, fun _ suit => suit⟩
  have apart : ∀ e ∈ Environment.entries after,
      k.Beside e.1 ∧ ∀ c ∈ e.1.toList, Text.IsSettled c := by
    intro e inside
    obtain ⟨v, here, same⟩ := List.mem_filterMap.mp inside
    obtain ⟨key, spelled, rfl⟩ := Option.map_eq_some_iff.mp same
    exact ⟨beside v here key spelled, fun c => Environment.isSettled_of_mem_key? spelled⟩
  obtain ⟨top, held, suits⟩ := holds.layOver folded apart byAfter
  exact suits _ (k.coerce_of_toSettings held settings)

end Key

/-! ### Addresses from variables -/

theorem validate_ne_badAddress {s : Settings} (address : (Address.read? s.control.ip).isSome)
    (text : String) : s.validate ≠ .error (.objection (.badAddress text)) := by
  have read : (Address.read? s.control.ip).isNone = false := by
    rw [← Option.not_isSome, address]
    rfl
  have objection : s.objection? ≠ some (.badAddress text) := by
    unfold objection?
    rw [read]
    split_ifs <;> simp_all
  intro refused
  unfold validate at refused
  split at refused
  · cases refused
    exact objection ‹_›
  · cases refused

/-- An address that a variable gives is no switch and no number, in whichever way it is written: it
is loaded as the text that it is, whatever address the file gives, and is not objected to. -/
theorem load_address {sources : Sources} {path text : String} {s : Settings}
    (address : (Address.read? text).isSome) (given : Key.ip.SetTo text sources.environment)
    (loaded : load sources path = .ok s) :
    Environment.guess text = .text text ∧ s.control.ip = text ∧
      ∀ (o : Overrides) (other : String),
        s.validate ≠ .error (.objection (.badAddress other)) ∧
        (o.apply s).validate ≠ .error (.objection (.badAddress other)) := by
  have kept := Environment.guess_of_not_undivided (Address.not_undivided address)
  have same : s.control.ip = text := by
    have value := given.coerce loaded
    rw [kept] at value
    exact (Except.ok.inj value).symm
  refine ⟨kept, same, fun o other => ⟨validate_ne_badAddress (same ▸ address) other, ?_⟩⟩
  exact validate_ne_badAddress (s := o.apply s) (same ▸ address) other

/-- Without its colons the address would be a number. -/
theorem load_address_with_power :
    ∃ s, load (.alone "[control]\nip = \"10.0.0.1\"\n".toUTF8
        [("DVM_CONTROL__IP", "12e4::"), ("DVM_CONTROL__PORT", "7")]) defaultPath = .ok s ∧
      Environment.guess "12e4" = .real (.ofInt 120000) ∧ s.control.ip = "12e4::" := by
  let settings : Settings := { control := { ip := "12e4::", port := 7 } }
  have loaded : load (.alone "[control]\nip = \"10.0.0.1\"\n".toUTF8
      [("DVM_CONTROL__IP", "12e4::"), ("DVM_CONTROL__PORT", "7")]) defaultPath = .ok settings :=
    eq_ok_of_toOption (by decide +kernel)
  have given : Key.ip.SetTo "12e4::"
      [("DVM_CONTROL__IP", "12e4::"), ("DVM_CONTROL__PORT", "7")] := by
    refine ⟨[], _, _, rfl, by decide, fun v inside key spelled => ?_⟩
    cases List.mem_singleton.mp inside
    have same : Environment.key? "DVM_CONTROL__PORT" = some Key.port.path := by decide
    cases spelled.symm.trans same
    exact ⟨by decide, by decide, by decide⟩
  exact ⟨settings, loaded, by decide +kernel, (load_address (by decide) given loaded).2.1⟩

/-- Names of variables are told apart by their letters, keys are not: of two addresses given in two
spellings of the name, the later one is loaded. -/
theorem load_address_of_two_spellings :
    let environment := [("DVM_CONTROL__IP", "::1"), ("DVM_control__ip", "10.0.0.1")]
    ("DVM_CONTROL__IP", "::1") ∈ environment ∧ (Address.read? "::1").isSome = true ∧
      ∃ s, load { environment } defaultPath = .ok s ∧ s.control.ip ≠ "::1" := by
  intro environment
  have loaded : load { environment } defaultPath = .ok { control := { ip := "10.0.0.1" } } :=
    eq_ok_of_toOption (by decide +kernel)
  exact ⟨List.mem_cons_self, by decide, _, loaded, by decide⟩

end Quiesce.Settings
