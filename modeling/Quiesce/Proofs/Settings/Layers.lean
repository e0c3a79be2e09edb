import Quiesce.Proofs.Settings.Keys
import Quiesce.Proofs.Settings.Reload
import Quiesce.Proofs.Text.Bytes
import Quiesce.Proofs.Toml.Documents

/-!
What settings are loaded for a key. The defaults, a file and the environment are laid over one
another; of what they say of a key the last word counts, and it has to suit the key, whatever the
command line says afterwards. No other key has a part in that.
-/
namespace Quiesce.Settings

open Sourced (stack telling)

namespace Key

/-- The value that the defaults lay down for a key. -/
def fallback : Key → Sourced
  | grace => .scalar none (.int ({} : Settings).lifecycle.graceMs.toNat)
  | workers => .scalar none (.int ({} : Settings).workload.workers.toNat)
  | unit => .scalar none (.int ({} : Settings).workload.unitMs.toNat)
  | jobLimit => .scalar none (.int ({} : Settings).workload.jobLimitMs.toNat)
  | enabled => .scalar none (.bool ({} : Settings).control.enabled)
  | ip => .scalar none (.text ({} : Settings).control.ip)
  | port => .scalar none (.int ({} : Settings).control.port.toNat)

/-- All that the entries of a source say of a key. -/
def said (k : Key) (entries : List (String × Sourced)) : List Sourced :=
  entries.flatMap (Sourced.givenAt k.part k.name)

/-- The values that entries have for a key; a table without entries is none. -/
def told (k : Key) (entries : List (String × Sourced)) : List Sourced :=
  (k.said entries).filter telling

/-- No entry breaks up the section of a key or leads past the key. -/
def Spared (k : Key) (entries : List (String × Sourced)) : Prop :=
  ∀ entry ∈ entries, Sourced.Spares k.part k.name entry

/-- A key has its section in a source, and at most one value there. -/
structure Tidy (k : Key) (entries : List (String × Sourced)) : Prop where
  spared : k.Spared entries
  once : (k.told entries).length ≤ 1

/-- The value that counts for a key: that of the environment, or else that of the file. -/
def prevailing? (k : Key) (file environment : List (String × Sourced)) : Option Sourced :=
  (k.told environment).head?.or (k.told file).head?

theorem coerce_fallback (k : Key) : k.coerce k.fallback = .ok (k.get {}) := by
  cases k <;> rfl

theorem not_bracket_mem_path (k : Key) : '[' ∉ k.path.toList := by
  cases k <;> decide

theorem givenAt_path (k other : Key) (value : Sourced) :
    Sourced.givenAt k.part k.name (other.path, value) = if other = k then [value] else [] := by
  have same : (other.part = k.part ∧ other.name = k.name) ↔ other = k :=
    ⟨fun both => eq_of_name both.2, fun same => same ▸ ⟨rfl, rfl⟩⟩
  simp only [Sourced.givenAt, other.read_path, other.isKeyName_part.1, other.isKeyName_name.1, same]

theorem spares_path (k other : Key) (value : Sourced) :
    Sourced.Spares k.part k.name (other.path, value) := by
  simp only [Sourced.Spares, other.read_path, implies_true]

theorem givenAt_part (k other : Key) (value : Sourced) :
    Sourced.givenAt k.part k.name (other.part, value) =
      if other.part = k.part then Sourced.given k.name value.asTable.2 else [] := by
  simp only [Sourced.givenAt, other.read_part, other.isKeyName_part.1]

theorem spares_part (k other : Key) (source : Option String) (entries : Sourced.Entries) :
    Sourced.Spares k.part k.name (other.part, .table source entries) := by
  simp only [Sourced.Spares, other.read_part]
  exact fun _ => rfl

theorem spared_nil (k : Key) : k.Spared [] := fun _ inside => absurd inside List.not_mem_nil

/-- A section that sets keys by their names says of a key what it sets it to. -/
theorem given_map_name (k : Key) (entries : List (Key × Sourced)) :
    Sourced.given k.name (entries.map fun e => (e.1.name, e.2)) =
      (entries.filter (·.1 = k)).map (·.2) := by
  have same (e : Key × Sourced) : Text.lower e.1.name = k.name ↔ e.1 = k := by
    rw [e.1.isKeyName_name.1]
    exact ⟨eq_of_name, fun equal => equal ▸ rfl⟩
  rw [Sourced.given, List.filter_map, List.map_map]
  simp only [Function.comp_def, same]

/-- Entries that set keys by their paths. -/
def entry (e : Key × Sourced) : String × Sourced := (e.1.path, e.2)

theorem said_map_entry (k : Key) (entries : List (Key × Sourced)) :
    k.said (entries.map entry) = (entries.filter (·.1 = k)).map (·.2) := by
  induction entries with
  | nil => rfl
  | cons e rest ih =>
      have first : k.said ((e :: rest).map entry) =
          (if e.1 = k then [e.2] else []) ++ k.said (rest.map entry) := by
        rw [← givenAt_path]
        rfl
      rw [first, ih, List.filter_cons]
      by_cases same : e.1 = k <;> simp [same]

theorem spared_map_entry (k : Key) (entries : List (Key × Sourced)) :
    k.Spared (entries.map entry) := by
  intro e inside
  obtain ⟨⟨other, value⟩, _, rfl⟩ := List.mem_map.mp inside
  exact k.spares_path other value

def defaults : List (Key × Sourced) :=
  [grace, workers, unit, jobLimit, enabled, ip, port].map fun k => (k, k.fallback)

theorem defaultEntries_eq : defaultEntries = defaults.map entry := rfl

theorem said_defaultEntries (k : Key) : k.said defaultEntries = [k.fallback] := by
  rw [defaultEntries_eq, said_map_entry]
  cases k <;> rfl

end Key

/-! ### The layers -/

theorem Sourced.foldedAt_empty (part : String) : Sourced.empty.FoldedAt part :=
  ⟨Sourced.folded_nil, Sourced.folded_nil⟩

theorem exists_layOver_paths (entries : List (Key × Sourced)) (root : Sourced) :
    ∃ changed, layOver root (entries.map Key.entry) = .ok changed := by
  refine exists_layOver ?_ root
  intro e inside
  obtain ⟨⟨k, value⟩, _, rfl⟩ := List.mem_map.mp inside
  exact k.not_bracket_mem_path

/-- In all layers together a key has its default, and over it what the file and the environment say,
in that order. -/
theorem at?_layers {k : Key} {file environment : List (String × Sourced)} {table : Sourced}
    (spared : k.Spared file) (untroubled : k.Spared environment)
    (laid : layers file environment = .ok table) :
    table.at? k.part k.name = stack (some k.fallback) (k.said file ++ k.said environment) := by
  obtain ⟨first, byDefault, laid⟩ := ok_of_bind laid
  obtain ⟨second, byFile, byEnvironment⟩ := ok_of_bind laid
  have spare : k.Spared defaultEntries := k.spared_map_entry Key.defaults
  obtain ⟨folded, atFirst⟩ := at?_layOver k.isKeyName_part k.isKeyName_name
    (Sourced.foldedAt_empty k.part) spare byDefault
  obtain ⟨folded, atSecond⟩ := at?_layOver k.isKeyName_part k.isKeyName_name folded spared byFile
  obtain ⟨_, atThird⟩ := at?_layOver k.isKeyName_part k.isKeyName_name folded untroubled
    byEnvironment
  have default : first.at? k.part k.name = some k.fallback := by
    rw [atFirst]
    refine (congrArg (stack none) k.said_defaultEntries).trans ?_
    cases k <;> rfl
  rw [atThird, atSecond, default, Sourced.stack_append]
  rfl

theorem exists_layers {file : List (String × Sourced)} (plain : ∀ e ∈ file, '[' ∉ e.1.toList)
    (environment : List (Key × Sourced)) :
    ∃ table, layers file (environment.map Key.entry) = .ok table := by
  obtain ⟨first, byDefault⟩ := exists_layOver_paths Key.defaults .empty
  obtain ⟨second, byFile⟩ := exists_layOver plain first
  obtain ⟨third, byEnvironment⟩ := exists_layOver_paths environment second
  refine ⟨third, ?_⟩
  rw [layers, Key.defaultEntries_eq, byDefault]
  change (do layOver (← layOver first file) (environment.map Key.entry)) = .ok third
  rw [byFile]
  exact byEnvironment

theorem load_of_read {sources : Sources} {path : String} {file : List (String × Sourced)}
    (read : fileEntries sources path = .ok file) : load sources path = (do
      let table ← (layers file (Environment.entries sources.environment)).mapError Fault.overflow
      table.toSettings) := by
  rw [load, read]
  rfl

theorem load_eq_ok_iff {sources : Sources} {path : String} {s : Settings} :
    load sources path = .ok s ↔ ∃ file table, fileEntries sources path = .ok file ∧
      layers file (Environment.entries sources.environment) = .ok table ∧
      table.toSettings = .ok s := by
  constructor
  · intro h
    obtain ⟨file, read, h⟩ := ok_of_bind h
    obtain ⟨table, laid, settings⟩ := ok_of_bind h
    refine ⟨file, table, read, ?_, settings⟩
    cases layered : layers file (Environment.entries sources.environment) with
    | error cause =>
        rw [layered] at laid
        cases laid
    | ok other =>
        rw [layered] at laid
        exact congrArg _ (Except.ok.inj laid)
  · rintro ⟨file, table, read, laid, settings⟩
    rw [load_of_read read, laid]
    exact settings

/-! ### The value that counts -/

theorem head?_eq_getLast? {α : Type} {l : List α} (h : l.length ≤ 1) : l.head? = l.getLast? := by
  match l with
  | [] | [_] => rfl
  | _ :: _ :: _ => simp at h

namespace Key

/-- Of values laid over the default, the last one that says something counts. -/
theorem coerce_stack_iff (k : Key) (values : List Sourced) {value : Sourced}
    (h : stack (some k.fallback) values = some value) (result : k.Value) :
    k.coerce value = .ok result ↔ k.settle (values.filter telling).getLast? = .ok result := by
  rw [Sourced.stack_filter_telling] at h
  rcases List.eq_nil_or_concat (values.filter telling) with none | ⟨below, last, several⟩
  · rw [none] at h ⊢
    cases h
    rw [coerce_fallback]
    rfl
  · rw [List.concat_eq_append] at several
    have inside : last ∈ values.filter telling := by
      rw [several]
      exact List.mem_concat_self
    rw [several, Sourced.stack_append] at h
    cases h
    rw [several, List.getLast?_concat]
    exact k.coerce_over _ (List.mem_filter.mp inside).2 result

theorem exists_stack (old : Sourced) (values : List Sourced) :
    ∃ value, stack (some old) values = some value := by
  induction values generalizing old with
  | nil => exact ⟨old, rfl⟩
  | cons value values ih => exact ih _

/-- What a key has in all layers together suits it as the value that counts does. -/
theorem exists_at?_layers {k : Key} {file environment : List (String × Sourced)} {table : Sourced}
    (tidy : k.Tidy file) (addressed : k.Tidy environment)
    (laid : layers file environment = .ok table) :
    ∃ value, table.at? k.part k.name = some value ∧ ∀ result, k.coerce value = .ok result ↔
      k.settle (k.prevailing? file environment) = .ok result := by
  obtain ⟨value, top⟩ := exists_stack k.fallback (k.said file ++ k.said environment)
  refine ⟨value, (at?_layers tidy.spared addressed.spared laid).trans top, fun result => ?_⟩
  rw [k.coerce_stack_iff _ top, List.filter_append, List.getLast?_append, prevailing?,
    head?_eq_getLast? tidy.once, head?_eq_getLast? addressed.once]
  rfl

/-- What is loaded for a key is what the value that counts for it comes to. -/
theorem settle_of_load {k : Key} {sources : Sources} {path : String} {s : Settings}
    {file : List (String × Sourced)} (read : fileEntries sources path = .ok file)
    (tidy : k.Tidy file) (addressed : k.Tidy (Environment.entries sources.environment))
    (loaded : load sources path = .ok s) :
    k.settle (k.prevailing? file (Environment.entries sources.environment)) = .ok (k.get s) := by
  obtain ⟨entries, table, same, laid, settings⟩ := load_eq_ok_iff.mp loaded
  cases read.symm.trans same
  obtain ⟨value, held, suits⟩ := exists_at?_layers tidy addressed laid
  exact (suits _).mp (k.coerce_of_toSettings held settings)

end Key

/-! ### Variables that set keys -/

namespace Environment

/-- Every variable for the settings spells the path of a key, and none that of another's key. -/
structure Addressed (vars : List (String × String)) : Prop where
  paths : ∀ v ∈ vars, ∀ key, key? v.1 = some key → ∃ k : Key, key = k.path
  once : ∀ k : Key, (vars.filter fun v => key? v.1 = some k.path).length ≤ 1

variable {vars : List (String × String)}

/-- The keys that variables set, with the values that their texts stand for. -/
theorem exists_entries (paths : ∀ v ∈ vars, ∀ key, key? v.1 = some key → ∃ k : Key, key = k.path) :
    ∃ given : List (Key × Sourced), entries vars = given.map Key.entry ∧ ∀ k : Key,
      (given.filter (·.1 = k)).length = (vars.filter fun v => key? v.1 = some k.path).length := by
  induction vars with
  | nil => exact ⟨[], rfl, fun _ => rfl⟩
  | cons v rest ih =>
      obtain ⟨name, text⟩ := v
      obtain ⟨first, others⟩ := List.forall_mem_cons.mp paths
      obtain ⟨given, same, counts⟩ := ih others
      cases spelled : key? name with
      | none =>
          refine ⟨given, ?_, fun k => ?_⟩
          · rw [← same]
            simp only [entries, List.filterMap_cons, spelled, Option.map_none]
          · rw [counts k, List.filter_cons_of_neg (by simp [spelled])]
      | some key =>
          obtain ⟨k, rfl⟩ := first key spelled
          refine ⟨(k, .scalar (some sourceName) (guess text)) :: given, ?_, fun other => ?_⟩
          · rw [List.map_cons, ← same]
            simp only [entries, List.filterMap_cons, spelled, Option.map_some]
            rfl
          · by_cases same : k = other
            · subst same
              rw [List.filter_cons_of_pos (by simp), List.filter_cons_of_pos (by simp [spelled])]
              simp only [List.length_cons, counts]
            · have apart : k.path ≠ other.path := fun equal => same (Key.eq_of_path equal)
              rw [List.filter_cons_of_neg (by simp [same]),
                List.filter_cons_of_neg (by simp [spelled, apart])]
              exact counts other

theorem Addressed.tidy (addressed : Addressed vars) (k : Key) : k.Tidy (entries vars) := by
  obtain ⟨given, same, counts⟩ := exists_entries addressed.paths
  refine ⟨same ▸ k.spared_map_entry given, ?_⟩
  calc (k.told (entries vars)).length
      ≤ (k.said (entries vars)).length := List.length_filter_le _ _
    _ = (given.filter (·.1 = k)).length := by rw [same, k.said_map_entry, List.length_map]
    _ = (vars.filter fun v => key? v.1 = some k.path).length := counts k
    _ ≤ 1 := addressed.once k

end Environment

/-! ### Loading -/

/-- Where the values that count suit their keys, there are settings to load, but for a name in the
file that leads out of a list. -/
theorem exists_load {sources : Sources} {path : String} {file : List (String × Sourced)}
    (read : fileEntries sources path = .ok file) (tidy : ∀ k : Key, k.Tidy file)
    (addressed : Environment.Addressed sources.environment)
    (suits : ∀ k : Key, ∃ value,
      k.settle (k.prevailing? file (Environment.entries sources.environment)) = .ok value) :
    (∃ s, load sources path = .ok s) ∨
      ∃ cause, load sources path = .error (.overflow cause) ∧ ∃ e ∈ file, '[' ∈ e.1.toList := by
  cases laid : layers file (Environment.entries sources.environment) with
  | ok table =>
      obtain ⟨s, same⟩ := Key.exists_get fun k => (suits k).choose
      refine .inl ⟨s, load_eq_ok_iff.mpr ⟨file, table, read, laid, toSettings_of_coerce ?_⟩⟩
      intro k
      obtain ⟨top, held, iff⟩ := Key.exists_at?_layers (tidy k) (addressed.tidy k) laid
      exact ⟨top, held, (iff _).mpr ((suits k).choose_spec.trans (congrArg _ (same k).symm))⟩
  | error cause =>
      refine .inr ⟨cause, ?_, ?_⟩
      · rw [load_of_read read, laid]
        rfl
      · by_cases bracket : ∃ e ∈ file, '[' ∈ e.1.toList
        · exact bracket
        · obtain ⟨given, paths, _⟩ := Environment.exists_entries addressed.paths
          obtain ⟨table, whole⟩ := exists_layers
            (fun e inside here => bracket ⟨e, inside, here⟩) given
          rw [← paths, laid] at whole
          cases whole

theorem mem_entriesOfToml {source : String} {table : List (String × Toml)} {e : String × Sourced}
    (h : e ∈ Sourced.entriesOfToml source table) : ∃ other ∈ table, other.1 = e.1 := by
  induction table with
  | nil => cases h
  | cons first rest ih =>
      obtain ⟨name, value⟩ := first
      rw [Sourced.entriesOfToml, List.mem_cons] at h
      rcases h with rfl | later
      · exact ⟨_, List.mem_cons_self, rfl⟩
      · obtain ⟨other, inside, same⟩ := ih later
        exact ⟨other, List.mem_cons_of_mem _ inside, same⟩

theorem fileEntries_of_toml {sources : Sources} {path name text : String} {bytes : ByteArray}
    {table : List (String × Toml)} (located : locate? sources path = some (name, .toml, bytes))
    (decoded : String.fromUTF8? bytes = some text)
    (parsed : Toml.readSettled? text = some (.table table)) :
    fileEntries sources path = .ok (Sourced.entriesOfToml name table) := by
  simp only [fileEntries, located, decoded, readEntries, parsed]

/-- Each key of its own has what the environment says of it, else what the file says, else the
default, and over that what the command line says. Settings are loaded where the values that count
suit their keys, except that a name in the file may lead out of a list. -/
theorem load_by_key {sources : Sources} {path name text : String} {bytes : ByteArray}
    {table : List (String × Toml)}
    (located : locate? sources path = some (name, .toml, bytes))
    (decoded : String.fromUTF8? bytes = some text)
    (parsed : Toml.readSettled? text = some (.table table))
    (tidy : ∀ k : Key, k.Tidy (Sourced.entriesOfToml name table))
    (addressed : Environment.Addressed sources.environment) (o : Overrides) :
    (∀ s, load sources path = .ok s → ∀ k : Key, ∃ value,
      k.settle (k.prevailing? (Sourced.entriesOfToml name table)
        (Environment.entries sources.environment)) = .ok value ∧
      k.get (o.apply s) = (k.override? o).getD value) ∧
    ((∀ k : Key, ∃ value, k.settle (k.prevailing? (Sourced.entriesOfToml name table)
        (Environment.entries sources.environment)) = .ok value) →
      (∃ s, load sources path = .ok s) ∨
        ∃ cause, load sources path = .error (.overflow cause) ∧ ∃ e ∈ table, '[' ∈ e.1.toList) := by
  have read := fileEntries_of_toml located decoded parsed
  constructor
  · intro s loaded k
    exact ⟨k.get s, Key.settle_of_load read (tidy k) (addressed.tidy k) loaded, k.get_apply o s⟩
  · intro suits
    rcases exists_load read tidy addressed suits with loaded | ⟨cause, fails, e, inside, bracket⟩
    · exact .inl loaded
    · obtain ⟨other, there, same⟩ := mem_entriesOfToml inside
      exact .inr ⟨cause, fails, other, there, same ▸ bracket⟩

/-! A file alone, in an empty directory. -/

/-- A file at the default path, and nothing beside it. -/
def Sources.alone (bytes : ByteArray) (environment : List (String × String)) : Sources where
  folder := { files := [(⟨.here, [defaultPath]⟩, bytes)] }
  environment

theorem resolve_alone (bytes : ByteArray) (environment : List (String × String)) :
    (Sources.alone bytes environment).folder.resolve defaultPath =
      .ok ⟨.here, [defaultPath]⟩ := by
  have pieces : Path.pieces defaultPath = [defaultPath] := by decide
  have start : Path.start defaultPath = ⟨.here, []⟩ := by decide
  rw [Folder.resolve, if_neg (by decide), if_neg (by decide), pieces, start]
  rfl

theorem file?_alone (bytes : ByteArray) (environment : List (String × String)) :
    (Sources.alone bytes environment).folder.file? defaultPath = some bytes := by
  rw [Folder.file?, resolve_alone]
  rfl

theorem hasFile_alone (bytes : ByteArray) (environment : List (String × String)) :
    (Sources.alone bytes environment).folder.hasFile defaultPath = true := by
  rw [Folder.hasFile, resolve_alone]
  rfl

theorem locate?_alone (bytes : ByteArray) (environment : List (String × String)) :
    locate? (.alone bytes environment) defaultPath = some (defaultPath, .toml, bytes) := by
  have plain : Path.plain defaultPath = defaultPath := by decide
  have ending : Path.ending? defaultPath = some "toml" := by decide
  have format : (Sources.alone bytes environment).format? defaultPath = some .toml := by
    rw [Sources.format?, ending]
    rfl
  rw [locate?, find?, hasFile_alone, format]
  simp [file?_alone, plain]

/-- A file that gives workers, which the environment gives too, and a port in other letters. -/
def sample : String := "[workload]\nworkers = 3\n\n[Control]\nPORT = \"9\"\nother = 1\n"

def sampleTable : List (String × Toml) :=
  [("workload", .table [("workers", .int 3)]),
   ("Control", .table [("PORT", .str "9"), ("other", .int 1)])]

theorem readSettled?_sample : Toml.readSettled? sample = some (.table sampleTable) := by
  let sections : List Toml.Section :=
    [⟨"workload", [.number "workers" ⟨by decide, by decide⟩ 3 (by decide)],
      ⟨by decide, by decide⟩, by decide⟩,
     ⟨"Control", [.text "PORT" ⟨by decide, by decide⟩ "9",
        .number "other" ⟨by decide, by decide⟩ 1 (by decide)],
      ⟨by decide, by decide⟩, by decide⟩]
  have text : sample = String.ofList (Toml.document sections) := by decide +kernel
  rw [text]
  exact Toml.readSettled?_document (by decide)

theorem tidy_sampleTable (k : Key) : k.Tidy (Sourced.entriesOfToml defaultPath sampleTable) := by
  refine ⟨?_, by cases k <;> decide +kernel⟩
  refine List.forall_mem_cons.mpr ⟨fun _ => rfl, List.forall_mem_cons.mpr ⟨fun _ => rfl, nofun⟩⟩

theorem addressed_one : Environment.Addressed [("DVM_workload__Workers", "4")] where
  paths := by
    intro v inside key spelled
    cases List.mem_singleton.mp inside
    have same : Environment.key? "DVM_workload__Workers" = some Key.workers.path := by decide
    exact ⟨.workers, Option.some.inj (spelled.symm.trans same)⟩
  once k := by cases k <;> decide

theorem load_by_key_of_sample :
    ∃ s, load (.alone sample.toUTF8 [("DVM_workload__Workers", "4")]) defaultPath = .ok s ∧
      ({ unitMs := some 7 } : Overrides).apply s =
        { workload := { workers := 4, unitMs := 7 }, control := { port := 9 } } := by
  obtain ⟨values, loads⟩ := load_by_key (locate?_alone _ _) (Text.fromUTF8?_bytes sample)
    readSettled?_sample tidy_sampleTable addressed_one { unitMs := some 7 }
  have suits (k : Key) : k.settle (k.prevailing? (Sourced.entriesOfToml defaultPath sampleTable)
      (Environment.entries [("DVM_workload__Workers", "4")])) =
      .ok (k.get { workload := { workers := 4 }, control := { port := 9 } }) := by
    cases k <;> exact eq_ok_of_toOption (by decide +kernel)
  rcases loads fun k => ⟨_, suits k⟩ with ⟨s, loaded⟩ | ⟨_, _, _, inside, bracket⟩
  · refine ⟨s, loaded, Key.ext fun k => ?_⟩
    obtain ⟨value, settled, got⟩ := values s loaded k
    rw [got, Except.ok.inj (settled.symm.trans (suits k))]
    cases k <;> rfl
  · have plain : ∀ e ∈ sampleTable, '[' ∉ e.1.toList := by decide
    exact absurd bracket (plain _ inside)

/-- A table without entries is passed over where no table suits, a name that spells a path counts as
the path, and names count in any letters. -/
theorem load_not_by_exact_name :
    load (.alone "[control]\nport = \x7b\x7d\n".toUTF8 []) defaultPath = .ok {} ∧
      Key.port.coerce (.table (some defaultPath) []) = .error
        (.wrongKind "map" "an integer" (some "control.port") (some "dvm.toml")) ∧
    load (.alone "\"workload.workers\" = 9\n".toUTF8 []) defaultPath =
      .ok { workload := { workers := 9 } } ∧
    load (.alone "[LIFECYCLE]\nGRACE_PERIOD_MS = 7\n".toUTF8 []) defaultPath =
      .ok { lifecycle := { graceMs := 7 } } := by
  refine ⟨?_, rfl, ?_, ?_⟩
  all_goals exact eq_ok_of_toOption (by decide +kernel)

end Quiesce.Settings
