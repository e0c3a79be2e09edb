import Quiesce.Proofs.Settings.Layers

/-!
What becomes of a file of settings that is there. It is read where its name has an ending that is
known, its content can be had and that is text; then what it says of a key is loaded, or loading
fails. Any other file is passed over as if there were none, by a reload as well, which then goes
back to the defaults.
-/
namespace Quiesce.Settings

variable {sources : Sources} {path : String}

/-- How the file of exactly this path is read, and as which text; not every file is. -/
def Sources.reading? (sources : Sources) (path : String) : Option (Format × String) := do
  return (← sources.format? path, ← String.fromUTF8? (← sources.folder.file? path))

theorem fileEntries_of_file (present : sources.folder.hasFile path = true) :
    fileEntries sources path =
      match sources.reading? path with
      | some (format, text) => readEntries (Path.plain path) format text
      | none => .ok [] := by
  rw [fileEntries, locate?, find?, if_pos present, Sources.reading?]
  cases sources.format? path with
  | none => rfl
  | some format =>
      cases content : sources.folder.file? path with
      | none => simp [content]
      | some bytes => cases decoded : String.fromUTF8? bytes <;> simp [content, decoded]

/-- The same variables and formats, without any file. -/
def Sources.bare (sources : Sources) : Sources := { sources with folder := {} }

theorem fileEntries_bare (sources : Sources) (path : String) :
    fileEntries sources.bare path = .ok [] := by
  have absent (path : String) : ({} : Folder).hasFile path = false := by
    rw [Folder.hasFile]
    split <;> rfl
  have empty : sources.bare.folder = {} := rfl
  have nowhere : find? sources.bare path = none := by
    rw [find?, empty, absent, if_neg Bool.false_ne_true]
    split
    · rfl
    · refine List.find?_eq_none.mpr fun file _ => ?_
      rw [absent]
      exact Bool.false_ne_true
  rw [fileEntries, locate?, nowhere]
  rfl

theorem load_congr {others : Sources} (environment : others.environment = sources.environment)
    (files : fileEntries others path = fileEntries sources path) :
    load others path = load sources path := by
  rw [load, load, files, environment]

/-- A file that is there is read, or it is passed over as if it were not there. If it is read, then
loading fails as reading does, and what is loaded has the value of the file for each key that the
file gives once and the environment does not. -/
theorem load_of_present (present : sources.folder.hasFile path = true) :
    (sources.reading? path = none →
      load sources path = load sources.bare path ∧
      ∀ (r : Reloader) (pool : Pool), r.path = path →
        r.reload sources pool = r.reload sources.bare pool) ∧
    ∀ format text, sources.reading? path = some (format, text) →
      (∀ fault, readEntries (Path.plain path) format text = .error fault →
        load sources path = .error fault) ∧
      ∀ file, readEntries (Path.plain path) format text = .ok file →
        ∀ (k : Key) (value : Sourced), k.Spared file → k.told file = [value] →
          k.Spared (Environment.entries sources.environment) →
          k.told (Environment.entries sources.environment) = [] →
          ∀ s, load sources path = .ok s → k.coerce value = .ok (k.get s) := by
  have entries := fileEntries_of_file present
  constructor
  · intro passedOver
    rw [passedOver] at entries
    have same : load sources path = load sources.bare path :=
      load_congr rfl (entries.trans (fileEntries_bare sources path).symm)
    refine ⟨same, ?_⟩
    rintro r pool rfl
    simp only [Reloader.reload, Reloader.serve, Reloader.plan, same]
  · intro format text read
    have entries : fileEntries sources path =
        readEntries (Path.plain path) format text := by rw [entries, read]
    refine ⟨?_, ?_⟩
    · intro fault fails
      rw [load, entries, fails]
      rfl
    · intro file given k value spared told untroubled unset s loaded
      have settled := Key.settle_of_load (entries.trans given) ⟨spared, by simp [told]⟩
        ⟨untroubled, by simp [unset]⟩ loaded
      rw [Key.prevailing?, unset, told] at settled
      exact settled

/-- What is read of a file that gives four workers. -/
def fourWorkers (name : String) : List (String × Sourced) :=
  [(Key.workers.part, .table name
    ([(.workers, .scalar name (.int 4))].map fun (e : Key × Sourced) => (e.1.name, e.2)))]

theorem told_fourWorkers (name : String) :
    Key.workers.Spared (fourWorkers name) ∧
      Key.workers.told (fourWorkers name) = [.scalar name (.int 4)] := by
  refine ⟨List.forall_mem_cons.mpr ⟨Key.workers.spares_part _ _ _, Key.spared_nil _⟩, ?_⟩
  rw [Key.told, Key.said, fourWorkers, List.flatMap_cons, Key.workers.givenAt_part, if_pos rfl]
  exact congrArg (List.filter Sourced.telling) (congrArg (· ++ []) (Key.workers.given_map_name _))

/-- Such a file in a build that knows a further format. -/
def yamlSources : Sources where
  folder := { files := [(⟨.here, ["dvm.yaml"]⟩, "workload:\n  workers: 4\n".toUTF8)] }
  others := [⟨["yaml", "yml"], fun name _ => .ok (fourWorkers name)⟩]

/-- Files that give workers and are read, one of them in a format that has to be known. -/
theorem load_of_present_read :
    (∃ s, load (.alone "[workload]\nworkers = 4\n".toUTF8 []) defaultPath = .ok s ∧
      s.workload.workers = 4) ∧
    ∃ s, load yamlSources "dvm.yaml" = .ok s ∧ s.workload.workers = 4 := by
  constructor
  · have loaded : load (.alone "[workload]\nworkers = 4\n".toUTF8 []) defaultPath =
        .ok { workload := { workers := 4 } } := eq_ok_of_toOption (by decide +kernel)
    have read : (Sources.alone "[workload]\nworkers = 4\n".toUTF8 []).reading? defaultPath =
        some (.toml, "[workload]\nworkers = 4\n") := by
      rw [Sources.reading?, file?_alone]
      simp only [Option.pure_def, Option.bind_eq_bind, Option.bind_some, Text.fromUTF8?_bytes]
      rfl
    have parsed : Toml.readSettled? "[workload]\nworkers = 4\n" =
        some (.table [("workload", .table [("workers", .int 4)])]) := by
      let sections : List Toml.Section :=
        [⟨"workload", [.number "workers" ⟨by decide, by decide⟩ 4 (by decide)],
          ⟨by decide, by decide⟩, by decide⟩]
      have text : "[workload]\nworkers = 4\n" = String.ofList (Toml.document sections) := by
        decide +kernel
      rw [text]
      exact Toml.readSettled?_document (by decide)
    have plain : Path.plain defaultPath = defaultPath := by decide
    have given : readEntries (Path.plain defaultPath) .toml "[workload]\nworkers = 4\n" =
        .ok (fourWorkers defaultPath) := by
      simp only [readEntries, parsed, plain]
      rfl
    obtain ⟨_, heeded⟩ := load_of_present (hasFile_alone "[workload]\nworkers = 4\n".toUTF8 [])
    obtain ⟨_, keys⟩ := heeded .toml _ read
    obtain ⟨spared, told⟩ := told_fourWorkers defaultPath
    have same := keys _ given .workers _ spared told (Key.spared_nil _) rfl _ loaded
    exact ⟨_, loaded, (Except.ok.inj same).symm⟩
  · have loaded : load yamlSources "dvm.yaml" = .ok { workload := { workers := 4 } } :=
      eq_ok_of_toOption (by decide +kernel)
    have present : yamlSources.folder.hasFile "dvm.yaml" = true := by decide +kernel
    obtain ⟨_, heeded⟩ := load_of_present present
    have read : yamlSources.reading? "dvm.yaml" =
        some (.other ⟨["yaml", "yml"], fun name _ => .ok (fourWorkers name)⟩,
          "workload:\n  workers: 4\n") := by
      have format : yamlSources.format? "dvm.yaml" =
          some (.other ⟨["yaml", "yml"], fun name _ => .ok (fourWorkers name)⟩) := rfl
      have content : yamlSources.folder.file? "dvm.yaml" =
          some "workload:\n  workers: 4\n".toUTF8 := by decide +kernel
      rw [Sources.reading?, format, content]
      simp only [Option.pure_def, Option.bind_eq_bind, Option.bind_some, Text.fromUTF8?_bytes]
    obtain ⟨_, keys⟩ := heeded _ _ read
    obtain ⟨spared, told⟩ := told_fourWorkers "dvm.yaml"
    have same := keys _ rfl .workers _ spared told (Key.spared_nil _) rfl _ loaded
    exact ⟨_, loaded, (Except.ok.inj same).symm⟩

/-- A file that gives a key is there, but its name does not tell the format, its content cannot be
had, or a stray byte makes it no text: the defaults are loaded, and a reload goes back to them. -/
theorem load_passes_over_present :
    let given := "[workload]\nunit_duration_ms = 9\n#".toUTF8
    let nameless : Folder := { files := [(⟨.here, ["dvm.conf"]⟩, given)] }
    let locked : Folder :=
      { files := [(⟨.here, [defaultPath]⟩, given)], locked := [⟨.here, [defaultPath]⟩] }
    let broken := given.push 0xFF
    let settings : Settings := { workload := { unitMs := 100 } }
    let reloaded := ({ current := settings } : Reloader).reload (.alone broken [])
      { settings := settings.workload }
    nameless.hasFile "dvm.conf" = true ∧ load { folder := nameless } "dvm.conf" = .ok {} ∧
      locked.hasFile defaultPath = true ∧ load { folder := locked } defaultPath = .ok {} ∧
      (Sources.alone broken []).folder.file? defaultPath = some broken ∧
      load (.alone broken []) defaultPath = .ok {} ∧
      reloaded.1 = .ok () ∧ reloaded.2.2.settings.unitMs = 250 := by
  intro given nameless locked broken settings reloaded
  exact ⟨by decide +kernel, eq_ok_of_toOption (by decide +kernel), by decide +kernel,
    eq_ok_of_toOption (by decide +kernel), file?_alone _ _, eq_ok_of_toOption (by decide +kernel),
    eq_ok_of_toOption (by decide +kernel), by decide +kernel⟩

end Quiesce.Settings
