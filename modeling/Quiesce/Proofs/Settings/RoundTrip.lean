import Quiesce.Proofs.Settings.Layers
import Quiesce.Proofs.Toml.Documents
import Quiesce.Settings.Toml

/-!
Settings that are written as TOML come back from their text. They can be written exactly if their
numbers fit into TOML's whole numbers. The text is then a document of three sections, with a line
for each key; it holds the settings both when they are taken from it alone and when it is loaded as
a file, unless a variable says otherwise.
-/
namespace Quiesce.Settings

/-! ### Keys in a document -/

namespace Key

def toml : Key → Settings → Toml
  | grace, s => .int s.lifecycle.graceMs.toNat
  | workers, s => .int s.workload.workers.toNat
  | unit, s => .int s.workload.unitMs.toNat
  | jobLimit, s => .int s.workload.jobLimitMs.toNat
  | enabled, s => .bool s.control.enabled
  | ip, s => .str s.control.ip
  | port, s => .int s.control.port.toNat

def written : Key → Settings → List Char
  | grace, s => Nat.toDigits 10 s.lifecycle.graceMs.toNat
  | workers, s => Nat.toDigits 10 s.workload.workers.toNat
  | unit, s => Nat.toDigits 10 s.workload.unitMs.toNat
  | jobLimit, s => Nat.toDigits 10 s.workload.jobLimitMs.toNat
  | enabled, s => writeBool s.control.enabled
  | ip, s => Toml.writeString s.control.ip.toList
  | port, s => Nat.toDigits 10 s.control.port.toNat

end Key

/-- The numbers of the settings fit into 64 bits with sign. -/
structure Writable (s : Settings) : Prop where
  grace : s.lifecycle.graceMs.toNat ≤ 9223372036854775807
  workers : s.workload.workers.toNat ≤ 9223372036854775807
  unit : s.workload.unitMs.toNat ≤ 9223372036854775807
  jobLimit : s.workload.jobLimitMs.toNat ≤ 9223372036854775807

namespace Key

theorem bare_name (k : Key) : Toml.Bare k.name := by
  cases k <;> exact ⟨by decide, by decide⟩

theorem bare_part (k : Key) : Toml.Bare k.part := by
  cases k <;> exact ⟨by decide, by decide⟩

theorem shows_written {s : Settings} (writable : Writable s) (k : Key) :
    Toml.Shows (k.written s) (k.toml s) := by
  cases k with
  | grace => exact Toml.shows_toDigits writable.grace
  | workers => exact Toml.shows_toDigits writable.workers
  | unit => exact Toml.shows_toDigits writable.unit
  | jobLimit => exact Toml.shows_toDigits writable.jobLimit
  | enabled =>
      rw [written, toml, writeBool]
      cases s.control.enabled
      · exact Toml.shows_false
      · exact Toml.shows_true
  | ip => exact Toml.shows_writeString s.control.ip
  | port =>
      have small := s.control.port.toNat_lt
      exact Toml.shows_toDigits (by omega)

def line {s : Settings} (writable : Writable s) (k : Key) : Toml.Line where
  key := k.name
  written := k.written s
  value := k.toml s
  bare := k.bare_name
  shows := k.shows_written writable
  settled := by cases k <;> rfl

end Key

def tomlSection {s : Settings} (writable : Writable s) (part : Key) (keys : List Key)
    (distinct : (keys.map Key.name).Nodup) : Toml.Section where
  name := part.part
  lines := keys.map (Key.line writable)
  bare := part.bare_part
  distinct := by
    rw [List.map_map]
    exact distinct

/-- The sections of the settings in their order. -/
def tomlSections {s : Settings} (writable : Writable s) : List Toml.Section :=
  [tomlSection writable .grace [.grace] (by decide),
   tomlSection writable .workers [.workers, .unit, .jobLimit] (by decide),
   tomlSection writable .enabled [.enabled, .ip, .port] (by decide)]

theorem writeNat?_eq_some {n : UInt64} (fits : n.toNat ≤ 9223372036854775807) :
    writeNat? n = some (Nat.toDigits 10 n.toNat) := if_pos fits

theorem toToml?_of_writable {s : Settings} (writable : Writable s) :
    toToml? s = some (String.ofList (Toml.document (tomlSections writable))) := by
  have lifecycle : "[lifecycle]\n".toList = '[' :: Key.grace.part.toList ++ [']', '\n'] := by decide
  have workload : "\n[workload]\n".toList =
      '\n' :: '[' :: Key.workers.part.toList ++ [']', '\n'] := by decide
  have control : "\n[control]\n".toList =
      '\n' :: '[' :: Key.enabled.part.toList ++ [']', '\n'] := by decide
  rw [toToml?, writeNat?_eq_some writable.grace, writeNat?_eq_some writable.workers,
    writeNat?_eq_some writable.unit, writeNat?_eq_some writable.jobLimit, lifecycle, workload,
    control]
  simp only [Option.bind_eq_bind, Option.bind_some]
  refine congrArg (fun cs => some (String.ofList cs)) ?_
  simp [Toml.document, tomlSections, tomlSection, Toml.Section.write, Toml.Line.write, Key.line,
    writeLine, Key.name, Key.written]

theorem writable_of_toToml? {s : Settings} {text : String} (h : toToml? s = some text) :
    Writable s := by
  have fits {n : UInt64} {digits : List Char} (h : writeNat? n = some digits) :
      n.toNat ≤ 9223372036854775807 := by
    rw [writeNat?] at h
    split at h
    case isTrue small => exact small
    case isFalse => cases h
  simp only [toToml?, Option.bind_eq_bind, Option.bind_eq_some_iff] at h
  obtain ⟨_, grace, _, workers, _, unit, _, jobLimit, _⟩ := h
  exact ⟨fits grace, fits workers, fits unit, fits jobLimit⟩

/-! ### Taken from the text alone -/

/-- The sections, each by its first key, with all keys of theirs. -/
def Key.parts : List (Key × List Key) :=
  [(grace, [grace]), (workers, [workers, unit, jobLimit]), (enabled, [enabled, ip, port])]

def tomlTable (s : Settings) : List (String × Toml) :=
  Key.parts.map fun p => (p.1.part, .table (p.2.map fun k => (k.name, k.toml s)))

theorem decodeUInt64_toNat (m : Json.Manner) (expected : String) (n : UInt64) :
    Json.decodeUInt64 m expected (.int n.toNat) = .ok n := by
  have small : n.toNat < 18446744073709551616 := n.toNat_lt
  rw [Json.decodeUInt64, Json.decodeNat, if_pos (by omega)]
  exact congrArg Except.ok UInt64.ofNat_toNat

theorem decodeUInt16_toNat (m : Json.Manner) (n : UInt16) :
    Json.decodeUInt16 m (.int n.toNat) = .ok n := by
  have small : n.toNat < 65536 := n.toNat_lt
  rw [Json.decodeUInt16, Json.decodeNat, if_pos (by omega)]
  exact congrArg Except.ok UInt16.ofNat_toNat

theorem decode_tomlTable (s : Settings) :
    decode .toml (Toml.toJson (.table (tomlTable s))) = .ok s := by
  simp [tomlTable, Key.parts, Toml.toJson, Toml.entriesToJson, decode, Json.decodeSection,
    Json.decodeMembers, sectionSetters, Key.part, Key.name, Key.toml, LifecycleSettings.decode,
    WorkloadSettings.decode, ControlSettings.decode, decodeUInt64_toNat, decodeUInt16_toNat,
    Json.decodeBool, Json.decodeStr, bind, Except.bind, pure, Except.pure, Partial.complete]

/-! ### Loaded as a file -/

/-- The value that a file has for a key in which the settings are written. -/
def Key.sourced (source : String) (s : Settings) (k : Key) : Sourced :=
  .ofToml source (k.toml s)

theorem coerceNat_toNat (key : String) (source : Option String) (n : Nat) :
    Sourced.coerceNat key (.scalar source (.int n)) = .ok n := by
  rw [Sourced.coerceNat, if_pos (by omega), Int.toNat_natCast]

theorem Key.coerce_sourced (source : String) (s : Settings) (k : Key) :
    k.coerce (k.sourced source s) = .ok (k.get s) := by
  have number (key : String) (n : UInt64) :
      Sourced.coerceUInt64 key (.scalar source (.int n.toNat)) = .ok n := by
    rw [Sourced.coerceUInt64, coerceNat_toNat]
    exact congrArg Except.ok UInt64.ofNat_toNat
  cases k with
  | grace => exact number _ s.lifecycle.graceMs
  | workers => exact number _ s.workload.workers
  | unit => exact number _ s.workload.unitMs
  | jobLimit => exact number _ s.workload.jobLimitMs
  | enabled | ip => rfl
  | port =>
      have small : s.control.port.toNat < 65536 := s.control.port.toNat_lt
      have value : Key.port.coerce (Key.port.sourced source s) =
          Sourced.coerceUInt16 Key.port.path (.scalar source (.int s.control.port.toNat)) := rfl
      rw [value, Sourced.coerceUInt16, coerceNat_toNat]
      have fits : s.control.port.toNat ≤ 65535 := by omega
      simp only [bind, Except.bind, fits, ite_true]
      exact congrArg Except.ok UInt16.ofNat_toNat

/-- What a file in which the settings are written sets, section by section. -/
theorem entriesOfToml_tomlTable (source : String) (s : Settings) :
    Sourced.entriesOfToml source (tomlTable s) = Key.parts.map fun p =>
      (p.1.part, .table source
        ((p.2.map fun k => (k, k.sourced source s)).map fun e => (e.1.name, e.2))) := rfl

theorem Key.told_tomlTable (source : String) (s : Settings) (k : Key) :
    k.told (Sourced.entriesOfToml source (tomlTable s)) = [k.sourced source s] := by
  have each (p : Key × List Key) : Sourced.givenAt k.part k.name (p.1.part, .table source
      ((p.2.map fun k => (k, k.sourced source s)).map fun e => (e.1.name, e.2))) =
        if p.1.part = k.part then (p.2.filter (· = k)).map (Key.sourced source s) else [] := by
    rw [givenAt_part]
    simp only [Sourced.asTable]
    rw [given_map_name, List.filter_map, List.map_map]
    rfl
  rw [entriesOfToml_tomlTable, told, said, List.flatMap_map]
  simp only [each]
  cases k <;> rfl

theorem Key.spared_tomlTable (source : String) (s : Settings) (k : Key) :
    k.Spared (Sourced.entriesOfToml source (tomlTable s)) := by
  rw [entriesOfToml_tomlTable]
  intro e inside
  obtain ⟨p, _, rfl⟩ := List.mem_map.mp inside
  exact k.spares_part p.1 source _

theorem Environment.entries_eq_nil {vars : List (String × String)}
    (none : ∀ v ∈ vars, key? v.1 = .none) : entries vars = [] := by
  rw [entries, List.filterMap_eq_nil_iff]
  intro v inside
  simp [none v inside]

/-- A file with the tables of the settings gives the settings. -/
theorem load_of_tomlTable {sources : Sources} {path source : String} {s : Settings}
    (read : fileEntries sources path = .ok (Sourced.entriesOfToml source (tomlTable s)))
    (unset : ∀ v ∈ sources.environment, Environment.key? v.1 = none) :
    load sources path = .ok s := by
  have addressed : Environment.Addressed sources.environment :=
    { paths := fun v inside key spelled => by
        rw [unset v inside] at spelled
        cases spelled
      once := fun k => by
        have none : (sources.environment.filter fun v => Environment.key? v.1 = some k.path) = [] :=
          List.filter_eq_nil_iff.mpr fun v inside => by simp [unset v inside]
        rw [none]
        exact Nat.zero_le 1 }
  have tidy (k : Key) : k.Tidy (Sourced.entriesOfToml source (tomlTable s)) :=
    ⟨k.spared_tomlTable source s, by rw [k.told_tomlTable]; exact Nat.le_refl 1⟩
  have settled (k : Key) : k.settle (k.prevailing? (Sourced.entriesOfToml source (tomlTable s))
      (Environment.entries sources.environment)) = .ok (k.get s) := by
    rw [Environment.entries_eq_nil unset, Key.prevailing?, k.told_tomlTable]
    exact k.coerce_sourced source s
  obtain ⟨other, loaded⟩ | ⟨_, _, e, inside, bracket⟩ :=
    exists_load read tidy addressed fun k => ⟨_, settled k⟩
  · have same : other = s := Key.ext fun k => by
      have value := Key.settle_of_load read (tidy k) (addressed.tidy k) loaded
      exact Except.ok.inj (value.symm.trans (settled k))
    rw [loaded, same]
  · rw [entriesOfToml_tomlTable] at inside
    obtain ⟨p, _, rfl⟩ := List.mem_map.mp inside
    have name := p.1.bare_part.forall_mem '[' bracket
    exact absurd name (by decide)

/-- Settings are written as TOML exactly if their numbers fit into 64 bits with sign. The text gives
them back, alone and as a file with no variable beside it. -/
theorem toml_roundTrip (s : Settings) :
    ((toToml? s).isSome ↔
      s.lifecycle.graceMs.toNat ≤ 9223372036854775807 ∧
      s.workload.workers.toNat ≤ 9223372036854775807 ∧
      s.workload.unitMs.toNat ≤ 9223372036854775807 ∧
      s.workload.jobLimitMs.toNat ≤ 9223372036854775807) ∧
    ∀ text, toToml? s = some text → ofToml text = .ok s ∧
      ∀ (sources : Sources) (path name : String),
        locate? sources path = some (name, .toml, text.toUTF8) →
        (∀ v ∈ sources.environment, Environment.key? v.1 = none) → load sources path = .ok s := by
  refine ⟨⟨fun succeeds => ?_, fun ⟨grace, workers, unit, jobLimit⟩ => ?_⟩, fun text written => ?_⟩
  · obtain ⟨text, written⟩ := Option.isSome_iff_exists.mp succeeds
    obtain ⟨grace, workers, unit, jobLimit⟩ := writable_of_toToml? written
    exact ⟨grace, workers, unit, jobLimit⟩
  · rw [toToml?_of_writable ⟨grace, workers, unit, jobLimit⟩]
    rfl
  · have writable := writable_of_toToml? written
    have distinct : ((tomlSections writable).map Toml.Section.name).Nodup := by
      have names : (tomlSections writable).map Toml.Section.name =
          [Key.grace.part, Key.workers.part, Key.enabled.part] := rfl
      rw [names]
      decide
    have same := toToml?_of_writable writable
    rw [written] at same
    cases same
    have read := Toml.read?_document distinct
    have settled := Toml.readSettled?_document distinct
    refine ⟨?_, fun sources path name located unset => ?_⟩
    · simp only [ofToml, read, settled]
      have table : decode .toml (Toml.toJson (.table ((tomlSections writable).map fun s =>
          (s.name, .table s.entries)))) = .ok s := decode_tomlTable s
      rw [table]
    · have file := fileEntries_of_toml located (Text.fromUTF8?_bytes _) settled
      exact load_of_tomlTable file unset

/-- An address with quotes, a backslash, a line end and a control character. -/
theorem toml_roundTrip_of_quotes :
    let s : Settings := { control := { ip := "a\"\"\"b'\\\n\x01" } }
    let text := "[lifecycle]\ngrace_period_ms = 5000\n\n[workload]\nworkers = 2\n" ++
      "unit_duration_ms = 250\nmax_job_duration_ms = 60000\n\n[control]\nenabled = true\n" ++
      "ip = \"\"\"\na\"\"\\\"b'\\\\\n\\u0001\"\"\"\nport = 50051\n"
    toToml? s = some text ∧ ofToml text = .ok s ∧
      load (.alone text.toUTF8 [("HOME", "/")]) defaultPath = .ok s := by
  intro s text
  have written : toToml? s = some text := by decide +kernel
  obtain ⟨alone, loaded⟩ := (toml_roundTrip s).2 text written
  refine ⟨written, alone, loaded (.alone text.toUTF8 [("HOME", "/")]) defaultPath defaultPath
    (locate?_alone _ _) ?_⟩
  decide

end Quiesce.Settings
