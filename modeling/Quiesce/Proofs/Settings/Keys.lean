import Quiesce.Proofs.Settings.Entries
import Quiesce.Settings.Coerce

/-!
The seven keys of the settings: where each is looked for, what a value has to be for it, and which
value of the settings is its own. Settings are read from a table key by key: they are what the value
of every key comes to, and there are none where one of these values does not suit its key.
-/
namespace Quiesce.Settings

open Sourced (at? sectionOf valueOf? overlay stack)

inductive Key where
  | grace
  | workers
  | unit
  | jobLimit
  | enabled
  | ip
  | port
  deriving DecidableEq

namespace Key

def part : Key → String
  | grace => "lifecycle"
  | workers | unit | jobLimit => "workload"
  | enabled | ip | port => "control"

def name : Key → String
  | grace => "grace_period_ms"
  | workers => "workers"
  | unit => "unit_duration_ms"
  | jobLimit => "max_job_duration_ms"
  | enabled => "enabled"
  | ip => "ip"
  | port => "port"

def path (k : Key) : String := s!"{k.part}.{k.name}"

def Value : Key → Type
  | grace | workers | unit | jobLimit => UInt64
  | enabled => Bool
  | ip => String
  | port => UInt16

instance : (k : Key) → DecidableEq k.Value
  | grace | workers | unit | jobLimit => inferInstanceAs (DecidableEq UInt64)
  | enabled => inferInstanceAs (DecidableEq Bool)
  | ip => inferInstanceAs (DecidableEq String)
  | port => inferInstanceAs (DecidableEq UInt16)

/-- The value that settings have for a key. -/
def get : (k : Key) → Settings → k.Value
  | grace, s => s.lifecycle.graceMs
  | workers, s => s.workload.workers
  | unit, s => s.workload.unitMs
  | jobLimit, s => s.workload.jobLimitMs
  | enabled, s => s.control.enabled
  | ip, s => s.control.ip
  | port, s => s.control.port

/-- A value from any source, taken for what the key needs. -/
def coerce : (k : Key) → Sourced → Except Fault k.Value
  | grace => Sourced.coerceUInt64 grace.path
  | workers => Sourced.coerceUInt64 workers.path
  | unit => Sourced.coerceUInt64 unit.path
  | jobLimit => Sourced.coerceUInt64 jobLimit.path
  | enabled => Sourced.coerceBool enabled.path
  | ip => Sourced.coerceText ip.path
  | port => Sourced.coerceUInt16 port.path

/-- What the value of a key comes to, and without one the default. -/
def settle (k : Key) : Option Sourced → Except Fault k.Value
  | some value => k.coerce value
  | none => .ok (k.get {})

/-- What the command line says of a key. -/
def override? : (k : Key) → Overrides → Option k.Value
  | grace, o => o.graceMs
  | workers, o => o.workers
  | unit, o => o.unitMs
  | jobLimit, _ => none
  | enabled, o => if o.disableControl then some false else none
  | ip, _ => none
  | port, o => o.controlPort

theorem get_apply (k : Key) (o : Overrides) (s : Settings) :
    k.get (o.apply s) = (k.override? o).getD (k.get s) := by
  cases k with
  | enabled =>
      simp only [get, override?, Overrides.apply]
      cases o.disableControl <;> rfl
  | _ => rfl

theorem isKeyName_part (k : Key) : IsKeyName k.part := by
  cases k <;> exact ⟨by decide, by decide⟩

theorem isKeyName_name (k : Key) : IsKeyName k.name := by
  cases k <;> exact ⟨by decide, by decide⟩

theorem eq_of_name {k other : Key} (h : other.name = k.name) : other = k := by
  revert h
  cases k <;> cases other <;> decide

theorem read_path (k : Key) : KeyPath.read? k.path = some ⟨k.part, [.child k.name]⟩ := by
  cases k <;> decide

theorem read_part (k : Key) : KeyPath.read? k.part = some ⟨k.part, []⟩ := by
  cases k <;> decide

theorem eq_of_path {k other : Key} (h : other.path = k.path) : other = k := by
  have same := other.read_path.symm.trans (h ▸ k.read_path)
  simp only [Option.some.injEq, KeyPath.mk.injEq, List.cons.injEq, KeyStep.child.injEq] at same
  exact eq_of_name same.2.1

/-- No table is taken for the value of a key. -/
theorem coerce_table (k : Key) (source : Option String) (entries : Sourced.Entries)
    (value : k.Value) : k.coerce (.table source entries) ≠ .ok value := by
  cases k <;> exact nofun

end Key

namespace Sourced

/-! ### Values that say nothing -/

/-- A table without entries says nothing of the key that it stands for. -/
def telling : Sourced → Bool
  | table _ [] => false
  | _ => true

theorem stack_filter_telling (old : Sourced) (values : List Sourced) :
    stack (some old) values = stack (some old) (values.filter telling) := by
  induction values generalizing old with
  | nil => rfl
  | cons value values ih =>
      match value with
      | table source [] =>
          have same : overlay (some old) (table source []) = old := by
            rw [overlay, putAll]
            rfl
          rw [List.filter_cons_of_neg (by rw [telling]; decide), ← ih]
          exact congrArg (fun top => stack (some top) values) same
      | table _ (_ :: _) | list _ _ | scalar _ _ =>
          rw [List.filter_cons_of_pos rfl]
          exact ih _

end Sourced

/-- Laid over another one, a value that says something suits its key as it does alone. -/
theorem Key.coerce_over (k : Key) (old : Option Sourced) {value : Sourced}
    (tells : value.telling) (result : k.Value) :
    k.coerce (overlay old value) = .ok result ↔ k.coerce value = .ok result := by
  match value with
  | .table source (e :: rest) =>
      obtain ⟨s, entries, together⟩ := Sourced.putAll_cons_eq_table (old.getD .empty) e rest
      rw [overlay, together]
      exact iff_of_false (k.coerce_table _ _ _) (k.coerce_table _ _ _)
  | .list _ _ | .scalar _ _ => rw [overlay]

/-! ### Settings from a table -/

namespace Sourced

theorem takeField_field? {α : Type} {coerce : String → Sourced → Except Fault α} {default : α}
    {v : Sourced} {name : String} {value : Sourced} (here : valueOf? name v.asTable.2 = some value)
    (part : String) (index : Nat) :
    takeField coerce default (field? part name index v) = coerce s!"{part}.{name}" value := by
  cases v with
  | table source entries =>
      have here : valueOf? name entries = some value := here
      rw [field?, here]
      rfl
  | list _ _ | scalar _ _ => cases here

theorem requireSection_of_valueOf? {v : Sourced} {name : String} {value : Sourced}
    (here : valueOf? name v.asTable.2 = some value) (title : String) :
    requireSection title v = .ok () := by
  cases v with
  | table _ _ => rfl
  | list _ _ | scalar _ _ => cases here

/-! Each section is read field by field. -/

variable {v : Sourced}

theorem toLifecycle_eq_ok_iff {s : LifecycleSettings} : toLifecycle v = .ok s ↔
    requireSection "LifecycleConfig" v = .ok () ∧
      takeField coerceUInt64 ({} : LifecycleSettings).graceMs
        (field? "lifecycle" "grace_period_ms" 0 v) = .ok s.graceMs := by
  constructor
  · intro h
    obtain ⟨_, required, h⟩ := ok_of_bind h
    obtain ⟨_, grace, same⟩ := ok_of_bind h
    cases same
    exact ⟨required, grace⟩
  · rintro ⟨required, grace⟩
    dsimp only [toLifecycle]
    rw [required, grace]
    rfl

theorem toWorkload_eq_ok_iff {s : WorkloadSettings} : toWorkload v = .ok s ↔
    requireSection "WorkloadConfig" v = .ok () ∧
      takeField coerceUInt64 ({} : WorkloadSettings).workers
        (field? "workload" "workers" 0 v) = .ok s.workers ∧
      takeField coerceUInt64 ({} : WorkloadSettings).unitMs
        (field? "workload" "unit_duration_ms" 1 v) = .ok s.unitMs ∧
      takeField coerceUInt64 ({} : WorkloadSettings).jobLimitMs
        (field? "workload" "max_job_duration_ms" 2 v) = .ok s.jobLimitMs := by
  constructor
  · intro h
    obtain ⟨_, required, h⟩ := ok_of_bind h
    obtain ⟨_, workers, h⟩ := ok_of_bind h
    obtain ⟨_, unit, h⟩ := ok_of_bind h
    obtain ⟨_, limit, same⟩ := ok_of_bind h
    cases same
    exact ⟨required, workers, unit, limit⟩
  · rintro ⟨required, workers, unit, limit⟩
    dsimp only [toWorkload]
    rw [required, workers, unit, limit]
    rfl

theorem toControl_eq_ok_iff {s : ControlSettings} : toControl v = .ok s ↔
    requireSection "ControlConfig" v = .ok () ∧
      takeField coerceBool ({} : ControlSettings).enabled
        (field? "control" "enabled" 0 v) = .ok s.enabled ∧
      takeField coerceText ({} : ControlSettings).ip (field? "control" "ip" 1 v) = .ok s.ip ∧
      takeField coerceUInt16 ({} : ControlSettings).port
        (field? "control" "port" 2 v) = .ok s.port := by
  constructor
  · intro h
    obtain ⟨_, required, h⟩ := ok_of_bind h
    obtain ⟨_, enabled, h⟩ := ok_of_bind h
    obtain ⟨_, ip, h⟩ := ok_of_bind h
    obtain ⟨_, port, same⟩ := ok_of_bind h
    cases same
    exact ⟨required, enabled, ip, port⟩
  · rintro ⟨required, enabled, ip, port⟩
    dsimp only [toControl]
    rw [required, enabled, ip, port]
    rfl

theorem toSettings_eq_ok_iff {s : Settings} : toSettings v = .ok s ↔
    toLifecycle (sectionOf "lifecycle" v) = .ok s.lifecycle ∧
      toWorkload (sectionOf "workload" v) = .ok s.workload ∧
      toControl (sectionOf "control" v) = .ok s.control := by
  constructor
  · intro h
    obtain ⟨_, lifecycle, h⟩ := ok_of_bind h
    obtain ⟨_, workload, h⟩ := ok_of_bind h
    obtain ⟨_, control, same⟩ := ok_of_bind h
    cases same
    exact ⟨lifecycle, workload, control⟩
  · rintro ⟨lifecycle, workload, control⟩
    have whole : toSettings v = do
        return Settings.mk (← toLifecycle (sectionOf "lifecycle" v))
          (← toWorkload (sectionOf "workload" v)) (← toControl (sectionOf "control" v)) := rfl
    rw [whole, lifecycle, workload, control]
    rfl

end Sourced

open Sourced (takeField_field? requireSection_of_valueOf? toSettings_eq_ok_iff
  toLifecycle_eq_ok_iff toWorkload_eq_ok_iff toControl_eq_ok_iff)

/-- What settings say of a key is what its value in the table comes to. -/
theorem Key.coerce_of_toSettings (k : Key) {root value : Sourced} {s : Settings}
    (held : root.at? k.part k.name = some value) (read : root.toSettings = .ok s) :
    k.coerce value = .ok (k.get s) := by
  obtain ⟨lifecycle, workload, control⟩ := toSettings_eq_ok_iff.mp read
  obtain ⟨_, grace⟩ := toLifecycle_eq_ok_iff.mp lifecycle
  obtain ⟨_, workers, unit, limit⟩ := toWorkload_eq_ok_iff.mp workload
  obtain ⟨_, enabled, ip, port⟩ := toControl_eq_ok_iff.mp control
  cases k with
  | grace => exact (takeField_field? held _ _).symm.trans grace
  | workers => exact (takeField_field? held _ _).symm.trans workers
  | unit => exact (takeField_field? held _ _).symm.trans unit
  | jobLimit => exact (takeField_field? held _ _).symm.trans limit
  | enabled => exact (takeField_field? held _ _).symm.trans enabled
  | ip => exact (takeField_field? held _ _).symm.trans ip
  | port => exact (takeField_field? held _ _).symm.trans port

/-- Where the value of each key comes to what settings say of it, these are the settings. -/
theorem toSettings_of_coerce {root : Sourced} {s : Settings}
    (held : ∀ k : Key, ∃ value, root.at? k.part k.name = some value ∧
      k.coerce value = .ok (k.get s)) : root.toSettings = .ok s := by
  have taken (k : Key) : ∃ value, valueOf? k.name (sectionOf k.part root).asTable.2 = some value ∧
      k.coerce value = .ok (k.get s) := held k
  obtain ⟨_, graceAt, grace⟩ := taken .grace
  obtain ⟨_, workersAt, workers⟩ := taken .workers
  obtain ⟨_, unitAt, unit⟩ := taken .unit
  obtain ⟨_, limitAt, limit⟩ := taken .jobLimit
  obtain ⟨_, enabledAt, enabled⟩ := taken .enabled
  obtain ⟨_, ipAt, ip⟩ := taken .ip
  obtain ⟨_, portAt, port⟩ := taken .port
  refine toSettings_eq_ok_iff.mpr ⟨?lifecycle, ?workload, ?control⟩
  case lifecycle =>
    exact toLifecycle_eq_ok_iff.mpr ⟨requireSection_of_valueOf? graceAt _,
      (takeField_field? graceAt _ _).trans grace⟩
  case workload =>
    exact toWorkload_eq_ok_iff.mpr ⟨requireSection_of_valueOf? workersAt _,
      (takeField_field? workersAt _ _).trans workers, (takeField_field? unitAt _ _).trans unit,
      (takeField_field? limitAt _ _).trans limit⟩
  case control =>
    exact toControl_eq_ok_iff.mpr ⟨requireSection_of_valueOf? enabledAt _,
      (takeField_field? enabledAt _ _).trans enabled, (takeField_field? ipAt _ _).trans ip,
      (takeField_field? portAt _ _).trans port⟩

/-- There are settings for any values of the keys. -/
theorem Key.exists_get (value : ∀ k : Key, k.Value) : ∃ s : Settings, ∀ k, k.get s = value k := by
  refine ⟨⟨⟨value .grace⟩, ⟨value .workers, value .unit, value .jobLimit⟩,
    ⟨value .enabled, value .ip, value .port⟩⟩, ?_⟩
  intro k
  cases k <;> rfl

/-- Settings that agree on every key are the same. -/
theorem Key.ext {s other : Settings} (h : ∀ k : Key, k.get s = k.get other) : s = other := by
  obtain ⟨⟨grace⟩, ⟨workers, unit, limit⟩, ⟨enabled, ip, port⟩⟩ := s
  cases h .grace
  cases h .workers
  cases h .unit
  cases h .jobLimit
  cases h .enabled
  cases h .ip
  cases h .port
  rfl

end Quiesce.Settings
