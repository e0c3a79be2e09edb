import Quiesce.Engine.Step
import Quiesce.Reloader

/-!
Reloading settings, whole or not at all. Everything that can fail comes before anything is changed,
so that a reload that fails leaves no trace. One that succeeds takes over two values from what it
has loaded; over any number of reloads the pool and the reloader therefore hold the same settings,
valid ones, on which the overrides lie.
-/
namespace Quiesce

namespace Settings

theorem eq_ok_of_toOption {ε α : Type} {x : Except ε α} {a : α} (h : x.toOption = some a) :
    x = .ok a := by
  cases x <;> simp_all [Except.toOption]

theorem objection?_of_validate {s : Settings} (valid : s.validate = .ok ()) :
    s.objection? = none := by
  cases objection : s.objection? with
  | none => rfl
  | some cause => simp [validate, objection] at valid

/-- What valid settings say of the durations that can be reloaded. -/
theorem ne_zero_of_validate {s : Settings} (valid : s.validate = .ok ()) :
    s.workload.unitMs ≠ 0 ∧ s.workload.jobLimitMs ≠ 0 := by
  have nothing := objection?_of_validate valid
  grind [objection?]

end Settings

theorem Overrides.unitMs_apply {o : Overrides} {unit : UInt64} (h : o.unitMs = some unit)
    (s : Settings) : (o.apply s).workload.unitMs = unit := by
  simp [apply, h]

theorem WorkloadSettings.differs_iff (s update : WorkloadSettings) :
    s.differs update = false ↔ s.unitMs = update.unitMs ∧ s.jobLimitMs = update.jobLimitMs := by
  simp [differs]

/-- Settings with the durations of others. -/
def WorkloadSettings.retimed (s update : WorkloadSettings) : WorkloadSettings :=
  { s with unitMs := update.unitMs, jobLimitMs := update.jobLimitMs }

theorem WorkloadSettings.retimed_of_not_differs {s update : WorkloadSettings}
    (same : s.differs update = false) : s.retimed update = s := by
  obtain ⟨unit, limit⟩ := (s.differs_iff update).mp same
  rw [retimed, ← unit, ← limit]

theorem WorkloadSettings.retimed_not_differs (s update : WorkloadSettings) :
    (s.retimed update).differs update = false :=
  (differs_iff _ _).mpr ⟨rfl, rfl⟩

theorem Pool.apply_eq (p : Pool) (update : WorkloadSettings) :
    (p.apply update).2 = { p with
      settings := p.settings.retimed update
      applied := p.applied + (p.settings.differs update).toNat } := by
  cases differs : p.settings.differs update with
  | true => simp [apply, differs, WorkloadSettings.retimed]
  | false => simp [apply, differs, WorkloadSettings.retimed_of_not_differs]

namespace Reloader

variable {r : Reloader} {sources : Settings.Sources} {pool : Pool}

/-- What is planned is what was loaded with the overrides over it, if that is valid. -/
theorem plan_eq_ok_iff {updated : Settings} : r.plan sources = .ok updated ↔
    ∃ loaded, Settings.load sources r.path = .ok loaded ∧ updated = r.overrides.apply loaded ∧
      updated.validate = .ok () := by
  cases loads : Settings.load sources r.path with
  | error fault => simp [plan, loads, bind, Except.bind]
  | ok loaded =>
      cases valid : (r.overrides.apply loaded).validate with
      | error fault =>
          simp only [plan, loads, bind, Except.bind, valid, reduceCtorEq, Except.ok.injEq,
            false_iff]
          rintro ⟨_, rfl, rfl, ok⟩
          rw [valid] at ok
          cases ok
      | ok _ =>
          simp only [plan, loads, bind, Except.bind, valid, pure, Except.pure, Except.ok.injEq]
          constructor
          · rintro rfl
            exact ⟨loaded, rfl, rfl, valid⟩
          · rintro ⟨_, rfl, rfl, _⟩
            rfl

theorem reload_of_fault {fault : Settings.Fault} (fails : r.plan sources = .error fault)
    (pool : Pool) : r.reload sources pool = (.error fault, r, pool) := by
  simp only [reload, serve, fails]

/-- The reloader with the durations of new settings as those in force, if they are new. -/
def informed (r : Reloader) (inForce updated : WorkloadSettings) : Reloader :=
  if inForce.differs updated then r.adopt updated else r

theorem reload_of_plan {updated : Settings} (planned : r.plan sources = .ok updated)
    (pool : Pool) : r.reload sources pool =
      (.ok (), r.informed pool.settings updated.workload, (pool.apply updated.workload).2) := by
  simp only [reload, serve, planned, informed]

/-- A reloader that is told of settings keeps everything but the durations among them. -/
theorem informed_eq (r : Reloader) (inForce updated : WorkloadSettings) :
    ∃ unit limit, r.informed inForce updated = { r with
      current := { r.current with
        workload := { r.current.workload with unitMs := unit, jobLimitMs := limit } } } := by
  unfold informed
  split
  · exact ⟨updated.unitMs, updated.jobLimitMs, rfl⟩
  · exact ⟨r.current.workload.unitMs, r.current.workload.jobLimitMs, rfl⟩

/-- A reload fails or succeeds by what it plans alone. -/
theorem reload_eq_ok_iff (pool : Pool) :
    (r.reload sources pool).1 = .ok () ↔ ∃ updated, r.plan sources = .ok updated := by
  cases planned : r.plan sources with
  | error fault => simp [reload_of_fault planned]
  | ok updated => simp [reload_of_plan planned]

theorem informed_of_not_differs {inForce updated : WorkloadSettings}
    (same : inForce.differs updated = false) : r.informed inForce updated = r := by
  simp [informed, same]

theorem plan_informed (r : Reloader) (sources : Settings.Sources)
    (inForce updated : WorkloadSettings) :
    (r.informed inForce updated).plan sources = r.plan sources := by
  obtain ⟨unit, limit, same⟩ := r.informed_eq inForce updated
  rw [same]
  rfl

/-- Sources that were read once say nothing new when they are read again. -/
theorem reload_twice (r : Reloader) (sources : Settings.Sources) (pool : Pool) :
    (r.reload sources pool).2.1.reload sources (r.reload sources pool).2.2 =
      r.reload sources pool := by
  cases planned : r.plan sources with
  | error fault => rw [reload_of_fault planned, reload_of_fault planned]
  | ok updated =>
      have again := (r.plan_informed sources pool.settings updated.workload).trans planned
      have settled : (pool.apply updated.workload).2.settings.differs updated.workload = false := by
        rw [Pool.apply_eq]
        exact WorkloadSettings.retimed_not_differs _ _
      rw [reload_of_plan planned, reload_of_plan again, informed_of_not_differs settled,
        Pool.apply_eq (pool.apply updated.workload).2, settled,
        WorkloadSettings.retimed_of_not_differs settled]
      rfl

end Reloader

namespace Engine

/-- A request to reload is served when the sources are these. -/
def reloadFrom (e : Engine Desk) (sources : Settings.Sources) : Engine Desk :=
  ({ e with desk := ⟨sources, e.desk.reloader⟩ } : Engine Desk).serveReload Desk.handler

/-- What serving a request makes of pool and reloader is what a reload makes of them. The rest of
the engine is left alone, but that the runner breaks off where loading does. -/
theorem reloadFrom_eq (e : Engine Desk) (sources : Settings.Sources) :
    ∃ runner, e.reloadFrom sources = { e with
      desk := ⟨sources, (e.desk.reloader.reload sources e.pool).2.1⟩
      pool := (e.desk.reloader.reload sources e.pool).2.2
      runner := runner } := by
  cases planned : e.desk.reloader.plan sources with
  | ok updated =>
      refine ⟨e.runner, ?_⟩
      rw [Reloader.reload_of_plan planned]
      simp only [reloadFrom, serveReload, Desk.handler, Reloader.serve, planned]
      rfl
  | error fault =>
      rw [Reloader.reload_of_fault planned]
      simp only [reloadFrom, serveReload, Desk.handler, Reloader.serve, planned]
      cases fault with
      | overflow cause => exact ⟨.ended (.overflow cause), rfl⟩
      | _ => exact ⟨e.runner, rfl⟩

/-- Pool and reloader hold the same settings; these are the first ones but for durations that make
sense, and that are the overrides' where there are such. The core is the one of the start. -/
structure Coherent (start : Engine Desk) (settings : Settings) (e : Engine Desk) : Prop where
  core : e.core = start.core
  path : e.desk.reloader.path = start.desk.reloader.path
  overrides : e.desk.reloader.overrides = start.desk.reloader.overrides
  current : e.desk.reloader.current = { settings with workload := e.pool.settings }
  workers : e.pool.settings.workers = settings.workload.workers
  unit : e.pool.settings.unitMs ≠ 0
  jobLimit : e.pool.settings.jobLimitMs ≠ 0
  overridden : ∀ unit, start.desk.reloader.overrides.unitMs = some unit →
    e.pool.settings.unitMs = unit

theorem Coherent.reloadFrom {start e : Engine Desk} {settings : Settings}
    (h : Coherent start settings e) (sources : Settings.Sources) :
    Coherent start settings (e.reloadFrom sources) := by
  obtain ⟨runner, served⟩ := e.reloadFrom_eq sources
  cases planned : e.desk.reloader.plan sources with
  | error fault =>
      rw [served, Reloader.reload_of_fault planned]
      exact ⟨h.core, h.path, h.overrides, h.current, h.workers, h.unit, h.jobLimit, h.overridden⟩
  | ok updated =>
      obtain ⟨loaded, _, laid, valid⟩ := Reloader.plan_eq_ok_iff.mp planned
      obtain ⟨unit, limit⟩ := Settings.ne_zero_of_validate valid
      rw [served, Reloader.reload_of_plan planned]
      cases differs : e.pool.settings.differs updated.workload with
      | false =>
          rw [Reloader.informed_of_not_differs differs, Pool.apply_eq,
            WorkloadSettings.retimed_of_not_differs differs]
          exact ⟨h.core, h.path, h.overrides, h.current, h.workers, h.unit, h.jobLimit,
            h.overridden⟩
      | true =>
          have told : e.desk.reloader.informed e.pool.settings updated.workload =
              e.desk.reloader.adopt updated.workload := by
            simp [Reloader.informed, differs]
          rw [told, Pool.apply_eq]
          refine ⟨h.core, h.path, h.overrides, ?_, h.workers, unit, limit, ?_⟩
          · simp only [Reloader.adopt, h.current]
            rfl
          · intro unit given
            rw [← h.overrides] at given
            change updated.workload.unitMs = unit
            rw [laid]
            exact Overrides.unitMs_apply given loaded

theorem Coherent.reloadAll {start e : Engine Desk} {settings : Settings}
    (h : Coherent start settings e) (readings : List Settings.Sources) :
    Coherent start settings (readings.foldl Engine.reloadFrom e) := by
  induction readings generalizing e with
  | nil => exact h
  | cons sources readings ih => exact ih (h.reloadFrom sources)

end Engine

/-- A reload that fails leaves pool and reloader as they were. One that succeeds does so with valid
settings, of which it takes over the length of a unit and the longest job, and counts that if it
changes something. Over any number of reloads, from valid settings on which the same overrides lie,
the durations in force are never zero, an overridden one stays, and the core is left alone; and to
reload once more from the same sources changes nothing. -/
theorem Reloader.reload_all_or_nothing :
    (∀ (r : Reloader) (sources : Settings.Sources) (pool : Pool),
      (∀ fault, (r.reload sources pool).1 = .error fault →
        (r.reload sources pool).2 = (r, pool)) ∧
      ((r.reload sources pool).1 = .ok () ↔ ∃ loaded,
        Settings.load sources r.path = .ok loaded ∧
          (r.overrides.apply loaded).validate = .ok ()) ∧
      ∀ loaded, Settings.load sources r.path = .ok loaded →
        (r.overrides.apply loaded).validate = .ok () →
        let updated := (r.overrides.apply loaded).workload
        let after := (r.reload sources pool).2
        after.2 = { pool with
          settings := { pool.settings with
            unitMs := updated.unitMs, jobLimitMs := updated.jobLimitMs }
          applied := after.2.applied } ∧
        after.2.applied = pool.applied +
          (if pool.settings.unitMs = updated.unitMs ∧
            pool.settings.jobLimitMs = updated.jobLimitMs then 0 else 1) ∧
        ∃ unit limit, after.1 = { r with
          current := { r.current with
            workload := { r.current.workload with unitMs := unit, jobLimitMs := limit } } }) ∧
    ∀ (overrides : Overrides) (given settings : Settings) (e : Engine Desk),
      settings = overrides.apply given → settings.validate = .ok () →
      e.desk.reloader.overrides = overrides → e.desk.reloader.current = settings →
      e.pool.settings = settings.workload →
      ∀ readings : List Settings.Sources,
        let after := readings.foldl Engine.reloadFrom e
        (after.pool.settings.unitMs ≠ 0 ∧ after.pool.settings.jobLimitMs ≠ 0) ∧
        (∀ unit, overrides.unitMs = some unit → after.pool.settings.unitMs = unit) ∧
        after.desk.reloader.current = { settings with workload := after.pool.settings } ∧
        after.pool.settings.workers = settings.workload.workers ∧
        after.core = e.core ∧
        ∀ sources, let once := after.reloadFrom sources
          once.pool = (after.desk.reloader.reload sources after.pool).2.2 ∧
          once.desk.reloader = (after.desk.reloader.reload sources after.pool).2.1 ∧
          (once.reloadFrom sources).pool = once.pool ∧
          (once.reloadFrom sources).desk = once.desk ∧
          (once.reloadFrom sources).core = once.core := by
  refine ⟨?_, ?_⟩
  · intro r sources pool
    refine ⟨?_, ?_, ?_⟩
    · intro fault failed
      cases planned : r.plan sources with
      | error cause => rw [reload_of_fault planned]
      | ok updated => simp [reload_of_plan planned] at failed
    · rw [reload_eq_ok_iff]
      constructor
      · rintro ⟨updated, planned⟩
        obtain ⟨loaded, loads, rfl, valid⟩ := plan_eq_ok_iff.mp planned
        exact ⟨loaded, loads, valid⟩
      · rintro ⟨loaded, loads, valid⟩
        exact ⟨_, plan_eq_ok_iff.mpr ⟨loaded, loads, rfl, valid⟩⟩
    · intro loaded loads valid updated after
      have planned := plan_eq_ok_iff.mpr ⟨loaded, loads, rfl, valid⟩
      have reloaded : after = (r.informed pool.settings updated, (pool.apply updated).2) :=
        congrArg Prod.snd (reload_of_plan planned pool)
      rw [reloaded, Pool.apply_eq]
      refine ⟨rfl, ?_, r.informed_eq pool.settings updated⟩
      cases differs : pool.settings.differs updated with
      | false => simp [(pool.settings.differs_iff updated).mp differs]
      | true =>
          have changed : ¬ (pool.settings.unitMs = updated.unitMs ∧
              pool.settings.jobLimitMs = updated.jobLimitMs) := by
            rw [← WorkloadSettings.differs_iff, differs]
            exact Bool.noConfusion
          simp [changed]
  · intro overrides given settings e laid valid theirs current inForce readings after
    obtain ⟨unit, limit⟩ := Settings.ne_zero_of_validate valid
    have start : Engine.Coherent e settings e := by
      refine ⟨rfl, rfl, rfl, ?_, by rw [inForce], inForce ▸ unit, inForce ▸ limit, ?_⟩
      · rw [current, inForce]
      · intro unit overridden
        rw [inForce, laid]
        exact Overrides.unitMs_apply (theirs ▸ overridden) given
    have kept : Engine.Coherent e settings after := start.reloadAll readings
    refine ⟨⟨kept.unit, kept.jobLimit⟩, fun unit overridden => kept.overridden unit ?_,
      kept.current, kept.workers, kept.core, ?_⟩
    · rw [theirs]
      exact overridden
    · intro sources once
      obtain ⟨runner, served⟩ := after.reloadFrom_eq sources
      have served : once = _ := served
      obtain ⟨again, repeated⟩ := once.reloadFrom_eq sources
      rw [repeated, served]
      simp only [reload_twice, and_self]

/-- A file with new durations, of which one is overridden, and then one that makes no sense. -/
theorem Reloader.reload_all_or_nothing_overridden :
    ∃ (changed broken : Settings.Sources) (r : Reloader) (e : Engine Desk),
      (r.reload changed e.pool).1 = .ok () ∧
      (r.reload changed e.pool).2.2.settings = ⟨2, 10, 900⟩ ∧
      (r.reload changed e.pool).2.2.applied = e.pool.applied + 1 ∧
      (∃ fault, (r.reload broken e.pool).1 = .error fault) ∧
      (r.reload broken e.pool).2 = (r, e.pool) ∧
      ([changed, broken, changed].foldl Engine.reloadFrom e).pool.settings.unitMs = 10 := by
  let file (text : String) : Settings.Sources := Settings.Sources.setFile {} "dvm.toml" text.toUTF8
  let changed := file "[workload]\nunit_duration_ms = 300\nmax_job_duration_ms = 900\n"
  let broken := file "[workload]\nmax_job_duration_ms = 0\n"
  let settings : Settings := { workload := { unitMs := 10 } }
  let r : Reloader := { overrides := { unitMs := some 10 }, current := settings }
  let e : Engine Desk :=
    { core := { grace := settings.lifecycle.grace }, pool := { settings := settings.workload }
      desk := ⟨{}, r⟩ }
  have loads : Settings.load changed r.path =
      .ok { workload := { unitMs := 300, jobLimitMs := 900 } } :=
    Settings.eq_ok_of_toOption (by decide +kernel)
  have loadsBroken : Settings.load broken r.path = .ok { workload := { jobLimitMs := 0 } } :=
    Settings.eq_ok_of_toOption (by decide +kernel)
  have valid : settings.validate = .ok () := Settings.eq_ok_of_toOption (by decide +kernel)
  have validChanged : (r.overrides.apply
      { workload := { unitMs := 300, jobLimitMs := 900 } }).validate = .ok () :=
    Settings.eq_ok_of_toOption (by decide +kernel)
  obtain ⟨single, sequence⟩ := reload_all_or_nothing
  obtain ⟨_, succeeds, takes⟩ := single r changed e.pool
  obtain ⟨pool, applied, _⟩ := takes _ loads validChanged
  obtain ⟨untouched, succeedsBroken, _⟩ := single r broken e.pool
  have fails : ∃ fault, (r.reload broken e.pool).1 = .error fault := by
    cases answer : (r.reload broken e.pool).1 with
    | error fault => exact ⟨fault, rfl⟩
    | ok _ =>
        obtain ⟨loaded, again, valid⟩ := succeedsBroken.mp answer
        rw [loadsBroken] at again
        cases again
        cases valid
  obtain ⟨fault, failed⟩ := fails
  obtain ⟨_, overridden, _⟩ := sequence r.overrides {} settings e rfl valid rfl rfl
    rfl [changed, broken, changed]
  refine ⟨changed, broken, r, e, succeeds.mpr ⟨_, loads, validChanged⟩, ?_, ?_,
    ⟨fault, failed⟩, untouched fault failed, overridden 10 rfl⟩
  · rw [pool]
    rfl
  · rw [applied]
    rfl

end Quiesce
