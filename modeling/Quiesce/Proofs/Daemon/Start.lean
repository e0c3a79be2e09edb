import Quiesce.Proofs.Daemon.Work

/-!
The start of a daemon without its network part. It launches as many workers as its settings say,
tells that it is ready, and then runs and waits: all of its workers are at the beginning of their
first unit.
-/
namespace Quiesce

theorem WorkloadSettings.wake_zero (s : WorkloadSettings) : Clock.wake 0 s.unit = s.unit.nanos := by
  have small := s.unitMs.toNat_lt
  have reach : 0 + s.unit.nanos < Clock.horizon := by
    change 0 + 1000000 * s.unitMs.toNat < 9223372036854700000000000000
    omega
  have whole : 1000000 ∣ 0 + s.unit.nanos := (Nat.zero_add _).symm ▸ s.dvd_unit
  rw [Clock.wake_of_whole whole reach, Nat.zero_add]

namespace Daemon

/-- A daemon without its network part that has begun to run: nothing has happened yet. -/
structure Begun (host : Host) (settings : Settings) (desk : Desk) (d : Daemon) : Prop where
  works : Works settings.lifecycle.grace settings.workload.unit.nanos d
  now : d.engine.now = 0
  desk : d.engine.desk = desk
  pool : d.engine.pool.settings = settings.workload
  tasks : d.engine.tasks = List.replicate settings.workload.workers.toNat
    ⟨.worker, settings.workload.unit.nanos⟩
  lines : d.lines = [(0, .stage .starting), (0, .ready host.pid none)]

variable {host : Host} {settings : Settings}

/-- The daemon when it is ready, before it runs. -/
def ready (host : Host) (settings : Settings) (path : String) (overrides : Overrides)
    (sources : Settings.Sources) : Daemon :=
  let fresh := Daemon.new settings path overrides sources
  { fresh with
    engine := { fresh.engine with
      core := fresh.engine.core.markReady.2
      tasks := List.replicate settings.workload.workers.toNat
        ⟨.worker, Clock.wake 0 settings.workload.unit⟩ }
    listening := true
    hasChannel := true
    reporter := some ⟨fresh.engine.core.cell.subscribe, none⟩
    lines := [(0, .stage .starting), (0, .ready host.pid none)] }

theorem start_of_offline (offline : settings.control.enabled = false) (path : String)
    (overrides : Overrides) (sources : Settings.Sources) :
    (Daemon.new settings path overrides sources).start host =
      (.ok (), ready host settings path overrides sources) := by
  obtain ⟨d, listens, engine, same⟩ : ∃ d : Daemon,
      ((Daemon.new settings path overrides sources).write (.stage .starting)).listen = (.ok (), d) ∧
        d.engine = (Daemon.new settings path overrides sources).engine ∧
        d.settings = settings := ⟨_, rfl, rfl, rfl⟩
  have launched : d.engine.launch = (.ok settings.workload.workers.toNat,
      { d.engine with
        tasks := List.replicate settings.workload.workers.toNat
          ⟨.worker, Clock.wake 0 settings.workload.unit⟩ }) := by
    rw [engine, Engine.launch, Engine.launchFrom_of_admits rfl]
    rfl
  have alone : ∀ engine, openControl host { d with engine := engine } =
      (.ok (), { d with engine := engine }) := fun _ => by simp [openControl, same, offline]
  simp only [start, listens, launched, alone]
  cases listens
  rfl

/-- Workers at the beginning of their first unit. -/
theorem works_ready (some : 0 < settings.workload.unit.nanos) (path : String)
    (overrides : Overrides) (sources : Settings.Sources) :
    Works settings.lifecycle.grace settings.workload.unit.nanos
      (ready host settings path overrides sources).beginRun := by
  refine ⟨⟨rfl, rfl, rfl, rfl, rfl, rfl, rfl, rfl⟩, rfl, rfl, ?_⟩
  intro t ht
  obtain ⟨_, rfl⟩ := List.mem_replicate.mp ht
  have first := settings.workload.wake_zero
  refine ⟨rfl, ?_, ?_, ?_⟩
  · exact first ▸ some
  · exact Nat.le_of_eq (first.trans (Nat.zero_add _).symm)
  · exact first ▸ settings.workload.dvd_unit

/-- That the daemon is ready is news, but none that the reporter writes about. -/
theorem begun_of_ready (some : 0 < settings.workload.unit.nanos) (path : String)
    (overrides : Overrides) (sources : Settings.Sources) :
    Begun host settings ⟨sources, { path := path, overrides := overrides, current := settings }⟩
      (ready host settings path overrides sources).beginRun.settle := by
  have works : Works settings.lifecycle.grace settings.workload.unit.nanos
      (ready host settings path overrides sources).beginRun :=
    works_ready some path overrides sources
  obtain ⟨goesOn, engine⟩ := works.settle_of_idle
  refine ⟨goesOn, ?_, ?_, ?_, ?_, ?lines⟩
  case lines =>
    rw [works.settle_eq]
    rfl
  all_goals rw [engine]
  · rfl
  · rfl
  · rfl
  · rw [← settings.workload.wake_zero]
    rfl

end Daemon

end Quiesce
