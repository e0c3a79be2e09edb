import Quiesce.Workload.Pool
import Quiesce.Settings.Load
import Quiesce.Settings.Validity

/-!
Reloading settings while a daemon runs. The sources are read again, the overrides laid over them,
and only if the result is valid do the settings change, and of these only the ones that can: the
length of a unit and the longest job.
-/
namespace Quiesce

structure Reloader where
  path : String := Settings.defaultPath
  overrides : Overrides := {}
  current : Settings

namespace Reloader

def plan (r : Reloader) (sources : Settings.Sources) : Except Settings.Fault Settings := do
  let updated := r.overrides.apply (← Settings.load sources r.path)
  updated.validate
  return updated

def adopt (r : Reloader) (updated : WorkloadSettings) : Reloader :=
  { r with current := { r.current with
      workload := { r.current.workload with
        unitMs := updated.unitMs, jobLimitMs := updated.jobLimitMs } } }

def serve (r : Reloader) (sources : Settings.Sources) (inForce : WorkloadSettings) :
    Except Settings.Fault WorkloadSettings × Reloader :=
  match r.plan sources with
  | .error fault => (.error fault, r)
  | .ok updated =>
    (.ok updated.workload,
      if inForce.differs updated.workload then r.adopt updated.workload else r)

def reload (r : Reloader) (sources : Settings.Sources) (pool : Pool) :
    Except Settings.Fault Unit × Reloader × Pool :=
  match r.serve sources pool.settings with
  | (.error fault, r) => (.error fault, r, pool)
  | (.ok update, r) => (.ok (), r, (pool.apply update).2)

end Reloader

structure Desk where
  sources : Settings.Sources
  reloader : Reloader

/-- Serves reload requests; one that fails changes nothing, unless it breaks off. -/
def Desk.handler (desk : Desk) (inForce : WorkloadSettings) :
    Except Overflow (Desk × Option WorkloadSettings) :=
  match desk.reloader.serve desk.sources inForce with
  | (.error (.overflow cause), _) => .error cause
  | (.error _, _) => .ok (desk, none)
  | (.ok update, reloader) => .ok ({ desk with reloader := reloader }, some update)

end Quiesce
