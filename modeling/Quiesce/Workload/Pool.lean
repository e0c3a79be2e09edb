import Quiesce.Clock
import Quiesce.Fault
import Quiesce.Settings.Basic

/-!
The work of a daemon: workers, which do one unit after the other until the gate is closed, and
jobs, which are done once. Each is a task that sleeps until its time is over. The pool keeps the
settings in force and counts what was done and what was refused.
-/
namespace Quiesce

inductive Work where
  | worker
  | job
  /-- Work from elsewhere that only passed the gate. -/
  | errand
  deriving DecidableEq

structure Task where
  work : Work
  due : Instant
  deriving DecidableEq

structure Pool where
  settings : WorkloadSettings
  units : Nat := 0
  accepted : Nat := 0
  rejected : Nat := 0
  completed : Nat := 0
  applied : Nat := 0
  deriving DecidableEq

def WorkloadSettings.differs (s update : WorkloadSettings) : Bool :=
  s.unitMs != update.unitMs || s.jobLimitMs != update.jobLimitMs

namespace Pool

def pending (p : Pool) : Nat := p.accepted - p.completed

/-- Takes over the settings that can change, and tells whether they did. The number of workers
stays as it was at launch. -/
def apply (p : Pool) (update : WorkloadSettings) : Bool × Pool :=
  if p.settings.differs update then
    (true, { p with
      settings := { p.settings with unitMs := update.unitMs, jobLimitMs := update.jobLimitMs }
      applied := p.applied + 1 })
  else (false, p)

def refusal? (p : Pool) (stage : Stage) (d : Duration) : Option JobFault :=
  if d.nanos > p.settings.jobLimit.nanos then
    some (.tooLong d.millisWord p.settings.jobLimit.millisWord)
  else if stage.acceptsWork then none
  else some (.notAccepting stage)

def record (p : Pool) : Work → Pool
  | .worker => { p with units := p.units + 1 }
  | .job => { p with completed := p.completed + 1 }
  | .errand => p

end Pool

/-- A worker at the start of a unit. Units that take no time are told apart by the clock. -/
def Task.nextUnit (now : Instant) (s : WorkloadSettings) : Task :=
  ⟨.worker, max (Clock.wake now s.unit) (Clock.tick (now + 1))⟩

/-- What becomes of a task when its timer goes off: a worker goes on while the gate is open, and
everything else is done. -/
def Task.next? (now : Instant) (gateClosed : Bool) (s : WorkloadSettings) (t : Task) :
    Option Task :=
  match t.work with
  | .worker => if gateClosed then none else some (nextUnit now s)
  | _ => none

end Quiesce
