import Quiesce.Address
import Quiesce.Settings.Basic
import Quiesce.Settings.Fault

/-!
Which settings make sense: no duration and no number of workers is zero, and a daemon that
listens does so at an address.
-/
namespace Quiesce.Settings

def objection? (s : Settings) : Option Objection :=
  if s.lifecycle.graceMs = 0 then some .zeroGrace
  else if s.workload.workers = 0 then some .zeroWorkers
  else if s.workload.unitMs = 0 then some .zeroUnit
  else if s.workload.jobLimitMs = 0 then some .zeroJobLimit
  else if s.control.enabled ∧ (Address.read? s.control.ip).isNone then
    some (.badAddress s.control.ip)
  else none

def validate (s : Settings) : Except Fault Unit :=
  match s.objection? with
  | some cause => .error (.objection cause)
  | none => .ok ()

end Quiesce.Settings
