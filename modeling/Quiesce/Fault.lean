import Quiesce.HostFault
import Quiesce.Lifecycle.Stage
import Quiesce.Lifecycle.Signal
import Quiesce.Settings.Fault

/-!
Why a daemon could not start, go on or take a job.
-/
namespace Quiesce

inductive Fault where
  | settings (cause : Settings.Fault)
  | host (cause : HostFault)
  | bind (address : String) (cause : HostFault)
  | registration (signal : Signal) (cause : HostFault)
  | system (text : String)
  | component (name text : String)
  deriving DecidableEq

namespace Fault

/-- Signals can be listened for once only. -/
def alreadyListening : Fault := system "Signal handlers already registered"

def notStarted : Fault := system "Daemon must be started before it can run"

def channelClosed : Fault := system "Signal channel closed before shutdown was requested"

def workerRefused (worker : Nat) (stage : Stage) : Fault :=
  component "workload" s!"worker {worker} refused in state {stage.name}"

def message : Fault → String
  | settings cause => s!"Configuration error: {cause.message}"
  | host cause => s!"IO error: {cause.message}"
  | bind address cause => s!"Failed to bind {address}: {cause.message}"
  | registration signal cause => s!"Failed to register handler for {signal.name}: {cause.message}"
  | system text => s!"System error: {text}"
  | component name text => s!"Component error in {name}: {text}"

def source? : Fault → Option String
  | settings cause => some cause.message
  | host cause | bind _ cause | registration _ cause => some cause.message
  | system _ | component _ _ => none

end Fault

inductive JobFault where
  | notAccepting (stage : Stage)
  | tooLong (requested limit : UInt64)
  deriving DecidableEq

def JobFault.message : JobFault → String
  | notAccepting stage => s!"daemon is {stage.name} and not accepting work"
  | tooLong requested limit =>
    s!"requested duration {requested}ms exceeds limit of {limit}ms"

end Quiesce
