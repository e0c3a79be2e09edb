import Quiesce.HostFault
import Quiesce.Lifecycle.Stage
import Quiesce.Lifecycle.Signal
import Quiesce.Trial.Expectation

/-!
Why a trial did not give the outcome that was expected.
-/
namespace Quiesce.Trial

inductive Phase where
  | readiness
  | exit
  deriving DecidableEq

def Phase.name : Phase → String
  | readiness => "readiness"
  | exit => "exit"

inductive Refusal where
  | host (cause : HostFault)
  | exitedEarly (exit : Exit)
  deriving DecidableEq

def Refusal.message : Refusal → String
  | host cause => cause.message
  | exitedEarly exit => s!"exited before becoming ready ({exit.text})"

inductive Fault where
  | timeout (phase : Phase) (elapsed : Duration) (lastStage : Option Stage)
  | unexpected (expected : Expectation) (outcome : Outcome)
  | unsupported (signal : Signal) (os : String)
  | launch (program : String) (cause : Refusal)
  | delivery (signal : Signal) (cause : HostFault)
  | host (cause : HostFault)
  deriving DecidableEq

namespace Fault

def message : Fault → String
  | timeout phase elapsed lastStage =>
    let known := (lastStage.map Stage.name).getD "unknown"
    s!"daemon did not reach {phase.name} within {elapsed.text} (last known state: {known})"
  | unexpected expected outcome =>
    s!"expected {expected.text} shutdown, observed {outcome.text}"
  | unsupported signal os => s!"signal {signal.name} is not supported on {os}"
  | launch program cause => s!"failed to launch {program}: {cause.message}"
  | delivery signal cause => s!"failed to deliver {signal.name}: {cause.message}"
  | host cause => s!"IO error while supervising daemon: {cause.message}"

/-- A trial that cannot be held on this system is skipped; it did not fail. -/
def isSkip : Fault → Bool
  | unsupported _ _ => true
  | _ => false

def source? : Fault → Option HostFault
  | delivery _ cause | host cause => some cause
  | _ => none

end Fault

def Expectation.verify (e : Expectation) (outcome : Outcome) : Except Fault Outcome :=
  if e.holds outcome then .ok outcome else .error (.unexpected e outcome)

end Quiesce.Trial
