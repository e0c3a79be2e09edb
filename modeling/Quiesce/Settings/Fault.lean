import Quiesce.Overflow
import Quiesce.Text.Quoted

/-!
Why settings could not be had: a source that cannot be read, a value of the wrong kind, or values
that make no sense together.
-/
namespace Quiesce.Settings

inductive Objection where
  | zeroGrace
  | zeroWorkers
  | zeroUnit
  | zeroJobLimit
  | badAddress (ip : String)
  deriving DecidableEq

def Objection.message : Objection → String
  | zeroGrace => "Lifecycle grace_period_ms must be greater than 0"
  | zeroWorkers => "Workload workers must be greater than 0"
  | zeroUnit => "Workload unit_duration_ms must be greater than 0"
  | zeroJobLimit => "Workload max_job_duration_ms must be greater than 0"
  | badAddress ip => s!"Control ip '{ip}' is not a valid IP address"

inductive Fault where
  | objection (cause : Objection)
  /-- A value where another kind of value has to stand; the key and the source where known. -/
  | wrongKind (found expected : String) (key source : Option String)
  | wrongSection (found expected : String)
  | malformed (file : String) (reason : String)
  | notFound (key : String)
  | frozen
  | other (text : String)
  /-- A key that leads out of a list. -/
  | overflow (cause : Overflow)
  deriving DecidableEq

namespace Fault

def message : Fault → String
  | objection cause => cause.message
  | wrongKind found expected key source =>
    let atKey := match key with
      | some key => s!" for key `{key}`"
      | none => ""
    let inSource := match source with
      | some source => s!" in {source}"
      | none => ""
    s!"invalid type: {found}, expected {expected}{atKey}{inSource}"
  | wrongSection found expected => s!"invalid type: {found}, expected {expected}"
  | malformed file reason => s!"{reason} in {file}"
  | notFound key => s!"configuration property {Text.quoted key} not found"
  | frozen => "configuration is frozen"
  | other text => text
  | overflow cause => cause.message

end Fault

end Quiesce.Settings
