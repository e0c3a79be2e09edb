import Quiesce.Lifecycle.Signal

/-!
How a daemon came to stop, and what it tells its parent about it: a label for people and an
exit code for programs. A clean drain exits with `0`, an expired grace period with `3`, and a
stop forced by a second request with `128` plus the number of that signal.
-/
namespace Quiesce

inductive Ending where
  | drained
  | graceExpired
  | forced (signal : Signal)
  deriving DecidableEq

namespace Ending

def exitCode : Ending → Int32
  | drained => 0
  | graceExpired => 3
  | forced s => Int32.ofInt (128 + s.number)

def isGraceful (e : Ending) : Bool := e = drained

def label : Ending → String
  | drained => "drained"
  | graceExpired => "grace-expired"
  | forced s => s!"escalated-{s.name}"

end Ending

end Quiesce
