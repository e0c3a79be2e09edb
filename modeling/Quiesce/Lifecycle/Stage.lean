/-!
The four stages of a daemon's life. A daemon only moves forward through them, and may leave
stages out.
-/
namespace Quiesce

inductive Stage where
  | starting
  | ready
  | draining
  | stopped
  deriving DecidableEq

namespace Stage

def all : List Stage := [starting, ready, draining, stopped]

def rank : Stage → Nat
  | starting => 0
  | ready => 1
  | draining => 2
  | stopped => 3

def canAdvanceTo (s next : Stage) : Bool := s.rank < next.rank

def acceptsWork (s : Stage) : Bool := s = ready

def isEnding (s : Stage) : Bool := s = draining || s = stopped

def name : Stage → String
  | starting => "starting"
  | ready => "ready"
  | draining => "draining"
  | stopped => "stopped"

def ofName? : String → Option Stage
  | "starting" => some starting
  | "ready" => some ready
  | "draining" => some draining
  | "stopped" => some stopped
  | _ => none

def unknownText (name : String) : String := s!"unknown process state '{name}'"

theorem ofName?_name (s : Stage) : ofName? s.name = some s := by cases s <;> rfl

end Stage

end Quiesce
