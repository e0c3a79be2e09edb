import Quiesce.Trial.Outcome

/-!
What a trial expects of the way a daemon ends.
-/
namespace Quiesce.Trial

inductive Expectation where
  | graceful
  | forced
  | terminates
  /-- The daemon still runs after the window, and then stops gracefully when told to. -/
  | survives (window : Duration)
  deriving DecidableEq

namespace Expectation

def ofGraceful (graceful : Bool) : Expectation := if graceful then .graceful else .forced

def holds : Expectation → Outcome → Bool
  | .graceful, o | survives _, o => o.graceful
  | forced, o => !o.graceful
  | terminates, _ => true

def text : Expectation → String
  | .graceful => "graceful"
  | forced => "forced"
  | terminates => "any"
  | survives window => s!"no exit within {window.text}, then graceful"

end Expectation

end Quiesce.Trial
