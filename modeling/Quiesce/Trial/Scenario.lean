import Quiesce.Overflow
import Quiesce.Trial.Expectation
import Quiesce.Lifecycle.Signal

/-!
Scenarios: which signals a freshly launched daemon is sent, and what is expected of it then.
The standard set covers every signal that a daemon must answer. Its escalation scenarios launch
the daemon with work units four times as long as the grace period, so that work is in flight
whenever a signal arrives.
-/
namespace Quiesce.Trial

structure Scenario where
  name : String
  signals : List Signal
  interval : Duration := .ofMillis 50
  waitForReady : Bool := true
  expect : Expectation := .graceful
  timeout : Duration := .ofMillis 10000
  arguments : List String := []

namespace Scenario

def outlasting (s : Scenario) (grace : Duration) : Except Overflow Scenario :=
  let unit := grace.millisWord.toNat * 4
  if unit < 18446744073709551616 then
    .ok { s with arguments := s.arguments ++ ["--unit-duration-ms", toString unit] }
  else .error .product

/-- Every signal that the scenario may send, the one that ends a survival window included. -/
def required (s : Scenario) : List Signal :=
  match s.expect with
  | .survives _ =>
    if s.signals.contains .terminate then s.signals else s.signals ++ [.terminate]
  | _ => s.signals

def standard (grace : Duration) : Except Overflow (List Scenario) := do
  match grace.twice? with
  | none => .error .scaledDuration
  | some budget =>
    let graceful (name : String) (signal : Signal) : Scenario :=
      { name := name, signals := [signal], timeout := budget }
    let escalation (name : String) (signal : Signal) : Scenario :=
      { name := name, signals := [signal, signal], expect := .forced, timeout := grace }
    return [
      graceful "terminate-graceful" .terminate,
      graceful "interrupt-graceful" .interrupt,
      ← (escalation "terminate-escalation" .terminate).outlasting grace,
      ← (escalation "interrupt-escalation" .interrupt).outlasting grace,
      { name := "hangup-survives", signals := [.hangup], expect := .survives grace,
        timeout := budget },
      { name := "terminate-before-ready", signals := [.terminate], waitForReady := false,
        expect := .terminates, timeout := budget },
      { name := "kill-forced", signals := [.kill], expect := .forced, timeout := budget },
      ← ({ name := "grace-expiry", signals := [.terminate], expect := .forced,
           timeout := budget : Scenario }).outlasting grace]

end Scenario

end Quiesce.Trial
