import Quiesce.Trial.Programs
import Quiesce.Trial.Suite

/-!
The command line of the check: it runs the standard scenarios against a daemon's program and
reports on them.
-/
namespace Quiesce.Cli.Check

open Trial (Controller Directory Scenario)

def grammar : Grammar where
  choices := [
    { long := "daemon", accepts := some (· ≠ "") },
    { long := "grace-ms", accepts := some Dvm.isWord64 },
    { long := "unit-ms", accepts := some Dvm.isWord64 },
    { long := "ready-timeout-ms", accepts := some Dvm.isWord64 },
    { long := "only", accepts := some fun _ => true },
    { long := "json" },
    { long := "daemon-logs" }]
  repeatable := false
  hasVersion := false

structure Request where
  daemon : String := "dvm"
  graceMs : UInt64 := 2000
  unitMs : UInt64 := 500
  readyTimeoutMs : UInt64 := 10000
  only : Option String := none
  json : Bool := false
  daemonLogs : Bool := false

def Request.ofGiven (given : Given) : Request where
  daemon := (given.value? "daemon").getD "dvm"
  graceMs := (Dvm.word64? given "grace-ms").getD 2000
  unitMs := (Dvm.word64? given "unit-ms").getD 500
  readyTimeoutMs := (Dvm.word64? given "ready-timeout-ms").getD 10000
  only := given.value? "only"
  json := given.has "json"
  daemonLogs := given.has "daemon-logs"

/-- The controller of a check: every daemon is launched with these durations and without its
network part, and an exit is graceful only within the grace period. -/
def controller (d : Directory) (r : Request) : Controller where
  program := r.daemon
  launch := d.launch r.daemon
  arguments := ["--no-control", "--grace-period-ms", toString r.graceMs, "--unit-duration-ms",
    toString r.unitMs]
  readyTimeout := .ofMillis r.readyTimeoutMs
  graceBound := .ofMillis r.graceMs

def wanted (r : Request) (scenarios : List Scenario) : List Scenario :=
  match r.only with
  | none => scenarios
  | some part => scenarios.filter fun s => Text.contains part.toList s.name.toList

def lines (text : String) : List String :=
  (Text.splitWhen (· = '\n') text.toList).map String.ofList

def perform (d : Directory) (r : Request) : Printed :=
  if r.graceMs ≤ r.unitMs then
    { code := 1
      stderr := [s!"Error: --unit-ms ({r.unitMs}) must be shorter than --grace-ms ({r.graceMs})"] }
  else
    match Scenario.standard (.ofMillis r.graceMs) with
    | .error _ => { code := 101 }
    | .ok scenarios =>
      let runs := (controller d r).runAll (wanted r scenarios)
      let report := (controller d r).report runs
      { code := report.exitCode.toUInt32.toUInt8
        stdout := if r.json then lines report.toJson.pretty else report.lines
        stderr := if r.daemonLogs then runs.flatMap (·.run.remarks) else [] }

def run (d : Directory) (args : List String) : Printed :=
  match grammar.read args with
  | .error .usage => { code := 2 }
  | .error _ => { code := 0, stdout := ["Usage: shutdown-check [OPTIONS]"] }
  | .ok given => perform d (Request.ofGiven given)

end Quiesce.Cli.Check
