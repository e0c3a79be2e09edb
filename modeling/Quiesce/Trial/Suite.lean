import Quiesce.Trial.Controller
import Quiesce.Trial.Report

/-!
Running several scenarios, each with a daemon of its own, and reporting on all of them.
-/
namespace Quiesce.Trial

structure NamedRun where
  name : String
  run : Run

def NamedRun.entry (r : NamedRun) : Entry := ⟨r.name, .ofResult r.run.result⟩

namespace Controller

def runAll (c : Controller) (scenarios : List Scenario) : List NamedRun :=
  scenarios.map fun scenario => ⟨scenario.name, c.run scenario⟩

def report (c : Controller) (runs : List NamedRun) : Report :=
  ⟨c.capability.os, runs.map NamedRun.entry⟩

def runSuite (c : Controller) (scenarios : List Scenario) : Report :=
  c.report (c.runAll scenarios)

end Controller

end Quiesce.Trial
