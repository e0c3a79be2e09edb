import Quiesce.Trial.Capability
import Quiesce.Trial.Scenario
import Quiesce.Trial.Session

/-!
Running a scenario: a daemon is launched, sent the signals, and watched until it ends. What is
refused by the system's capabilities is refused before anything is launched.
-/
namespace Quiesce.Trial

structure Controller where
  program : String
  launch : List String → Except HostFault Behaviour
  arguments : List String := []
  readyTimeout : Duration := .ofMillis 10000
  /-- Exits that take this long are forced ones, whatever their code. -/
  graceBound : Duration := .ofMillis 5000
  capability : Capability := .current

structure Run where
  result : Except Fault Outcome
  session : Option Session := none

def Run.remarks (r : Run) : List String :=
  match r.session with
  | some s => s.life.remarks
  | none => []

/-- Sends signals one after the other, an interval apart, up to one that finds the child gone or
that the system refuses. -/
def deliverAll (interval : Duration) : Bool → List Signal → Session → Except Fault Unit × Session
  | _, [], s => (.ok (), s)
  | first, signal :: rest, s =>
    match (if first then s else s.sleep interval).deliver signal with
    | (.error fault, s) => (.error fault, s)
    | (.ok .alreadyExited, s) => (.ok (), s)
    | (.ok .delivered, s) => deliverAll interval false rest s

def conclude (graceBound : Duration) (scenario : Scenario) (started : Instant) (s : Session) :
    Except Fault Outcome × Session :=
  match scenario.expect with
  | .survives window =>
    match s.waitWithin window with
    | (some exit, s) =>
      let outcome := Outcome.classify exit (.between started s.now) graceBound
      (.error (.unexpected scenario.expect outcome), s)
    | (none, s) =>
      match s.deliver .terminate with
      | (.error fault, s) => (.error fault, s)
      | (.ok _, cleanup) =>
        let (result, s) := cleanup.awaitExit scenario.timeout s.now graceBound
        (result.bind scenario.expect.verify, s)
  | _ =>
    let (result, s) := s.awaitExit scenario.timeout started graceBound
    (result.bind scenario.expect.verify, s)

namespace Controller

def spawn (c : Controller) (arguments : List String) : Except Fault Session :=
  match c.launch (c.arguments ++ arguments) with
  | .ok behaviour => .ok { behaviour := behaviour }
  | .error cause => .error (.launch c.program (.host cause))

/-- Sends a child the signals of a scenario, and waits for what comes of them. -/
def exercise (c : Controller) (scenario : Scenario) (s : Session) : Run :=
  match deliverAll scenario.interval true scenario.signals s with
  | (.error fault, s) => ⟨.error fault, some s⟩
  | (.ok _, t) =>
    let (result, t) := conclude c.graceBound scenario s.now t
    ⟨result, some t⟩

def drive (c : Controller) (scenario : Scenario) (s : Session) : Run :=
  let (ready, s) :=
    if scenario.waitForReady then
      let (result, s) := s.waitReady c.program c.readyTimeout
      (result.map fun _ => (), s)
    else (.ok (), s)
  match ready with
  | .error fault => ⟨.error fault, some s⟩
  | .ok _ =>
    c.exercise scenario s

def run (c : Controller) (scenario : Scenario) : Run :=
  match c.capability.check scenario.required with
  | .error fault => ⟨.error fault, none⟩
  | .ok _ =>
    match c.spawn scenario.arguments with
    | .error fault => ⟨.error fault, none⟩
    | .ok s => c.drive scenario s

def runSignal (c : Controller) (signal : Signal) (graceful : Bool) (timeout : Duration) : Run :=
  c.run { name := signal.name, signals := [signal], expect := .ofGraceful graceful,
          timeout := timeout }

end Controller

end Quiesce.Trial
