import Quiesce.Host
import Quiesce.Reloader
import Quiesce.StatusLine
import Quiesce.Engine.Step

/-!
A whole daemon: an engine with its settings, the lines it writes, and the reporter. The daemon
itself says when it starts, is ready and has stopped. That it drains is said by the reporter, a
task of its own that watches the stage: it reads the latest one and then writes the line, in two
steps, between which other things may happen.
-/
namespace Quiesce

structure Reporter where
  watcher : StageCell.Watcher
  held : Option Stage := none
  deriving DecidableEq

structure Daemon where
  settings : Settings
  engine : Engine Desk
  listening : Bool := false
  /-- Whether the daemon holds the end of the channel that signals come out of. -/
  hasChannel : Bool := false
  control : Option (Address × UInt16) := none
  reporter : Option Reporter := none
  refusal : Option Fault := none
  /-- When the daemon had stopped and said so. -/
  concluded : Option Instant := none
  lines : List (Instant × StatusLine) := []

namespace Daemon

def new (settings : Settings) (path : String) (overrides : Overrides)
    (sources : Settings.Sources) : Daemon where
  settings := settings
  engine :=
    { core := { grace := settings.lifecycle.grace }
      pool := { settings := settings.workload }
      desk := ⟨sources, { path := path, overrides := overrides, current := settings }⟩ }

def write (d : Daemon) (line : StatusLine) : Daemon :=
  { d with lines := d.lines ++ [(d.engine.now, line)] }

def listen (d : Daemon) : Except Fault Unit × Daemon :=
  if d.listening then (.error .alreadyListening, d)
  else
    (.ok (), { d with
      listening := true
      hasChannel := true
      reporter := some ⟨d.engine.core.cell.subscribe, none⟩ })

def openControl (host : Host) (d : Daemon) : Except Fault Unit × Daemon :=
  if d.settings.control.enabled then
    match host.listen d.settings.control with
    | .ok place => (.ok (), { d with control := some place })
    | .error cause => (.error (.bind d.settings.control.address cause), d)
  else (.ok (), d)

def controlText (d : Daemon) : Option String :=
  d.control.map fun (address, port) => address.withPort (toString port)

def becomeReady (host : Host) (d : Daemon) : Daemon :=
  let (moved, engine) := d.engine.markReady
  let d := { d with engine := engine }
  if moved then d.write (.ready host.pid d.controlText) else d

/-- From starting to ready. Signals are listened for before anything else, so that none is lost. -/
def start (host : Host) (d : Daemon) : Except Fault Unit × Daemon :=
  match (d.write (.stage .starting)).listen with
  | (.error fault, d) => (.error fault, d)
  | (.ok _, d) =>
    match d.engine.launch with
    | (.error fault, engine) => (.error fault, { d with engine := engine })
    | (.ok _, engine) =>
      match { d with engine := engine }.openControl host with
      | (.error fault, d) => (.error fault, d)
      | (.ok _, d) => (.ok (), d.becomeReady host)

def isRunning (d : Daemon) : Bool := d.engine.runner.isPending

def beginRun (d : Daemon) : Daemon :=
  if d.hasChannel then
    { d with hasChannel := false, refusal := none, engine := d.engine.beginRun.2 }
  else { d with refusal := some .notStarted }

/-- Signals sent to the process. They arrive in the order of their numbers. -/
def raise (d : Daemon) (signals : List Signal) : Daemon :=
  if d.listening then
    { d with engine := (Signal.inOrder signals).foldl (fun engine s => (engine.send s).2) d.engine }
  else d

/-- After a run that stopped the daemon: counts the signals that came too late, lets go of the
channel, and says how the daemon stopped. A run that broke off ends without a word. -/
def conclude? (d : Daemon) : Option Daemon :=
  if d.concluded.isSome then none
  else match d.engine.runner with
    | .ended (.stopped ending) =>
      some ({ d with engine := d.engine.discard.2.hangUp, concluded := some d.engine.now }.write
        (.ofEnding ending))
    | .ended (.overflow _) => some { d with concluded := some d.engine.now }
    | _ => none

/-- The reporter reads the latest stage, if there is news. -/
def reporterRead? (d : Daemon) : Option Daemon :=
  match d.reporter with
  | some ⟨watcher, none⟩ =>
    match watcher.look d.engine.core.cell with
    | ((true, stage), watcher) => some { d with reporter := some ⟨watcher, some stage⟩ }
    | ((false, _), _) => none
  | _ => none

/-- The reporter writes a line about the stage that it has read, if that is draining. -/
def reporterWrite? (d : Daemon) : Option Daemon :=
  match d.reporter with
  | some ⟨watcher, some stage⟩ =>
    let d := { d with reporter := some ⟨watcher, none⟩ }
    some (if stage = .draining then d.write (.stage stage) else d)
  | _ => none

def followUp (d : Daemon) : Daemon :=
  let d := d.conclude?.getD d
  let d := d.reporterRead?.getD d
  d.reporterWrite?.getD d

def settle (d : Daemon) : Daemon :=
  { d with engine := d.engine.settle Desk.handler }.followUp

def advanceTo (target : Instant) : Nat → Daemon → Daemon
  | 0, d => { d with engine := { d.engine with now := target } }
  | fuel + 1, d =>
    match d.engine.nextDue? with
    | some t =>
      if t ≤ target then
        advanceTo target fuel
          { d with engine := { d.engine with now := max d.engine.now t } }.settle
      else { d with engine := { d.engine with now := target } }
    | none => { d with engine := { d.engine with now := target } }

/-- Lets time pass up to an instant; things happen at whole milliseconds only. -/
def passUntil (d : Daemon) (target : Instant) : Daemon :=
  d.advanceTo target ((target - d.engine.now) / 1000000 + 2)

def advance (d : Daemon) (time : Duration) : Daemon :=
  d.passUntil (Clock.wake d.engine.now time)

def result? (d : Daemon) : Option (Except Fault RunResult) :=
  match d.refusal, d.engine.runner with
  | some fault, _ => some (.error fault)
  | none, .ended result => some (.ok result)
  | none, _ => none

/-- The exit code of a process that broke off. -/
def brokenCode : Int32 := 101

def exit? (d : Daemon) : Option (Instant × Int32) :=
  match d.concluded, d.engine.runner with
  | some t, .ended (.stopped ending) => some (t, ending.exitCode)
  | some t, .ended (.overflow _) => some (t, brokenCode)
  | _, _ => none

/-- A running daemon under signals that arrive at given instants, one after the other. -/
def play (d : Daemon) : List (Instant × Signal) → Daemon
  | [] =>
    match d.engine.deadline? with
    | some deadline => d.passUntil (max d.engine.now deadline)
    | none => d
  | (t, s) :: rest => ((d.passUntil (max d.engine.now t)).raise [s]).settle.play rest

end Daemon

end Quiesce
