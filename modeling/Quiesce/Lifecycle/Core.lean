import Quiesce.Duration
import Quiesce.Lifecycle.StageCell
import Quiesce.Lifecycle.Ending

/-!
The rules by which a daemon answers signals. The first request to stop closes the gate and begins
to drain, the second one forces the stop, and once stopped nothing changes any more. Every signal
is counted, and the ending, once recorded, stays.
-/
namespace Quiesce

inductive Ignored where
  /-- A process never gets to see a kill. -/
  | uncatchable
  /-- Reloading is for the ready stage alone. -/
  | notReady
  | afterStop
  deriving DecidableEq

inductive Response where
  | beginDrain
  | escalate
  | reload
  | ignored (why : Ignored)
  deriving DecidableEq

namespace Response

def of : Stage → Signal → Response
  | .stopped, _ => ignored .afterStop
  | _, .kill => ignored .uncatchable
  | .ready, .hangup => reload
  | _, .hangup => ignored .notReady
  | .starting, _ | .ready, _ => beginDrain
  | .draining, _ => escalate

def target? : Response → Option Stage
  | beginDrain => some .draining
  | escalate => some .stopped
  | _ => none

def name : Response → String
  | beginDrain => "begin-drain"
  | escalate => "escalate"
  | reload => "reload"
  | ignored .uncatchable => "ignored-uncatchable"
  | ignored .notReady => "ignored-not-ready"
  | ignored .afterStop => "ignored-after-stop"

end Response

structure Tally where
  dispatched : Nat := 0
  reloads : Nat := 0
  escalations : Nat := 0
  ignoredAfterStop : Nat := 0
  last : Option Signal := none
  deriving DecidableEq

def Tally.count (t : Tally) (signal : Signal) (response : Response) : Tally :=
  let t := { t with last := some signal }
  match response with
  | .ignored .afterStop => { t with ignoredAfterStop := t.ignoredAfterStop + 1 }
  | .ignored _ => t
  | .reload => { t with dispatched := t.dispatched + 1, reloads := t.reloads + 1 }
  | .escalate => { t with dispatched := t.dispatched + 1, escalations := t.escalations + 1 }
  | .beginDrain => { t with dispatched := t.dispatched + 1 }

structure Core where
  cell : StageCell := {}
  grace : Duration
  /-- Whether work has been told that no more of it is taken on. -/
  admissionClosed : Bool := false
  /-- Whether the work in flight may be waited for. -/
  trackerClosed : Bool := false
  ending : Option Ending := none
  tally : Tally := {}
  deriving DecidableEq

namespace Core

def stage (c : Core) : Stage := c.cell.stage

/-- The ending with `e` recorded, unless one was before. -/
def recordEnding (c : Core) (e : Ending) : Core :=
  { c with ending := some (c.ending.getD e) }

def markReady (c : Core) : Bool × Core :=
  let (moved, cell) := c.cell.transition .starting .ready
  (moved, { c with cell := cell })

/-- Closes the gate, or records the ending, before the stage moves. -/
def prepare (c : Core) (signal : Signal) : Response → Core
  | .beginDrain => { c with admissionClosed := true, trackerClosed := true }
  | .escalate => c.recordEnding (.forced signal)
  | _ => c

/-- Answers a signal and counts it. What others may see of the one without the other is left
out. -/
def receive (c : Core) (signal : Signal) : Response × Core :=
  let (response, cell) := c.cell.update fun stage =>
    ((Response.of stage signal).target?, Response.of stage signal)
  let c := c.prepare signal response
  (response, { c with cell := cell, tally := c.tally.count signal response })

def endingOr (c : Core) (e : Ending) : Ending := c.ending.getD e

/-- Ends a drain in this way. A daemon that has stopped by then keeps the ending it has, which is
read with nobody in between. -/
def finish (c : Core) (e : Ending) : Ending × Core :=
  let (stopped, cell) := c.cell.update fun stage =>
    if stage = .draining then (some .stopped, true) else (none, false)
  if stopped then (e, { c.recordEnding e with cell := cell }) else (c.endingOr e, c)

def admits (c : Core) : Bool := c.cell.withStage Stage.acceptsWork

/-- Whether the gate lets lasting work in, which may be begun before the daemon is ready. -/
def admitsLasting (c : Core) : Bool := c.cell.withStage fun stage => !stage.isEnding

end Core

end Quiesce
