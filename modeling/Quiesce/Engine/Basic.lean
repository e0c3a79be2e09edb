import Quiesce.Overflow
import Quiesce.Lifecycle.Core
import Quiesce.Workload.Pool

/-!
A daemon at work: its life, its work in flight, the signals that wait for it, and the runner that
takes them. Whatever the daemon's surroundings know is kept on a desk, which only the handler of
reload requests uses; the handler sees the settings in force and may answer with others.
-/
namespace Quiesce

/-- What serves a reload request, if it takes no time over that. -/
abbrev Handler (D : Type) := D → WorkloadSettings → Except Overflow (D × Option WorkloadSettings)

inductive RunResult where
  | stopped (ending : Ending)
  | channelClosed
  /-- A computation left its range, as when the grace period ends beyond the clock. -/
  | overflow (cause : Overflow)
  deriving DecidableEq

inductive Runner where
  | idle
  | receiving
  /-- Draining up to a deadline; listening as long as the channel is not known to be closed. -/
  | draining (deadline : Instant) (listening : Bool)
  | ended (result : RunResult)
  deriving DecidableEq

namespace Runner

def isPending : Runner → Bool
  | receiving | draining _ _ => true
  | _ => false

def listens : Runner → Bool
  | receiving => true
  | draining _ listening => listening
  | _ => false

/-- Whether the channel's end was lost with a run that broke off. -/
def lostChannel : Runner → Bool
  | ended (.overflow _) => true
  | _ => false

/-- Whether the channel's end is in use or lost. -/
def holdsChannel (r : Runner) : Bool := r.isPending || r.lostChannel

end Runner

structure Engine (D : Type) where
  now : Instant := 0
  core : Core
  pool : Pool
  tasks : List Task := []
  inbox : List Signal := []
  senderOpen : Bool := true
  runner : Runner := .idle
  desk : D

namespace Engine

variable {D : Type}

def stage (e : Engine D) : Stage := e.core.stage

def inFlight (e : Engine D) : Nat := e.tasks.length

def markReady (e : Engine D) : Bool × Engine D :=
  let (moved, core) := e.core.markReady
  (moved, { e with core := core })

/-- Answers a signal that does not come through the channel. -/
def signal (e : Engine D) (s : Signal) : Response × Engine D :=
  let (response, core) := e.core.receive s
  (response, { e with core := core })

def send (e : Engine D) (s : Signal) : Bool × Engine D :=
  if e.senderOpen && !e.runner.lostChannel then (true, { e with inbox := e.inbox ++ [s] })
  else (false, e)

/-- Closes the channel; what is in it can still be taken out. -/
def hangUp (e : Engine D) : Engine D := { e with senderOpen := false }

def beginRun (e : Engine D) : Bool × Engine D :=
  if e.runner.holdsChannel then (false, e) else (true, { e with runner := .receiving })

/-- Starts to drain up to the end of the grace period. -/
def enterDrain (e : Engine D) : Engine D :=
  match Clock.after? e.now e.core.grace with
  | some deadline => { e with runner := .draining deadline true }
  | none => { e with runner := .ended (.overflow .instant) }

def beginDrain (e : Engine D) : Bool × Engine D :=
  if e.runner.holdsChannel then (false, e) else (true, e.enterDrain)

/-- Answers every signal in the channel without acting on it, and counts them. -/
def discard (e : Engine D) : Nat × Engine D :=
  (e.inbox.length,
    { e with core := e.inbox.foldl (fun core s => (core.receive s).2) e.core, inbox := [] })

def track (e : Engine D) (t : Task) : Engine D := { e with tasks := e.tasks ++ [t] }

/-- Lets a worker in that has its first turn at once, in which it reads how long its unit is. -/
def launchWorker (e : Engine D) : Bool × Engine D :=
  if e.core.admitsLasting then
    (true, e.track ⟨.worker, Clock.wake e.now e.pool.settings.unit⟩)
  else (false, e)

def launchFrom (e : Engine D) (worker : Nat) : Nat → Except Fault Unit × Engine D
  | 0 => (.ok (), e)
  | count + 1 =>
    match e.launchWorker with
    | (true, e) => e.launchFrom (worker + 1) count
    | (false, e) => (.error (.workerRefused worker e.stage), e)

def launch (e : Engine D) : Except Fault Nat × Engine D :=
  let workers := e.pool.settings.workers.toNat
  match e.launchFrom 0 workers with
  | (.ok _, e) => (.ok workers, e)
  | (.error fault, e) => (.error fault, e)

/-- Hands in a job, with nobody in between what is read, let in and counted. -/
def submit (e : Engine D) (d : Duration) : Except JobFault Duration × Engine D :=
  match e.pool.refusal? e.stage d with
  | some fault => (.error fault, { e with pool := { e.pool with rejected := e.pool.rejected + 1 } })
  | none =>
    let e := { e with pool := { e.pool with accepted := e.pool.accepted + 1 } }
    (.ok d, e.track ⟨.job, Clock.wake e.now d⟩)

/-- Lets work from elsewhere pass the gate, which has to be open for it. -/
def admitErrand (e : Engine D) (d : Duration) : Bool × Engine D :=
  if e.core.admits then (true, e.track ⟨.errand, Clock.wake e.now d⟩) else (false, e)

def admitLastingErrand (e : Engine D) (d : Duration) : Bool × Engine D :=
  if e.core.admitsLasting then (true, e.track ⟨.errand, Clock.wake e.now d⟩) else (false, e)

def apply (e : Engine D) (update : WorkloadSettings) : Bool × Engine D :=
  let (changed, pool) := e.pool.apply update
  (changed, { e with pool := pool })

end Engine

end Quiesce
