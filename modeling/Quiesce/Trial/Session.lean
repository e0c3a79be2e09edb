import Quiesce.Trial.Child
import Quiesce.Trial.Fault

/-!
A supervisor with one child: signals go to the child, time passes in waiting, and the exit of the
child is collected by a wait. Until then a child that has ended can still be sent signals, which
do nothing. Time is exact here: the timers that a supervisor sleeps by wake it up to a millisecond
late, which `Clock.wake` has for those of a daemon.
-/
namespace Quiesce.Trial

inductive Delivery where
  | delivered
  | alreadyExited
  deriving DecidableEq

structure Session where
  behaviour : Behaviour
  now : Instant := 0
  /-- Signals that reached the living child, kills excepted. -/
  delivered : List (Instant × Signal) := []
  attempts : List (Instant × Signal) := []
  killed : Option Instant := none
  collected : Option Exit := none

namespace Session

def life (s : Session) : Life :=
  match s.killed with
  | some t => (s.behaviour s.delivered).cutAt t
  | none => s.behaviour s.delivered

def observed (s : Session) : Observation := s.life.observedBy s.now

def lastStage (s : Session) : Option Stage := s.observed.lastStage

def sleep (s : Session) (d : Duration) : Session := { s with now := s.now + d.nanos }

/-- Sends a signal that the system lets through. -/
def signal (s : Session) (signal : Signal) : Delivery × Session :=
  let s := { s with attempts := s.attempts ++ [(s.now, signal)] }
  if s.collected.isSome then (.alreadyExited, s)
  else if s.life.exitedBy s.now then (.delivered, s)
  else if signal = .kill then (.delivered, { s with killed := some s.now })
  else (.delivered, { s with delivered := s.delivered ++ [(s.now, signal)] })

/-- Sends a signal to the group of the child. For a child that is gone the system is not asked any
more, and one whose group has nobody in it is taken to be gone. -/
def deliver (s : Session) (signal : Signal) : Except Fault Delivery × Session :=
  match if s.collected.isSome then none else s.life.refuses s.now signal with
  | some cause =>
    let s := { s with attempts := s.attempts ++ [(s.now, signal)] }
    if cause = .noSuchProcess then (.ok .alreadyExited, s)
    else (.error (.delivery signal cause), s)
  | none =>
    let (delivery, s) := s.signal signal
    (.ok delivery, s)

def waitWithin (s : Session) (d : Duration) : Option Exit × Session :=
  match s.collected, s.life.exit with
  | some exit, _ => (some exit, s)
  | none, some (t, exit) =>
    if t ≤ s.now + d.nanos then
      (some exit, { s with now := max s.now t, collected := some exit })
    else (none, s.sleep d)
  | none, none => (none, s.sleep d)

/-- Kills the child itself, in whatever group it is. -/
def strike (s : Session) : Session :=
  if s.life.exitedBy s.now then s else { s with killed := some s.now }

/-- Kills the group of the child and then the child, and collects its exit. A child that may not be
killed with its group may not be killed by itself, either. -/
def kill (s : Session) : Session :=
  match s.deliver .kill with
  | (.ok _, s) => (s.strike.waitWithin .zero).2
  | (.error _, s) => s

/-- Waits for the child to be ready. A child that ends first could not be launched. -/
def waitReady (program : String) (within : Duration) (s : Session) :
    Except Fault (UInt32 × Option String) × Session :=
  let deadline := s.now + within.nanos
  let ready? := (s.life.readyFrom? s.now).filter fun t =>
    t = s.now || (t ≤ deadline && match s.life.exit with
      | some (e, _) => decide (t ≤ e)
      | none => true)
  match ready?.bind fun t => ({ s with now := t }.observed.ready).map fun ready => (t, ready) with
  | some (t, ready) => (.ok ready, { s with now := t })
  | none =>
    match s.waitWithin within with
    | (some exit, s) => (.error (.launch program (.exitedEarly exit)), s)
    | (none, s) => (.error (.timeout .readiness within s.lastStage), s)

/-- Waits for the child to end; one that does not end in time is killed. -/
def awaitExit (within : Duration) (started : Instant) (graceBound : Duration) (s : Session) :
    Except Fault Outcome × Session :=
  match s.waitWithin within with
  | (some exit, s) => (.ok (.classify exit (.between started s.now) graceBound), s)
  | (none, s) => (.error (.timeout .exit (.between started s.now) s.lastStage), s.kill)

def isOpen (s : Session) : Bool := s.collected.isNone

end Session

end Quiesce.Trial
