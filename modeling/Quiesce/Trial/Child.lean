import Quiesce.Clock
import Quiesce.HostFault
import Quiesce.Trial.Outcome
import Quiesce.Trial.Observation
import Quiesce.Lifecycle.Signal

/-!
A child process, as its supervisor can know it: what it writes and when it ends, as a function of
the signals that it is sent. Instants count from its launch. A kill ends any child at once. Signals
go to the group of processes that the child was made to lead. The system may not let them through,
as when the child has taken another user's identity, or may find nobody in that group, as when the
child has left it.
-/
namespace Quiesce.Trial

structure Life where
  output : List (Instant × List UInt8) := []
  closed : Option Instant := none
  remarks : List String := []
  exit : Option (Instant × Exit) := none
  /-- Why the system does not let a signal through to its group, where it does not. -/
  refuses : Instant → Signal → Option HostFault := fun _ _ => none

namespace Life

def cutAt (l : Life) (t : Instant) : Life :=
  match l.exit with
  | some (e, _) => if e ≤ t then l else cut l
  | none => cut l
where
  cut (l : Life) : Life :=
    { l with output := l.output.filter (·.1 ≤ t), exit := some (t, .signal Signal.kill.number) }

def exitedBy (l : Life) (t : Instant) : Bool :=
  match l.exit with
  | some (e, _) => e ≤ t
  | none => false

def silentBy (l : Life) (t : Instant) : Bool :=
  l.exitedBy t || match l.closed with
    | some c => c ≤ t
    | none => false

def observedBy (l : Life) (t : Instant) : Observation :=
  .ofOutput (l.silentBy t) ((l.output.filter (·.1 ≤ t)).flatMap (·.2))

def newsAt (l : Life) : List Instant :=
  l.output.map (·.1) ++ l.closed.toList ++ l.exit.toList.map (·.1)

def readyFrom? (l : Life) (now : Instant) : Option Instant :=
  ((now :: l.newsAt).filter fun t => now ≤ t && (l.observedBy t).ready.isSome).min?

end Life

/-- What a process does, given the signals that it has been sent, oldest first. -/
abbrev Behaviour := List (Instant × Signal) → Life

end Quiesce.Trial
