import Quiesce.Trial.Child

/-!
A stand-in for a daemon that follows a script: it writes its output, acts once, and then acts on
each signal as the script says. Signals that come while it is busy wait until it is done, where
one of a kind stands for all of that kind, and are then taken in the order of their numbers. A
signal that the script does not know, and any kill, ends it at once.
-/
namespace Quiesce.Trial

structure Action where
  print : List UInt8 := []
  sleep : Duration := .zero
  ending : Option Exit := none

structure Script where
  output : List UInt8 := []
  closesOutput : Bool := false
  first : Action := {}
  /-- What to do on each signal, at its first delivery, its second and so on; the last action
  repeats. -/
  answers : List (Signal × List Action) := []

namespace Script

structure State where
  output : List (Instant × List UInt8) := []
  busyUntil : Instant := 0
  exit : Option (Instant × Exit) := none
  seen : List Signal := []
  waiting : List Signal := []

def State.perform (s : State) (t : Instant) (a : Action) : State :=
  if s.exit.isSome then s
  else
    { s with
      output := s.output ++ [(t, a.print)]
      busyUntil := t + a.sleep.nanos
      exit := a.ending.map fun exit => (t + a.sleep.nanos, exit) }

def actions? (script : Script) (signal : Signal) : Option (List Action) :=
  if signal = .kill then none else (script.answers.find? (·.1 == signal)).map (·.2)

def State.answer (script : Script) (s : State) (t : Instant) (signal : Signal) : State :=
  let actions := (script.actions? signal).getD []
  let action := (actions[min (s.seen.count signal) (actions.length - 1)]?).getD {}
  { s.perform t action with seen := s.seen ++ [signal] }

/-- Acts on signals that waited, one after the other, as far as it is done by an instant. -/
def State.resume (script : Script) (limit : Option Instant) : List Signal → State → State
  | [], s => { s with waiting := [] }
  | signal :: rest, s =>
    if limit.all (s.busyUntil ≤ ·) && s.exit.isNone then
      resume script limit rest (s.answer script s.busyUntil signal)
    else { s with waiting := signal :: rest }

def State.catchUp (script : Script) (limit : Option Instant) (s : State) : State :=
  s.resume script limit (Signal.inOrder s.waiting)

def State.goneBy (s : State) (t : Instant) : Bool := s.exit.any (·.1 ≤ t)

def State.take (script : Script) (s : State) (t : Instant) (signal : Signal) : State :=
  let s := s.catchUp script (some t)
  if s.goneBy t then s
  else if (script.actions? signal).isNone then { s with exit := some (t, .signal signal.number) }
  else if s.busyUntil ≤ t then s.answer script t signal
  else { s with waiting := s.waiting ++ [signal] }

def life (script : Script) : Behaviour := fun signals =>
  let start : State := { output := [(0, script.output)] }
  let s := (signals.foldl (fun s (t, signal) => s.take script t signal)
    (start.perform 0 script.first)).catchUp script none
  let live := match s.exit with
    | some (e, _) => s.output.filter (·.1 ≤ e)
    | none => s.output
  { output := if script.closesOutput then live.take 1 else live
    closed := if script.closesOutput then some 0 else none
    exit := s.exit }

end Script

end Quiesce.Trial
