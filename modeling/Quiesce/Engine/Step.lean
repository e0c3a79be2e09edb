import Quiesce.Engine.Basic

/-!
How an engine moves on by itself: the timer of a task goes off, or the runner takes a step. The
runner takes signals before it looks at the work in flight, and looks at that before it looks at
its deadline.
-/
namespace Quiesce.Engine

variable {D : Type}

def reloaded (e : Engine D) (desk : D) : Option WorkloadSettings → Engine D
  | some update => { e with desk := desk, pool := (e.pool.apply update).2 }
  | none => { e with desk := desk }

def breakOff (e : Engine D) (cause : Overflow) : Engine D :=
  { e with runner := .ended (.overflow cause) }

def serveReload (handler : Handler D) (e : Engine D) : Engine D :=
  match handler e.desk e.pool.settings with
  | .ok (desk, update) => e.reloaded desk update
  | .error cause => e.breakOff cause

def finish (e : Engine D) (ending : Ending) : Engine D :=
  let (ending, core) := e.core.finish ending
  { e with core := core, runner := .ended (.stopped ending) }

def endForced (e : Engine D) (s : Signal) : Engine D :=
  { e with runner := .ended (.stopped (e.core.endingOr (.forced s))) }

def takeReceiving (handler : Handler D) (e : Engine D) (s : Signal) : Engine D :=
  match e.signal s with
  | (.beginDrain, e) => e.enterDrain
  | (.escalate, e) => e.endForced s
  | (.reload, e) => e.serveReload handler
  | (.ignored _, e) => e

def takeDraining (e : Engine D) (s : Signal) : Engine D :=
  match e.signal s with
  | (.escalate, e) => e.endForced s
  | (_, e) => e

/-- Whether a wait for the work in flight is over. -/
def isIdle (e : Engine D) : Bool := e.core.trackerClosed && e.tasks.isEmpty

/-- The next step of the runner, unless it has to wait. -/
def poll (handler : Handler D) (e : Engine D) : Option (Engine D) :=
  match e.runner, e.inbox with
  | .receiving, s :: rest => some ({ e with inbox := rest }.takeReceiving handler s)
  | .receiving, [] =>
    if e.senderOpen then none else some { e with runner := .ended .channelClosed }
  | .draining _ true, s :: rest => some ({ e with inbox := rest }.takeDraining s)
  | .draining deadline listening, _ =>
    if listening && !e.senderOpen then some { e with runner := .draining deadline false }
    else if e.isIdle then some (e.finish .drained)
    else if Clock.tick deadline ≤ e.now then some (e.finish .graceExpired)
    else none
  | _, _ => none

def pollAll (handler : Handler D) : Nat → Engine D → Engine D
  | 0, e => e
  | fuel + 1, e =>
    match e.poll handler with
    | none => e
    | some e => pollAll handler fuel e

def fire (e : Engine D) (i : Nat) : Option (Engine D) :=
  match e.tasks[i]? with
  | none => none
  | some t =>
    if t.due ≤ e.now then
      some { e with
        pool := e.pool.record t.work
        tasks := match t.next? e.now e.core.admissionClosed e.pool.settings with
          | some next => e.tasks.set i next
          | none => e.tasks.eraseIdx i }
    else none

def fireDue (e : Engine D) : Engine D :=
  let due := e.tasks.filter (·.due ≤ e.now)
  { e with
    pool := due.foldl (fun pool t => pool.record t.work) e.pool
    tasks := e.tasks.filterMap fun t =>
      if t.due ≤ e.now then t.next? e.now e.core.admissionClosed e.pool.settings else some t }

/-- Lets the runner go on until it has to wait. Each signal in the channel is one step; to notice
that the channel is closed, to finish and to find nothing left are three more. -/
def attend (handler : Handler D) (e : Engine D) : Engine D :=
  e.pollAll handler (e.inbox.length + 3)

/-- Everything that happens at this instant: timers first, then the runner. -/
def settle (handler : Handler D) (e : Engine D) : Engine D := e.fireDue.attend handler

def deadline? (e : Engine D) : Option Instant :=
  match e.runner with
  | .draining deadline _ => some (Clock.tick deadline)
  | _ => none

def nextDue? (e : Engine D) : Option Instant :=
  (e.deadline?.toList ++ e.tasks.map (·.due)).min?

def advanceTo (handler : Handler D) (target : Instant) : Nat → Engine D → Engine D
  | 0, e => { e with now := target }
  | fuel + 1, e =>
    match e.nextDue? with
    | some t =>
      if t ≤ target then
        advanceTo handler target fuel ({ e with now := max e.now t }.settle handler)
      else { e with now := target }
    | none => { e with now := target }

/-- Lets time pass up to an instant. Things happen at whole milliseconds only, which bounds their
number. -/
def passUntil (handler : Handler D) (e : Engine D) (target : Instant) : Engine D :=
  e.advanceTo handler target ((target - e.now) / 1000000 + 2)

def advance (handler : Handler D) (e : Engine D) (d : Duration) : Engine D :=
  e.passUntil handler (Clock.wake e.now d)

end Quiesce.Engine
