import Quiesce.Engine.Step
import Quiesce.Proofs.Workload.Ledger

/-!
An engine among others who act on it at the same time. What is not done under one lock is cut at
every place where somebody else can come in between. The runner has taken a signal and not yet had
it answered, has an answer and not yet acted on it, has seen a race decided and not yet recorded
that. Work that was let in has not had its first turn, in which a worker reads how long its unit is.
Whoever hands in a job has read the unit and not the limit, or the limit and not asked at the gate,
or is in and not counted, or is counted as refused and has not read what stage to tell of. All other
calls are single moves; that a signal is answered before it is counted is not told apart, and
neither is what a drain that ends reads on record right after it. Any order of such moves is a
possible one.
-/
namespace Quiesce

/-- Work that asks to be let through the gate. -/
inductive Entry where
  | worker
  | job (time : Duration)
  | errand (time : Duration)
  /-- An errand that is let in before the daemon is ready, too. -/
  | lasting (time : Duration)

namespace Entry

def work : Entry → Work
  | .worker => .worker
  | .job _ => .job
  | .errand _ | .lasting _ => .errand

/-- The time that work takes which is let in: a worker's first unit, or all that is asked for. -/
def time (settings : WorkloadSettings) : Entry → Duration
  | .worker => settings.unit
  | .job time | .errand time | .lasting time => time

/-- Whether somebody asks for a job. -/
def isJob : Entry → Bool
  | .job _ => true
  | _ => false

end Entry

/-- Whether the gate is open for work of that kind. -/
def Engine.opensFor {D : Type} (e : Engine D) : Entry → Bool
  | .worker | .lasting _ => e.core.admitsLasting
  | .job _ | .errand _ => e.core.admits

/-- Asks to be let in and has the first turn at once. Tells whether that was granted. -/
def Engine.enter {D : Type} (e : Engine D) : Entry → Bool × Engine D
  | .worker => e.launchWorker
  | .job time => ((e.submit time).1.isOk, (e.submit time).2)
  | .errand time => e.admitErrand time
  | .lasting time => e.admitLastingErrand time

/-- How far a call is that hands in a job. -/
inductive Call where
  /-- No length is given, and the unit is not read yet. -/
  | unsized
  /-- The limit is not read yet. -/
  | sized (time : Duration)
  | fitting (time : Duration)
  | tooLong (time most : Duration)
  /-- Let in, but not counted yet. -/
  | admitted (time : Duration)
  | turnedAway (time : Duration)
  /-- Counted, with the stage to tell of not read yet. -/
  | refused (time : Duration)
  | answered (time : Duration) (answer : Except JobFault Duration)

def Call.isAdmitted : Call → Bool
  | admitted _ => true
  | _ => false

/-- Where the runner is, between two of its own actions. -/
inductive Point where
  /-- At rest; for what it waits, if it does, is the engine's to tell. -/
  | waiting
  /-- With a signal that it took out of the channel. -/
  | holding (s : Signal)
  /-- With the answer to that signal. -/
  | answered (s : Signal) (r : Response)
  /-- Serving a reload request, which may take its time. -/
  | serving
  | sawIdle
  | sawLate
  deriving DecidableEq

/-- An engine in the midst of what the runner and others do. -/
structure Scene (D : Type) where
  engine : Engine D
  point : Point := .waiting
  /-- Whether the runner was last set to drain, and not to run. -/
  direct : Bool := false
  register : Register := {}
  /-- The numbers of the work that was let in and has not had its first turn. -/
  newcomers : List (Nat × Entry) := []
  calls : List Call := []

inductive Move (D : Type) where
  | markReady
  /-- A signal is answered that does not come through the channel. -/
  | signal (s : Signal)
  | send (s : Signal)
  | hangUp
  | beginRun
  | beginDrain
  /-- One of the signals left behind by a run is counted. -/
  | discard
  /-- Work is let in and has its first turn at once. Jobs are also counted at once. -/
  | enter (x : Entry)
  /-- Work is let in that has its first turn later. -/
  | takeIn (x : Entry)
  /-- Somebody begins to hand in a job, whose length may be left to the settings. -/
  | handIn (time : Option Duration)
  /-- The call at a position takes its next step. -/
  | proceed (j : Nat)
  | apply (update : WorkloadSettings)
  /-- The task at a position has its turn: its first, or that for which its timer goes off. -/
  | fire (i : Nat)
  | pass (time : Nat)
  /-- A drain on a channel of its own ends, with no work left or at its deadline. -/
  | elsewhere (idle : Bool)
  | take
  | answer
  | act
  /-- The handler of reload requests returns, with whatever it has made of its desk. -/
  | served (desk : D) (update : Option WorkloadSettings)
  | brokeOff (cause : Overflow)
  | hearClosed
  | seeIdle
  | seeLate
  | finish

/-- Whether a move sets the runner to work, or is a part of its work. -/
def Move.isRunners {D : Type} : Move D → Bool
  | markReady | signal _ | send _ | hangUp | discard | enter _ | takeIn _ | handIn _ | proceed _
  | apply _ | fire _ | pass _ | elsewhere _ => false
  | _ => true

/-- Whether a move concerns the work in flight, or jobs that are handed in. -/
def Move.isWork {D : Type} : Move D → Bool
  | enter _ | takeIn _ | handIn _ | proceed _ | fire _ => true
  | _ => false

namespace Scene

variable {D : Type}

/-- A daemon that has just been made, and that nobody has acted on. -/
def fresh (grace : Duration) (settings : WorkloadSettings) (desk : D) : Scene D where
  engine := { core := { grace := grace }, pool := { settings := settings }, desk := desk }

/-- Sets the runner to work, if it is free. -/
def begin? (s : Scene D) (direct : Bool) : Bool × Engine D → Option (Scene D)
  | (true, e) => some { s with engine := e, direct := direct }
  | (false, _) => none

def enter (s : Scene D) (x : Entry) : Scene D :=
  { s with
    engine := (s.engine.enter x).2
    register := if (s.engine.enter x).1 then s.register.enroll else s.register }

/-- Lets work in, and leaves its first turn for later. -/
def takeIn (s : Scene D) (x : Entry) : Scene D :=
  { s with
    engine := s.engine.track ⟨x.work, s.engine.now⟩
    register := s.register.enroll
    newcomers := s.newcomers ++ [(s.register.begun, x)] }

def takeIn? (s : Scene D) (x : Entry) : Option (Scene D) :=
  if x.isJob then none else if s.engine.opensFor x then some (s.takeIn x) else some s

def withPool (s : Scene D) (pool : Pool) : Scene D :=
  { s with engine := { s.engine with pool := pool } }

/-- The next step of a call that hands in a job, with what it leaves behind. -/
def step? (s : Scene D) : Call → Option (Scene D × Call)
  | .unsized => some (s, .sized s.engine.pool.settings.unit)
  | .sized time =>
    if time.nanos > s.engine.pool.settings.jobLimit.nanos then
      some (s, .tooLong time s.engine.pool.settings.jobLimit)
    else some (s, .fitting time)
  | .fitting time =>
    if s.engine.opensFor (.job time) then some (s.takeIn (.job time), .admitted time)
    else some (s, .turnedAway time)
  | .admitted time =>
    some (s.withPool { s.engine.pool with accepted := s.engine.pool.accepted + 1 },
      .answered time (.ok time))
  | .tooLong time most =>
    some (s.withPool { s.engine.pool with rejected := s.engine.pool.rejected + 1 },
      .answered time (.error (.tooLong time.millisWord most.millisWord)))
  | .turnedAway time =>
    some (s.withPool { s.engine.pool with rejected := s.engine.pool.rejected + 1 },
      .refused time)
  | .refused time => some (s, .answered time (.error (.notAccepting s.engine.stage)))
  | .answered _ _ => none

def proceed? (s : Scene D) (j : Nat) : Option (Scene D) :=
  (s.calls[j]?.bind s.step?).map fun (t, call) => { t with calls := t.calls.set j call }

/-- The work at a position, if its first turn is still to come. -/
def newcomer? (s : Scene D) (i : Nat) : Option (Nat × Entry) :=
  s.register.live[i]?.bind fun n => s.newcomers.find? (·.1 = n)

/-- The first turn of work, by which its timer is set. -/
def firstTurn (s : Scene D) (i : Nat) (newcomer : Nat × Entry) : Scene D :=
  let due := Clock.wake s.engine.now (newcomer.2.time s.engine.pool.settings)
  { s with
    engine := { s.engine with tasks := s.engine.tasks.modify i ({ · with due := due }) }
    newcomers := s.newcomers.filter (·.1 ≠ newcomer.1) }

/-- The work at a position has its first turn, or goes on, or is done and leaves. -/
def fire? (s : Scene D) (i : Nat) : Option (Scene D) :=
  match s.newcomer? i with
  | some newcomer => some (s.firstTurn i newcomer)
  | none =>
    (s.engine.fire i).map fun e =>
      { s with
        engine := e
        register :=
          if e.inFlight < s.engine.inFlight then s.register.complete i else s.register }

/-- Counts a signal that nobody waits for any more. -/
def discard? (s : Scene D) : Option (Scene D) :=
  match s.engine.runner.holdsChannel, s.engine.inbox with
  | false, k :: rest => some { s with engine := ({ s.engine with inbox := rest }.signal k).2 }
  | _, _ => none

def elsewhere? (s : Scene D) (idle : Bool) : Option (Scene D) :=
  if idle && !s.engine.isIdle then none
  else
    let ending := if idle then .drained else .graceExpired
    some { s with engine := { s.engine with core := (s.engine.core.finish ending).2 } }

def take? (s : Scene D) : Option (Scene D) :=
  match s.point, s.engine.inbox with
  | .waiting, k :: rest =>
    if s.engine.runner.listens then
      some { s with engine := { s.engine with inbox := rest }, point := .holding k }
    else none
  | _, _ => none

def answer? (s : Scene D) : Option (Scene D) :=
  match s.point with
  | .holding k =>
    some { s with
      engine := (s.engine.signal k).2, point := .answered k (s.engine.signal k).1 }
  | _ => none

/-- Acts on the answer to a signal. While it drains, only a forced stop is of interest. -/
def act? (s : Scene D) : Option (Scene D) :=
  match s.point, s.engine.runner with
  | .answered _ .beginDrain, .receiving =>
    some { s with engine := s.engine.enterDrain, point := .waiting }
  | .answered _ .reload, .receiving => some { s with point := .serving }
  | .answered k .escalate, _ =>
    some { s with engine := s.engine.endForced k, point := .waiting }
  | .answered _ _, _ => some { s with point := .waiting }
  | _, _ => none

def hearClosed? (s : Scene D) : Option (Scene D) :=
  match s.point, s.engine.inbox, s.engine.senderOpen, s.engine.runner with
  | .waiting, [], false, .receiving =>
    some { s with engine := { s.engine with runner := .ended .channelClosed } }
  | .waiting, [], false, .draining deadline true =>
    some { s with engine := { s.engine with runner := .draining deadline false } }
  | _, _, _, _ => none

def seeIdle? (s : Scene D) : Option (Scene D) :=
  match s.point, s.engine.runner with
  | .waiting, .draining _ _ => if s.engine.isIdle then some { s with point := .sawIdle } else none
  | _, _ => none

def seeLate? (s : Scene D) : Option (Scene D) :=
  match s.point, s.engine.runner with
  | .waiting, .draining deadline _ =>
    if Clock.tick deadline ≤ s.engine.now then some { s with point := .sawLate } else none
  | _, _ => none

def finish? (s : Scene D) : Option (Scene D) :=
  match s.point with
  | .sawIdle => some { s with engine := s.engine.finish .drained, point := .waiting }
  | .sawLate => some { s with engine := s.engine.finish .graceExpired, point := .waiting }
  | _ => none

/-- What a move makes of a scene, if it can be made. -/
def move? (s : Scene D) : Move D → Option (Scene D)
  | .markReady => some { s with engine := s.engine.markReady.2 }
  | .signal k => some { s with engine := (s.engine.signal k).2 }
  | .send k => some { s with engine := (s.engine.send k).2 }
  | .hangUp => some { s with engine := s.engine.hangUp }
  | .beginRun => s.begin? false s.engine.beginRun
  | .beginDrain => s.begin? true s.engine.beginDrain
  | .discard => s.discard?
  | .enter x => some (s.enter x)
  | .takeIn x => s.takeIn? x
  | .handIn time => some { s with calls := s.calls ++ [time.elim .unsized .sized] }
  | .proceed j => s.proceed? j
  | .apply update => some { s with engine := (s.engine.apply update).2 }
  | .fire i => s.fire? i
  | .pass time => some { s with engine := { s.engine with now := s.engine.now + time } }
  | .elsewhere idle => s.elsewhere? idle
  | .take => s.take?
  | .answer => s.answer?
  | .act => s.act?
  | .served desk update =>
    if s.point = .serving then
      some { s with engine := s.engine.reloaded desk update, point := .waiting }
    else none
  | .brokeOff cause =>
    if s.point = .serving then
      some { s with engine := s.engine.breakOff cause, point := .waiting }
    else none
  | .hearClosed => s.hearClosed?
  | .seeIdle => s.seeIdle?
  | .seeLate => s.seeLate?
  | .finish => s.finish?

variable {s t : Scene D}

theorem begin?_eq_some {direct : Bool} {answer : Bool × Engine D}
    (h : s.begin? direct answer = some t) :
    answer.1 = true ∧ t = { s with engine := answer.2, direct := direct } := by
  obtain ⟨granted, e⟩ := answer
  cases granted <;> simp_all [begin?]

theorem takeIn?_eq_some {x : Entry} (h : s.takeIn? x = some t) : x.isJob = false ∧
    (s.engine.opensFor x = true ∧ t = s.takeIn x ∨ s.engine.opensFor x = false ∧ t = s) := by
  unfold takeIn? at h
  split_ifs at h with job opens <;> cases h
  · exact ⟨by simpa using job, .inl ⟨opens, rfl⟩⟩
  · exact ⟨by simpa using job, .inr ⟨by simpa using opens, rfl⟩⟩

theorem proceed?_eq_some {j : Nat} (h : s.proceed? j = some t) :
    ∃ call u next, s.calls[j]? = some call ∧ s.step? call = some (u, next) ∧
      t = { u with calls := u.calls.set j next } := by
  obtain ⟨⟨u, next⟩, stepped, rfl⟩ := Option.map_eq_some_iff.mp h
  obtain ⟨call, here, stepped⟩ := Option.bind_eq_some_iff.mp stepped
  exact ⟨call, u, next, here, stepped, rfl⟩

theorem newcomer?_eq_some {i n : Nat} {x : Entry} (h : s.newcomer? i = some (n, x)) :
    s.register.live[i]? = some n ∧ (n, x) ∈ s.newcomers := by
  obtain ⟨k, number, found⟩ := Option.bind_eq_some_iff.mp h
  have same : n = k := by simpa using List.find?_some found
  exact ⟨same ▸ number, List.mem_of_find?_eq_some found⟩

theorem newcomer?_eq_none {i n : Nat} (h : s.newcomer? i = none)
    (number : s.register.live[i]? = some n) (x : Entry) : (n, x) ∉ s.newcomers := by
  simp only [newcomer?, number, Option.bind_some, List.find?_eq_none] at h
  exact fun inside => h (n, x) inside (decide_eq_true rfl)

theorem fire?_of_newcomer {i : Nat} {newcomer : Nat × Entry}
    (first : s.newcomer? i = some newcomer) : s.fire? i = some (s.firstTurn i newcomer) := by
  simp only [fire?, first]

theorem fire?_eq_some {i : Nat} (h : s.fire? i = some t) :
    (∃ newcomer, s.newcomer? i = some newcomer ∧ t = s.firstTurn i newcomer) ∨
      s.newcomer? i = none ∧ ∃ e, s.engine.fire i = some e ∧
        t = { s with
          engine := e
          register :=
            if e.inFlight < s.engine.inFlight then s.register.complete i else s.register } := by
  unfold fire? at h
  split at h
  · rename_i newcomer first
    cases h
    exact .inl ⟨newcomer, first, rfl⟩
  · rename_i later
    obtain ⟨e, he, rfl⟩ := Option.map_eq_some_iff.mp h
    exact .inr ⟨later, e, he, rfl⟩

theorem discard?_eq_some (h : s.discard? = some t) :
    s.engine.runner.holdsChannel = false ∧ ∃ k rest, s.engine.inbox = k :: rest ∧
      t = { s with engine := ({ s.engine with inbox := rest }.signal k).2 } := by
  unfold discard? at h
  split at h
  · rename_i k rest hr hi
    cases h
    exact ⟨hr, k, rest, hi, rfl⟩
  · cases h

theorem elsewhere?_eq_some {idle : Bool} (h : s.elsewhere? idle = some t) :
    (idle = true → s.engine.isIdle = true) ∧
      t = { s with engine := { s.engine with
        core := (s.engine.core.finish (if idle then .drained else .graceExpired)).2 } } := by
  unfold elsewhere? at h
  split at h
  · cases h
  · rename_i granted
    cases h
    refine ⟨?_, rfl⟩
    intro hidle
    simpa [hidle] using granted

theorem take?_eq_some (h : s.take? = some t) :
    s.point = .waiting ∧ s.engine.runner.listens = true ∧
      ∃ k rest, s.engine.inbox = k :: rest ∧
        t = { s with engine := { s.engine with inbox := rest }, point := .holding k } := by
  unfold take? at h
  split at h
  · rename_i k rest hp hi
    split at h
    · rename_i hl
      cases h
      exact ⟨hp, hl, k, rest, hi, rfl⟩
    · cases h
  · cases h

theorem answer?_eq_some (h : s.answer? = some t) :
    ∃ k, s.point = .holding k ∧
      t = { s with
        engine := (s.engine.signal k).2, point := .answered k (s.engine.signal k).1 } := by
  unfold answer? at h
  split at h
  · rename_i k hp
    cases h
    exact ⟨k, hp, rfl⟩
  · cases h

theorem act?_eq_some (h : s.act? = some t) :
    ∃ k r, s.point = .answered k r ∧
      ((r = .beginDrain ∧ s.engine.runner = .receiving ∧
          t = { s with engine := s.engine.enterDrain, point := .waiting }) ∨
        (r = .reload ∧ s.engine.runner = .receiving ∧ t = { s with point := .serving }) ∨
        (r = .escalate ∧ t = { s with engine := s.engine.endForced k, point := .waiting }) ∨
        t = { s with point := .waiting }) := by
  unfold act? at h
  split at h
  · rename_i k hp hr
    cases h
    exact ⟨k, _, hp, .inl ⟨rfl, hr, rfl⟩⟩
  · rename_i k hp hr
    cases h
    exact ⟨k, _, hp, .inr (.inl ⟨rfl, hr, rfl⟩)⟩
  · rename_i k hp
    cases h
    exact ⟨k, _, hp, .inr (.inr (.inl ⟨rfl, rfl⟩))⟩
  · rename_i k r _ hp _ _
    cases h
    exact ⟨k, r, hp, .inr (.inr (.inr rfl))⟩
  · cases h

theorem served_eq_some {desk : D} {update : Option WorkloadSettings}
    (h : s.move? (.served desk update) = some t) :
    s.point = .serving ∧
      t = { s with engine := s.engine.reloaded desk update, point := .waiting } := by
  simp only [move?] at h
  split at h
  · rename_i serving
    cases h
    exact ⟨serving, rfl⟩
  · cases h

theorem brokeOff_eq_some {cause : Overflow} (h : s.move? (.brokeOff cause) = some t) :
    s.point = .serving ∧ t = { s with engine := s.engine.breakOff cause, point := .waiting } := by
  simp only [move?] at h
  split at h
  · rename_i serving
    cases h
    exact ⟨serving, rfl⟩
  · cases h

theorem hearClosed?_eq_some (h : s.hearClosed? = some t) :
    s.point = .waiting ∧ s.engine.inbox = [] ∧ s.engine.senderOpen = false ∧
      ((s.engine.runner = .receiving ∧
          t = { s with engine := { s.engine with runner := .ended .channelClosed } }) ∨
        ∃ deadline, s.engine.runner = .draining deadline true ∧
          t = { s with engine := { s.engine with runner := .draining deadline false } }) := by
  unfold hearClosed? at h
  split at h
  · rename_i hp hi ho hr
    cases h
    exact ⟨hp, hi, ho, .inl ⟨hr, rfl⟩⟩
  · rename_i deadline hp hi ho hr
    cases h
    exact ⟨hp, hi, ho, .inr ⟨deadline, hr, rfl⟩⟩
  · cases h

theorem seeIdle?_eq_some (h : s.seeIdle? = some t) :
    s.point = .waiting ∧ (∃ deadline listening, s.engine.runner = .draining deadline listening) ∧
      s.engine.isIdle = true ∧ t = { s with point := .sawIdle } := by
  unfold seeIdle? at h
  split at h
  · rename_i deadline listening hp hr
    split at h
    · rename_i hidle
      cases h
      exact ⟨hp, ⟨deadline, listening, hr⟩, hidle, rfl⟩
    · cases h
  · cases h

theorem seeLate?_eq_some (h : s.seeLate? = some t) :
    s.point = .waiting ∧ (∃ deadline listening, s.engine.runner = .draining deadline listening ∧
      Clock.tick deadline ≤ s.engine.now) ∧ t = { s with point := .sawLate } := by
  unfold seeLate? at h
  split at h
  · rename_i deadline listening hp hr
    split at h
    · rename_i late
      cases h
      exact ⟨hp, ⟨deadline, listening, hr, late⟩, rfl⟩
    · cases h
  · cases h

theorem finish?_eq_some (h : s.finish? = some t) :
    (s.point = .sawIdle ∧
        t = { s with engine := s.engine.finish .drained, point := .waiting }) ∨
      (s.point = .sawLate ∧
        t = { s with engine := s.engine.finish .graceExpired, point := .waiting }) := by
  unfold finish? at h
  split at h
  · rename_i hp
    cases h
    exact .inl ⟨hp, rfl⟩
  · rename_i hp
    cases h
    exact .inr ⟨hp, rfl⟩
  · cases h

/-- Makes the moves one after the other. -/
def run : Scene D → List (Move D) → Option (Scene D)
  | s, [] => some s
  | s, m :: rest => (s.move? m).bind (run · rest)

/-- Some moves lead from a daemon that has just been made to this scene. -/
def Reachable (s : Scene D) : Prop :=
  ∃ grace settings desk moves, (fresh grace settings desk).run moves = some s

theorem run_cons {u : Scene D} {m : Move D} {ms : List (Move D)} (h : s.move? m = some t)
    (rest : t.run ms = some u) : s.run (m :: ms) = some u := by
  rw [run, h]
  exact rest

theorem run_append (s : Scene D) (ms ns : List (Move D)) :
    s.run (ms ++ ns) = (s.run ms).bind (run · ns) := by
  induction ms generalizing s with
  | nil => rfl
  | cons m ms ih =>
      simp only [List.cons_append, run]
      cases s.move? m with
      | none => rfl
      | some t => exact ih t

/-- What every single move keeps, a whole run keeps. -/
theorem run_invariant {P : Scene D → Prop}
    (keep : ∀ {s t : Scene D} {m : Move D}, s.move? m = some t → P s → P t)
    {ms : List (Move D)} (h : s.run ms = some t) (hs : P s) : P t := by
  induction ms generalizing s with
  | nil => cases h; exact hs
  | cons m ms ih =>
      obtain ⟨u, hu, hrest⟩ := Option.bind_eq_some_iff.mp h
      exact ih hrest (keep hu hs)

theorem Reachable.invariant {P : Scene D → Prop}
    (start : ∀ grace settings desk, P (fresh grace settings desk))
    (keep : ∀ {s t : Scene D} {m : Move D}, s.move? m = some t → P s → P t)
    (h : s.Reachable) : P s := by
  obtain ⟨grace, settings, desk, ms, hrun⟩ := h
  exact run_invariant keep hrun (start grace settings desk)

theorem Reachable.run (h : s.Reachable) {ms : List (Move D)}
    (hrun : s.run ms = some t) : t.Reachable := by
  obtain ⟨grace, settings, desk, before, hs⟩ := h
  refine ⟨grace, settings, desk, before ++ ms, ?_⟩
  rw [run_append, hs]
  exact hrun

end Scene

end Quiesce
