import Quiesce.Proofs.Engine.Operations
import Quiesce.Proofs.Lifecycle.CoreChange

/-!
A runner that is woken up from time to time. Between two of its turns anything may happen that does
not touch the core: signals are sent, the channel is closed, timers go off, time passes, work comes
in, settings change. At its turn the runner goes on until it has to wait again, and what comes of
that is settled by what it finds.
-/
namespace Quiesce

/-- What can happen while the runner waits. -/
inductive Happening where
  | send (s : Signal)
  | hangUp
  /-- The timer of the task at a position goes off, if it is due. -/
  | fire (i : Nat)
  | pass (time : Nat)
  | enter (x : Entry)
  | apply (update : WorkloadSettings)

/-- A handler of reload requests that always answers, and takes no time for it. -/
def Handler.answering {D : Type} (reply : D → WorkloadSettings → D × Option WorkloadSettings) :
    Handler D :=
  fun desk settings => .ok (reply desk settings)

namespace Engine

variable {D : Type}

def happen (e : Engine D) : Happening → Engine D
  | .send k => (e.send k).2
  | .hangUp => e.hangUp
  | .fire i => (e.fire i).getD e
  | .pass time => { e with now := e.now + time }
  | .enter x => (e.enter x).2
  | .apply update => (e.apply update).2

/-- Lets things happen in several rounds, and gives the runner its turn at the end of each. -/
def play (handler : Handler D) : Engine D → List (List Happening) → Engine D
  | e, [] => e
  | e, round :: rest => ((round.foldl happen e).attend handler).play handler rest

/-- The engine as the runner finds it at each of its turns. -/
def found (handler : Handler D) : Engine D → List (List Happening) → List (Engine D)
  | _, [] => []
  | e, round :: rest =>
    round.foldl happen e :: ((round.foldl happen e).attend handler).found handler rest

/-- What a drain up to the deadline decides at its turn: a forced stop comes before a clean one, and
that comes before the deadline. -/
def verdict? (deadline : Instant) (e : Engine D) : Option Ending :=
  match e.inbox.find? Signal.asksToStop with
  | some k => some (.forced k)
  | none =>
    if e.tasks = [] then some .drained
    else if Clock.tick deadline ≤ e.now then some .graceExpired
    else none

/-- The channel gives nothing any more. -/
def Exhausted (e : Engine D) : Prop := e.inbox = [] ∧ e.senderOpen = false

theorem happen_frame (e : Engine D) (h : Happening) :
    (e.happen h).core = e.core ∧ (e.happen h).runner = e.runner ∧
      (e.Exhausted → (e.happen h).Exhausted) := by
  cases h with
  | send k =>
      simp only [happen, send]
      split
      · rename_i isOpen
        refine ⟨rfl, rfl, ?_⟩
        rintro ⟨_, closed⟩
        simp [closed] at isOpen
      · exact ⟨rfl, rfl, id⟩
  | hangUp => exact ⟨rfl, rfl, fun exhausted => ⟨exhausted.1, rfl⟩⟩
  | fire i =>
      cases fired : e.fire i with
      | none => simp [happen, fired]
      | some f =>
          obtain ⟨task, _, _, ⟨next, _, _, _, rfl⟩ | rfl⟩ := fire_eq_some fired
          all_goals
            simp only [happen, fired, Option.getD_some, true_and]
            exact id
  | enter x =>
      obtain ⟨tasks, pool, entered, _⟩ := e.enter_eq x
      simp only [happen, entered, true_and]
      exact id
  | pass _ | apply _ => exact ⟨rfl, rfl, id⟩

theorem round_frame (e : Engine D) (round : List Happening) :
    (round.foldl happen e).core = e.core ∧ (round.foldl happen e).runner = e.runner ∧
      (e.Exhausted → (round.foldl happen e).Exhausted) := by
  induction round generalizing e with
  | nil => exact ⟨rfl, rfl, id⟩
  | cons h round ih =>
      obtain ⟨core, runner, closed⟩ := e.happen_frame h
      obtain ⟨cores, runners, closes⟩ := ih (e.happen h)
      exact ⟨cores.trans core, runners.trans runner, fun exhausted => closes (closed exhausted)⟩

section Turns

variable {handler : Handler D} {e f : Engine D}

theorem pollAll_of_none (rest : e.poll handler = none) (fuel : Nat) :
    e.pollAll handler fuel = e := by
  cases fuel with
  | zero => rfl
  | succ fuel => simp only [pollAll, rest]

theorem pollAll_of_some (step : e.poll handler = some f) (fuel : Nat) :
    e.pollAll handler (fuel + 1) = f.pollAll handler fuel := by
  simp only [pollAll, step]

/-- An ended run takes no more turns. -/
theorem poll_of_ended {result : RunResult} (h : e.runner = .ended result) :
    e.poll handler = none := by
  simp only [poll, h]

theorem play_of_ended {result : RunResult} (h : e.runner = .ended result)
    (rounds : List (List Happening)) :
    (e.play handler rounds).runner = .ended result ∧ (e.play handler rounds).core = e.core := by
  induction rounds generalizing e with
  | nil => exact ⟨h, rfl⟩
  | cons round rounds ih =>
      obtain ⟨core, runner, _⟩ := e.round_frame round
      have ended := runner.trans h
      have same : (round.foldl happen e).attend handler = round.foldl happen e :=
        pollAll_of_none (poll_of_ended ended) _
      obtain ⟨runners, cores⟩ := ih ended
      simp only [play, same]
      exact ⟨runners, cores.trans core⟩

/-- Signals that do not ask to stop have been taken out of the channel, and what came of them shows
in the counts, the settings and the desk only. -/
structure PassedOver (e f : Engine D) : Prop where
  now : f.now = e.now
  core : e.core.Still f.core
  tasks : f.tasks = e.tasks
  senderOpen : f.senderOpen = e.senderOpen
  runner : f.runner = e.runner

theorem PassedOver.refl (e : Engine D) : e.PassedOver e := ⟨rfl, .refl _, rfl, rfl, rfl⟩

theorem PassedOver.trans {g : Engine D} (h : e.PassedOver f) (k : f.PassedOver g) :
    e.PassedOver g where
  now := k.now.trans h.now
  core := h.core.trans k.core
  tasks := k.tasks.trans h.tasks
  senderOpen := k.senderOpen.trans h.senderOpen
  runner := k.runner.trans h.runner

end Turns

section Signals

variable (reply : D → WorkloadSettings → D × Option WorkloadSettings) {e : Engine D}

theorem signal_eq (e : Engine D) (k : Signal) :
    e.signal k = (Response.of e.stage k, { e with core := (e.core.receive k).2 }) :=
  Prod.ext (Core.receive_response e.core k) rfl

/-- A signal that does not ask to stop is counted, and may lead to a reload, but not to more. -/
theorem signal_calm (e : Engine D) {k : Signal} (calm : k.asksToStop = false) :
    ∃ tally response, e.signal k = (response, { e with core := { e.core with tally := tally } }) ∧
      (response = .reload ∨ ∃ why, response = .ignored why) := by
  have counted := Core.receive_of_target?_eq_none e.core k (Response.target?_of _ k calm)
  refine ⟨e.core.tally.count k (Response.of e.stage k), Response.of e.stage k, ?_, ?_⟩
  · rw [signal_eq, counted]
    rfl
  · cases answer : Response.of e.stage k with
    | beginDrain =>
        have asks := ((Response.of_eq_beginDrain_iff _ k).mp answer).2
        rw [calm] at asks
        cases asks
    | escalate =>
        have asks := ((Response.of_eq_escalate_iff _ k).mp answer).2
        rw [calm] at asks
        cases asks
    | reload => exact .inl rfl
    | ignored why => exact .inr ⟨why, rfl⟩

theorem takeReceiving_calm (e : Engine D) {k : Signal} (calm : k.asksToStop = false) :
    e.PassedOver (e.takeReceiving (.answering reply) k) ∧
      (e.takeReceiving (.answering reply) k).inbox = e.inbox := by
  obtain ⟨tally, response, answered, rfl | ⟨why, rfl⟩⟩ := signal_calm e calm
  · simp only [takeReceiving, answered, serveReload, Handler.answering]
    obtain ⟨pool, reloaded, _⟩ := reloaded_eq { e with core := { e.core with tally := tally } }
      (reply e.desk e.pool.settings).1 (reply e.desk e.pool.settings).2
    rw [reloaded]
    exact ⟨⟨rfl, rfl, rfl, rfl, rfl⟩, rfl⟩
  · simp only [takeReceiving, answered, and_true]
    exact ⟨rfl, rfl, rfl, rfl, rfl⟩

theorem takeDraining_calm (e : Engine D) {k : Signal} (calm : k.asksToStop = false) :
    e.PassedOver (e.takeDraining k) ∧ (e.takeDraining k).inbox = e.inbox := by
  obtain ⟨tally, response, answered, rfl | ⟨why, rfl⟩⟩ := signal_calm e calm
  all_goals
    simp only [takeDraining, answered, and_true]
    exact ⟨rfl, rfl, rfl, rfl, rfl⟩

theorem poll_calm {k : Signal} {rest : List Signal} (listens : e.runner.listens = true)
    (inbox : e.inbox = k :: rest) (calm : k.asksToStop = false) :
    ∃ f, e.poll (.answering reply) = some f ∧ f.inbox = rest ∧ e.PassedOver f := by
  have taken : e.PassedOver { e with inbox := rest } := ⟨rfl, .refl _, rfl, rfl, rfl⟩
  cases runner : e.runner with
  | idle | ended _ => simp [runner, Runner.listens] at listens
  | receiving =>
      obtain ⟨passed, left⟩ := takeReceiving_calm reply { e with inbox := rest } calm
      refine ⟨_, ?_, left, taken.trans passed⟩
      simp only [poll, runner, inbox]
  | draining deadline listening =>
      have heard : listening = true := by simpa [runner, Runner.listens] using listens
      obtain ⟨passed, left⟩ := takeDraining_calm { e with inbox := rest } calm
      refine ⟨_, ?_, left, taken.trans passed⟩
      simp only [poll, runner, inbox, heard]

/-- The signals before the first one that asks to stop are passed over one by one. -/
theorem pollAll_calm {before rest : List Signal} (listens : e.runner.listens = true)
    (inbox : e.inbox = before ++ rest) (calm : ∀ k ∈ before, k.asksToStop = false) :
    ∃ f, (∀ fuel, e.pollAll (.answering reply) (before.length + fuel) =
        f.pollAll (.answering reply) fuel) ∧ f.inbox = rest ∧ e.PassedOver f := by
  induction before generalizing e with
  | nil => exact ⟨e, fun fuel => by rw [List.length_nil, Nat.zero_add], inbox, .refl e⟩
  | cons k before ih =>
      obtain ⟨f, step, left, passed⟩ := poll_calm reply listens inbox (calm k List.mem_cons_self)
      obtain ⟨g, steps, none, further⟩ := ih (by rw [passed.runner]; exact listens) left
        (fun j hj => calm j (List.mem_cons_of_mem k hj))
      refine ⟨g, ?_, none, passed.trans further⟩
      intro fuel
      rw [List.length_cons, Nat.add_right_comm, pollAll_of_some step, steps]

end Signals

end Engine

end Quiesce
