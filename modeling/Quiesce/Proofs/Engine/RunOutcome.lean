import Quiesce.Proofs.Engine.Rounds
import Quiesce.Proofs.Engine.SceneSound

/-!
How a run ends, by what the runner finds at its turns. Before a request to stop it only passes
signals over; the first request fixes the deadline, and from then on each turn comes to a verdict,
the first of which stands. The turn that takes the request is itself the first turn of the drain.
-/
namespace Quiesce.Engine

variable {D : Type} {e : Engine D} {deadline : Instant}

/-- A run that has stopped the daemon in this way, with the same on record. -/
structure StoppedWith (r : Ending) (e : Engine D) : Prop where
  runner : e.runner = .ended (.stopped r)
  ending : e.core.ending = some r
  stage : e.stage = .stopped

/-- A drain that goes on up to a deadline. -/
structure Drains (deadline : Instant) (e : Engine D) : Prop where
  stage : e.stage = .draining
  tracker : e.core.trackerClosed = true
  unrecorded : e.core.ending = none
  runner : ∃ listening, e.runner = .draining deadline listening ∧
    (listening = false → e.Exhausted)

/-- What has become of a drain that has come to this verdict, or to none yet. -/
def Decided (deadline : Instant) : Option Ending → Engine D → Prop
  | some r, e => e.StoppedWith r
  | none, e => e.Drains deadline

theorem verdict?_of_find? {k : Signal} (h : e.inbox.find? Signal.asksToStop = some k)
    (deadline : Instant) : e.verdict? deadline = some (.forced k) := by
  simp only [verdict?, h]

theorem Drains.passedOver {f : Engine D} (h : e.Drains deadline) (passed : e.PassedOver f)
    (exhausted : e.Exhausted → f.Exhausted) : f.Drains deadline := by
  obtain ⟨listening, runner, closed⟩ := h.runner
  refine ⟨passed.core.stage.trans h.stage, ?_, passed.core.ending.trans h.unrecorded,
    listening, passed.runner.trans runner, fun off => exhausted (closed off)⟩
  rw [passed.core]
  exact h.tracker

theorem stoppedWith_finish (h : e.Drains deadline) (r : Ending) : (e.finish r).StoppedWith r := by
  have finished := Core.finish_of_draining e.core r h.stage
  simp only [finish, finished]
  refine ⟨rfl, ?_, rfl⟩
  simp [Core.recordEnding, h.unrecorded]

theorem stoppedWith_takeDraining (h : e.Drains deadline) {k : Signal}
    (asks : k.asksToStop = true) : (e.takeDraining k).StoppedWith (.forced k) := by
  have answer := (Response.of_eq_escalate_iff e.stage k).mpr ⟨h.stage, asks⟩
  have after := Core.receive_escalate e.core k h.stage asks
  simp only [takeDraining, signal_eq, answer, after]
  refine ⟨?_, ?_, rfl⟩
  · simp [endForced, Core.endingOr, Core.recordEnding, h.unrecorded]
  · simp [endForced, Core.recordEnding, h.unrecorded]

/-- With nothing in the channel, the runner acts on its verdict at once, or waits if it has none. -/
theorem poll_of_quiet (handler : Handler D) (h : e.Drains deadline) (inbox : e.inbox = [])
    {listening : Bool} (runner : e.runner = .draining deadline listening)
    (heard : (listening && !e.senderOpen) = false) :
    e.poll handler = (e.verdict? deadline).map e.finish := by
  have polled : e.poll handler =
      if e.isIdle then some (e.finish .drained)
      else if Clock.tick deadline ≤ e.now then some (e.finish .graceExpired)
      else none := by
    cases listening <;> simp_all [poll]
  have idle : e.isIdle = true ↔ e.tasks = [] := by simp [isIdle, h.tracker]
  rw [polled, verdict?, inbox, List.find?_nil]
  by_cases none : e.tasks = []
  · simp [none, idle.mpr none]
  · by_cases late : Clock.tick deadline ≤ e.now <;> simp [none, idle, late]

theorem StoppedWith.pollAll {r : Ending} (h : e.StoppedWith r) (handler : Handler D) (fuel : Nat) :
    (e.pollAll handler fuel).StoppedWith r := by
  rw [pollAll_of_none (poll_of_ended h.runner)]
  exact h

private theorem decided_of_poll (handler : Handler D) (h : e.Drains deadline)
    (polled : e.poll handler = (e.verdict? deadline).map e.finish) (fuel : Nat) :
    Decided deadline (e.verdict? deadline) (e.pollAll handler (fuel + 1)) := by
  cases verdict : e.verdict? deadline with
  | none =>
      rw [verdict] at polled
      rw [pollAll_of_none polled]
      exact h
  | some r =>
      rw [verdict] at polled
      rw [pollAll_of_some polled]
      exact (stoppedWith_finish h r).pollAll handler fuel

/-- A turn that finds the channel empty may have to notice first that it is closed, too. -/
theorem decided_of_quiet (handler : Handler D) (h : e.Drains deadline) (inbox : e.inbox = [])
    (fuel : Nat) : Decided deadline (e.verdict? deadline) (e.pollAll handler (fuel + 2)) := by
  obtain ⟨listening, runner, closed⟩ := h.runner
  by_cases heard : (listening && !e.senderOpen) = true
  · obtain ⟨rfl, off⟩ : listening = true ∧ e.senderOpen = false := by simpa using heard
    have noticed : e.poll handler = some { e with runner := .draining deadline false } := by
      simp only [poll, runner, inbox, heard, ite_true]
    have drains : Drains deadline { e with runner := .draining deadline false } :=
      ⟨h.stage, h.tracker, h.unrecorded, false, rfl, fun _ => ⟨inbox, off⟩⟩
    rw [pollAll_of_some noticed]
    exact decided_of_poll handler drains (poll_of_quiet handler drains inbox rfl rfl) fuel
  · have polled := poll_of_quiet handler h inbox runner (by simpa using heard)
    exact decided_of_poll handler h polled (fuel + 1)

/-- One turn of a drain: the first signal that asks to stop, and without one what is in flight and
the time, decide what becomes of it. -/
theorem decided_of_drains (reply : D → WorkloadSettings → D × Option WorkloadSettings)
    (h : e.Drains deadline) {fuel : Nat} (enough : e.inbox.length + 2 ≤ fuel) :
    Decided deadline (e.verdict? deadline) (e.pollAll (.answering reply) fuel) := by
  obtain ⟨listening, runner, closed⟩ := h.runner
  cases listening with
  | false =>
      obtain ⟨n, rfl⟩ := Nat.exists_eq_add_of_le' (Nat.le_of_add_left_le enough)
      exact decided_of_quiet _ h (closed rfl).1 n
  | true =>
      have listens : e.runner.listens = true := by rw [runner]; rfl
      cases asked : e.inbox.find? Signal.asksToStop with
      | none =>
          have calm : ∀ k ∈ e.inbox, k.asksToStop = false := by simpa using asked
          obtain ⟨f, passes, left, passed⟩ :=
            pollAll_calm reply listens (List.append_nil e.inbox).symm calm
          obtain ⟨n, rfl⟩ := Nat.exists_eq_add_of_le enough
          have drains := h.passedOver passed
            (fun exhausted => ⟨left, passed.senderOpen.trans exhausted.2⟩)
          have same : f.verdict? deadline = e.verdict? deadline := by
            simp only [verdict?, left, asked, passed.tasks, passed.now, List.find?_nil]
          rw [← same, Nat.add_assoc, passes, Nat.add_comm]
          exact decided_of_quiet _ drains left n
      | some k =>
          obtain ⟨asks, before, rest, inbox, calm⟩ := List.find?_eq_some_iff_append.mp asked
          obtain ⟨f, passes, left, passed⟩ :=
            pollAll_calm reply listens inbox (by simpa using calm)
          have taken : e.PassedOver { f with inbox := rest } :=
            ⟨passed.now, passed.core, passed.tasks, passed.senderOpen, passed.runner⟩
          have drains : Drains deadline { f with inbox := rest } :=
            h.passedOver taken (fun exhausted => absurd exhausted.1 (by simp [inbox]))
          have polled : f.poll (.answering reply) =
              some ({ f with inbox := rest }.takeDraining k) := by
            simp only [poll, passed.runner, runner, left]
          have length : e.inbox.length = before.length + (rest.length + 1) := by
            rw [inbox, List.length_append, List.length_cons]
          obtain ⟨n, rfl⟩ : ∃ n, fuel = before.length + (n + 1) :=
            ⟨fuel - before.length - 1, by omega⟩
          rw [verdict?_of_find? asked, passes, pollAll_of_some polled]
          exact (stoppedWith_takeDraining drains asks).pollAll _ n

theorem StoppedWith.play {r : Ending} (h : e.StoppedWith r) (handler : Handler D)
    (rounds : List (List Happening)) : (e.play handler rounds).StoppedWith r := by
  obtain ⟨runner, core⟩ := play_of_ended h.runner rounds
  refine ⟨runner, ?_, ?_⟩
  · rw [core]
    exact h.ending
  · exact (congrArg Core.stage core).trans h.stage

theorem drains_round (h : e.Drains deadline) (round : List Happening) :
    (round.foldl happen e).Drains deadline := by
  obtain ⟨core, runner, closed⟩ := e.round_frame round
  obtain ⟨listening, drains, off⟩ := h.runner
  refine ⟨(congrArg Core.stage core).trans h.stage, ?_, ?_, listening, runner.trans drains,
    fun deaf => closed (off deaf)⟩
  · rw [core]
    exact h.tracker
  · rw [core]
    exact h.unrecorded

private theorem findSome?_cons_or {α β : Type} (f : α → Option β) (a : α) (l : List α) :
    (a :: l).findSome? f = (f a).or (l.findSome? f) := by
  cases here : f a <;> simp [here]

/-- The first verdict stands, however many turns follow. -/
theorem decided_of_play (reply : D → WorkloadSettings → D × Option WorkloadSettings)
    {verdict : Option Ending} (h : Decided deadline verdict e) (rounds : List (List Happening)) :
    Decided deadline
      (verdict.or ((e.found (.answering reply) rounds).findSome? (verdict? deadline)))
      (e.play (.answering reply) rounds) := by
  induction rounds generalizing e verdict with
  | nil =>
      rw [found, List.findSome?_nil, Option.or_none]
      exact h
  | cons round rounds ih =>
      cases verdict with
      | some r => exact StoppedWith.play h (.answering reply) (round :: rounds)
      | none =>
          have turn : Decided deadline ((round.foldl happen e).verdict? deadline)
              ((round.foldl happen e).attend (.answering reply)) :=
            decided_of_drains reply (drains_round h round) (Nat.le_succ _)
          have rest := ih turn
          rw [Option.none_or, found, findSome?_cons_or]
          exact rest

/-- A run that waits for a request to stop, on a core that is as it was but for the counts. -/
structure Receives (start : Core) (e : Engine D) : Prop where
  runner : e.runner = .receiving
  core : start.Still e.core

/-- No request to stop waits in the channel. -/
def Calm (e : Engine D) : Prop := ∀ k ∈ e.inbox, k.asksToStop = false

section Receiving

variable {start : Core} (reply : D → WorkloadSettings → D × Option WorkloadSettings)

theorem receives_round (h : e.Receives start) (round : List Happening) :
    (round.foldl happen e).Receives start := by
  obtain ⟨core, runner, _⟩ := e.round_frame round
  exact ⟨runner.trans h.runner, core ▸ h.core⟩

/-- A turn without a request to stop empties the channel, and ends the run if that is closed. -/
theorem attend_calm (h : e.Receives start) (calm : e.Calm) :
    (e.senderOpen = true → (e.attend (.answering reply)).Receives start) ∧
    (e.senderOpen = false → (e.attend (.answering reply)).runner = .ended .channelClosed ∧
      start.Still (e.attend (.answering reply)).core) := by
  have listens : e.runner.listens = true := by rw [h.runner]; rfl
  obtain ⟨f, passes, left, passed⟩ :=
    pollAll_calm reply listens (List.append_nil e.inbox).symm calm
  have receiving : f.runner = .receiving := passed.runner.trans h.runner
  rw [attend, passes]
  refine ⟨?_, ?_⟩
  · intro isOpen
    have waits : f.poll (.answering reply) = none := by
      simp only [poll, receiving, left, passed.senderOpen, isOpen, ite_true]
    rw [pollAll_of_none waits]
    exact ⟨receiving, h.core.trans passed.core⟩
  · intro closed
    have ends : f.poll (.answering reply) = some { f with runner := .ended .channelClosed } := by
      simp [poll, receiving, left, passed.senderOpen, closed]
    rw [pollAll_of_some ends, pollAll_of_none (poll_of_ended rfl)]
    exact ⟨rfl, h.core.trans passed.core⟩

/-- What the first request to stop leads to, when the drain has not had a turn yet. -/
theorem takeReceiving_request (handler : Handler D) (h : e.Receives start)
    (early : start.stage.isEnding = false) (unrecorded : start.ending = none) {k : Signal}
    (asks : k.asksToStop = true) :
    match Clock.after? e.now start.grace with
    | none => (e.takeReceiving handler k).runner = .ended (.overflow .instant)
    | some deadline => (e.takeReceiving handler k).Drains deadline ∧
        (e.takeReceiving handler k).now = e.now ∧ (e.takeReceiving handler k).tasks = e.tasks ∧
        (e.takeReceiving handler k).inbox = e.inbox := by
  have stage : e.core.stage.isEnding = false := by rw [h.core.stage]; exact early
  have answer := (Response.of_eq_beginDrain_iff e.stage k).mpr ⟨stage, asks⟩
  have drained := Core.receive_beginDrain e.core k stage asks
  have grace : (e.core.receive k).2.grace = start.grace := by
    rw [drained, h.core]
  simp only [takeReceiving, signal_eq, answer, enterDrain, grace]
  cases Clock.after? e.now start.grace with
  | none => rfl
  | some deadline =>
      refine ⟨⟨?_, ?_, ?_, true, rfl, fun deaf => by cases deaf⟩, rfl, rfl, rfl⟩
      · change (e.core.receive k).2.stage = .draining
        rw [drained]
        rfl
      · change (e.core.receive k).2.trackerClosed = true
        rw [drained]
      · change (e.core.receive k).2.ending = none
        rw [drained]
        exact h.core.ending.trans unrecorded

/-- The turn that finds the first request to stop sets the deadline, and is a turn of the drain. -/
theorem attend_request (h : e.Receives start) (early : start.stage.isEnding = false)
    (unrecorded : start.ending = none) {before rest : List Signal} {k : Signal}
    (inbox : e.inbox = before ++ k :: rest) (calm : ∀ j ∈ before, j.asksToStop = false)
    (asks : k.asksToStop = true) :
    match Clock.after? e.now start.grace with
    | none => (e.attend (.answering reply)).runner = .ended (.overflow .instant)
    | some deadline => Decided deadline ({ e with inbox := rest }.verdict? deadline)
        (e.attend (.answering reply)) := by
  have listens : e.runner.listens = true := by rw [h.runner]; rfl
  obtain ⟨f, passes, left, passed⟩ := pollAll_calm reply listens inbox calm
  -- The runner goes on with this engine when it has the request in its hands.
  obtain ⟨g, taken⟩ : ∃ g, g = { f with inbox := rest } := ⟨_, rfl⟩
  have receives : g.Receives start := by
    rw [taken]
    exact ⟨passed.runner.trans h.runner, h.core.trans passed.core⟩
  have now : g.now = e.now := by rw [taken]; exact passed.now
  have tasks : g.tasks = e.tasks := by rw [taken]; exact passed.tasks
  have polled : f.poll (.answering reply) = some (g.takeReceiving (.answering reply) k) := by
    simp only [poll, passed.runner, h.runner, left, taken]
  have length : e.inbox.length + 3 = before.length + (rest.length + 3 + 1) := by
    rw [inbox, List.length_append, List.length_cons]
    omega
  have request := takeReceiving_request (.answering reply) receives early unrecorded asks
  rw [attend, length, passes, pollAll_of_some polled]
  rw [now] at request
  cases reach : Clock.after? e.now start.grace with
  | none =>
      simp only [reach] at request
      rw [pollAll_of_none (poll_of_ended request)]
      exact request
  | some deadline =>
      simp only [reach] at request
      obtain ⟨drains, same, work, waiting⟩ := request
      have left : (g.takeReceiving (.answering reply) k).inbox = rest := by rw [waiting, taken]
      have enough : (g.takeReceiving (.answering reply) k).inbox.length + 2 ≤ rest.length + 3 := by
        rw [left]
        omega
      have turn := decided_of_drains reply drains enough
      have verdict : (g.takeReceiving (.answering reply) k).verdict? deadline =
          { e with inbox := rest }.verdict? deadline := by
        simp only [verdict?, left, same, work, tasks]
      rw [verdict] at turn
      exact turn

/-- Turns without a request to stop on an open channel lead to a run that still waits. -/
theorem receives_of_calm {rounds : List (List Happening)} {calm later : List (Engine D)}
    (h : e.Receives start) (found : e.found (.answering reply) rounds = calm ++ later)
    (quiet : ∀ f ∈ calm, f.Calm ∧ f.senderOpen = true) :
    ∃ g rest, Receives start g ∧ g.found (.answering reply) rest = later ∧
      g.play (.answering reply) rest = e.play (.answering reply) rounds := by
  induction calm generalizing e rounds with
  | nil => exact ⟨e, rounds, h, found, rfl⟩
  | cons f calm ih =>
      cases rounds with
      | nil => cases found
      | cons round rounds =>
          obtain ⟨rfl, more⟩ := List.cons_eq_cons.mp found
          obtain ⟨calm_f, isOpen⟩ := quiet _ List.mem_cons_self
          have turn := (attend_calm reply (receives_round h round) calm_f).1 isOpen
          have rest := ih turn more (fun g hg => quiet g (List.mem_cons_of_mem _ hg))
          exact rest

/-- A channel that is closed without a request to stop ends the run, for good. -/
theorem play_closed (h : e.Receives start) (calm : e.Calm) (closed : e.senderOpen = false)
    (rounds : List (List Happening)) :
    ((e.attend (.answering reply)).play (.answering reply) rounds).runner = .ended .channelClosed ∧
      start.Still ((e.attend (.answering reply)).play (.answering reply) rounds).core := by
  obtain ⟨ends, still⟩ := (attend_calm reply h calm).2 closed
  obtain ⟨ended, core⟩ := play_of_ended ends rounds
  exact ⟨ended, core ▸ still⟩

/-- From the first request on, the first verdict decides how the run ends. -/
theorem play_request (h : e.Receives start) (early : start.stage.isEnding = false)
    (unrecorded : start.ending = none) {before rest : List Signal} {k : Signal}
    (inbox : e.inbox = before ++ k :: rest) (calm : ∀ j ∈ before, j.asksToStop = false)
    (asks : k.asksToStop = true) (reach : Clock.after? e.now start.grace = some deadline)
    (rounds : List (List Happening)) :
    Decided deadline
      (({ e with inbox := rest } ::
        (e.attend (.answering reply)).found (.answering reply) rounds).findSome?
          (verdict? deadline))
      ((e.attend (.answering reply)).play (.answering reply) rounds) := by
  have turn := attend_request reply h early unrecorded inbox calm asks
  simp only [reach] at turn
  rw [findSome?_cons_or]
  exact decided_of_play reply turn rounds

end Receiving

/-- How a run ends on a daemon that has not been asked to stop before. As long as the runner finds
neither a request to stop nor a closed channel, it waits. A channel that is closed without such a
request ends the run and leaves the core as it was. The first request fixes the deadline, and the
first verdict that a turn comes to from then on, that turn included, is the ending. -/
theorem run_decided {s : Scene D} (h : s.Reachable) (begun : s.engine.beginRun.1 = true)
    (early : s.engine.stage = .starting ∨ s.engine.stage = .ready)
    (reply : D → WorkloadSettings → D × Option WorkloadSettings)
    (rounds : List (List Happening)) :
    let found := s.engine.beginRun.2.found (.answering reply) rounds
    let last := s.engine.beginRun.2.play (.answering reply) rounds
    ((∀ f ∈ found, f.Calm ∧ f.senderOpen = true) →
      last.runner = .receiving ∧ s.engine.core.Still last.core) ∧
    ∀ calm f later, found = calm ++ f :: later → (∀ g ∈ calm, g.Calm ∧ g.senderOpen = true) →
      (f.Calm → f.senderOpen = false →
        last.runner = .ended .channelClosed ∧ s.engine.core.Still last.core) ∧
      ∀ before k rest, f.inbox = before ++ k :: rest →
        (∀ j ∈ before, j.asksToStop = false) → k.asksToStop = true →
        f.now + s.engine.core.grace.nanos < Clock.horizon →
          Decided (f.now + s.engine.core.grace.nanos)
            (({ f with inbox := rest } :: later).findSome?
              (verdict? (f.now + s.engine.core.grace.nanos))) last ∧
          ∀ j, rest.find? Signal.asksToStop = some j → last.StoppedWith (.forced j) := by
  intro found last
  have opened : s.engine.core.stage.isEnding = false :=
    (Stage.not_isEnding_iff s.engine.core.stage).mpr early
  have unrecorded : s.engine.core.ending = none := by
    apply h.sound.core.ending_none
    intro stopped
    rw [stopped] at opened
    cases opened
  have start : s.engine.beginRun.2.Receives s.engine.core := by
    rw [(beginRun_granted begun).2]
    exact ⟨rfl, .refl _⟩
  refine ⟨?_, ?_⟩
  · intro quiet
    obtain ⟨g, rest, receives, none, same⟩ :=
      receives_of_calm reply start (List.append_nil found).symm quiet
    cases rest with
    | nil =>
        rw [show last = g from same.symm]
        exact ⟨receives.runner, receives.core⟩
    | cons round rest => cases none
  · intro calm f later split quiet
    obtain ⟨g, more, receives, turns, same⟩ := receives_of_calm reply start split quiet
    cases more with
    | nil => cases turns
    | cons round more =>
        obtain ⟨rfl, rfl⟩ := List.cons_eq_cons.mp turns
        have receives := receives_round receives round
        rw [show last = _ from same.symm]
        refine ⟨fun calm closed => play_closed reply receives calm closed more, ?_⟩
        intro before k rest inbox passed asks inTime
        have decided := play_request reply receives opened unrecorded inbox passed asks
          (if_pos inTime) more
        refine ⟨decided, ?_⟩
        intro j asked
        have forced (deadline : Instant) :
            verdict? deadline { round.foldl happen g with inbox := rest } = some (.forced j) :=
          verdict?_of_find? asked deadline
        rw [findSome?_cons_or, forced, Option.some_or] at decided
        exact decided

/-- A worker that does not come to its end before the deadline, and signals that do not matter. -/
theorem run_decided_late : ∃ s : Scene Unit, s.Reachable ∧ s.engine.stage = .ready ∧
    (s.engine.beginRun.2.play (.answering fun desk _ => (desk, none))
      [[.send .hangup], [.pass 1000000000, .send .terminate, .send .hangup],
        [.pass 4000000000, .send .kill], [.pass 1000000000]]).StoppedWith .graceExpired := by
  let moves : List (Move Unit) := [.enter .worker, .markReady]
  let rounds : List (List Happening) :=
    [[.send .hangup], [.pass 1000000000, .send .terminate, .send .hangup],
      [.pass 4000000000, .send .kill], [.pass 1000000000]]
  let reply : Unit → WorkloadSettings → Unit × Option WorkloadSettings := fun desk _ => (desk, none)
  have reached : ∃ s : Scene Unit, (Scene.fresh (.ofMillis 5000) {} ()).run moves = some s ∧
      s.engine.beginRun.1 = true ∧ s.engine.stage = .ready ∧
      ∃ g f later, s.engine.beginRun.2.found (.answering reply) rounds = [g] ++ f :: later ∧
        g.inbox = [.hangup] ∧ g.senderOpen = true ∧ f.inbox = [] ++ .terminate :: [.hangup] ∧
        f.now + s.engine.core.grace.nanos = 6000000000 ∧
        ({ f with inbox := [.hangup] } :: later).findSome? (verdict? 6000000000) =
          some .graceExpired :=
    ⟨_, rfl, rfl, rfl, _, _, _, rfl, rfl, rfl, rfl, by decide +kernel, by decide +kernel⟩
  obtain ⟨s, hrun, begun, ready, g, f, later, split, quiet, isOpen, inbox, deadline, verdict⟩ :=
    reached
  have reachable : s.Reachable := ⟨_, _, _, moves, hrun⟩
  obtain ⟨_, decides⟩ := run_decided reachable begun (.inr ready) reply rounds
  have calm : ∀ h ∈ [g], h.Calm ∧ h.senderOpen = true := by
    intro h hh
    rw [List.mem_singleton.mp hh]
    exact ⟨by simp [Calm, quiet, Signal.asksToStop], isOpen⟩
  have decided := ((decides [g] f later split calm).2 [] .terminate [.hangup] inbox
    (fun _ none => nomatch none) rfl (by rw [deadline]; decide)).1
  rw [deadline, verdict] at decided
  exact ⟨s, reachable, ready, decided⟩

end Quiesce.Engine
