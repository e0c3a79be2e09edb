import Quiesce.Proofs.Daemon.StopReport
import Quiesce.Proofs.Engine.Ebb

/-!
When the process of a daemon ends that was asked to stop. The daemon looks after its run as often
as anything happens, so that it says how the run ended at the very instant of that, and the process
ends with the code of the ending: with the last task if all are done in time, and else at the
deadline.
-/
namespace Quiesce

namespace Engine

variable {D : Type} {e g : Engine D} {deadline : Instant}

/-- The first instant at which a drain that began with the work of `e` has ended. -/
structure EndsAt (e : Engine D) (deadline t : Instant) (r : Ending) : Prop where
  later : e.now ≤ t
  ended : e.ended? deadline t = some r
  first : ∀ u, e.now ≤ u → u < t → e.ended? deadline u = none

theorem EndsAt.unique {t u : Instant} {r q : Ending} (h : e.EndsAt deadline t r)
    (k : e.EndsAt deadline u q) : t = u ∧ r = q := by
  have notBefore {t u : Instant} {r q : Ending} (h : e.EndsAt deadline t r)
      (k : e.EndsAt deadline u q) : t ≤ u := by
    apply Nat.le_of_not_lt
    intro before
    have none := h.first u k.later before
    rw [k.ended] at none
    cases none
  have same : t = u := Nat.le_antisymm (notBefore h k) (notBefore k h)
  have ended := h.ended
  rw [same, k.ended] at ended
  cases ended
  exact ⟨same, rfl⟩

theorem endsAt_lastDue (inTime : ∀ t ∈ e.tasks, t.due < Clock.tick deadline) :
    e.EndsAt deadline e.lastDue .drained := by
  obtain ⟨later, past⟩ := lastDue_le_iff.mp (Nat.le_refl e.lastDue)
  refine ⟨later, ?_, ?_⟩
  · simp only [ended?, if_pos inTime, if_pos past]
  · intro u after before
    rw [ended?, if_pos inTime, if_neg]
    intro all
    exact Nat.not_le.mpr before (lastDue_le_iff.mpr ⟨after, all⟩)

theorem endsAt_deadline (later : e.now ≤ Clock.tick deadline) {t : Task} (ht : t ∈ e.tasks)
    (late : Clock.tick deadline < t.due) :
    e.EndsAt deadline (Clock.tick deadline) .graceExpired := by
  have notAll : ¬ ∀ t ∈ e.tasks, t.due < Clock.tick deadline := fun all =>
    Nat.lt_asymm late (all t ht)
  refine ⟨later, ?_, ?_⟩
  · simp only [ended?, if_neg notAll, Nat.le_refl, ite_true]
  · intro u _ before
    rw [ended?, if_neg notAll, if_neg (Nat.not_le.mpr before)]

/-- What is left in the channel after a run is counted, and the channel closed. -/
theorem Ebbs.leave (h : Ebbs e deadline g) (stopped : g.stage = .stopped) :
    Ebbs e deadline g.discard.2.hangUp := by
  have still : g.core.Still g.discard.2.core := Core.still_receiveAll stopped g.inbox
  refine ⟨h.later, ⟨h.work.tasks, h.work.units, h.work.completed⟩, ?_, ?_, ?_⟩
  · change g.discard.2.core.admissionClosed = true
    rw [still]
    exact h.closed
  · intro k hk
    cases hk
  · exact h.decided.keep still rfl fun _ => ⟨rfl, rfl⟩

/-- A request that comes to a drain forces the stop. -/
theorem Drains.attend_request {handler : Handler D} (h : g.Drains deadline)
    (isOpen : g.senderOpen = true) (calm : g.Calm) {k : Signal} (asks : k.asksToStop = true) :
    (Engine.attend handler { g with inbox := g.inbox ++ [k] }).StoppedWith (.forced k) := by
  obtain ⟨f, same⟩ : ∃ f, f = { g with inbox := g.inbox ++ [k] } := ⟨_, rfl⟩
  have drains : f.Drains deadline := by
    rw [same]
    obtain ⟨listening, runner, off⟩ := h.runner
    refine ⟨h.stage, h.tracker, h.unrecorded, listening, runner, ?_⟩
    intro deaf
    rw [(off deaf).2] at isOpen
    cases isOpen
  have asked : f.inbox.find? Signal.asksToStop = some k := by
    have none : g.inbox.find? Signal.asksToStop = none :=
      List.find?_eq_none.mpr (by simpa [Calm] using calm)
    rw [same]
    simp [List.find?_append, none, asks]
  have decided := decided_attend handler drains
  rw [verdict?_of_find? asked] at decided
  rw [← same]
  exact decided

end Engine

namespace Daemon

/-! ### What the daemon says -/

/-- The reporter only writes lines. -/
theorem report_frame (d : Daemon) :
    let read := d.reporterRead?.getD d
    let told := read.reporterWrite?.getD read
    told.engine = d.engine ∧ told.concluded = d.concluded ∧ told.listening = d.listening := by
  have reads : ∃ reporter, d.reporterRead?.getD d = { d with reporter := reporter } := by
    unfold reporterRead?
    split
    · split <;> exact ⟨_, rfl⟩
    · exact ⟨_, rfl⟩
  obtain ⟨reporter, read⟩ := reads
  simp only [read, reporterWrite?]
  split
  · split <;> exact ⟨rfl, rfl, rfl⟩
  · exact ⟨rfl, rfl, rfl⟩

theorem followUp_frame (d : Daemon) :
    d.followUp.engine.now = d.engine.now ∧ d.followUp.engine.tasks = d.engine.tasks ∧
      d.followUp.listening = d.listening := by
  have kept : (d.conclude?.getD d).engine.now = d.engine.now ∧
      (d.conclude?.getD d).engine.tasks = d.engine.tasks ∧
      (d.conclude?.getD d).listening = d.listening := by
    unfold conclude?
    split
    · exact ⟨rfl, rfl, rfl⟩
    · split <;> exact ⟨rfl, rfl, rfl⟩
  obtain ⟨engine, _, listening⟩ := report_frame (d.conclude?.getD d)
  exact ⟨(congrArg Engine.now engine).trans kept.1, (congrArg Engine.tasks engine).trans kept.2.1,
    listening.trans kept.2.2⟩

/-- A daemon that has nothing to say about its run goes on as it was. -/
theorem followUp_of_silent {d : Daemon} (silent : d.conclude? = none) :
    d.followUp.engine = d.engine ∧ d.followUp.concluded = d.concluded := by
  obtain ⟨engine, concluded, _⟩ := report_frame d
  simp only [followUp, silent, Option.getD_none]
  exact ⟨engine, concluded⟩

/-- A run that has returned is followed up at once. -/
theorem followUp_of_stopped {d : Daemon} {r : Ending} (unsaid : d.concluded = none)
    (returned : d.engine.runner = .ended (.stopped r)) :
    d.followUp.engine = d.engine.discard.2.hangUp ∧
      d.followUp.concluded = some d.engine.now := by
  obtain ⟨after, concluded, engine, said, _⟩ := conclude?_of_stopped unsaid returned
  obtain ⟨same, kept, _⟩ := report_frame after
  simp only [followUp, concluded, Option.getD_some]
  exact ⟨same.trans engine, kept.trans said⟩

theorem settle_now (d : Daemon) : d.settle.engine.now = d.engine.now :=
  (followUp_frame _).1.trans (Engine.settle_now _ _)

/-! ### The passing of time -/

theorem advanceTo_eq_walk (target : Instant) (fuel : Nat) (d : Daemon) :
    d.advanceTo target fuel =
      Clock.walk (·.engine.nextDue?)
        (fun t d => { d with engine := { d.engine with now := max d.engine.now t } }.settle)
        (fun d => { d with engine := { d.engine with now := target } }) target fuel d := by
  induction fuel generalizing d with
  | zero => rfl
  | succ fuel ih => cases next : d.engine.nextDue? <;> simp only [advanceTo, Clock.walk, next, ih]

/-- What each timer keeps that goes off, and what waiting without one keeps, is kept by a daemon
however much time passes. -/
theorem passUntil_induction {P : Daemon → Prop} {target : Nat}
    (turn : ∀ {d : Daemon} {t : Nat}, P d → d.engine.nextDue? = some t → t ≤ target →
      d.engine.now < t ∧ 1000000 ∣ t ∧
        P { d with engine := { d.engine with now := t } }.settle)
    (wait : ∀ {d : Daemon}, P d → d.engine.now ≤ target → (∀ u ∈ d.engine.dues, target < u) →
      P { d with engine := { d.engine with now := target } })
    {d : Daemon} (start : P d) (ahead : d.engine.now ≤ target) : P (d.passUntil target) := by
  rw [passUntil, advanceTo_eq_walk]
  refine Clock.walk_induction (fun d : Daemon => d.engine.now) ?_ ?_ start ahead
  · intro f t kept next soon
    obtain ⟨later, whole, settled⟩ := turn kept next soon
    have passed : max f.engine.now t = t := Nat.max_eq_right (Nat.le_of_lt later)
    rw [passed]
    exact ⟨later, whole, settle_now _, settled⟩
  · intro f kept before none
    exact wait kept before (Engine.lt_of_nextDue? none)

theorem passUntil_now (d : Daemon) (target : Instant) :
    (d.passUntil target).engine.now = target := by
  unfold passUntil
  generalize (target - d.engine.now) / 1000000 + 2 = fuel
  induction fuel generalizing d with
  | zero => rfl
  | succ fuel ih =>
      unfold advanceTo
      split
      · split
        · exact ih _
        · rfl
      · rfl

/-! ### The drain -/

variable {d : Daemon} {e : Engine Desk} {deadline : Instant}

/-- A daemon in its drain, or after it: it has said how the run ended as soon as that did. -/
structure Subsides (e : Engine Desk) (deadline : Instant) (d : Daemon) : Prop where
  engine : e.Ebbs deadline d.engine
  listening : d.listening = true
  unsaid : d.concluded = none →
    e.ended? deadline d.engine.now = none ∧ d.engine.senderOpen = true
  said : ∀ t, d.concluded = some t → t ≤ d.engine.now ∧ ∃ r, e.EndsAt deadline t r

theorem Subsides.exit? {t : Instant} {r : Ending} (h : Subsides e deadline d)
    (ends : e.EndsAt deadline t r) (past : t ≤ d.engine.now) : d.exit? = some (t, r.exitCode) := by
  have ended := Engine.ended?_mono ends.ended past
  have stopped := h.engine.decided
  rw [ended] at stopped
  cases concluded : d.concluded with
  | none =>
      rw [(h.unsaid concluded).1] at ended
      cases ended
  | some u =>
      obtain ⟨_, q, first⟩ := h.said u concluded
      obtain ⟨rfl, rfl⟩ := ends.unique first
      exact exit?_of_stopped concluded stopped.runner

/-- Before the end, the run goes on and the channel is open. -/
theorem Subsides.unended (h : Subsides e deadline d) {t : Instant} {r : Ending}
    (ends : e.EndsAt deadline t r) (early : d.engine.now < t) :
    d.concluded = none ∧ d.engine.Drains deadline ∧ d.engine.senderOpen = true := by
  have goesOn := ends.first d.engine.now h.engine.later early
  have drains := h.engine.decided
  rw [goesOn] at drains
  cases concluded : d.concluded with
  | none => exact ⟨rfl, drains, (h.unsaid concluded).2⟩
  | some u =>
      obtain ⟨before, q, first⟩ := h.said u concluded
      have ended := Engine.ended?_mono first.ended before
      rw [goesOn] at ended
      cases ended

/-- After whatever has happened to its engine, the daemon says what there is to say. -/
theorem subsides_followUp (ebbs : e.Ebbs deadline d.engine) (listening : d.listening = true)
    (isOpen : d.engine.senderOpen = true) (unsaid : d.concluded = none)
    (before : ∀ u, e.now ≤ u → u < d.engine.now → e.ended? deadline u = none) :
    Subsides e deadline d.followUp := by
  obtain ⟨now, _, listens⟩ := followUp_frame d
  cases verdict : e.ended? deadline d.engine.now with
  | none =>
      have drains := ebbs.decided
      rw [verdict] at drains
      obtain ⟨_, runner, _⟩ := drains.runner
      have silent : d.conclude? = none := by simp [conclude?, unsaid, runner]
      obtain ⟨engine, concluded⟩ := followUp_of_silent silent
      refine ⟨engine ▸ ebbs, listens.trans listening, fun _ => engine ▸ ⟨verdict, isOpen⟩, ?_⟩
      intro t said
      rw [concluded, unsaid] at said
      cases said
  | some r =>
      have stopped := ebbs.decided
      rw [verdict] at stopped
      obtain ⟨engine, concluded⟩ := followUp_of_stopped unsaid stopped.runner
      refine ⟨engine ▸ ebbs.leave stopped.stage, listens.trans listening, ?_, ?_⟩
      · intro none
        rw [concluded] at none
        cases none
      · intro t said
        rw [concluded] at said
        cases said
        exact ⟨Nat.le_of_eq now.symm, r, ebbs.later, verdict, before⟩

theorem Subsides.settle (h : Subsides e deadline d) (apart : e.Apart deadline) {later : Instant}
    (le : d.engine.now ≤ later) (next : ∀ u ∈ d.engine.dues, later ≤ u) :
    Subsides e deadline { d with engine := { d.engine with now := later } }.settle := by
  -- The daemon before it looks after its run.
  obtain ⟨f, same⟩ : ∃ f, f = { d with
      engine := Engine.settle Desk.handler { d.engine with now := later } } := ⟨_, rfl⟩
  have followed : { d with engine := { d.engine with now := later } }.settle = f.followUp := by
    rw [same]
    rfl
  have settled : f.engine = Engine.settle Desk.handler { d.engine with now := later } := by
    rw [same]
  have unheard : f.concluded = d.concluded ∧ f.listening = d.listening := by
    rw [same]
    exact ⟨rfl, rfl⟩
  have ebbs : e.Ebbs deadline f.engine :=
    settled ▸ h.engine.settle Desk.handler apart le next
  have now : f.engine.now = later := by
    rw [settled]
    exact Engine.settle_now _ _
  have listens : f.listening = true := unheard.2.trans h.listening
  rw [followed]
  cases concluded : d.concluded with
  | none =>
      obtain ⟨running, isOpen⟩ := h.unsaid concluded
      have stays : f.engine.senderOpen = true := by
        rw [settled, Engine.settle_senderOpen]
        exact isOpen
      refine subsides_followUp ebbs listens stays (unheard.1.trans concluded) ?_
      intro u after before
      rw [now] at before
      rcases Nat.le_total d.engine.now u with le | le
      · rw [h.engine.ended?_wait apart le fun v hv => Nat.lt_of_lt_of_le before (next v hv)]
        exact running
      · cases ended : e.ended? deadline u with
        | none => rfl
        | some r =>
            rw [Engine.ended?_mono ended le] at running
            cases running
  | some t =>
      obtain ⟨before, ends⟩ := h.said t concluded
      have said := unheard.1.trans concluded
      have silent : f.conclude? = none := by simp [conclude?, said]
      obtain ⟨engine, kept⟩ := followUp_of_silent silent
      refine ⟨engine ▸ ebbs, (followUp_frame f).2.2.trans listens, ?_, ?_⟩
      · intro none
        rw [kept, said] at none
        cases none
      · intro u other
        rw [kept, said] at other
        cases other
        rw [engine, now]
        exact ⟨Nat.le_trans before le, ends⟩

theorem Subsides.wait (h : Subsides e deadline d) (apart : e.Apart deadline) {later : Instant}
    (le : d.engine.now ≤ later) (next : ∀ u ∈ d.engine.dues, later < u) :
    Subsides e deadline { d with engine := { d.engine with now := later } } := by
  refine ⟨h.engine.wait apart le next, h.listening, ?_, ?_⟩
  · intro none
    obtain ⟨running, isOpen⟩ := h.unsaid none
    exact ⟨(h.engine.ended?_wait apart le next).trans running, isOpen⟩
  · intro t said
    obtain ⟨before, ends⟩ := h.said t said
    exact ⟨Nat.le_trans before le, ends⟩

theorem Subsides.passUntil (h : Subsides e deadline d) (timely : e.Timely)
    (apart : e.Apart deadline) {target : Instant} (ahead : d.engine.now ≤ target) :
    Subsides e deadline (d.passUntil target) := by
  refine passUntil_induction ?_ (fun kept le next => kept.wait apart le next) h ahead
  intro f t kept next _
  obtain ⟨running, first⟩ := Engine.nextDue?_eq_some next
  have later := kept.engine.lt_of_mem_dues running
  exact ⟨later, kept.engine.dvd_of_mem_dues timely running,
    kept.settle apart (Nat.le_of_lt later) first⟩

/-- A draining daemon that is left alone ends as its work and its deadline decide. -/
theorem Subsides.exit?_play (h : Subsides e deadline d) (timely : e.Timely)
    (apart : e.Apart deadline) {t : Instant} {r : Ending} (ends : e.EndsAt deadline t r)
    (inTime : t ≤ Clock.tick deadline) : (d.play []).exit? = some (t, r.exitCode) := by
  by_cases past : t ≤ d.engine.now
  · have stopped := h.engine.decided
    rw [Engine.ended?_mono ends.ended past] at stopped
    have alone : d.play [] = d := by simp only [play, Engine.deadline?, stopped.runner]
    rw [alone]
    exact h.exit? ends past
  · obtain ⟨_, drains, _⟩ := h.unended ends (Nat.lt_of_not_le past)
    obtain ⟨listening, runner, _⟩ := drains.runner
    have alone : d.play [] = d.passUntil (max d.engine.now (Clock.tick deadline)) := by
      simp only [play, Engine.deadline?, runner]
    rw [alone]
    refine (h.passUntil timely apart (Nat.le_max_left _ _)).exit? ends ?_
    rw [passUntil_now]
    exact Nat.le_trans inTime (Nat.le_max_right _ _)

/-! ### Requests to stop -/

theorem raise_one (listening : d.listening = true) (isOpen : d.engine.senderOpen = true)
    (held : d.engine.runner.lostChannel = false) {k : Signal} (catchable : k ≠ .kill) :
    d.raise [k] =
      { d with engine := { d.engine with inbox := d.engine.inbox ++ [k] } } := by
  have alone : Signal.inOrder [k] = [k] := by cases k <;> first | rfl | contradiction
  simp [raise, listening, alone, Engine.send, isOpen, held]

/-- A signal is taken at once by a daemon whose timers are all still to go off. -/
theorem settle_raise (listening : d.listening = true) (isOpen : d.engine.senderOpen = true)
    (held : d.engine.runner.lostChannel = false) {k : Signal} (catchable : k ≠ .kill)
    (running : ∀ t ∈ d.engine.tasks, d.engine.now < t.due) :
    (d.raise [k]).settle = Daemon.followUp { d with
      engine := Engine.attend Desk.handler
        { d.engine with inbox := d.engine.inbox ++ [k] } } := by
  have early : Engine.fireDue { d.engine with inbox := d.engine.inbox ++ [k] } =
      { d.engine with inbox := d.engine.inbox ++ [k] } := Engine.fireDue_of_early running
  rw [raise_one listening isOpen held catchable]
  simp only [Daemon.settle, Engine.settle, early]

theorem ne_kill_of_asksToStop {k : Signal} (asks : k.asksToStop = true) : k ≠ .kill := by
  rintro rfl
  cases asks

/-- A daemon with this grace period that was not yet asked to stop and hears every signal. -/
structure Awake (grace : Duration) (d : Daemon) : Prop where
  listening : d.listening = true
  isOpen : d.engine.senderOpen = true
  receiving : d.engine.runner = .receiving
  empty : d.engine.inbox = []
  early : d.engine.stage.isEnding = false
  unrecorded : d.engine.core.ending = none
  period : d.engine.core.grace = grace
  unsaid : d.concluded = none

variable {grace : Duration}

/-- The first request to stop sets a daemon to drain. -/
theorem Awake.subsides (h : Awake grace d) {k : Signal} (asks : k.asksToStop = true)
    (running : ∀ t ∈ d.engine.tasks, d.engine.now < t.due)
    (inTime : d.engine.now + grace.nanos < Clock.horizon)
    (apart : d.engine.Apart (d.engine.now + grace.nanos)) :
    Subsides { d.engine with inbox := [k] } (d.engine.now + grace.nanos)
      (d.raise [k]).settle := by
  obtain ⟨listening, isOpen, receiving, empty, early, unrecorded, rfl, unsaid⟩ := h
  have held : d.engine.runner.lostChannel = false := by rw [receiving]; rfl
  obtain ⟨e, same⟩ : ∃ e, e = { d.engine with inbox := [k] } := ⟨_, rfl⟩
  let reply : Desk → WorkloadSettings → Desk × Option WorkloadSettings := fun desk _ => (desk, none)
  have taken : e.attend Desk.handler = e.attend (.answering reply) := by
    rw [same]
    exact Engine.attend_of_request Desk.handler (.answering reply) receiving rfl early asks
  have ebbs : e.Ebbs (d.engine.now + d.engine.core.grace.nanos)
      (e.attend (.answering reply)) := by
    have alone : [k] = [] ++ k :: [] := rfl
    rw [same]
    exact Engine.ebbs_of_request reply ⟨receiving, .refl _⟩ early unrecorded alone
      (fun _ none => nomatch none) asks running inTime apart
  have kept : e.Undisturbed (e.attend (.answering reply)) := Engine.pollAll_undisturbed _ e _
  have now : e.now = d.engine.now := by rw [same]
  rw [settle_raise listening isOpen held (ne_kill_of_asksToStop asks) running, empty,
    List.nil_append, ← same, taken]
  refine subsides_followUp ebbs listening ?_ unsaid ?_
  · rw [kept.senderOpen, same]
    exact isOpen
  · intro u after before
    rw [kept.now] at before
    exact absurd before (Nat.not_lt.mpr after)

/-- A daemon whose tasks are all done before the deadline ends with the last of them. -/
theorem Awake.exit?_of_inTime (h : Awake grace d) {k : Signal} (asks : k.asksToStop = true)
    (timely : d.engine.Timely) (running : ∀ t ∈ d.engine.tasks, d.engine.now < t.due)
    (reach : d.engine.now + grace.nanos < Clock.horizon)
    (inTime : ∀ t ∈ d.engine.tasks, t.due < d.engine.now + grace.nanos) :
    ((d.raise [k]).settle.play []).exit? = some (d.engine.lastDue, 0) := by
  have soon : ∀ t ∈ d.engine.tasks, t.due < Clock.tick (d.engine.now + grace.nanos) := fun t ht =>
    Nat.lt_of_lt_of_le (inTime t ht) (Clock.le_tick _)
  have apart : d.engine.Apart (d.engine.now + grace.nanos) := fun t ht => Nat.ne_of_lt (soon t ht)
  refine (h.subsides asks running reach apart).exit?_play timely apart
    (Engine.endsAt_lastDue (e := { d.engine with inbox := [k] }) soon) ?_
  refine Engine.lastDue_le_iff.mpr ⟨?_, fun t ht => Nat.le_of_lt (soon t ht)⟩
  exact Nat.le_trans (Nat.le_add_right _ _) (Clock.le_tick _)

/-- A daemon with a task that goes on after the deadline ends at the deadline. -/
theorem Awake.exit?_of_late (h : Awake grace d) {k : Signal} (asks : k.asksToStop = true)
    (timely : d.engine.Timely) (running : ∀ t ∈ d.engine.tasks, d.engine.now < t.due)
    (reach : d.engine.now + grace.nanos < Clock.horizon)
    (apart : d.engine.Apart (d.engine.now + grace.nanos)) {t : Task} (ht : t ∈ d.engine.tasks)
    (late : Clock.tick (d.engine.now + grace.nanos) < t.due) :
    ((d.raise [k]).settle.play []).exit? =
      some (Clock.tick (d.engine.now + grace.nanos), 3) :=
  (h.subsides asks running reach apart).exit?_play timely apart
    (Engine.endsAt_deadline (e := { d.engine with inbox := [k] })
      (Nat.le_trans (Nat.le_add_right _ _) (Clock.le_tick _)) ht late) (Nat.le_refl _)

/-- A daemon says at once that its run has returned, and ends then. -/
theorem exit?_of_returned {r : Ending} (unsaid : d.concluded = none)
    (returned : d.engine.runner = .ended (.stopped r)) :
    (d.followUp.play []).exit? = some (d.engine.now, r.exitCode) := by
  obtain ⟨engine, said⟩ := followUp_of_stopped unsaid returned
  have runner : d.followUp.engine.runner = .ended (.stopped r) := by
    rw [engine]
    exact returned
  have alone : d.followUp.play [] = d.followUp := by
    simp only [play, Engine.deadline?, runner]
  rw [alone, exit?_of_stopped said runner]

/-- A second request ends a drain at once. -/
theorem Subsides.exit?_of_request (h : Subsides e deadline d) {t : Instant} {r : Ending}
    (ends : e.EndsAt deadline t r) (early : d.engine.now < t) {k : Signal}
    (asks : k.asksToStop = true) :
    ((d.raise [k]).settle.play []).exit? =
      some (d.engine.now, (Ending.forced k).exitCode) := by
  obtain ⟨unsaid, drains, isOpen⟩ := h.unended ends early
  have held : d.engine.runner.lostChannel = false := by
    obtain ⟨_, runner, _⟩ := drains.runner
    rw [runner]
    rfl
  have running : ∀ t ∈ d.engine.tasks, d.engine.now < t.due := fun t ht =>
    h.engine.lt_of_mem_dues (List.mem_append_right _ (List.mem_map_of_mem ht))
  obtain ⟨f, same⟩ :
      ∃ f, f = Engine.attend Desk.handler { d.engine with inbox := d.engine.inbox ++ [k] } :=
    ⟨_, rfl⟩
  have stopped : f.StoppedWith (.forced k) := same ▸ drains.attend_request isOpen h.engine.calm asks
  have now : f.now = d.engine.now := by
    rw [same]
    exact (Engine.pollAll_undisturbed Desk.handler _ _).now
  have ended := exit?_of_returned (d := { d with engine := f }) unsaid stopped.runner
  rw [settle_raise h.listening isOpen held (ne_kill_of_asksToStop asks) running, ← same, ended, now]

end Daemon

end Quiesce
