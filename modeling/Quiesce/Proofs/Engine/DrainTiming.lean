import Quiesce.Proofs.Engine.Ebb

/-!
When a run that is asked to stop once ends, and with what done. If all timers that run at the
request go off before the deadline, it ends with the last of them and all work is done; otherwise
it ends at the deadline, with just that done whose timers went off before.
-/
namespace Quiesce.Engine

variable {D : Type} (reply : D → WorkloadSettings → D × Option WorkloadSettings)

/-- A drain ends when its last task does, with everything done, if no timer goes off after the
deadline, and else at the deadline, with the work done whose timers went off before; and whatever
is asked of the daemon meanwhile, but to stop at once, makes no difference to that. -/
theorem drain_ends_with_work {s : Scene D} (h : s.Reachable)
    (ready : s.engine.stage = .ready) (receiving : s.engine.runner = .receiving)
    {before after : List Signal} {k : Signal} (inbox : s.engine.inbox = before ++ k :: after)
    (calm : ∀ j ∈ before ++ after, j.asksToStop = false) (asks : k.asksToStop = true)
    (running : ∀ t ∈ s.engine.tasks, s.engine.now < t.due)
    (inTime : s.engine.now + s.engine.core.grace.nanos < Clock.horizon)
    (apart : s.engine.Apart (s.engine.now + s.engine.core.grace.nanos))
    {requests : List Request} (quiet : ∀ r ∈ requests, r.Quiet) :
    let e := s.engine
    let deadline := e.now + e.core.grace.nanos
    let last := requests.foldl (fun e r => (e.ask (.answering reply) r).settle (.answering reply))
      (e.attend (.answering reply))
    let done := e.tasks.filter (·.due ≤ last.now)
    last.pool.units = e.pool.units + done.countP Task.isWorker ∧
      last.pool.completed = e.pool.completed + done.countP Task.isJob ∧
      last.inFlight = (e.tasks.filter (last.now < ·.due)).length ∧
      ((∀ t ∈ e.tasks, t.due < Clock.tick deadline) →
        (last.now < e.lastDue → last.Drains deadline) ∧
        (e.lastDue ≤ last.now → last.StoppedWith .drained ∧
          last.pool.units = e.pool.units + e.tasks.countP Task.isWorker ∧
          last.pool.completed = e.pool.completed + e.tasks.countP Task.isJob ∧
          last.inFlight = 0)) ∧
      ((∃ t ∈ e.tasks, Clock.tick deadline < t.due) →
        (last.now < Clock.tick deadline → last.Drains deadline) ∧
        (Clock.tick deadline ≤ last.now → last.StoppedWith .graceExpired)) := by
  intro e deadline last done
  have early : e.stage.isEnding = false := by rw [ready]; rfl
  have unrecorded : e.core.ending = none := by
    apply h.sound.core.ending_none
    rw [show e.core.stage = .ready from ready]
    simp
  have ebbs : Ebbs e deadline last :=
    (ebbs_of_request reply ⟨receiving, .refl _⟩ early unrecorded inbox calm asks running inTime
      apart).requests _ (h.timely.engine running) apart quiet
  refine ⟨ebbs.work.units, ebbs.work.completed, congrArg List.length ebbs.work.tasks, ?_, ?_⟩
  · intro soon
    have decided := ebbs.decided
    simp only [ended?, if_pos soon] at decided
    refine ⟨?_, ?_⟩
    · intro before
      rw [if_neg] at decided
      · exact decided
      · intro past
        exact Nat.not_le.mpr before (lastDue_le_iff.mpr ⟨ebbs.later, past⟩)
    · intro after
      have past := (lastDue_le_iff.mp after).2
      rw [if_pos past] at decided
      have all : e.tasks.filter (·.due ≤ last.now) = e.tasks := by
        simpa [List.filter_eq_self] using past
      have none : e.tasks.filter (last.now < ·.due) = [] := by
        simpa [List.filter_eq_nil_iff] using past
      refine ⟨decided, ?_, ?_, ?_⟩
      · rw [ebbs.work.units, all]
      · rw [ebbs.work.completed, all]
      · rw [inFlight, ebbs.work.tasks, none]
        rfl
  · rintro ⟨t, ht, late⟩
    have decided := ebbs.decided
    have notSoon : ¬ ∀ t ∈ e.tasks, t.due < Clock.tick deadline := fun soon =>
      Nat.lt_asymm late (soon t ht)
    simp only [ended?, if_neg notSoon] at decided
    refine ⟨?_, ?_⟩
    · intro before
      rw [if_neg (Nat.not_le.mpr before)] at decided
      exact decided
    · intro after
      rw [if_pos after] at decided
      exact decided

/-- A worker that comes to the end of its unit in time and a job that does not, while the settings
change and signals come that do not ask to stop. -/
theorem drain_ends_with_work_of_two : ∃ (s : Scene Unit) (requests : List Request),
    s.Reachable ∧ s.engine.stage = .ready ∧ s.engine.inFlight = 2 ∧
    (∀ r ∈ requests, r.Quiet) ∧
    let reply : Unit → WorkloadSettings → Unit × Option WorkloadSettings :=
      fun desk _ => (desk, none)
    let last := requests.foldl (fun e r => (e.ask (.answering reply) r).settle (.answering reply))
      (s.engine.attend (.answering reply))
    last.now = 380000000 ∧ last.StoppedWith .graceExpired ∧ last.pool.units = 1 ∧
      last.pool.completed = 0 ∧ last.inFlight = 1 := by
  let moves : List (Move Unit) :=
    [.enter .worker, .markReady, .beginRun, .enter (.job (.ofMillis 400)), .pass 30000000,
      .send .hangup, .send .terminate, .send .kill]
  let requests : List Request :=
    [.apply { unitMs := 10 }, .advance (.ofMillis 250), .send .hangup, .advance (.ofMillis 100)]
  let reply : Unit → WorkloadSettings → Unit × Option WorkloadSettings := fun desk _ => (desk, none)
  have reached : ∃ s, (Scene.fresh (.ofMillis 300) {} ()).run moves = some s ∧
      s.engine.stage = .ready ∧ s.engine.runner = .receiving ∧
      s.engine.inbox = [.hangup] ++ .terminate :: [.kill] ∧ s.engine.now = 30000000 ∧
      s.engine.core.grace.nanos = 300000000 ∧
      s.engine.tasks = [⟨.worker, 250000000⟩, ⟨.job, 400000000⟩] ∧
      s.engine.pool.units = 0 ∧ s.engine.pool.completed = 0 ∧
      (requests.foldl (fun e r => (e.ask (.answering reply) r).settle (.answering reply))
        (s.engine.attend (.answering reply))).now = 380000000 :=
    ⟨_, rfl, rfl, rfl, rfl, rfl, rfl, by decide +kernel, rfl, rfl, by decide +kernel⟩
  obtain ⟨s, hrun, ready, receiving, inbox, now, grace, tasks, units, completed, later⟩ :=
    reached
  have reachable : s.Reachable := ⟨_, _, _, moves, hrun⟩
  have quiet : ∀ r ∈ requests, r.Quiet := by
    simp [requests, Request.Quiet, Signal.asksToStop]
  obtain ⟨units', completed', left, _, expires⟩ := drain_ends_with_work reply reachable ready
    receiving inbox (by decide) rfl (by rw [now, tasks]; decide)
    (by rw [now, grace]; decide) (by rw [Apart, now, grace, tasks]; decide) quiet
  rw [now, grace] at expires
  refine ⟨s, requests, reachable, ready, by rw [inFlight, tasks]; rfl, quiet, later, ?_, ?_, ?_, ?_⟩
  · refine (expires ⟨⟨.job, 400000000⟩, by rw [tasks]; simp, by decide⟩).2 ?_
    rw [later]
    decide
  · rw [units', later, tasks, units]
    rfl
  · rw [completed', later, tasks, completed]
    rfl
  · rw [left, later, tasks]
    rfl

end Quiesce.Engine
