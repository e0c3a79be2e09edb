import Quiesce.Proofs.Engine.SceneSound

/-!
No work is lost by a graceful stop. From the first request to stop on nothing is let in, so that
the work in flight only gets less; and an ending on record as drained means that all work which
ever passed the gate was done, and that every job taken on is among it. Who hands in a job counts it
after it was let in, so that it may be done, and the drain over, before it is counted.
-/
namespace Quiesce

namespace Engine

variable {D : Type}

theorem enter_of_isEnding {e : Engine D} (ending : e.stage.isEnding = true) (x : Entry) :
    (e.enter x).1 = false ∧ (e.enter x).2.tasks = e.tasks := by
  have refused : (e.enter x).1 = false := by
    cases granted : (e.enter x).1 with
    | false => rfl
    | true =>
        obtain ⟨opened, _⟩ := enter_granted granted
        rw [ending] at opened
        cases opened
  obtain ⟨n, left⟩ := enter_refused refused
  exact ⟨refused, by rw [left]⟩

theorem opensFor_of_isEnding {e : Engine D} (ending : e.stage.isEnding = true) (x : Entry) :
    e.opensFor x = false := by
  cases opens : e.opensFor x with
  | false => rfl
  | true => exact ending.symm.trans (isEnding_of_opensFor opens)

/-- Behind a closed gate the first worker is refused, and no other is tried. -/
theorem launchFrom_of_isEnding {e : Engine D} (ending : e.stage.isEnding = true)
    (worker count : Nat) :
    e.launchFrom worker count =
      (if count = 0 then .ok () else .error (.workerRefused worker e.stage), e) := by
  cases count with
  | zero => rfl
  | succ count =>
      have closed : e.core.admitsLasting = false := by
        cases admitted : e.core.admitsLasting with
        | false => rfl
        | true =>
            have opened := (admitsLasting_iff e.core).mp admitted
            rw [show e.core.stage.isEnding = true from ending] at opened
            cases opened
      simp [launchFrom, launchWorker, closed]

theorem launch_of_isEnding {e : Engine D} (ending : e.stage.isEnding = true) :
    e.launch.2 = e ∧
      (e.pool.settings.workers.toNat ≠ 0 → e.launch.1 = .error (.workerRefused 0 e.stage)) := by
  have tried := launchFrom_of_isEnding ending 0 e.pool.settings.workers.toNat
  by_cases none : e.pool.settings.workers.toNat = 0
  · rw [if_pos none] at tried
    simp only [launch, tried, true_and]
    intro some
    exact absurd none some
  · rw [if_neg none] at tried
    simp only [launch, tried, implies_true, and_self]

end Engine

theorem Call.countP_isAdmitted_eq_zero {calls : List Call} :
    calls.countP isAdmitted = 0 ↔ ∀ time, admitted time ∉ calls := by
  rw [List.countP_eq_zero]
  constructor
  · intro none time inside
    exact none _ inside rfl
  · intro none call inside
    cases call with
    | admitted time => exact absurd inside (none time)
    | _ => exact Bool.false_ne_true

namespace Scene

variable {D : Type} {s t : Scene D}

/-- The accounts from a closed gate on: none is begun, and what is in flight gets less. -/
theorem live_sublist_of_run {ms : List (Move D)} (h : s.run ms = some t) (hs : s.Sound)
    (ending : s.engine.stage.isEnding = true) :
    t.register.live.Sublist s.register.live ∧ t.register.begun = s.register.begun := by
  have kept : t.engine.stage.isEnding = true ∧ t.register.live.Sublist s.register.live ∧
      t.register.begun = s.register.begun := by
    refine hs.run_invariant (P := fun u => u.engine.stage.isEnding = true ∧
      u.register.live.Sublist s.register.live ∧ u.register.begun = s.register.begun) ?_ h
      ⟨ending, List.Sublist.refl _, rfl⟩
    rintro u v m hm sound ⟨closed, less, same⟩
    have accounts := ledger_change hm sound.sawIdle
    rw [closed] at accounts
    obtain ⟨further, kept⟩ := Ledger.live_sublist_of_change accounts
    exact ⟨Core.isEnding_of_rank_le (Core.rank_le_of_change (core_change hm sound.sawIdle)) closed,
      further.trans less, kept.trans same⟩
  exact kept.2

/-- With nothing in flight, all work begun is done, and the jobs let in are the jobs done. -/
theorem Sound.accounts_of_drained (hs : s.Sound)
    (drained : s.engine.core.ending = some .drained) :
    s.engine.inFlight = 0 ∧
      s.engine.pool.accepted + s.calls.countP Call.isAdmitted = s.engine.pool.completed ∧
      s.register.done.Perm (List.range s.register.begun) := by
  have nothing : s.engine.tasks = [] := ((isIdle_iff s.engine).mp (hs.drained drained)).2
  have length : s.register.live.length = s.engine.tasks.length := hs.balanced.length
  have none : s.register.live = [] := by
    apply List.eq_nil_of_length_eq_zero
    rw [length, nothing]
    rfl
  have jobs : s.engine.pool.accepted + s.calls.countP Call.isAdmitted =
      s.engine.pool.completed + s.engine.tasks.countP Task.isJob := hs.balanced.jobs
  refine ⟨?_, ?_, Register.done_perm_of_live_nil hs.balanced.register none⟩
  · simp [Engine.inFlight, nothing]
  · simpa [nothing] using jobs

/-- A closed gate lets nothing in, so that the work in flight only gets less; and a daemon on
record as drained has done each piece of work that was ever let in, and has none from then on. The
jobs done are then those that are counted as taken on, with those that a call has brought in and is
still to count. -/
theorem graceful_stop_loses_nothing (h : s.Reachable) :
    (s.engine.stage.isEnding = true →
      (∀ x, (s.engine.enter x).1 = false ∧ (s.engine.enter x).2.tasks = s.engine.tasks ∧
        s.engine.opensFor x = false) ∧
      s.engine.launch.2 = s.engine ∧
      (s.engine.pool.settings.workers.toNat ≠ 0 →
        s.engine.launch.1 = .error (.workerRefused 0 s.engine.stage)) ∧
      ∀ ms t, s.run ms = some t →
        t.register.begun = s.register.begun ∧ t.register.live.Sublist s.register.live ∧
          t.engine.inFlight = t.register.live.length) ∧
    (s.engine.core.ending = some .drained →
      s.register.done.Perm (List.range s.register.begun) ∧
      ∀ ms t, s.run ms = some t →
        t.engine.inFlight = 0 ∧
        t.engine.pool.accepted + t.calls.countP Call.isAdmitted = t.engine.pool.completed ∧
        ((∀ time, .admitted time ∉ t.calls) →
          t.engine.pool.accepted = t.engine.pool.completed)) := by
  have sound := h.sound
  refine ⟨?_, ?_⟩
  · intro ending
    obtain ⟨same, refused⟩ := Engine.launch_of_isEnding ending
    refine ⟨fun x => ?_, same, refused, ?_⟩
    · obtain ⟨out, left⟩ := Engine.enter_of_isEnding ending x
      exact ⟨out, left, Engine.opensFor_of_isEnding ending x⟩
    · intro ms t hrun
      obtain ⟨less, begun⟩ := live_sublist_of_run hrun sound ending
      exact ⟨begun, less, (sound_of_run hrun sound).balanced.length.symm⟩
  · intro drained
    refine ⟨(sound.accounts_of_drained drained).2.2, ?_⟩
    intro ms t hrun
    obtain ⟨none, jobs, _⟩ :=
      (sound_of_run hrun sound).accounts_of_drained (ending_of_run hrun sound drained)
    refine ⟨none, jobs, ?_⟩
    intro counted
    rwa [Call.countP_isAdmitted_eq_zero.mpr counted] at jobs

/-- A worker and a job that a request to stop finds at work, and that are both done in time. The
call that handed the job in counts it when the drain is over. -/
theorem graceful_stop_loses_nothing_of_two : ∃ s t : Scene Unit, s.Reachable ∧
    s.register.begun = 2 ∧ s.engine.core.ending = some .drained ∧
    s.engine.pool.accepted = 0 ∧ s.engine.pool.completed = 1 ∧
    (∀ time, (s.engine.enter (.errand time)).1 = false) ∧
    s.register.done.Perm (List.range 2) ∧
    s.run [.proceed 0] = some t ∧ t.engine.inFlight = 0 ∧ t.engine.pool.accepted = 1 ∧
    t.engine.pool.accepted = t.engine.pool.completed := by
  let moves : List (Move Unit) :=
    [.takeIn .worker, .markReady, .beginRun, .handIn (some (.ofMillis 100)), .proceed 0, .proceed 0,
      .fire 0, .fire 1, .send .interrupt, .take, .answer, .act, .enter .worker, .takeIn .worker,
      .pass 300000000, .fire 1, .fire 0, .seeIdle, .finish]
  have reached : ∃ s t, (fresh (.ofMillis 5000) {} ()).run moves = some s ∧
      s.register.begun = 2 ∧ s.engine.core.ending = some .drained ∧
      s.engine.pool.accepted = 0 ∧ s.calls.countP Call.isAdmitted = 1 ∧
      s.run [.proceed 0] = some t ∧ t.engine.pool.accepted = 1 ∧
      t.calls = [.answered (.ofMillis 100) (.ok (.ofMillis 100))] :=
    ⟨_, _, rfl, rfl, rfl, rfl, rfl, rfl, rfl, rfl⟩
  obtain ⟨s, t, hrun, begun, drained, uncounted, admitted, counts, accepted, calls⟩ := reached
  have reachable : s.Reachable := ⟨_, _, _, moves, hrun⟩
  obtain ⟨closed, done⟩ := graceful_stop_loses_nothing reachable
  have stopped : s.engine.stage = .stopped :=
    reachable.sound.core.ending.mp (by simp [drained])
  obtain ⟨refused, _⟩ := closed (by rw [stopped]; rfl)
  obtain ⟨perm, later⟩ := done drained
  obtain ⟨_, jobs, _⟩ := later [] s rfl
  obtain ⟨nothing, _, same⟩ := later [.proceed 0] t counts
  rw [uncounted, admitted] at jobs
  exact ⟨s, t, reachable, begun, drained, uncounted, jobs.symm,
    fun time => (refused (.errand time)).1, begun ▸ perm, counts, nothing, accepted,
    same (by simp [calls])⟩

end Scene

end Quiesce
