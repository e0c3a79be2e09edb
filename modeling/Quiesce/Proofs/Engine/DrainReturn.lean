import Quiesce.Proofs.Engine.RunnerAware
import Quiesce.Proofs.Engine.Workforce

/-!
What a drain has come to when it returns. It need not have been begun by a request to stop: whoever
holds the channel may set the runner to drain at any stage. A drain that returns behind a closed
gate has stopped the daemon, with the ending that it returns on record. Behind an open gate, which
nobody has asked the daemon to close, only its deadline can end it, and then it returns that the
grace period expired although the daemon goes on as before.
-/
namespace Quiesce

namespace Core

/-- Behind a closed gate, the end of a drain finds the daemon stopped or stops it. -/
theorem stopped_finish {c : Core} (closed : c.stage.isEnding = true) (e : Ending) :
    (c.finish e).2.stage = .stopped := by
  rcases (Stage.isEnding_iff c.stage).mp closed with drains | stopped
  · rw [finish_of_draining c e drains]
    rfl
  · rw [finish_of_not_draining c e (by simp [stopped])]
    exact stopped

/-- Behind an open gate, the end of a drain changes nothing and says what it was told to say. -/
theorem Sound.finish_of_open {c : Core} (hc : c.Sound) (opened : c.stage.isEnding = false)
    (e : Ending) : c.finish e = (e, c) := by
  have early := (Stage.not_isEnding_iff c.stage).mp opened
  have unrecorded := hc.ending_none (by rcases early with h | h <;> simp [h])
  rw [finish_of_not_draining c e (by rcases early with h | h <;> simp [h])]
  simp [endingOr, unrecorded]

end Core

namespace Scene

variable {D : Type} {s t : Scene D} {m : Move D} {r : Ending}

/-- A drain has been found to be past its deadline. -/
def Late (s : Scene D) : Prop :=
  ∃ deadline listening, s.engine.runner = .draining deadline listening ∧
    Clock.tick deadline ≤ s.engine.now

/-- A move of somebody else leaves the runner where it is, and time goes on. -/
theorem Late.aside (late : s.Late) (h : s.move? m = some t) (sound : s.Sound)
    (others : m.isRunners = false) : t.Late := by
  obtain ⟨deadline, listening, runner, past⟩ := late
  have aside : Aside s t := (aside_of_move? h).resolve_right (by simp [others])
  exact ⟨deadline, listening, aside.runner.trans runner,
    Nat.le_trans past (now_le_of_move? h sound)⟩

/-- That a drain is late is not forgotten until it has returned. -/
theorem late_of_move? (h : s.move? m = some t) (sound : s.Sound) (aware : s.Aware)
    (hs : s.point = .sawLate → s.Late) : t.point = .sawLate → t.Late := by
  intro saw
  cases own : m.isRunners with
  | false =>
      have aside : Aside s t := (aside_of_move? h).resolve_right (by simp [own])
      exact (hs (aside.point.symm.trans saw)).aside h sound own
  | true =>
      cases m with
      | markReady | signal _ | send _ | hangUp | discard | enter _ | takeIn _ | handIn _
      | proceed _ | apply _ | fire _ | pass _ | elsewhere _ => cases own
      | beginRun =>
          obtain ⟨granted, rfl⟩ := begin?_eq_some h
          have rest := aware.waiting_of_free (Engine.beginRun_granted granted).1
          exact absurd (rest.symm.trans saw) (by simp)
      | beginDrain =>
          obtain ⟨granted, rfl⟩ := begin?_eq_some h
          have rest := aware.waiting_of_free (Engine.beginDrain_granted granted).1
          exact absurd (rest.symm.trans saw) (by simp)
      | take =>
          obtain ⟨_, _, k, rest, _, rfl⟩ := take?_eq_some h
          cases saw
      | answer =>
          obtain ⟨k, _, rfl⟩ := answer?_eq_some h
          cases saw
      | act =>
          obtain ⟨k, r, _, ⟨_, _, rfl⟩ | ⟨_, _, rfl⟩ | ⟨_, rfl⟩ | rfl⟩ := act?_eq_some h <;>
            cases saw
      | served desk update =>
          obtain ⟨_, rfl⟩ := served_eq_some h
          cases saw
      | brokeOff cause =>
          obtain ⟨_, rfl⟩ := brokeOff_eq_some h
          cases saw
      | hearClosed =>
          obtain ⟨waits, _, _, ⟨_, rfl⟩ | ⟨deadline, _, rfl⟩⟩ := hearClosed?_eq_some h
          all_goals exact absurd (waits.symm.trans saw) (by simp)
      | seeIdle =>
          obtain ⟨_, _, _, rfl⟩ := seeIdle?_eq_some h
          cases saw
      | seeLate =>
          obtain ⟨_, ⟨deadline, listening, runner, past⟩, rfl⟩ := seeLate?_eq_some h
          exact ⟨deadline, listening, runner, past⟩
      | finish =>
          obtain ⟨_, rfl⟩ | ⟨_, rfl⟩ := finish?_eq_some h <;> cases saw

theorem Reachable.late (h : s.Reachable) (saw : s.point = .sawLate) : s.Late := by
  obtain ⟨grace, settings, desk, ms, hrun⟩ := h
  have kept : s.Aware ∧ (s.point = .sawLate → s.Late) := by
    refine (sound_fresh grace settings desk).run_invariant
      (P := fun u => u.Aware ∧ (u.point = .sawLate → u.Late)) ?_ hrun
      ⟨aware_fresh grace settings desk, by simp [fresh]⟩
    rintro u v m moved sound ⟨aware, late⟩
    exact ⟨aware_of_move? moved sound aware, late_of_move? moved sound aware late⟩
  exact kept.2 saw

/-- The runner returns an ending in two ways: it acts on a forced stop, or it finishes a race that
it has seen decided. -/
theorem returning_of_move? (h : s.move? m = some t)
    (pending : s.engine.runner.isPending = true)
    (returned : t.engine.runner = .ended (.stopped r)) :
    (∃ k, s.point = .answered k .escalate ∧ t.engine = s.engine.endForced k) ∨
      (s.point = .sawIdle ∧ t.engine = s.engine.finish .drained) ∨
      (s.point = .sawLate ∧ t.engine = s.engine.finish .graceExpired) := by
  have works (same : t.engine.runner = s.engine.runner) : False := by
    rw [← same, returned] at pending
    cases pending
  rcases aside_of_move? h with aside | own
  · exact (works aside.runner).elim
  · cases m with
    | markReady | signal _ | send _ | hangUp | discard | enter _ | takeIn _ | handIn _
    | proceed _ | apply _ | fire _ | pass _ | elsewhere _ => cases own
    | beginRun =>
        obtain ⟨granted, rfl⟩ := begin?_eq_some h
        rw [(Engine.beginRun_granted granted).2] at returned
        cases returned
    | beginDrain =>
        obtain ⟨granted, rfl⟩ := begin?_eq_some h
        have free := (Engine.beginDrain_granted granted).1
        simp [Runner.holdsChannel, pending] at free
    | take =>
        obtain ⟨_, _, k, rest, _, rfl⟩ := take?_eq_some h
        exact (works rfl).elim
    | answer =>
        obtain ⟨k, _, rfl⟩ := answer?_eq_some h
        exact (works rfl).elim
    | act =>
        obtain ⟨k, response, answered, ⟨_, _, rfl⟩ | ⟨_, _, rfl⟩ | ⟨rfl, rfl⟩ | rfl⟩ :=
          act?_eq_some h
        · obtain ⟨runner, entered, next⟩ := s.engine.enterDrain_eq
          rw [entered] at returned
          rcases next with ⟨deadline, rfl⟩ | rfl <;> cases returned
        · exact (works rfl).elim
        · exact .inl ⟨k, answered, rfl⟩
        · exact (works rfl).elim
    | served desk update =>
        obtain ⟨_, rfl⟩ := served_eq_some h
        obtain ⟨pool, reloaded, _⟩ := s.engine.reloaded_eq desk update
        exact (works (by rw [reloaded])).elim
    | brokeOff cause =>
        obtain ⟨_, rfl⟩ := brokeOff_eq_some h
        cases returned
    | hearClosed =>
        obtain ⟨_, _, _, ⟨_, rfl⟩ | ⟨deadline, _, rfl⟩⟩ := hearClosed?_eq_some h <;> cases returned
    | seeIdle =>
        obtain ⟨_, _, _, rfl⟩ := seeIdle?_eq_some h
        exact (works rfl).elim
    | seeLate =>
        obtain ⟨_, _, rfl⟩ := seeLate?_eq_some h
        exact (works rfl).elim
    | finish =>
        obtain ⟨idle, rfl⟩ | ⟨late, rfl⟩ := finish?_eq_some h
        · exact .inr (.inl ⟨idle, rfl⟩)
        · exact .inr (.inr ⟨late, rfl⟩)

/-- What a race that was seen decided comes to behind a closed gate. -/
private theorem stopped_of_finish (hs : s.Sound) (closed : s.engine.stage.isEnding = true)
    {e : Ending} (finished : t.engine = s.engine.finish e)
    (returned : t.engine.runner = .ended (.stopped r)) :
    t.engine.stage = .stopped ∧ t.engine.core.ending = some r := by
  rw [finished] at returned ⊢
  cases returned
  exact ⟨Core.stopped_finish closed e, hs.core.ending_finish closed e⟩

/-- A run or a drain that returns behind a closed gate has stopped the daemon with the ending that
it returns. -/
theorem stopped_of_returning (h : s.Reachable) (moved : s.move? m = some t)
    (pending : s.engine.runner.isPending = true)
    (returned : t.engine.runner = .ended (.stopped r))
    (closed : s.engine.stage.isEnding = true) :
    t.engine.stage = .stopped ∧ t.engine.core.ending = some r := by
  have sound := h.sound
  rcases returning_of_move? moved pending returned with
    ⟨k, answered, forced⟩ | ⟨_, finished⟩ | ⟨_, finished⟩
  · have stopped : s.engine.core.stage = .stopped := h.aware.forced k answered
    rw [forced] at returned ⊢
    cases returned
    exact ⟨stopped, sound.core.endingOr_of_stopped stopped (.forced k)⟩
  · exact stopped_of_finish sound closed finished returned
  · exact stopped_of_finish sound closed finished returned

/-- Behind an open gate it is a drain that returns, and only because it is late. -/
theorem expired_of_returning (h : s.Reachable) (moved : s.move? m = some t)
    (pending : s.engine.runner.isPending = true)
    (returned : t.engine.runner = .ended (.stopped r))
    (opened : s.engine.stage.isEnding = false) :
    s.direct = true ∧ r = .graceExpired ∧ t.engine.core = s.engine.core ∧ s.Late ∧
      t.engine.now = s.engine.now := by
  have sound := h.sound
  rcases returning_of_move? moved pending returned with
    ⟨k, answered, _⟩ | ⟨saw, _⟩ | ⟨saw, finished⟩
  · rw [h.aware.forced k answered] at opened
    cases opened
  · have closed := ((isIdle_iff s.engine).mp (sound.sawIdle saw)).1
    rw [sound.core.tracker, show s.engine.core.stage.isEnding = false from opened] at closed
    cases closed
  · have late := h.late saw
    have ⟨deadline, listening, runner, _⟩ := late
    have nothing := sound.core.finish_of_open opened .graceExpired
    have ended : t.engine = { s.engine with runner := .ended (.stopped .graceExpired) } := by
      simp only [finished, Engine.finish, nothing]
    rw [ended] at returned ⊢
    cases returned
    refine ⟨?_, rfl, rfl, late, rfl⟩
    cases direct : s.direct with
    | true => rfl
    | false =>
        rw [h.aware.drains direct deadline listening runner] at opened
        cases opened

/-- A drain that returns has stopped the daemon, with the ending that it returns on record, exactly
if somebody had asked the daemon to stop by then, be it before the drain was begun or while it
lasted. Otherwise it was begun without a request, is past its deadline and says so, and the daemon
is still in the stage in which it was. Nobody is taken to come in between the drain's last look at
the stage and at the ending on record. -/
theorem drain_stops_iff_asked (h : s.Reachable) (moved : s.move? m = some t)
    (pending : s.engine.runner.isPending = true)
    (returned : t.engine.runner = .ended (.stopped r)) :
    (t.engine.stage = .stopped ∧ t.engine.core.ending = some r ↔
      s.engine.stage.isEnding = true) ∧
    (∀ (early : Scene D) ms, early.Reachable → early.run ms = some s →
      early.engine.stage.isEnding = true →
        t.engine.stage = .stopped ∧ t.engine.core.ending = some r) ∧
    (s.engine.stage.isEnding = false → s.direct = true ∧ r = .graceExpired ∧
      (t.engine.stage = .starting ∨ t.engine.stage = .ready) ∧
      t.engine.core = s.engine.core ∧ t.engine.core.ending = none ∧
      ∃ deadline listening, s.engine.runner = .draining deadline listening ∧
        Clock.tick deadline ≤ t.engine.now) := by
  have closed := stopped_of_returning h moved pending returned
  have opened := expired_of_returning h moved pending returned
  have sound := h.sound
  refine ⟨⟨?_, closed⟩, ?_, ?_⟩
  · rintro ⟨stopped, _⟩
    by_contra still
    obtain ⟨_, _, core, _⟩ := opened (by simpa using still)
    rw [show s.engine.stage = .stopped from (congrArg Core.stage core).symm.trans stopped] at still
    exact still rfl
  · intro early ms reachable hrun ending
    exact closed (Core.isEnding_of_rank_le (rank_le_of_run hrun reachable.sound) ending)
  · intro unasked
    obtain ⟨direct, expired, core, ⟨deadline, listening, runner, past⟩, now⟩ := opened unasked
    have early := (Stage.not_isEnding_iff s.engine.stage).mp unasked
    have same : t.engine.stage = s.engine.stage := congrArg Core.stage core
    have unrecorded : s.engine.core.ending = none :=
      sound.core.ending_none fun stopped => by
        rw [show s.engine.stage = .stopped from stopped] at unasked
        cases unasked
    exact ⟨direct, expired, same ▸ early, core, core ▸ unrecorded, deadline, listening, runner,
      now ▸ past⟩

/-- A drain begun while the daemon is ready, which a request finds waiting for a worker. -/
theorem drain_stops_iff_asked_meanwhile : ∃ (s t : Scene Unit) (m : Move Unit), s.Reachable ∧
    s.direct = true ∧ s.move? m = some t ∧ t.engine.runner = .ended (.stopped .drained) ∧
    t.engine.stage = .stopped ∧ t.engine.core.ending = some .drained := by
  let moves : List (Move Unit) :=
    [.enter .worker, .markReady, .beginDrain, .send .terminate, .take, .answer, .act,
      .pass 250000000, .fire 0, .seeIdle]
  have reached : ∃ s t : Scene Unit, (fresh (.ofMillis 5000) {} ()).run moves = some s ∧
      s.direct = true ∧ s.engine.runner.isPending = true ∧ s.engine.stage.isEnding = true ∧
      s.move? .finish = some t ∧ t.engine.runner = .ended (.stopped .drained) :=
    ⟨_, _, rfl, rfl, rfl, rfl, rfl, rfl⟩
  obtain ⟨s, t, hrun, direct, pending, asked, moved, returned⟩ := reached
  have reachable : s.Reachable := ⟨_, _, _, moves, hrun⟩
  obtain ⟨stops, _⟩ := drain_stops_iff_asked reachable moved pending returned
  exact ⟨s, t, .finish, reachable, direct, moved, returned, stops.mpr asked⟩

/-- A drain that nobody asked for returns that the grace period expired, and the daemon is ready. -/
theorem drain_leaves_running : ∃ (s t : Scene Unit), s.Reachable ∧ s.direct = true ∧
    s.engine.runner.isPending = true ∧ s.move? .finish = some t ∧
    t.engine.runner = .ended (.stopped .graceExpired) ∧ t.engine.inFlight = 1 ∧
    ¬ (t.engine.stage = .stopped ∧ t.engine.core.ending = some .graceExpired) := by
  let moves : List (Move Unit) :=
    [.enter .worker, .markReady, .beginDrain, .pass 200000000, .seeLate]
  have reached : ∃ s t : Scene Unit, (fresh (.ofMillis 200) {} ()).run moves = some s ∧
      s.direct = true ∧ s.engine.runner.isPending = true ∧ s.move? .finish = some t ∧
      t.engine.runner = .ended (.stopped .graceExpired) ∧ t.engine.inFlight = 1 ∧
      t.engine.stage = .ready :=
    ⟨_, _, rfl, rfl, rfl, rfl, rfl, rfl, rfl⟩
  obtain ⟨s, t, hrun, direct, pending, moved, returned, inFlight, ready⟩ := reached
  refine ⟨s, t, ⟨_, _, _, moves, hrun⟩, direct, pending, moved, returned, inFlight, ?_⟩
  rintro ⟨stopped, _⟩
  rw [ready] at stopped
  cases stopped

end Scene

end Quiesce
