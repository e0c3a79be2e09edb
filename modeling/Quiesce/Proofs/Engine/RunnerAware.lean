import Quiesce.Proofs.Engine.SceneSound

/-!
What the runner can rely on between two of its actions, whatever others do to the core meanwhile.
An answer that it holds may be out of date, but not against it: a gate that was closed stays
closed, and a daemon that was stopped stays stopped. Therefore a run that says how the daemon
stopped says what is on record, and it does so also where it lost the race to somebody else.
-/
namespace Quiesce

namespace Core

theorem isEnding_of_receive_beginDrain {c : Core} {k : Signal}
    (h : (c.receive k).1 = .beginDrain) : (c.receive k).2.stage.isEnding = true := by
  rw [receive_response] at h
  obtain ⟨before, asks⟩ := (Response.of_eq_beginDrain_iff c.stage k).mp h
  rw [receive_beginDrain c k before asks]
  rfl

theorem stopped_of_receive_escalate {c : Core} {k : Signal}
    (h : (c.receive k).1 = .escalate) : (c.receive k).2.stage = .stopped := by
  rw [receive_response] at h
  obtain ⟨before, asks⟩ := (Response.of_eq_escalate_iff c.stage k).mp h
  rw [receive_escalate c k before asks]
  rfl

/-- The ending that a forced stop reports is the one on record. -/
theorem Sound.endingOr_of_stopped {c : Core} (hc : c.Sound) (stopped : c.stage = .stopped)
    (e : Ending) : c.ending = some (c.endingOr e) := by
  have recorded := hc.ending.mpr stopped
  cases he : c.ending with
  | none => simp [he] at recorded
  | some first => simp [endingOr, he]

/-- Once the gate is closed, the end of a drain reports what is on record then. -/
theorem Sound.ending_finish {c : Core} (hc : c.Sound) (closed : c.stage.isEnding = true)
    (e : Ending) : (c.finish e).2.ending = some (c.finish e).1 := by
  rcases (Stage.isEnding_iff c.stage).mp closed with drains | stopped
  · have unrecorded := hc.ending_none (by simp [drains])
    simp [finish_of_draining c e drains, recordEnding, unrecorded]
  · rw [finish_of_not_draining c e (by simp [stopped])]
    exact hc.endingOr_of_stopped stopped e

end Core

namespace Scene

variable {D : Type} {s t : Scene D} {m : Move D}

/-- The core has gone on from one scene to the other and not back. -/
structure Onward (s t : Scene D) : Prop where
  closed : s.engine.stage.isEnding = true → t.engine.stage.isEnding = true
  stopped : s.engine.stage = .stopped → t.engine.stage = .stopped
  ending : ∀ r, s.engine.core.ending = some r → t.engine.core.ending = some r

theorem onward_of_move? (h : s.move? m = some t) (hs : s.Sound) : Onward s t := by
  have change := core_change h hs.sawIdle
  have still (stopped : s.engine.stage = .stopped) : s.engine.core.Still t.engine.core :=
    Core.still_of_change_of_stopped change stopped
  refine ⟨Core.isEnding_of_rank_le (Core.rank_le_of_change change), ?_, ?_⟩
  · intro stopped
    exact (still stopped).stage.trans stopped
  · intro r recorded
    have stopped := hs.core.ending.mp (by simp [recorded])
    exact (still stopped).ending.trans recorded

/-- The runner is where it is for a reason that still holds. -/
structure Aware (s : Scene D) : Prop where
  pending : s.point ≠ .waiting → s.engine.runner.isPending = true
  told : ∀ k, s.point = .answered k .beginDrain → s.engine.stage.isEnding = true
  forced : ∀ k, s.point = .answered k .escalate → s.engine.stage = .stopped
  saw : s.point = .sawIdle ∨ s.point = .sawLate →
    ∃ deadline listening, s.engine.runner = .draining deadline listening
  drains : s.direct = false → ∀ deadline listening,
    s.engine.runner = .draining deadline listening → s.engine.stage.isEnding = true
  ended : s.direct = false → ∀ r,
    s.engine.runner = .ended (.stopped r) → s.engine.core.ending = some r

theorem aware_fresh (grace : Duration) (settings : WorkloadSettings) (desk : D) :
    (fresh grace settings desk).Aware := by
  constructor <;> simp [fresh]

/-- What others do leaves the runner aware. -/
theorem Aware.aside (hs : s.Aware) (on : Onward s t) (aside : Aside s t) : t.Aware where
  pending h := aside.runner ▸ hs.pending (aside.point ▸ h)
  told k h := on.closed (hs.told k (aside.point ▸ h))
  forced k h := on.stopped (hs.forced k (aside.point ▸ h))
  saw h := aside.runner ▸ hs.saw (aside.point ▸ h)
  drains h deadline listening hr :=
    on.closed (hs.drains (aside.direct ▸ h) deadline listening (aside.runner ▸ hr))
  ended h r hr := on.ending r (hs.ended (aside.direct ▸ h) r (aside.runner ▸ hr))

/-- At rest only what the runner waits for, or how it ended, is to be accounted for. -/
theorem Aware.atRest (rest : t.point = .waiting)
    (drains : t.direct = false → ∀ deadline listening,
      t.engine.runner = .draining deadline listening → t.engine.stage.isEnding = true)
    (ended : t.direct = false → ∀ r,
      t.engine.runner = .ended (.stopped r) → t.engine.core.ending = some r) : t.Aware where
  pending h := absurd rest h
  told k h := by rw [rest] at h; cases h
  forced k h := by rw [rest] at h; cases h
  saw h := by rw [rest] at h; rcases h with h | h <;> cases h
  drains := drains
  ended := ended

/-- A runner that is free to begin is at rest. -/
theorem Aware.waiting_of_free (hs : s.Aware) (free : s.engine.runner.holdsChannel = false) :
    s.point = .waiting := by
  by_cases rest : s.point = .waiting
  · exact rest
  · have pending := hs.pending rest
    simp [Runner.holdsChannel, pending] at free

private theorem aware_of_answer (hs : s.Aware) (on : Onward s t) (h : s.answer? = some t) :
    t.Aware := by
  obtain ⟨k, hp, rfl⟩ := answer?_eq_some h
  refine ⟨fun _ => hs.pending (by simp [hp]), ?_, ?_, ?_, ?_, ?_⟩
  · intro k' told
    injection told with _ response
    exact Core.isEnding_of_receive_beginDrain response
  · intro k' forced
    injection forced with _ response
    exact Core.stopped_of_receive_escalate response
  · rintro (h | h) <;> cases h
  · intro byRun deadline listening runner
    exact on.closed (hs.drains byRun deadline listening runner)
  · intro byRun r runner
    exact on.ending r (hs.ended byRun r runner)

private theorem aware_of_act (sound : s.Sound) (hs : s.Aware) (h : s.act? = some t) :
    t.Aware := by
  obtain ⟨k, r, hp, ⟨rfl, hr, rfl⟩ | ⟨rfl, hr, rfl⟩ | ⟨rfl, rfl⟩ | rfl⟩ := act?_eq_some h
  · obtain ⟨runner, entered, next⟩ := s.engine.enterDrain_eq
    rw [entered]
    refine .atRest rfl (fun _ _ _ _ => hs.told k hp) ?_
    intro _ e stopped
    rcases next with ⟨deadline, rfl⟩ | rfl <;> cases stopped
  · refine ⟨fun _ => by simp [hr, Runner.isPending], ?_, ?_, ?_, ?_, ?_⟩
    · intro k h; cases h
    · intro k h; cases h
    · rintro (h | h) <;> cases h
    · intro _ deadline listening drains
      rw [show s.engine.runner = .receiving from hr] at drains
      cases drains
    · intro _ e stopped
      rw [show s.engine.runner = .receiving from hr] at stopped
      cases stopped
  · refine .atRest rfl (fun _ deadline listening drains => nomatch drains) ?_
    intro _ e stopped
    cases stopped
    exact sound.core.endingOr_of_stopped (hs.forced k hp) (.forced k)
  · exact .atRest rfl hs.drains hs.ended

private theorem aware_of_hearClosed (hs : s.Aware) (h : s.hearClosed? = some t) : t.Aware := by
  obtain ⟨hp, _, _, ⟨_, rfl⟩ | ⟨deadline, hr, rfl⟩⟩ := hearClosed?_eq_some h
  · refine .atRest hp ?_ ?_
    · intro _ deadline listening drains; cases drains
    · intro _ r stopped; cases stopped
  · refine .atRest hp ?_ ?_
    · intro byRun _ _ _
      exact hs.drains byRun deadline true hr
    · intro _ r stopped; cases stopped

private theorem aware_of_seen (hs : s.Aware)
    (drains : ∃ deadline listening, s.engine.runner = .draining deadline listening) {p : Point}
    (seen : p = .sawIdle ∨ p = .sawLate) : Aware { s with point := p } := by
  obtain ⟨deadline, listening, runner⟩ := drains
  refine ⟨fun _ => by simp [runner, Runner.isPending], ?_, ?_,
    fun _ => ⟨deadline, listening, runner⟩, hs.drains, hs.ended⟩
  · intro k told
    rcases seen with rfl | rfl <;> cases told
  · intro k forced
    rcases seen with rfl | rfl <;> cases forced

private theorem aware_of_finish (sound : s.Sound) (hs : s.Aware) (h : s.finish? = some t) :
    t.Aware := by
  have reported (seen : s.point = .sawIdle ∨ s.point = .sawLate) (byRun : s.direct = false)
      (e : Ending) : (s.engine.core.finish e).2.ending = some (s.engine.core.finish e).1 := by
    obtain ⟨deadline, listening, runner⟩ := hs.saw seen
    exact sound.core.ending_finish (hs.drains byRun deadline listening runner) e
  obtain ⟨seen, rfl⟩ | ⟨seen, rfl⟩ := finish?_eq_some h
  · refine .atRest rfl (fun _ _ _ drains => nomatch drains) ?_
    intro byRun r stopped
    cases stopped
    exact reported (.inl seen) byRun .drained
  · refine .atRest rfl (fun _ _ _ drains => nomatch drains) ?_
    intro byRun r stopped
    cases stopped
    exact reported (.inr seen) byRun .graceExpired

theorem aware_of_move? (h : s.move? m = some t) (sound : s.Sound) (hs : s.Aware) : t.Aware := by
  have on := onward_of_move? h sound
  rcases aside_of_move? h with aside | own
  · exact hs.aside on aside
  · cases m with
    | markReady | signal _ | send _ | hangUp | discard | enter _ | takeIn _ | handIn _
    | proceed _ | apply _ | fire _ | pass _ | elsewhere _ => cases own
    | beginRun =>
        obtain ⟨granted, rfl⟩ := begin?_eq_some h
        obtain ⟨free, begun⟩ := Engine.beginRun_granted granted
        refine .atRest (hs.waiting_of_free free) ?_ ?_
        · intro _ deadline listening runner
          rw [begun] at runner
          cases runner
        · intro _ r runner
          rw [begun] at runner
          cases runner
    | beginDrain =>
        obtain ⟨granted, rfl⟩ := begin?_eq_some h
        obtain ⟨free, _⟩ := Engine.beginDrain_granted granted
        exact .atRest (hs.waiting_of_free free) (fun byRun => nomatch byRun)
          (fun byRun => nomatch byRun)
    | take =>
        obtain ⟨_, listens, k, rest, _, rfl⟩ := take?_eq_some h
        refine ⟨fun _ => ?_, ?_, ?_, ?_, hs.drains, hs.ended⟩
        · cases hr : s.engine.runner <;> simp_all [Runner.listens, Runner.isPending]
        · intro k h; cases h
        · intro k h; cases h
        · rintro (h | h) <;> cases h
    | answer => exact aware_of_answer hs on h
    | act => exact aware_of_act sound hs h
    | served desk update =>
        obtain ⟨_, rfl⟩ := served_eq_some h
        obtain ⟨pool, reloaded, _⟩ := s.engine.reloaded_eq desk update
        rw [reloaded]
        exact .atRest rfl hs.drains hs.ended
    | brokeOff cause =>
        obtain ⟨_, rfl⟩ := brokeOff_eq_some h
        exact .atRest rfl (fun _ _ _ drains => nomatch drains) (fun _ _ ended => nomatch ended)
    | hearClosed => exact aware_of_hearClosed hs h
    | seeIdle =>
        obtain ⟨_, drains, _, rfl⟩ := seeIdle?_eq_some h
        exact aware_of_seen hs drains (.inl rfl)
    | seeLate =>
        obtain ⟨_, ⟨deadline, listening, runner, _⟩, rfl⟩ := seeLate?_eq_some h
        exact aware_of_seen hs ⟨deadline, listening, runner⟩ (.inr rfl)
    | finish => exact aware_of_finish sound hs h

theorem Reachable.aware (h : s.Reachable) : s.Aware := by
  obtain ⟨grace, settings, desk, ms, hrun⟩ := h
  exact (sound_fresh grace settings desk).run_invariant aware_of_move? hrun
    (aware_fresh grace settings desk)

end Scene

end Quiesce
