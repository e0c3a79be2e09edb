import Quiesce.Proofs.Engine.SceneSound

/-!
The life of a daemon as everybody around it can rely on, whoever acts and in whatever order: it
only goes forward, it has an ending exactly when it has stopped, and what is published about it and
what the gate does agree with its stage.
-/
namespace Quiesce

/-- The signals that force a stop are those that ask for one. -/
theorem Signal.asksToStop_iff (s : Signal) :
    s.asksToStop = true ↔ s = .interrupt ∨ s = .terminate := by
  cases s <;> simp [asksToStop]

namespace Ending

theorem exitCode_cases (e : Ending) (asked : ∀ k, e = .forced k → k.asksToStop = true) :
    e.exitCode = 0 ∨ e.exitCode = 3 ∨ e.exitCode = 130 ∨ e.exitCode = 143 := by
  cases e with
  | drained => exact .inl rfl
  | graceExpired => exact .inr (.inl rfl)
  | forced k =>
      rcases (Signal.asksToStop_iff k).mp (asked k rfl) with rfl | rfl
      · exact .inr (.inr (.inl rfl))
      · exact .inr (.inr (.inr rfl))

end Ending

namespace Scene

variable {D : Type} {s t : Scene D}

/-- Stage, ending, gate and publication of a daemon agree at all times, the stage never goes back,
and an ending once recorded stays. -/
theorem life_agrees (h : s.Reachable) :
    (∀ ms t, s.run ms = some t → s.engine.stage.rank ≤ t.engine.stage.rank ∧
      ∀ e, s.engine.core.ending = some e → t.engine.core.ending = some e) ∧
    (s.engine.core.ending.isSome = true ↔ s.engine.stage = .stopped) ∧
    (s.engine.core.admissionClosed = true ↔ s.engine.core.trackerClosed = true) ∧
    (s.engine.core.trackerClosed = true ↔
      s.engine.stage = .draining ∨ s.engine.stage = .stopped) ∧
    s.engine.core.cell.published = s.engine.stage ∧
    ∀ e, s.engine.core.ending = some e →
      (∀ k, e = .forced k → k = .interrupt ∨ k = .terminate) ∧
      (e.exitCode = 0 ∨ e.exitCode = 3 ∨ e.exitCode = 130 ∨ e.exitCode = 143) := by
  have sound := h.sound
  refine ⟨?_, sound.core.ending, ?_, ?_, sound.core.published, ?_⟩
  · intro ms t hrun
    exact ⟨rank_le_of_run hrun sound, fun e he => ending_of_run hrun sound he⟩
  · rw [sound.core.admission, sound.core.tracker]
  · rw [sound.core.tracker]
    exact Stage.isEnding_iff _
  · intro e he
    have asked : ∀ k, e = .forced k → k.asksToStop = true := by
      intro k hk
      exact sound.core.asked k (hk ▸ he)
    exact ⟨fun k hk => (Signal.asksToStop_iff k).mp (asked k hk), e.exitCode_cases asked⟩

/-- A second request that forces the stop of a daemon whose worker is still busy. -/
theorem life_agrees_forced : ∃ s : Scene Unit, s.Reachable ∧
    s.engine.inFlight = 1 ∧ s.engine.core.ending = some (.forced .interrupt) ∧
    s.engine.core.cell.published = .stopped ∧ s.engine.core.trackerClosed = true ∧
    ∀ ms t, s.run ms = some t → t.engine.core.ending = some (.forced .interrupt) := by
  let moves : List (Move Unit) :=
    [.enter .worker, .markReady, .beginRun, .send .terminate, .take, .answer, .act,
      .send .interrupt, .take, .answer, .act]
  have reached : ∃ s, (fresh (.ofMillis 5000) {} ()).run moves = some s ∧
      s.engine.inFlight = 1 ∧ s.engine.core.ending = some (.forced .interrupt) := ⟨_, rfl, rfl, rfl⟩
  obtain ⟨s, hrun, inFlight, ending⟩ := reached
  have reachable : s.Reachable := ⟨_, _, _, moves, hrun⟩
  obtain ⟨later, stops, _, closes, published, _⟩ := life_agrees reachable
  have stopped : s.engine.stage = .stopped := stops.mp (by simp [ending])
  exact ⟨s, reachable, inFlight, ending, published.trans stopped, closes.mpr (.inr stopped),
    fun ms t hrun => (later ms t hrun).2 _ ending⟩

end Scene

end Quiesce
