import Quiesce.Cli.Dvm
import Quiesce.Proofs.Engine.RunnerAware

/-!
Four observers of one stop: what is on record, what the run returns, the line that the daemon
writes, and the exit code of its process. They agree, whoever it was that stopped the daemon.
-/
namespace Quiesce

namespace Core

/-- A stopped daemon counts signals, and nothing else comes of them. -/
theorem still_receive {c : Core} (stopped : c.stage = .stopped) (k : Signal) :
    c.Still (c.receive k).2 := by
  have quiet : (Response.of c.stage k).target? = none := by rw [stopped]; rfl
  rw [receive_of_target?_eq_none c k quiet]
  rfl

theorem still_receiveAll {c : Core} (stopped : c.stage = .stopped) (ks : List Signal) :
    c.Still (ks.foldl (fun c k => (c.receive k).2) c) := by
  induction ks generalizing c with
  | nil => exact .refl c
  | cons k ks ih =>
      have first := still_receive stopped k
      exact first.trans (ih (first.stage.trans stopped))

end Core

/-- Every exit code fits into the byte that a process leaves behind. -/
theorem Ending.exitCode_toUInt8 (e : Ending) :
    (e.exitCode.toUInt32.toUInt8.toNat : Int) = e.exitCode.toInt := by
  cases e with
  | drained | graceExpired => rfl
  | forced k => cases k <;> rfl

namespace Daemon

/-- A run that has returned is reported once, with the ending that it returned. -/
theorem conclude?_of_stopped {d : Daemon} {r : Ending} (silent : d.concluded = none)
    (returned : d.engine.runner = .ended (.stopped r)) :
    ∃ after, d.conclude? = some after ∧ after.engine = d.engine.discard.2.hangUp ∧
      after.concluded = some d.engine.now ∧
      after.lines = d.lines ++ [(d.engine.now, .stopped r.label r.exitCode)] := by
  have concluded : d.conclude? = some ({ d with
      engine := d.engine.discard.2.hangUp, concluded := some d.engine.now }.write
        (.ofEnding r)) := by
    simp only [conclude?, silent, returned]
    rfl
  exact ⟨_, concluded, rfl, rfl, rfl⟩

theorem exit?_of_stopped {d : Daemon} {r : Ending} {t : Instant} (said : d.concluded = some t)
    (returned : d.engine.runner = .ended (.stopped r)) : d.exit? = some (t, r.exitCode) := by
  simp only [exit?, said, returned]

/-- Where nothing is waited for any more, the process ends as it said. -/
theorem farewell_of_stopped {d : Daemon} {r : Ending} {t : Instant} (said : d.concluded = some t)
    (returned : d.engine.runner = .ended (.stopped r)) :
    (Cli.Dvm.farewell d).code = r.exitCode.toUInt32.toUInt8 := by
  have same : d.play [] = d := by simp only [play, Engine.deadline?, returned]
  simp only [Cli.Dvm.farewell, same, exit?_of_stopped said returned]

end Daemon

namespace Scene

variable {s t : Scene Desk} {r : Ending}

/-- If a run returns an ending, then the daemon has stopped with that ending on record, which was
the first to be recorded and is the last; signals change nothing any more, and the line that is
written and the exit code of the process tell of that same ending. -/
theorem stop_report_agrees (h : s.Reachable) (byRun : s.direct = false)
    (returned : s.engine.runner = .ended (.stopped r)) :
    s.engine.stage = .stopped ∧ s.engine.core.ending = some r ∧
    (∀ (early : Scene Desk) ms e, early.Reachable → early.run ms = some s →
      early.engine.core.ending = some e → e = r) ∧
    (∀ ms (late : Scene Desk), s.run ms = some late →
      s.engine.core.Still late.engine.core ∧
      (∀ k, s.engine.core.Still (late.engine.signal k).2.core) ∧
      s.engine.core.Still late.engine.discard.2.core) ∧
    ∀ d : Daemon, d.engine = s.engine → d.concluded = none →
      ∃ after, d.conclude? = some after ∧ after.engine.core.ending = some r ∧
        ∃ code, after.lines = d.lines ++ [(d.engine.now, .stopped r.label code)] ∧
          after.exit? = some (d.engine.now, code) ∧
          ((Cli.Dvm.farewell after).code.toNat : Int) = code.toInt := by
  have sound := h.sound
  have recorded : s.engine.core.ending = some r := h.aware.ended byRun r returned
  have stopped : s.engine.stage = .stopped := sound.core.ending.mp (by simp [recorded])
  refine ⟨stopped, recorded, ?_, ?_, ?_⟩
  · intro early ms e reachable hrun first
    have kept := ending_of_run hrun reachable.sound first
    rw [recorded] at kept
    injection kept with same
    exact same.symm
  · intro ms late hrun
    have still := still_of_run_of_stopped hrun sound stopped
    have stays : late.engine.core.stage = .stopped := still.stage.trans stopped
    exact ⟨still, fun k => still.trans (Core.still_receive stays k),
      still.trans (Core.still_receiveAll stays late.engine.inbox)⟩
  · intro d same silent
    have ended : d.engine.runner = .ended (.stopped r) := by rw [same]; exact returned
    have stays : d.engine.core.stage = .stopped := by rw [same]; exact stopped
    have still : d.engine.core.Still d.engine.discard.2.core :=
      Core.still_receiveAll stays d.engine.inbox
    obtain ⟨after, concluded, engine, said, lines⟩ := Daemon.conclude?_of_stopped silent ended
    have remains : after.engine.runner = .ended (.stopped r) := by rw [engine]; exact ended
    refine ⟨after, concluded, ?_, r.exitCode, lines, Daemon.exit?_of_stopped said remains, ?_⟩
    · rw [engine]
      refine still.ending.trans ?_
      rw [same]
      exact recorded
    · rw [Daemon.farewell_of_stopped said remains]
      exact r.exitCode_toUInt8

/-- A run that is about to report a clean drain, when somebody else forces the stop. -/
theorem stop_report_agrees_overtaken : ∃ s : Scene Desk, s.Reachable ∧
    s.engine.runner = .ended (.stopped (.forced .interrupt)) ∧
    s.engine.core.ending = some (.forced .interrupt) ∧
    ∃ after, { Daemon.new {} "dvm" {} {} with engine := s.engine }.conclude? = some after ∧
      ∃ code, after.lines = [(s.engine.now, .stopped "escalated-interrupt" code)] ∧
        after.exit? = some (s.engine.now, code) := by
  let moves : List (Move Desk) :=
    [.markReady, .beginRun, .send .terminate, .take, .answer, .act, .seeIdle, .signal .interrupt,
      .finish, .send .terminate]
  have reached : ∃ s, (fresh (.ofMillis 5000) {}
      ⟨{}, { path := "dvm", overrides := {}, current := {} }⟩).run moves = some s ∧
      s.direct = false ∧ s.engine.runner = .ended (.stopped (.forced .interrupt)) :=
    ⟨_, rfl, rfl, rfl⟩
  obtain ⟨s, hrun, byRun, returned⟩ := reached
  have reachable : s.Reachable := ⟨_, _, _, moves, hrun⟩
  obtain ⟨_, recorded, _, _, reports⟩ := stop_report_agrees reachable byRun returned
  obtain ⟨after, concluded, _, code, lines, exits, _⟩ :=
    reports { Daemon.new {} "dvm" {} {} with engine := s.engine } rfl rfl
  exact ⟨s, reachable, returned, recorded, after, concluded, code, lines, exits⟩

end Scene

end Quiesce
