import Quiesce.Lifecycle.Core

/-!
What a single step can make of the core of a daemon's life. There are four such changes, whoever
takes the step: a signal is counted, the daemon becomes ready, the gate closes, or an ending is
recorded. The coupling of stage, publication, gate and ending follows from these four alone.
-/
namespace Quiesce

namespace Stage

theorem isEnding_iff (s : Stage) : s.isEnding = true ↔ s = .draining ∨ s = .stopped := by
  cases s <;> simp [isEnding]

theorem not_isEnding_iff (s : Stage) : s.isEnding = false ↔ s = .starting ∨ s = .ready := by
  cases s <;> simp [isEnding]

end Stage

namespace Response

theorem of_eq_beginDrain_iff (stage : Stage) (s : Signal) :
    of stage s = beginDrain ↔ stage.isEnding = false ∧ s.asksToStop = true := by
  cases stage <;> cases s <;> decide

theorem of_eq_escalate_iff (stage : Stage) (s : Signal) :
    of stage s = escalate ↔ stage = .draining ∧ s.asksToStop = true := by
  cases stage <;> cases s <;> decide

/-- A signal that does not ask to stop moves nothing. -/
theorem target?_of (stage : Stage) (s : Signal) (hs : s.asksToStop = false) :
    (of stage s).target? = none := by
  cases stage <;> cases s <;> first | rfl | cases hs

end Response

namespace StageCell

theorem update_move {α : Type} (cell : StageCell) (choose : Stage → Option Stage × α)
    (next : Stage) (answer : α) (h : choose cell.stage = (some next, answer))
    (ahead : cell.stage.canAdvanceTo next = true) :
    cell.update choose = (answer, cell.publish next) := by
  simp [update, h, ahead]

theorem update_stay {α : Type} (cell : StageCell) (choose : Stage → Option Stage × α)
    (answer : α) (h : choose cell.stage = (none, answer)) :
    cell.update choose = (answer, cell) := by
  simp [update, h]

end StageCell

namespace Core

/-- What one step can make of a core. An ending is recorded by the edge from draining to stopped
only; that the work is done may be recorded only if it is, which `idle` says. -/
inductive Change (idle : Prop) : Core → Core → Prop where
  | count (c : Core) (t : Tally) : Change idle c { c with tally := t }
  | becomeReady (c : Core) (start : c.stage = .starting) :
      Change idle c { c with cell := c.cell.publish .ready }
  | close (c : Core) (t : Tally) (before : c.stage.isEnding = false) :
      Change idle c { c with
        cell := c.cell.publish .draining, admissionClosed := true, trackerClosed := true
        tally := t }
  | stop (c : Core) (e : Ending) (t : Tally) (before : c.stage = .draining)
      (done : e = .drained → idle) (asked : ∀ s, e = .forced s → s.asksToStop = true) :
      Change idle c { c.recordEnding e with cell := c.cell.publish .stopped, tally := t }

theorem Change.refl {idle : Prop} (c : Core) : Change idle c c := .count c c.tally

theorem receive_response (c : Core) (s : Signal) :
    (c.receive s).1 = Response.of c.stage s := by
  simp only [receive, StageCell.update, stage]
  split <;> simp_all

/-- A signal that moves nothing is counted, and that is all. -/
theorem receive_of_target?_eq_none (c : Core) (s : Signal)
    (h : (Response.of c.stage s).target? = none) :
    (c.receive s).2 = { c with tally := c.tally.count s (Response.of c.stage s) } := by
  have still := c.cell.update_stay
    (fun stage => ((Response.of stage s).target?, Response.of stage s))
    (Response.of c.stage s) (congrArg (·, Response.of c.stage s) h)
  simp only [receive, still]
  cases hr : Response.of c.stage s with
  | beginDrain | escalate => simp [hr, Response.target?] at h
  | reload | ignored _ => simp [prepare]

theorem receive_beginDrain (c : Core) (s : Signal) (hc : c.stage.isEnding = false)
    (hs : s.asksToStop = true) :
    (c.receive s).2 = { c with
      cell := c.cell.publish .draining, admissionClosed := true, trackerClosed := true
      tally := c.tally.count s .beginDrain } := by
  have hr := (Response.of_eq_beginDrain_iff c.stage s).mpr ⟨hc, hs⟩
  have ahead : c.stage.canAdvanceTo .draining = true := by
    rcases (Stage.not_isEnding_iff c.stage).mp hc with h | h <;> rw [h] <;> rfl
  have moved := c.cell.update_move
    (fun stage => ((Response.of stage s).target?, Response.of stage s))
    .draining .beginDrain (congrArg (fun r => (Response.target? r, r)) hr) ahead
  simp [receive, moved, prepare]

theorem receive_escalate (c : Core) (s : Signal) (hc : c.stage = .draining)
    (hs : s.asksToStop = true) :
    (c.receive s).2 = { c.recordEnding (.forced s) with
      cell := c.cell.publish .stopped, tally := c.tally.count s .escalate } := by
  have hr := (Response.of_eq_escalate_iff c.stage s).mpr ⟨hc, hs⟩
  have ahead : c.stage.canAdvanceTo .stopped = true := by rw [hc]; rfl
  have moved := c.cell.update_move
    (fun stage => ((Response.of stage s).target?, Response.of stage s))
    .stopped .escalate (congrArg (fun r => (Response.target? r, r)) hr) ahead
  simp [receive, moved, prepare, recordEnding]

theorem receive_change {idle : Prop} (c : Core) (s : Signal) :
    Change idle c (c.receive s).2 := by
  cases hs : s.asksToStop with
  | false =>
      rw [receive_of_target?_eq_none c s (Response.target?_of c.stage s hs)]
      exact .count c _
  | true =>
      cases hc : c.stage.isEnding with
      | false =>
          rw [receive_beginDrain c s hc hs]
          exact .close c _ hc
      | true =>
          rcases (Stage.isEnding_iff c.stage).mp hc with drains | stopped
          · rw [receive_escalate c s drains hs]
            refine .stop c (.forced s) _ drains (fun h => nomatch h) ?_
            intro k hk
            cases hk
            exact hs
          · have quiet : (Response.of c.stage s).target? = none := by rw [stopped]; rfl
            rw [receive_of_target?_eq_none c s quiet]
            exact .count c _

theorem markReady_change {idle : Prop} (c : Core) : Change idle c c.markReady.2 := by
  simp only [markReady, StageCell.transition]
  split
  · rename_i h
    exact .becomeReady c h.1
  · exact .refl c

/-- A drain that ends before anything else has stopped the daemon records its ending. -/
theorem finish_of_draining (c : Core) (e : Ending) (hc : c.stage = .draining) :
    c.finish e = (e, { c.recordEnding e with cell := c.cell.publish .stopped }) := by
  have ahead : c.stage.canAdvanceTo .stopped = true := by rw [hc]; rfl
  have moved := c.cell.update_move
    (fun stage => if stage = .draining then (some .stopped, true) else (none, false))
    .stopped true (if_pos hc) ahead
  simp [finish, moved]

/-- A drain that comes too late, or before any request to stop, leaves the core as it is. -/
theorem finish_of_not_draining (c : Core) (e : Ending) (hc : c.stage ≠ .draining) :
    c.finish e = (c.endingOr e, c) := by
  have still := c.cell.update_stay
    (fun stage => if stage = .draining then (some .stopped, true) else (none, false))
    false (if_neg hc)
  simp [finish, still]

theorem finish_change {idle : Prop} (c : Core) (e : Ending) (done : e = .drained → idle)
    (asked : ∀ s, e = .forced s → s.asksToStop = true) : Change idle c (c.finish e).2 := by
  by_cases hc : c.stage = .draining
  · rw [finish_of_draining c e hc]
    exact .stop c e c.tally hc done asked
  · rw [finish_of_not_draining c e hc]
    exact .refl c

/-- The parts of a core agree: what is published is the stage, the gate is closed on both sides
from the first request to stop on, and an ending is recorded exactly when the daemon has stopped. -/
structure Sound (c : Core) : Prop where
  published : c.cell.published = c.stage
  admission : c.admissionClosed = c.stage.isEnding
  tracker : c.trackerClosed = c.stage.isEnding
  ending : c.ending.isSome = true ↔ c.stage = .stopped
  asked : ∀ s, c.ending = some (.forced s) → s.asksToStop = true

theorem sound_fresh (grace : Duration) : Sound { grace := grace } where
  published := rfl
  admission := rfl
  tracker := rfl
  ending := by simp [stage]
  asked := by simp

theorem Sound.ending_none {c : Core} (hc : c.Sound) (h : c.stage ≠ .stopped) :
    c.ending = none := by
  cases he : c.ending with
  | none => rfl
  | some e => exact absurd (hc.ending.mp (by simp [he])) h

theorem sound_of_change {idle : Prop} {c d : Core} (h : Change idle c d) (hc : c.Sound) :
    d.Sound := by
  cases h with
  | count t => exact ⟨hc.published, hc.admission, hc.tracker, hc.ending, hc.asked⟩
  | becomeReady start =>
      have unrecorded := hc.ending_none (by simp [start])
      have opened : c.stage.isEnding = false := by rw [start]; rfl
      refine ⟨rfl, hc.admission.trans opened, hc.tracker.trans opened, ?_, hc.asked⟩
      simp [unrecorded, stage, StageCell.publish]
  | close t before =>
      have unrecorded := hc.ending_none (by intro h; simp [h, Stage.isEnding] at before)
      refine ⟨rfl, rfl, rfl, ?_, hc.asked⟩
      simp [unrecorded, stage, StageCell.publish]
  | stop e t before done asked =>
      have unrecorded := hc.ending_none (by simp [before])
      have closed : c.stage.isEnding = true := by rw [before]; rfl
      refine ⟨rfl, hc.admission.trans closed, hc.tracker.trans closed, ?_, ?_⟩
      · simp [recordEnding, stage, StageCell.publish]
      · intro s hs
        apply asked s
        simpa [recordEnding, unrecorded] using hs

/-- No step goes back to an earlier stage. -/
theorem rank_le_of_change {idle : Prop} {c d : Core} (h : Change idle c d) :
    c.stage.rank ≤ d.stage.rank := by
  cases h with
  | count t => exact Nat.le_refl _
  | becomeReady start => rw [start]; exact Nat.zero_le _
  | close t before =>
      change c.stage.rank ≤ Stage.draining.rank
      rcases (Stage.not_isEnding_iff c.stage).mp before with h | h <;> rw [h] <;> decide
  | stop e t before done asked =>
      change c.stage.rank ≤ Stage.stopped.rank
      rw [before]
      decide

theorem isEnding_of_rank_le {s t : Stage} (h : s.rank ≤ t.rank) (hs : s.isEnding = true) :
    t.isEnding = true := by
  cases s <;> cases t <;> simp_all [Stage.rank, Stage.isEnding]

/-- Apart from its counts, the second core is as the first one. -/
def Still (c d : Core) : Prop := d = { c with tally := d.tally }

theorem Still.refl (c : Core) : c.Still c := rfl

theorem Still.trans {c d e : Core} (h : c.Still d) (k : d.Still e) : c.Still e := by
  unfold Still at h k
  rw [h] at k
  exact k

theorem Still.stage {c d : Core} (h : c.Still d) : d.stage = c.stage := by
  rw [h]
  rfl

theorem Still.ending {c d : Core} (h : c.Still d) : d.ending = c.ending := by
  rw [h]

/-- Once stopped, a core only counts. -/
theorem still_of_change_of_stopped {idle : Prop} {c d : Core} (h : Change idle c d)
    (hc : c.stage = .stopped) : c.Still d := by
  cases h with
  | count t => rfl
  | becomeReady start => simp [start] at hc
  | close t before => simp [hc, Stage.isEnding] at before
  | stop e t before done asked => simp [before] at hc

/-- That the work is done is not put on record before it is. -/
theorem idle_of_change_of_drained {idle : Prop} {c d : Core} (h : Change idle c d)
    (hc : c.ending = none) (hd : d.ending = some .drained) : idle := by
  cases h with
  | count t => simp [hc] at hd
  | becomeReady start => simp [hc] at hd
  | close t before => simp [hc] at hd
  | stop e t before done asked =>
      apply done
      simpa [recordEnding, hc] using hd

end Core

end Quiesce
