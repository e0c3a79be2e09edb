import Quiesce.Proofs.Lifecycle.CoreChange

/-!
What the counts of a core say about the signals that were given to it. Each counter is the number
of signals that were answered in one way, whatever the order in which they are entered, and every
signal is entered in one place only. What a count is tied to besides, the stage and the ending on
record, follows from the answers themselves: there is one that begins the drain, and one that forces
the stop.
-/
namespace Quiesce

/-- A signal that was given to a core, and the stage that it found there. -/
structure Hearing where
  stage : Stage
  signal : Signal
  deriving DecidableEq

namespace Hearing

def response (h : Hearing) : Response := .of h.stage h.signal

/-- A kill that comes before the stop, which no daemon ever gets to see. -/
def isUnseen (h : Hearing) : Bool := h.signal = .kill && h.stage ≠ .stopped

/-- A request to reload at a stage that does not reload, before the stop. -/
def isUntimely (h : Hearing) : Bool :=
  h.signal = .hangup && (h.stage = .starting || h.stage = .draining)

theorem countP_concat (log : List Hearing) (h : Hearing) (r : Response) :
    (log ++ [h]).countP (·.response = r) =
      log.countP (·.response = r) + (decide (h.response = r)).toNat := by
  by_cases same : h.response = r <;> simp [same]

end Hearing

namespace Tally

def countAll (t : Tally) (log : List Hearing) : Tally :=
  log.foldl (fun t h => t.count h.signal h.response) t

/-- The counts after these signals and no others. -/
def of (log : List Hearing) : Tally := countAll {} log

theorem of_concat (log : List Hearing) (h : Hearing) :
    of (log ++ [h]) = (of log).count h.signal h.response := by
  simp [of, countAll]

theorem countAll_counts (t : Tally) (log : List Hearing) :
    (t.countAll log).reloads = t.reloads + log.countP (·.response = .reload) ∧
    (t.countAll log).escalations = t.escalations + log.countP (·.response = .escalate) ∧
    (t.countAll log).ignoredAfterStop =
      t.ignoredAfterStop + log.countP (·.response = .ignored .afterStop) ∧
    (t.countAll log).dispatched = t.dispatched + log.countP (·.response = .reload) +
      log.countP (·.response = .escalate) + log.countP (·.response = .beginDrain) := by
  induction log generalizing t with
  | nil => exact ⟨rfl, rfl, rfl, rfl⟩
  | cons h log ih =>
      obtain ⟨reloads, escalations, afterStop, dispatched⟩ := ih (t.count h.signal h.response)
      change ((t.count h.signal h.response).countAll log).reloads = _ ∧
        ((t.count h.signal h.response).countAll log).escalations = _ ∧
        ((t.count h.signal h.response).countAll log).ignoredAfterStop = _ ∧
        ((t.count h.signal h.response).countAll log).dispatched = _
      rw [reloads, escalations, afterStop, dispatched]
      simp only [List.countP_cons]
      cases h.response with
      | beginDrain | escalate | reload => simp [count]; omega
      | ignored why =>
          cases why <;> simp [count]
          omega

theorem last_countAll (t : Tally) (log : List Hearing) :
    (t.countAll log).last = (log.getLast?.map (·.signal)).or t.last := by
  induction log generalizing t with
  | nil => rfl
  | cons h log ih =>
      have entered : (t.count h.signal h.response).last = some h.signal := by
        cases h.response with
        | beginDrain | escalate | reload => rfl
        | ignored why => cases why <;> rfl
      refine (ih (t.count h.signal h.response)).trans ?_
      rw [entered, List.getLast?_cons]
      cases log.getLast? <;> rfl

/-- After a stop all signals are entered in the same place. -/
theorem countAll_of_stopped (t : Tally) (ks : List Signal) :
    t.countAll (ks.map (⟨.stopped, ·⟩)) =
      { t with
        ignoredAfterStop := t.ignoredAfterStop + ks.length, last := ks.getLast?.or t.last } := by
  induction ks generalizing t with
  | nil => rfl
  | cons k ks ih =>
      refine (ih (t.count k (.ignored .afterStop))).trans ?_
      rw [List.getLast?_cons]
      cases ks.getLast? <;> simp [count, Nat.add_comm, Nat.add_left_comm]

end Tally

/-- Every signal is dispatched or left alone, and that for one reason only. -/
theorem Hearing.length_eq (log : List Hearing) :
    log.length = log.countP (·.response = .reload) + log.countP (·.response = .escalate) +
      log.countP (·.response = .beginDrain) + log.countP (·.response = .ignored .afterStop) +
      log.countP isUnseen + log.countP isUntimely := by
  induction log with
  | nil => rfl
  | cons h log ih =>
      obtain ⟨stage, signal⟩ := h
      simp only [List.length_cons, List.countP_cons, ih]
      cases stage <;> cases signal <;> simp [response, Response.of, isUnseen, isUntimely] <;> omega

namespace Core

/-- Whether a second request has forced the stop that is on record. -/
def wasForced (c : Core) : Bool :=
  match c.ending with
  | some (.forced _) => true
  | _ => false

theorem wasForced_iff (c : Core) : c.wasForced = true ↔ ∃ k, c.ending = some (.forced k) := by
  unfold wasForced
  split
  · rename_i k recorded
    simp [recorded]
  · rename_i other
    simpa using other

/-- The counts are those of the signals given, among which one began the drain, if it was begun,
and one forced the stop, if it was forced. -/
structure Accounted (c : Core) (log : List Hearing) : Prop where
  tally : c.tally = .of log
  begun : log.countP (·.response = .beginDrain) = c.stage.isEnding.toNat
  forced : log.countP (·.response = .escalate) = c.wasForced.toNat
  late : ∀ h ∈ log, h.stage = .stopped → c.stage = .stopped

variable {c : Core} {log : List Hearing}

theorem accounted_fresh (grace : Duration) : Accounted { grace := grace } [] :=
  ⟨rfl, rfl, rfl, fun _ h => nomatch h⟩

theorem Accounted.receive (hc : c.Sound) (h : c.Accounted log) (k : Signal) :
    (c.receive k).2.Accounted (log ++ [⟨c.stage, k⟩]) := by
  have entered : Tally.of (log ++ [⟨c.stage, k⟩]) = c.tally.count k (.of c.stage k) := by
    rw [Tally.of_concat, h.tally]
    rfl
  have newest (d : Core) (kept : c.stage = .stopped → d.stage = .stopped) :
      ∀ x ∈ log ++ [⟨c.stage, k⟩], x.stage = .stopped → d.stage = .stopped := by
    intro x member stopped
    rcases List.mem_append.mp member with old | new
    · exact kept (h.late x old stopped)
    · rw [List.mem_singleton.mp new] at stopped
      exact kept stopped
  have counted (r : Response) : (log ++ [Hearing.mk c.stage k]).countP (·.response = r) =
      log.countP (·.response = r) + (decide (Response.of c.stage k = r)).toNat :=
    Hearing.countP_concat log ⟨c.stage, k⟩ r
  by_cases moves : (Response.of c.stage k).target? = none
  · have others : Response.of c.stage k ≠ .beginDrain ∧ Response.of c.stage k ≠ .escalate := by
      constructor <;> intro response <;> simp [response, Response.target?] at moves
    rw [receive_of_target?_eq_none c k moves]
    refine ⟨entered.symm, ?_, ?_, newest _ id⟩
    · rw [counted, decide_eq_false others.1]
      exact h.begun
    · rw [counted, decide_eq_false others.2]
      exact h.forced
  · cases response : Response.of c.stage k with
    | reload | ignored _ => simp [response, Response.target?] at moves
    | beginDrain =>
        obtain ⟨before, asks⟩ := (Response.of_eq_beginDrain_iff c.stage k).mp response
        rw [response] at counted entered
        rw [receive_beginDrain c k before asks]
        refine ⟨entered.symm, ?_, ?_, newest _ ?_⟩
        · rw [counted, h.begun, before]
          rfl
        · rw [counted]
          exact h.forced
        · intro stopped
          rw [stopped] at before
          cases before
    | escalate =>
        obtain ⟨drains, asks⟩ := (Response.of_eq_escalate_iff c.stage k).mp response
        have unrecorded := hc.ending_none (by simp [drains])
        rw [response] at counted entered
        rw [receive_escalate c k drains asks]
        refine ⟨entered.symm, ?_, ?_, newest _ (fun _ => rfl)⟩
        · rw [counted, h.begun, drains]
          rfl
        · rw [counted, h.forced]
          simp [wasForced, recordEnding, unrecorded]

/-- The counts stay right where no signal is given and none of what they are tied to changes. -/
theorem Accounted.settled (h : c.Accounted log) {d : Core} (tally : d.tally = c.tally)
    (ending : d.stage.isEnding = c.stage.isEnding) (forced : d.wasForced = c.wasForced)
    (stopped : c.stage = .stopped → d.stage = .stopped) : d.Accounted log where
  tally := tally.trans h.tally
  begun := ending ▸ h.begun
  forced := forced ▸ h.forced
  late x member late := stopped (h.late x member late)

theorem Accounted.markReady (h : c.Accounted log) : c.markReady.2.Accounted log := by
  simp only [Core.markReady, StageCell.transition]
  split
  · rename_i moved
    have start : c.stage = .starting := moved.1
    refine h.settled rfl ?_ rfl ?_
    · rw [start]
      rfl
    · intro stopped
      rw [start] at stopped
      cases stopped
  · exact h

/-- A drain that ends by itself has not been forced to. -/
theorem Accounted.finish (hc : c.Sound) (h : c.Accounted log) {e : Ending}
    (unforced : ∀ k, e ≠ .forced k) : (c.finish e).2.Accounted log := by
  by_cases drains : c.stage = .draining
  · have unrecorded := hc.ending_none (by simp [drains])
    rw [finish_of_draining c e drains]
    refine h.settled rfl ?_ ?_ (fun _ => rfl)
    · rw [drains]
      rfl
    · cases e with
      | drained | graceExpired => simp [wasForced, recordEnding, unrecorded]
      | forced k => exact absurd rfl (unforced k)
  · rw [finish_of_not_draining c e drains]
    exact h

/-- The counts do not depend on the order in which the answers are entered. -/
theorem Accounted.counts (h : c.Accounted log) {entered : List Hearing}
    (same : entered.Perm log) :
    let tally := Tally.of entered
    tally.reloads = log.countP (·.response = .reload) ∧
    tally.escalations = c.wasForced.toNat ∧
    tally.dispatched = tally.reloads + tally.escalations + c.stage.isEnding.toNat ∧
    log.length = tally.dispatched + tally.ignoredAfterStop +
      log.countP Hearing.isUnseen + log.countP Hearing.isUntimely ∧
    (tally.ignoredAfterStop ≠ 0 → c.stage = .stopped) ∧
    tally.last = entered.getLast?.map (·.signal) := by
  intro tally
  have counts : tally.reloads = log.countP (·.response = .reload) ∧
      tally.escalations = log.countP (·.response = .escalate) ∧
      tally.ignoredAfterStop = log.countP (·.response = .ignored .afterStop) ∧
      tally.dispatched = log.countP (·.response = .reload) + log.countP (·.response = .escalate) +
        log.countP (·.response = .beginDrain) := by
    simpa [same.countP_eq, Tally.of, tally] using Tally.countAll_counts {} entered
  obtain ⟨reloads, escalations, afterStop, dispatched⟩ := counts
  have length := Hearing.length_eq log
  have begun := h.begun
  have forced := h.forced
  refine ⟨reloads, by omega, by omega, by omega, ?_, ?_⟩
  · intro some
    rw [afterStop] at some
    obtain ⟨x, member, late⟩ := List.countP_pos_iff.mp (Nat.pos_of_ne_zero some)
    apply h.late x member
    obtain ⟨stage, signal⟩ := x
    cases stage <;> cases signal <;> simp [Hearing.response, Response.of] at late ⊢
  · simpa [Tally.of, tally] using Tally.last_countAll {} entered

end Core

end Quiesce
