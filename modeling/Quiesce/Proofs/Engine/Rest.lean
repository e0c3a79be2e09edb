import Quiesce.Proofs.Engine.Ebb

/-!
A runner comes to rest. What it may still do at an instant is bounded by the signals that wait for
it and by how far it is from its end, and each of its steps uses up some of that. The turn that it
is given is long enough for all of it, so that a second turn at the same instant makes no
difference.
-/
namespace Quiesce

/-- The steps that a runner may still take without a signal. -/
def Runner.steps : Runner → Nat
  | .receiving => 3
  | .draining _ true => 2
  | .draining _ false => 1
  | .idle | .ended _ => 0

namespace Engine

variable {D : Type} {handler : Handler D} {e f : Engine D}

theorem takeReceiving_eq (handler : Handler D) (e : Engine D) (k : Signal) :
    e.takeReceiving handler k =
      match Response.of e.stage k with
      | .beginDrain => (e.signal k).2.enterDrain
      | .escalate => (e.signal k).2.endForced k
      | .reload => (e.signal k).2.serveReload handler
      | .ignored _ => (e.signal k).2 := by
  simp only [takeReceiving, signal_eq]
  cases Response.of e.stage k <;> rfl

theorem takeDraining_eq (e : Engine D) (k : Signal) :
    e.takeDraining k =
      match Response.of e.stage k with
      | .escalate => (e.signal k).2.endForced k
      | _ => (e.signal k).2 := by
  simp only [takeDraining, signal_eq]
  cases Response.of e.stage k <;> rfl

/-- The steps that the runner may take at this instant. -/
def steps (e : Engine D) : Nat := e.inbox.length + e.runner.steps

/-- Where a signal leaves the runner, it is no farther from its end than before. -/
theorem steps_le (inbox : f.inbox = e.inbox) (runner : f.runner.steps ≤ e.runner.steps) :
    f.steps ≤ e.steps := by
  simp only [steps, inbox]
  omega

theorem steps_takeReceiving (receiving : e.runner = .receiving) (k : Signal) :
    (e.takeReceiving handler k).steps ≤ e.steps := by
  have most : e.runner.steps = 3 := by rw [receiving]; rfl
  rw [takeReceiving_eq]
  split
  · obtain ⟨runner, entered, ⟨deadline, rfl⟩ | rfl⟩ := (e.signal k).2.enterDrain_eq
    all_goals
      rw [entered]
      exact steps_le rfl (by rw [most]; simp [Runner.steps])
  · exact steps_le rfl (Nat.zero_le _)
  · unfold serveReload
    split
    · rename_i desk update _
      obtain ⟨pool, reloaded, _⟩ := (e.signal k).2.reloaded_eq desk update
      rw [reloaded]
      exact steps_le rfl (Nat.le_refl _)
    · exact steps_le rfl (Nat.zero_le _)
  · exact steps_le rfl (Nat.le_refl _)

theorem steps_takeDraining (e : Engine D) (k : Signal) : (e.takeDraining k).steps ≤ e.steps := by
  rw [takeDraining_eq]
  split
  · exact steps_le rfl (Nat.zero_le _)
  · exact steps_le rfl (Nat.le_refl _)

theorem steps_poll (step : e.poll handler = some f) : f.steps < e.steps := by
  unfold poll at step
  split at step
  · rename_i k rest receiving inbox
    cases step
    refine Nat.lt_of_le_of_lt (steps_takeReceiving (e := { e with inbox := rest }) receiving k) ?_
    simp [steps, inbox]
  · rename_i receiving inbox
    split at step <;> cases step
    simp [steps, receiving, Runner.steps]
  · rename_i deadline k rest draining inbox
    cases step
    refine Nat.lt_of_le_of_lt (steps_takeDraining _ k) ?_
    simp [steps, inbox]
  · rename_i deadline listening draining _
    have some : 0 < e.runner.steps := by
      rw [draining]
      cases listening <;> simp [Runner.steps]
    split at step
    · rename_i closed
      obtain ⟨rfl, _⟩ : listening = true ∧ e.senderOpen = false := by simpa using closed
      cases step
      simp [steps, draining, Runner.steps]
    · split at step
      · cases step
        simpa [steps, finish, Runner.steps] using some
      · split at step <;> cases step
        simpa [steps, finish, Runner.steps] using some
  · cases step

/-- A turn that is long enough leaves the runner at rest. -/
theorem poll_pollAll {fuel : Nat} (enough : e.steps ≤ fuel) :
    (e.pollAll handler fuel).poll handler = none := by
  induction fuel generalizing e with
  | zero =>
      cases step : e.poll handler with
      | none => exact step
      | some f =>
          have less := steps_poll step
          omega
  | succ fuel ih =>
      cases step : e.poll handler with
      | none =>
          rw [pollAll_of_none step]
          exact step
      | some f =>
          have less := steps_poll step
          rw [pollAll_of_some step]
          exact ih (by omega)

theorem steps_le_turn (e : Engine D) : e.steps ≤ e.inbox.length + 3 := by
  refine Nat.add_le_add_left ?_ _
  unfold Runner.steps
  split <;> omega

theorem poll_attend (handler : Handler D) (e : Engine D) :
    (e.attend handler).poll handler = none :=
  poll_pollAll e.steps_le_turn

/-- After the timers had their turn none of them is due. -/
theorem lt_due_of_fireDue {t : Task} (ht : t ∈ e.fireDue.tasks) : e.now < t.due := by
  obtain ⟨u, _, goesOn⟩ := List.mem_filterMap.mp ht
  split at goesOn
  · unfold Task.next? at goesOn
    split at goesOn
    · split at goesOn <;> cases goesOn
      have later : e.now + 1 ≤ Clock.tick (e.now + 1) := Clock.le_tick _
      exact Nat.lt_of_lt_of_le (Nat.lt_of_succ_le later) (Nat.le_max_right _ _)
    · cases goesOn
  · rename_i early
    cases goesOn
    exact Nat.lt_of_not_le early

/-- Everything that can happen at this instant has happened. -/
theorem settle_settle (handler : Handler D) (e : Engine D) :
    (e.settle handler).settle handler = e.settle handler := by
  have same := pollAll_undisturbed handler e.fireDue (e.fireDue.inbox.length + 3)
  have early : ∀ t ∈ (e.settle handler).tasks, (e.settle handler).now < t.due := by
    intro t ht
    rw [settle_now]
    exact lt_due_of_fireDue (same.tasks ▸ ht)
  have fired : (e.settle handler).fireDue = e.settle handler := fireDue_of_early early
  have rest : (e.settle handler).poll handler = none := poll_attend handler e.fireDue
  rw [settle, fired, attend, pollAll_of_none rest]

end Engine

end Quiesce
