import Quiesce.Proofs.Engine.Rounds

/-!
What the runner leaves alone at its turns: the time, the work in flight and what was done of it,
and the gate once it is closed.
-/
namespace Quiesce

theorem Core.admissionClosed_of_change (idle : Prop) {c d : Core} (h : Core.Change idle c d)
    (closed : c.admissionClosed = true) : d.admissionClosed = true := by
  cases h with
  | close => rfl
  | count | becomeReady | stop => exact closed

namespace Engine

variable {D : Type} {handler : Handler D} {e f g : Engine D}

/-- What the runner leaves alone at its turn: the time, the work in flight and what is done of it,
the gate once it is closed, and the channel, out of which signals are only taken. -/
structure Undisturbed (e f : Engine D) : Prop where
  now : f.now = e.now
  tasks : f.tasks = e.tasks
  units : f.pool.units = e.pool.units
  completed : f.pool.completed = e.pool.completed
  closed : e.core.admissionClosed = true → f.core.admissionClosed = true
  senderOpen : f.senderOpen = e.senderOpen
  inbox : f.inbox ⊆ e.inbox

theorem Undisturbed.refl (e : Engine D) : e.Undisturbed e :=
  ⟨rfl, rfl, rfl, rfl, id, rfl, List.Subset.refl _⟩

theorem Undisturbed.trans (h : e.Undisturbed f) (k : f.Undisturbed g) : e.Undisturbed g where
  now := k.now.trans h.now
  tasks := k.tasks.trans h.tasks
  units := k.units.trans h.units
  completed := k.completed.trans h.completed
  closed := k.closed ∘ h.closed
  senderOpen := k.senderOpen.trans h.senderOpen
  inbox := List.Subset.trans k.inbox h.inbox

theorem signal_undisturbed (e : Engine D) (k : Signal) : e.Undisturbed (e.signal k).2 :=
  ⟨rfl, rfl, rfl, rfl, Core.admissionClosed_of_change True (Core.receive_change _ k),
    rfl, List.Subset.refl _⟩

theorem finish_undisturbed (e : Engine D) {r : Ending} (unforced : ∀ k, r ≠ .forced k) :
    e.Undisturbed (e.finish r) :=
  ⟨rfl, rfl, rfl, rfl,
    Core.admissionClosed_of_change True
      (Core.finish_change _ r (fun _ => trivial) fun k forced => absurd forced (unforced k)),
    rfl, List.Subset.refl _⟩

theorem enterDrain_undisturbed (e : Engine D) : e.Undisturbed e.enterDrain := by
  obtain ⟨runner, entered, _⟩ := e.enterDrain_eq
  rw [entered]
  exact ⟨rfl, rfl, rfl, rfl, id, rfl, List.Subset.refl _⟩

theorem serveReload_undisturbed (handler : Handler D) (e : Engine D) :
    e.Undisturbed (e.serveReload handler) := by
  unfold serveReload
  split
  · rename_i desk update _
    cases update with
    | none => exact ⟨rfl, rfl, rfl, rfl, id, rfl, List.Subset.refl _⟩
    | some update =>
        exact ⟨rfl, rfl, e.pool.apply_units update, (e.pool.apply_counts update).2, id,
          rfl, List.Subset.refl _⟩
  · exact ⟨rfl, rfl, rfl, rfl, id, rfl, List.Subset.refl _⟩

theorem takeReceiving_undisturbed (handler : Handler D) (e : Engine D) (k : Signal) :
    e.Undisturbed (e.takeReceiving handler k) := by
  have counted := e.signal_undisturbed k
  rcases answered : e.signal k with ⟨response, f⟩
  rw [answered] at counted
  simp only [takeReceiving, answered]
  cases response with
  | beginDrain => exact counted.trans f.enterDrain_undisturbed
  | escalate => exact counted.trans ⟨rfl, rfl, rfl, rfl, id, rfl, List.Subset.refl _⟩
  | reload => exact counted.trans (f.serveReload_undisturbed handler)
  | ignored _ => exact counted

theorem takeDraining_undisturbed (e : Engine D) (k : Signal) :
    e.Undisturbed (e.takeDraining k) := by
  have counted := e.signal_undisturbed k
  rcases answered : e.signal k with ⟨response, f⟩
  rw [answered] at counted
  simp only [takeDraining, answered]
  cases response with
  | escalate => exact counted.trans ⟨rfl, rfl, rfl, rfl, id, rfl, List.Subset.refl _⟩
  | beginDrain | reload | ignored _ => exact counted

theorem taken_undisturbed {k : Signal} {rest : List Signal} (inbox : e.inbox = k :: rest) :
    e.Undisturbed { e with inbox := rest } :=
  ⟨rfl, rfl, rfl, rfl, id, rfl, by rw [inbox]; exact List.subset_cons_self k rest⟩

theorem poll_undisturbed (step : e.poll handler = some f) : e.Undisturbed f := by
  unfold poll at step
  split at step
  · rename_i k rest _ inbox
    cases step
    exact (taken_undisturbed inbox).trans (takeReceiving_undisturbed handler _ k)
  · split at step <;> cases step
    exact ⟨rfl, rfl, rfl, rfl, id, rfl, List.Subset.refl _⟩
  · rename_i k rest _ inbox
    cases step
    exact (taken_undisturbed inbox).trans (takeDraining_undisturbed _ k)
  · split at step
    · cases step
      exact ⟨rfl, rfl, rfl, rfl, id, rfl, List.Subset.refl _⟩
    · split at step
      · cases step
        exact e.finish_undisturbed (by simp)
      · split at step <;> cases step
        exact e.finish_undisturbed (by simp)
  · cases step

theorem pollAll_undisturbed (handler : Handler D) (e : Engine D) (fuel : Nat) :
    e.Undisturbed (e.pollAll handler fuel) := by
  induction fuel generalizing e with
  | zero => exact .refl e
  | succ fuel ih =>
      cases step : e.poll handler with
      | none =>
          rw [pollAll_of_none step]
          exact .refl e
      | some f =>
          rw [pollAll_of_some step]
          exact (poll_undisturbed step).trans (ih f)

theorem settle_senderOpen (handler : Handler D) (e : Engine D) :
    (e.settle handler).senderOpen = e.senderOpen :=
  (pollAll_undisturbed handler e.fireDue _).senderOpen

theorem takeDraining_ne_receiving (h : e.runner ≠ .receiving) (k : Signal) :
    (e.takeDraining k).runner ≠ .receiving := by
  have same : (e.signal k).2.runner = e.runner := rfl
  rcases answered : e.signal k with ⟨response, f⟩
  rw [answered] at same
  simp only [takeDraining, answered]
  cases response with
  | escalate =>
      intro again
      cases again
  | beginDrain | reload | ignored _ => exact same ▸ h

/-- A runner that has once ceased to receive does not begin to again. -/
theorem ne_receiving_of_poll (h : e.runner ≠ .receiving) (step : e.poll handler = some f) :
    f.runner ≠ .receiving := by
  unfold poll at step
  split at step
  · contradiction
  · contradiction
  · rename_i rest _ _
    cases step
    exact takeDraining_ne_receiving (e := { e with inbox := rest }) h _
  · split at step
    · cases step
      intro again
      cases again
    · split at step
      · cases step
        intro again
        cases again
      · split at step <;> cases step
        intro again
        cases again
  · cases step

/-- Nobody is asked to serve reload requests while a run drains, or after it. -/
theorem pollAll_of_ne_receiving (handler other : Handler D) (h : e.runner ≠ .receiving)
    (fuel : Nat) : e.pollAll handler fuel = e.pollAll other fuel := by
  induction fuel generalizing e with
  | zero => rfl
  | succ fuel ih =>
      have same : e.poll handler = e.poll other := by
        cases runner : e.runner with
        | receiving => exact absurd runner h
        | idle | ended _ => simp only [poll, runner]
        | draining _ listening =>
            cases listening <;> cases inbox : e.inbox <;> simp only [poll, runner, inbox]
      cases step : e.poll handler with
      | none => rw [pollAll_of_none step, pollAll_of_none (same ▸ step)]
      | some f =>
          rw [pollAll_of_some step, pollAll_of_some (same ▸ step)]
          exact ih (ne_receiving_of_poll h step)

theorem takeReceiving_of_request (handler : Handler D) {k : Signal}
    (early : e.stage.isEnding = false) (asks : k.asksToStop = true) :
    e.takeReceiving handler k = (e.signal k).2.enterDrain := by
  have answer := (Response.of_eq_beginDrain_iff e.stage k).mpr ⟨early, asks⟩
  simp only [takeReceiving, signal_eq, answer]

/-- The first request to stop closes the gate. -/
theorem takeReceiving_closed (handler : Handler D) {k : Signal} (early : e.stage.isEnding = false)
    (asks : k.asksToStop = true) : (e.takeReceiving handler k).core.admissionClosed = true := by
  obtain ⟨runner, entered, _⟩ := (e.signal k).2.enterDrain_eq
  rw [takeReceiving_of_request handler early asks, entered]
  simp only [signal_eq, Core.receive_beginDrain e.core k early asks]

/-- Nor is anybody when a request to stop is the first signal to be taken. -/
theorem attend_of_request (handler other : Handler D) {k : Signal} {rest : List Signal}
    (receiving : e.runner = .receiving) (inbox : e.inbox = k :: rest)
    (early : e.stage.isEnding = false) (asks : k.asksToStop = true) :
    e.attend handler = e.attend other := by
  obtain ⟨f, taken⟩ : ∃ f, f = ({ e with inbox := rest }.signal k).2.enterDrain := ⟨_, rfl⟩
  have polled (any : Handler D) : e.poll any = some f := by
    rw [taken, ← takeReceiving_of_request (e := { e with inbox := rest }) any early asks]
    simp only [poll, receiving, inbox]
  have drains : f.runner ≠ .receiving := by
    obtain ⟨runner, entered, ⟨deadline, rfl⟩ | rfl⟩ :=
      ({ e with inbox := rest }.signal k).2.enterDrain_eq
    all_goals
      rw [taken, entered]
      intro again
      cases again
  simp only [attend, pollAll_of_some (polled handler), pollAll_of_some (polled other)]
  exact pollAll_of_ne_receiving handler other drains _

end Engine

end Quiesce
