import Quiesce.Proofs.Engine.Rest
import Quiesce.Proofs.Settings.Reload

/-!
Signals that do not ask to stop cannot be seen from outside. What is left of an engine when they are
taken out of its channel, and the counts and the desk with them, goes through the same course as the
engine itself; only that the runner takes a step more for each of them, which leads nowhere.
-/
namespace Quiesce

/-- Serves no reload request. -/
def Handler.silent : Handler Unit := fun _ _ => .ok ((), none)

/-- As long as this holds of the desk and the settings in force, the handler answers, and the
settings stay as they are. -/
def Handler.Leaves {D : Type} (handler : Handler D) (calm : D → WorkloadSettings → Prop) : Prop :=
  ∀ desk settings, calm desk settings → ∃ after update,
    handler desk settings = .ok (after, update) ∧ calm after settings ∧
      ∀ u, update = some u → settings.differs u = false

theorem Handler.silent_leaves : Handler.silent.Leaves fun _ _ => True :=
  fun _ _ _ => ⟨(), none, rfl, trivial, fun _ h => nomatch h⟩

/-- A reloader leaves the settings alone as long as what it reads cannot be used, or has the
durations that are in force already. -/
theorem Desk.handler_leaves : Handler.Leaves Desk.handler fun desk settings =>
    (∃ fault, desk.reloader.plan desk.sources = .error fault ∧ ∀ cause, fault ≠ .overflow cause) ∨
      ∃ updated, desk.reloader.plan desk.sources = .ok updated ∧
        settings.differs updated.workload = false := by
  rintro desk settings (⟨fault, fails, plain⟩ | ⟨updated, planned, same⟩)
  · refine ⟨desk, none, ?_, .inl ⟨fault, fails, plain⟩, fun _ h => nomatch h⟩
    cases fault with
    | overflow cause => exact absurd rfl (plain cause)
    | _ => simp only [Desk.handler, Reloader.serve, fails]
  · refine ⟨desk, some updated.workload, ?_, .inr ⟨updated, planned, same⟩, ?_⟩
    · simp [Desk.handler, Reloader.serve, planned, same]
    · rintro u ⟨⟩
      exact same

theorem Response.of_ne_reload (stage : Stage) {k : Signal} (asks : k.asksToStop = true) :
    of stage k ≠ reload := by
  cases stage <;> cases k <;> simp_all [of, Signal.asksToStop]

namespace Core

/-- A core without its counts. -/
def hush (c : Core) : Core := { c with tally := {} }

theorem hush_eq_iff (c d : Core) : c.hush = d.hush ↔ c.Still d := by
  obtain ⟨cell, grace, admission, tracker, ending, tally⟩ := c
  obtain ⟨cell', grace', admission', tracker', ending', tally'⟩ := d
  simp only [hush, Still, Core.mk.injEq, and_true]
  constructor <;> rintro ⟨rfl, rfl, rfl, rfl, rfl⟩ <;> exact ⟨rfl, rfl, rfl, rfl, rfl⟩

theorem receive_hush (c : Core) (k : Signal) :
    (c.receive k).2.hush = (c.hush.receive k).2.hush := by
  simp only [receive, hush, StageCell.update]
  cases Response.of c.cell.stage k <;> rfl

theorem finish_hush (c : Core) (e : Ending) :
    (c.hush.finish e).1 = (c.finish e).1 ∧ (c.hush.finish e).2 = (c.finish e).2.hush := by
  by_cases drains : c.stage = .draining
  · rw [finish_of_draining c e drains, finish_of_draining c.hush e drains]
    exact ⟨rfl, rfl⟩
  · rw [finish_of_not_draining c e drains, finish_of_not_draining c.hush e drains]
    exact ⟨rfl, rfl⟩

end Core

namespace Engine

variable {D E : Type} {e f : Engine D}

/-- What is left of an engine without the signals that do not ask to stop, their counts, and the
desk that is for them alone. -/
def hush (e : Engine D) : Engine Unit where
  now := e.now
  core := e.core.hush
  pool := e.pool
  tasks := e.tasks
  inbox := e.inbox.filter Signal.asksToStop
  senderOpen := e.senderOpen
  runner := e.runner
  desk := ()

theorem hush_hush (e : Engine D) : e.hush.hush = e.hush := by
  simp [hush, Core.hush]

theorem hush_signal (e : Engine D) (k : Signal) :
    (e.signal k).2.hush = (e.hush.signal k).2.hush := by
  simp only [signal, hush, Core.receive_hush e.core k, List.filter_filter, Bool.and_self]

theorem hush_signal_calm (e : Engine D) {k : Signal} (calm : k.asksToStop = false) :
    (e.signal k).2.hush = e.hush := by
  obtain ⟨tally, response, answered, _⟩ := signal_calm e calm
  rw [answered]
  rfl

theorem hush_send (e : Engine D) {k : Signal} (asks : k.asksToStop = true) :
    (e.send k).2.hush = (e.hush.send k).2 := by
  unfold send
  cases openToAll : e.senderOpen && !e.runner.lostChannel <;> simp [hush, openToAll, asks]

theorem hush_send_calm (e : Engine D) {k : Signal} (calm : k.asksToStop = false) :
    (e.send k).2.hush = e.hush := by
  unfold send
  split <;> simp [hush, calm]

theorem hush_enterDrain (e : Engine D) : e.enterDrain.hush = e.hush.enterDrain := by
  unfold enterDrain
  cases after : Clock.after? e.now e.core.grace <;> simp [hush, Core.hush, after]

theorem hush_beginRun (e : Engine D) : e.beginRun.2.hush = e.hush.beginRun.2 := by
  unfold beginRun
  cases busy : e.runner.holdsChannel <;> simp [hush, busy]

theorem hush_beginDrain (e : Engine D) : e.beginDrain.2.hush = e.hush.beginDrain.2 := by
  unfold beginDrain
  cases busy : e.runner.holdsChannel
  · simp only [hush, busy]
    exact e.hush_enterDrain
  · simp [hush, busy]

theorem hush_launchWorker (e : Engine D) :
    e.hush.launchWorker = (e.launchWorker.1, e.launchWorker.2.hush) := by
  unfold launchWorker
  have same : e.hush.core.admitsLasting = e.core.admitsLasting := rfl
  rw [same]
  cases e.core.admitsLasting <;> rfl

theorem hush_enter (e : Engine D) (x : Entry) : (e.enter x).2.hush = (e.hush.enter x).2 := by
  cases x with
  | worker => exact (congrArg Prod.snd e.hush_launchWorker).symm
  | job time =>
      have same : e.hush.pool.refusal? e.hush.stage time = e.pool.refusal? e.stage time := rfl
      simp only [enter, submit, same]
      cases e.pool.refusal? e.stage time <;> rfl
  | errand time =>
      have same : e.hush.core.admits = e.core.admits := rfl
      simp only [enter, admitErrand, same]
      cases e.core.admits <;> rfl
  | lasting time =>
      have same : e.hush.core.admitsLasting = e.core.admitsLasting := rfl
      simp only [enter, admitLastingErrand, same]
      cases e.core.admitsLasting <;> rfl

theorem hush_launchFrom (e : Engine D) (worker count : Nat) :
    (e.launchFrom worker count).2.hush = (e.hush.launchFrom worker count).2 := by
  induction count generalizing e worker with
  | zero => rfl
  | succ count ih =>
      rcases launched : e.launchWorker with ⟨granted, f⟩
      simp only [launchFrom, hush_launchWorker, launched]
      cases granted with
      | true => exact ih f (worker + 1)
      | false => rfl

theorem hush_launch (e : Engine D) : e.launch.2.hush = e.hush.launch.2 := by
  rw [launch_eq, launch_eq, hush_launchFrom]
  rfl

theorem hush_fireDue (e : Engine D) : e.fireDue.hush = e.hush.fireDue := rfl

theorem hush_finish (e : Engine D) (r : Ending) : (e.finish r).hush = e.hush.finish r := by
  obtain ⟨ending, core⟩ := e.core.finish_hush r
  have same : e.hush.core = e.core.hush := rfl
  simp only [finish, same, ending, core]
  rfl

theorem hush_endForced (e : Engine D) (k : Signal) :
    (e.endForced k).hush = e.hush.endForced k := rfl

theorem hush_takeDraining (e : Engine D) (k : Signal) :
    (e.takeDraining k).hush = (e.hush.takeDraining k).hush := by
  have same : e.hush.stage = e.stage := rfl
  rw [takeDraining_eq, takeDraining_eq, same]
  cases Response.of e.stage k with
  | escalate => rw [hush_endForced, hush_endForced, hush_signal]
  | beginDrain | reload | ignored _ => exact e.hush_signal k

/-- A signal that asks to stop does not lead to a reload. -/
theorem hush_takeReceiving (handler : Handler D) (other : Handler Unit) (e : Engine D) {k : Signal}
    (asks : k.asksToStop = true) :
    (e.takeReceiving handler k).hush = (e.hush.takeReceiving other k).hush := by
  have same : e.hush.stage = e.stage := rfl
  rw [takeReceiving_eq, takeReceiving_eq, same]
  cases answer : Response.of e.stage k with
  | beginDrain => rw [hush_enterDrain, hush_enterDrain, hush_signal]
  | escalate => rw [hush_endForced, hush_endForced, hush_signal]
  | reload => exact absurd answer (Response.of_ne_reload e.stage asks)
  | ignored _ => exact e.hush_signal k

/-- The next signal that the runner takes, if it takes one, asks to stop. -/
def Heeds (e : Engine D) : Prop :=
  e.runner.listens = true → ∀ k rest, e.inbox = k :: rest → k.asksToStop = true

theorem poll_of_receiving (handler : Handler D) (receiving : e.runner = .receiving) {k : Signal}
    {rest : List Signal} (inbox : e.inbox = k :: rest) :
    e.poll handler = some ({ e with inbox := rest }.takeReceiving handler k) := by
  simp only [poll, receiving, inbox]

theorem poll_of_listening (handler : Handler D) {deadline : Instant}
    (draining : e.runner = .draining deadline true) {k : Signal} {rest : List Signal}
    (inbox : e.inbox = k :: rest) :
    e.poll handler = some ({ e with inbox := rest }.takeDraining k) := by
  simp only [poll, draining, inbox]

/-- Where it does not take a signal, a drain goes by the work in flight and the deadline. -/
theorem poll_of_draining (handler : Handler D) {deadline : Instant} {listening : Bool}
    (draining : e.runner = .draining deadline listening)
    (nothing : listening = true → e.inbox = []) :
    e.poll handler =
      if listening && !e.senderOpen then some { e with runner := .draining deadline false }
      else if e.isIdle then some (e.finish .drained)
      else if Clock.tick deadline ≤ e.now then some (e.finish .graceExpired)
      else none := by
  cases listening with
  | true => simp only [poll, draining, nothing rfl]
  | false => cases inbox : e.inbox <;> simp only [poll, draining, inbox]

theorem hush_poll (handler : Handler D) (heeds : e.Heeds) :
    (e.poll handler).map hush = (e.hush.poll .silent).map hush := by
  have same : e.hush.runner = e.runner := rfl
  have channel : e.hush.senderOpen = e.senderOpen := rfl
  have left {k : Signal} {rest : List Signal} (inbox : e.inbox = k :: rest)
      (asks : k.asksToStop = true) : e.hush.inbox = k :: rest.filter Signal.asksToStop := by
    simp [hush, inbox, asks]
  cases runner : e.runner with
  | idle | ended _ => simp only [poll, same, runner, Option.map_none]
  | receiving =>
      cases inbox : e.inbox with
      | nil =>
          have none : e.hush.inbox = [] := by simp [hush, inbox]
          simp only [poll, same, runner, inbox, none, channel]
          cases e.senderOpen <;> simp [hush, Core.hush]
      | cons k rest =>
          have asks := heeds (by rw [runner]; rfl) k rest inbox
          rw [poll_of_receiving handler runner inbox,
            poll_of_receiving .silent (e := e.hush) runner (left inbox asks)]
          exact congrArg some (hush_takeReceiving handler .silent { e with inbox := rest } asks)
  | draining deadline listening =>
      by_cases hears : listening = true ∧ e.inbox ≠ []
      · obtain ⟨rfl, filled⟩ := hears
        obtain ⟨k, rest, inbox⟩ := List.exists_cons_of_ne_nil filled
        have asks := heeds (by rw [runner]; rfl) k rest inbox
        rw [poll_of_listening handler runner inbox,
          poll_of_listening .silent (e := e.hush) runner (left inbox asks)]
        exact congrArg some (hush_takeDraining { e with inbox := rest } k)
      · have nothing : listening = true → e.inbox = [] := by
          intro heard
          by_contra filled
          exact hears ⟨heard, filled⟩
        have without : listening = true → e.hush.inbox = [] := by
          intro heard
          simp [hush, nothing heard]
        have idle : e.hush.isIdle = e.isIdle := rfl
        have now : e.hush.now = e.now := rfl
        rw [poll_of_draining handler runner nothing,
          poll_of_draining .silent (e := e.hush) runner without, idle, now, channel]
        repeat' split
        · simp [hush, Core.hush]
        · simp [← hush_finish, hush_hush]
        · simp [← hush_finish, hush_hush]
        · rfl

section Unseen

variable {handler : Handler D} {calm : D → WorkloadSettings → Prop}

theorem serveReload_of_leaves (leaves : handler.Leaves calm)
    (settled : calm e.desk e.pool.settings) :
    ∃ after, e.serveReload handler = { e with desk := after } ∧ calm after e.pool.settings := by
  obtain ⟨after, update, answer, kept, same⟩ := leaves _ _ settled
  refine ⟨after, ?_, kept⟩
  simp only [serveReload, answer]
  cases update with
  | none => rfl
  | some u => simp [reloaded, Pool.apply, same u rfl]

/-- Whether a signal asks to stop or not, the desk stays in order. -/
theorem calm_takeReceiving (leaves : handler.Leaves calm) (settled : calm e.desk e.pool.settings)
    (k : Signal) :
    calm (e.takeReceiving handler k).desk (e.takeReceiving handler k).pool.settings := by
  rw [takeReceiving_eq]
  split
  · obtain ⟨runner, entered, _⟩ := (e.signal k).2.enterDrain_eq
    rw [entered]
    exact settled
  · exact settled
  · obtain ⟨after, served, kept⟩ := serveReload_of_leaves (e := (e.signal k).2) leaves settled
    rw [served]
    exact kept
  · exact settled

theorem calm_poll (leaves : handler.Leaves calm) (settled : calm e.desk e.pool.settings)
    (step : e.poll handler = some f) : calm f.desk f.pool.settings := by
  unfold poll at step
  split at step
  · rename_i k rest _ _
    cases step
    exact calm_takeReceiving (e := { e with inbox := rest }) leaves settled k
  · split at step <;> cases step
    exact settled
  · cases step
    rw [takeDraining_eq]
    split <;> exact settled
  · split at step
    · cases step
      exact settled
    · split at step
      · cases step
        exact settled
      · split at step <;> cases step
        exact settled
  · cases step

/-- A signal that does not ask to stop is taken, and nothing else is to be seen of it. -/
theorem poll_unseen (leaves : handler.Leaves calm) (settled : calm e.desk e.pool.settings)
    (listens : e.runner.listens = true) {k : Signal} {rest : List Signal}
    (inbox : e.inbox = k :: rest) (quiet : k.asksToStop = false) :
    ∃ f, e.poll handler = some f ∧ f.hush = e.hush := by
  have taken : hush { e with inbox := rest } = e.hush := by simp [hush, inbox, quiet]
  have counted := (hush_signal_calm { e with inbox := rest } quiet).trans taken
  have response : Response.of e.stage k ≠ .beginDrain ∧ Response.of e.stage k ≠ .escalate := by
    rw [Ne, Ne, Response.of_eq_beginDrain_iff, Response.of_eq_escalate_iff, quiet]
    simp
  cases runner : e.runner with
  | idle | ended _ => simp [runner, Runner.listens] at listens
  | receiving =>
      refine ⟨_, poll_of_receiving handler runner inbox, ?_⟩
      rw [takeReceiving_eq]
      split
      · rename_i answer
        exact absurd answer response.1
      · rename_i answer
        exact absurd answer response.2
      · obtain ⟨after, served, _⟩ :=
          serveReload_of_leaves (e := ({ e with inbox := rest }.signal k).2) leaves settled
        rw [served]
        exact counted
      · exact counted
  | draining deadline listening =>
      have heard : listening = true := by simpa [runner, Runner.listens] using listens
      subst heard
      refine ⟨_, poll_of_listening handler runner inbox, ?_⟩
      rw [takeDraining_eq]
      split
      · rename_i answer
        exact absurd answer response.2
      · exact counted

/-- The runner gets past the signals that do not ask to stop, with steps left for the others. -/
theorem pollAll_heeding (leaves : handler.Leaves calm) (settled : calm e.desk e.pool.settings)
    {fuel : Nat} (enough : e.steps ≤ fuel) :
    ∃ (g : Engine D) (rest : Nat), e.pollAll handler fuel = g.pollAll handler rest ∧
      rest ≤ fuel ∧ g.steps ≤ rest ∧ g.Heeds ∧ g.hush = e.hush ∧
      calm g.desk g.pool.settings := by
  induction fuel generalizing e with
  | zero =>
      refine ⟨e, 0, rfl, Nat.le_refl 0, enough, ?_, rfl, settled⟩
      intro _ k rest inbox
      simp [steps, inbox] at enough
  | succ fuel ih =>
      by_cases heeds : e.Heeds
      · exact ⟨e, fuel + 1, rfl, Nat.le_refl _, enough, heeds, rfl, settled⟩
      · have overheard : e.runner.listens = true ∧ ∃ k rest, e.inbox = k :: rest ∧
            k.asksToStop = false := by
          simpa [Heeds] using heeds
        obtain ⟨listens, k, rest, inbox, quiet⟩ := overheard
        obtain ⟨f, step, same⟩ := poll_unseen leaves settled listens inbox quiet
        have less := steps_poll step
        obtain ⟨g, left, polled, le, most, heeds, further, kept⟩ :=
          ih (calm_poll leaves settled step) (by omega)
        exact ⟨g, left, (pollAll_of_some step fuel).trans polled, by omega, most, heeds,
          further.trans same, kept⟩

end Unseen

end Engine

end Quiesce
