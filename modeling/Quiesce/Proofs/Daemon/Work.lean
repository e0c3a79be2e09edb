import Quiesce.Proofs.Daemon.Exit

/-!
A daemon that nobody asks to stop. Its workers do one unit after the other, so that each of them
is at any time within a unit of its next timer; the runner waits, and so the daemon stays awake.
A request to reload that brings no other settings makes no difference.
-/
namespace Quiesce

namespace Clock

theorem tick_succ_le {now unit : Nat} (millis : 1000000 ∣ unit) (some : 0 < unit) :
    tick (now + 1) ≤ now + unit := by
  change now + 1 + (1000000 - (now + 1) % 1000000) % 1000000 ≤ now + unit
  omega

end Clock

/-- A unit that starts at a whole millisecond takes its time. -/
theorem Task.nextUnit_of_whole {now : Nat} {s : WorkloadSettings} (whole : 1000000 ∣ now)
    (some : 0 < s.unit.nanos) (reach : now + s.unit.nanos < Clock.horizon) :
    nextUnit now s = ⟨.worker, now + s.unit.nanos⟩ := by
  have millis := s.dvd_unit
  have woken := Clock.wake_of_whole (Nat.dvd_add whole millis) reach
  have next : Clock.tick (now + 1) ≤ now + s.unit.nanos := Clock.tick_succ_le millis some
  simp only [nextUnit, woken, Nat.max_eq_left next]

theorem Pool.apply_settings (p : Pool) : (p.apply p.settings).2 = p := by
  simp [apply, WorkloadSettings.differs]

/-- Settings that are in force already make no difference but to the count. -/
theorem Engine.takeReceiving_hangup {D : Type} {handler : Handler D} {e : Engine D} {desk : D}
    (answer : handler e.desk e.pool.settings = .ok (desk, some e.pool.settings)) :
    ∃ tally left, e.takeReceiving handler .hangup =
      { e with core := { e.core with tally := tally }, desk := left } := by
  obtain ⟨tally, response, counted, rfl | ⟨why, rfl⟩⟩ := e.signal_calm (k := .hangup) rfl
  · refine ⟨tally, desk, ?_⟩
    simp only [takeReceiving, counted, serveReload, answer, reloaded, Pool.apply_settings]
  · refine ⟨tally, e.desk, ?_⟩
    simp only [takeReceiving, counted]

namespace Daemon

variable {d : Daemon} {grace : Duration} {unit : Nat}

/-- A daemon with workers only, each within a unit of this length. -/
structure Works (grace : Duration) (unit : Nat) (d : Daemon) : Prop where
  awake : Awake grace d
  gate : d.engine.core.admissionClosed = false
  length : d.engine.pool.settings.unit.nanos = unit
  workers : ∀ t ∈ d.engine.tasks, t.work = .worker ∧ d.engine.now < t.due ∧
    t.due ≤ d.engine.now + unit ∧ 1000000 ∣ t.due

theorem Works.running (h : Works grace unit d) : ∀ t ∈ d.engine.tasks, d.engine.now < t.due :=
  fun t ht => (h.workers t ht).2.1

theorem Works.timely (h : Works grace unit d) : d.engine.Timely :=
  fun t ht => (h.workers t ht).2.2.2

/-- An engine whose runner is left where it was. -/
structure Aside (e f : Engine Desk) : Prop where
  core : e.core.Still f.core
  runner : f.runner = e.runner
  inbox : f.inbox = e.inbox
  senderOpen : f.senderOpen = e.senderOpen

theorem Aside.refl (e : Engine Desk) : Aside e e := ⟨.refl _, rfl, rfl, rfl⟩

/-- What becomes of its work is no reason for a daemon to act. -/
theorem Awake.followUp (h : Awake grace d) {f : Engine Desk} (aside : Aside d.engine f) :
    Awake grace (Daemon.followUp { d with engine := f }) ∧
      (Daemon.followUp { d with engine := f }).engine = f := by
  have silent : conclude? { d with engine := f } = none := by
    simp [conclude?, h.unsaid, aside.runner, h.receiving]
  obtain ⟨engine, concluded⟩ := followUp_of_silent silent
  obtain ⟨_, _, listening⟩ := followUp_frame { d with engine := f }
  refine ⟨⟨listening.trans h.listening, ?_, ?_, ?_, ?_, ?_, ?_, concluded.trans h.unsaid⟩, engine⟩
  all_goals rw [engine]
  · exact aside.senderOpen.trans h.isOpen
  · exact aside.runner.trans h.receiving
  · exact aside.inbox.trans h.empty
  · exact (congrArg Stage.isEnding aside.core.stage).trans h.early
  · exact aside.core.ending.trans h.unrecorded
  · rw [aside.core]
    exact h.period

/-- A runner that waits for a signal and finds none goes on waiting. -/
theorem Awake.pollAll_aside (h : Awake grace d) {f : Engine Desk} (aside : Aside d.engine f)
    (handler : Handler Desk) (fuel : Nat) : f.pollAll handler fuel = f := by
  have waits : f.poll handler = none := by
    simp only [Engine.poll, aside.runner, h.receiving, aside.inbox, h.empty, aside.senderOpen,
      h.isOpen, ite_true]
  exact Engine.pollAll_of_none waits fuel

/-- Where no timer goes off, the daemon only looks after its run. -/
theorem Works.settle_eq (h : Works grace unit d) : d.settle = d.followUp := by
  have early : d.engine.fireDue = d.engine := Engine.fireDue_of_early h.running
  have waits := h.awake.pollAll_aside (.refl d.engine) Desk.handler (d.engine.inbox.length + 3)
  simp only [Daemon.settle, Engine.settle, early, Engine.attend, waits]

theorem Works.settle_of_idle (h : Works grace unit d) :
    Works grace unit d.settle ∧ d.settle.engine = d.engine := by
  obtain ⟨awake, engine⟩ := h.awake.followUp (.refl d.engine)
  have engine : d.followUp.engine = d.engine := engine
  have awake : Awake grace d.followUp := awake
  rw [h.settle_eq]
  refine ⟨⟨awake, ?_, ?_, ?_⟩, engine⟩
  all_goals rw [engine]
  · exact h.gate
  · exact h.length
  · exact h.workers

/-- Workers whose unit is over begin the next one. -/
theorem Works.settle (h : Works grace unit d) (some : 0 < unit) {later : Nat}
    (le : d.engine.now ≤ later) (whole : 1000000 ∣ later) (reach : later + unit < Clock.horizon) :
    Works grace unit { d with engine := { d.engine with now := later } }.settle := by
  obtain ⟨f, fired⟩ : ∃ f, f = Engine.fireDue { d.engine with now := later } := ⟨_, rfl⟩
  have aside : Aside d.engine f := by
    rw [fired]
    exact ⟨.refl _, rfl, rfl, rfl⟩
  have settled : { d with engine := { d.engine with now := later } }.settle =
      Daemon.followUp { d with engine := f } := by
    simp only [Daemon.settle, Engine.settle, ← fired, Engine.attend, h.awake.pollAll_aside aside]
  obtain ⟨awake, engine⟩ := h.awake.followUp aside
  rw [settled]
  refine ⟨awake, ?_, ?_, ?_⟩
  all_goals rw [engine, fired]
  · exact h.gate
  · exact (congrArg (·.unit.nanos) (Pool.recordAll_settings _ d.engine.pool)).trans h.length
  · intro u hu
    obtain ⟨t, ht, goesOn⟩ := List.mem_filterMap.mp hu
    obtain ⟨worker, _, soon, millis⟩ := h.workers t ht
    by_cases due : t.due ≤ later
    · have next : Task.nextUnit later d.engine.pool.settings = u := by
        simpa [due, Task.next?, worker, h.gate] using goesOn
      rw [Task.nextUnit_of_whole whole (h.length ▸ some) (h.length ▸ reach), h.length] at next
      have millis : 1000000 ∣ unit := h.length ▸ d.engine.pool.settings.dvd_unit
      rw [← next]
      exact ⟨rfl, Nat.lt_add_of_pos_right some, Nat.le_refl _, Nat.dvd_add whole millis⟩
    · have same : t = u := by simpa [due] using goesOn
      rw [← same]
      exact ⟨worker, Nat.lt_of_not_le due, Nat.le_trans soon (Nat.add_le_add_right le _), millis⟩

theorem Works.wait (h : Works grace unit d) {later : Nat} (le : d.engine.now ≤ later)
    (next : ∀ u ∈ d.engine.dues, later < u) :
    Works grace unit { d with engine := { d.engine with now := later } } := by
  obtain ⟨listening, isOpen, receiving, empty, early, unrecorded, period, unsaid⟩ := h.awake
  refine ⟨⟨listening, isOpen, receiving, empty, early, unrecorded, period, unsaid⟩, h.gate,
    h.length, ?_⟩
  intro t ht
  obtain ⟨worker, _, soon, millis⟩ := h.workers t ht
  exact ⟨worker, next _ (List.mem_append_right _ (List.mem_map_of_mem ht)),
    Nat.le_trans soon (Nat.add_le_add_right le _), millis⟩

/-- However much time passes, a daemon that nobody asks to stop goes on with its work. -/
theorem Works.passUntil (h : Works grace unit d) (some : 0 < unit) {target : Nat}
    (ahead : d.engine.now ≤ target) (reach : target + unit < Clock.horizon) :
    Works grace unit (d.passUntil target) := by
  refine passUntil_induction ?_ (fun kept le next => kept.wait le next) h ahead
  intro f t kept next soon
  obtain ⟨running, _⟩ := Engine.nextDue?_eq_some next
  have none : f.engine.deadline? = none := by
    simp only [Engine.deadline?, kept.awake.receiving]
  have task : t ∈ f.engine.tasks.map (·.due) := by simpa [Engine.dues, none] using running
  obtain ⟨u, hu, rfl⟩ := List.mem_map.mp task
  obtain ⟨_, later, _, millis⟩ := kept.workers u hu
  exact ⟨later, millis, kept.settle some (Nat.le_of_lt later) millis
    (Nat.lt_of_le_of_lt (Nat.add_le_add_right soon _) reach)⟩

/-- A request to reload that is answered with the settings in force. -/
theorem Works.hangup (h : Works grace unit d) {desk : Desk}
    (answer : Desk.handler d.engine.desk d.engine.pool.settings =
      .ok (desk, some d.engine.pool.settings)) :
    Works grace unit (d.raise [.hangup]).settle := by
  have held : d.engine.runner.lostChannel = false := by rw [h.awake.receiving]; rfl
  obtain ⟨e, emptied⟩ : ∃ e, e = { d.engine with inbox := [] } := ⟨_, rfl⟩
  have answers : Desk.handler e.desk e.pool.settings = .ok (desk, some e.pool.settings) := by
    rw [emptied]
    exact answer
  obtain ⟨tally, left, taken⟩ := Engine.takeReceiving_hangup answers
  obtain ⟨f, same⟩ :
      ∃ f, f = { e with core := { e.core with tally := tally }, desk := left } := ⟨_, rfl⟩
  have aside : Aside d.engine f := by
    rw [same, emptied]
    exact ⟨rfl, rfl, h.awake.empty.symm, rfl⟩
  have attended :
      Engine.attend Desk.handler { d.engine with inbox := d.engine.inbox ++ [.hangup] } = f := by
    have polled : Engine.poll Desk.handler
        { d.engine with inbox := d.engine.inbox ++ [.hangup] } = some f := by
      rw [same, ← taken, emptied, h.awake.empty, List.nil_append]
      simp only [Engine.poll, h.awake.receiving]
    exact (Engine.pollAll_of_some polled _).trans (h.awake.pollAll_aside aside _ _)
  obtain ⟨awake, engine⟩ := h.awake.followUp aside
  rw [settle_raise h.awake.listening h.awake.isOpen held (by decide) h.running, attended]
  refine ⟨awake, ?_, ?_, ?_⟩
  all_goals rw [engine, same, emptied]
  · exact h.gate
  · exact h.length
  · exact h.workers

end Daemon

end Quiesce
