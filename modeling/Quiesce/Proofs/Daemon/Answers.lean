import Quiesce.Proofs.Daemon.Start

/-!
What comes of a daemon that has just begun to run, under the requests that it gets. One request to
stop ends it with its units, if these fit into the grace period, and with that period if they do
not; a second request ends it at once. A request to reload that brings nothing new only lets time
pass.
-/
namespace Quiesce

/-- What is given in a word of milliseconds is far from the end of the clock. -/
theorem Duration.nanos_ofMillis_lt (ms : UInt64) :
    (Duration.ofMillis ms).nanos < 18446744073709551616000000 := by
  have small := ms.toNat_lt
  change 1000000 * ms.toNat < 18446744073709551616000000
  omega

theorem Clock.add_lt_horizon {a b : Nat} (ha : a < 18446744073709551616000000)
    (hb : b < 18446744073709551616000000) : a + b < horizon :=
  Nat.lt_trans (Nat.add_lt_add ha hb) (by decide)

namespace Daemon

variable {d : Daemon} {grace : Duration} {unit : Nat}

theorem passUntil_of_early {target : Instant} (early : ∀ u ∈ d.engine.dues, target < u) :
    d.passUntil target = { d with engine := { d.engine with now := target } } := by
  unfold passUntil advanceTo
  split
  · rename_i t next
    rw [if_neg (Nat.not_le.mpr (early t (Engine.nextDue?_eq_some next).1))]
  · rfl

theorem Works.dues (h : Works grace unit d) : ∀ u ∈ d.engine.dues, d.engine.now < u := by
  have none : d.engine.deadline? = none := by simp only [Engine.deadline?, h.awake.receiving]
  intro u hu
  have task : u ∈ d.engine.tasks.map (·.due) := by simpa [Engine.dues, none] using hu
  obtain ⟨t, ht, rfl⟩ := List.mem_map.mp task
  exact h.running t ht

/-- No time at all passes without a trace. -/
theorem Works.passUntil_now (h : Works grace unit d) : d.passUntil d.engine.now = d :=
  passUntil_of_early h.dues

theorem raise_now (d : Daemon) (signals : List Signal) :
    (d.raise signals).engine.now = d.engine.now := by
  unfold raise
  split
  · change ((Signal.inOrder signals).foldl _ d.engine).now = _
    generalize d.engine = e
    induction Signal.inOrder signals generalizing e with
    | nil => rfl
    | cons s rest ih =>
        rw [List.foldl_cons, ih]
        unfold Engine.send
        split <;> rfl
  · rfl

theorem Works.play_nil (h : Works grace unit d) : d.play [] = d := by
  simp only [play, Engine.deadline?, h.awake.receiving]

/-- A daemon that nobody asks to stop does not end. -/
theorem Works.exit?_of_none (h : Works grace unit d) : (d.play []).exit? = none := by
  simp only [h.play_nil, exit?, h.awake.unsaid]

theorem Works.lastDue_le (h : Works grace unit d) : d.engine.lastDue ≤ d.engine.now + unit :=
  Engine.lastDue_le_iff.mpr ⟨Nat.le_add_right _ _, fun t ht => (h.workers t ht).2.2.1⟩

/-- Units that are shorter than the grace period are done in time. -/
theorem Works.exit?_of_request (h : Works grace unit d) {k : Signal} (asks : k.asksToStop = true)
    (short : unit < grace.nanos) (reach : d.engine.now + grace.nanos < Clock.horizon) :
    ((d.raise [k]).settle.play []).exit? = some (d.engine.lastDue, 0) := by
  refine h.awake.exit?_of_inTime asks h.timely h.running reach fun t ht => ?_
  exact Nat.lt_of_le_of_lt (h.workers t ht).2.2.1 (Nat.add_lt_add_left short _)

section Begun

variable {host : Host} {settings : Settings} {desk : Desk} {k : Signal}

/-- Signals that come at once find the daemon as it began. -/
theorem Begun.play_now (h : Begun host settings desk d) (k : Signal)
    (later : List (Instant × Signal)) :
    d.play ((0, k) :: later) = (d.raise [k]).settle.play later := by
  have stays : d.passUntil (max d.engine.now 0) = d := by
    rw [Nat.max_zero]
    exact h.works.passUntil_now
  rw [play, stays]

theorem Begun.reach (h : Begun host settings desk d) :
    d.engine.now + settings.lifecycle.grace.nanos < Clock.horizon := by
  rw [h.now]
  exact Clock.add_lt_horizon (by decide) (Duration.nanos_ofMillis_lt _)

theorem Begun.mem_tasks (h : Begun host settings desk d) (some : settings.workload.workers ≠ 0) :
    ⟨.worker, settings.workload.unit.nanos⟩ ∈ d.engine.tasks := by
  rw [h.tasks]
  exact List.mem_replicate.mpr ⟨fun none => some (UInt64.toNat_inj.mp none), rfl⟩

theorem Begun.lastDue (h : Begun host settings desk d) (some : settings.workload.workers ≠ 0) :
    d.engine.lastDue = settings.workload.unit.nanos := by
  apply Nat.le_antisymm
  · have last := h.works.lastDue_le
    rwa [h.now, Nat.zero_add] at last
  · exact (Engine.lastDue_le_iff.mp (Nat.le_refl _)).2 _ (h.mem_tasks some)

theorem Begun.exit?_of_request (h : Begun host settings desk d) (asks : k.asksToStop = true)
    (some : settings.workload.workers ≠ 0)
    (short : settings.workload.unit.nanos < settings.lifecycle.grace.nanos) :
    (d.play [(0, k)]).exit? = .some (settings.workload.unit.nanos, 0) := by
  rw [h.play_now, h.works.exit?_of_request asks short h.reach, h.lastDue some]

/-- The deadline of a drain that begins at once. -/
theorem Begun.tick_deadline (h : Begun host settings desk d) :
    Clock.tick (d.engine.now + settings.lifecycle.grace.nanos) =
      settings.lifecycle.grace.nanos := by
  rw [h.now, Nat.zero_add]
  exact Clock.tick_of_dvd ⟨settings.lifecycle.graceMs.toNat, rfl⟩

theorem Begun.apart (h : Begun host settings desk d)
    (long : settings.lifecycle.grace.nanos < settings.workload.unit.nanos) :
    d.engine.Apart (d.engine.now + settings.lifecycle.grace.nanos) := by
  intro t ht
  rw [h.tasks] at ht
  obtain ⟨_, rfl⟩ := List.mem_replicate.mp ht
  rw [h.tick_deadline]
  exact Nat.ne_of_gt long

/-- Units that outlast the grace period are not waited for. -/
theorem Begun.exit?_of_expiry (h : Begun host settings desk d) (asks : k.asksToStop = true)
    (some : settings.workload.workers ≠ 0)
    (long : settings.lifecycle.grace.nanos < settings.workload.unit.nanos) :
    (d.play [(0, k)]).exit? = .some (settings.lifecycle.grace.nanos, 3) := by
  have late := h.works.awake.exit?_of_late asks h.works.timely h.works.running h.reach
    (h.apart long) (h.mem_tasks some) (by rwa [h.tick_deadline])
  rwa [h.tick_deadline, ← h.play_now] at late

/-- A second request during the grace period ends the daemon when it comes. -/
theorem Begun.exit?_of_second (h : Begun host settings desk d) (asks : k.asksToStop = true)
    (some : settings.workload.workers ≠ 0)
    (long : settings.lifecycle.grace.nanos < settings.workload.unit.nanos) {later : Nat}
    (early : later < settings.lifecycle.grace.nanos) :
    (d.play [(0, k), (later, k)]).exit? = .some (later, (Ending.forced k).exitCode) := by
  have drains := h.works.awake.subsides asks h.works.running h.reach (h.apart long)
  have ends : Engine.EndsAt { d.engine with inbox := [k] }
      (d.engine.now + settings.lifecycle.grace.nanos)
      (Clock.tick (d.engine.now + settings.lifecycle.grace.nanos)) .graceExpired :=
    Engine.endsAt_deadline (Nat.le_trans (Nat.le_add_right _ _) (Clock.le_tick _))
      (h.mem_tasks some) (by rwa [h.tick_deadline])
  have now : (d.raise [k]).settle.engine.now = 0 := by rw [settle_now, raise_now, h.now]
  rw [h.tick_deadline] at ends
  have ahead : (d.raise [k]).settle.engine.now ≤ later := now ▸ Nat.zero_le later
  have passed := drains.passUntil h.works.timely (h.apart long) ahead
  have arrived := passUntil_now (d.raise [k]).settle later
  have second := passed.exit?_of_request ends (arrived.symm ▸ early) asks
  rw [arrived] at second
  rw [h.play_now, play, now, Nat.zero_max]
  exact second

/-- A request to reload that brings nothing new. -/
theorem Begun.works_hangup (h : Begun host settings desk d)
    (answer : desk.handler settings.workload = .ok (desk, some settings.workload)) :
    Works settings.lifecycle.grace settings.workload.unit.nanos (d.raise [.hangup]).settle := by
  have answered : Desk.handler d.engine.desk d.engine.pool.settings =
      .ok (desk, some d.engine.pool.settings) := by
    rw [h.desk, h.pool]
    exact answer
  exact h.works.hangup answered

theorem Begun.exit?_of_hangup (h : Begun host settings desk d)
    (answer : desk.handler settings.workload = .ok (desk, some settings.workload)) :
    (d.play [(0, .hangup)]).exit? = none := by
  rw [h.play_now]
  exact (h.works_hangup answer).exit?_of_none

/-- After a window, the daemon ends within a unit of the request to stop. -/
theorem Begun.exit?_after_hangup (h : Begun host settings desk d) (asks : k.asksToStop = true)
    (answer : desk.handler settings.workload = .ok (desk, some settings.workload))
    (busy : 0 < settings.workload.unit.nanos)
    (short : settings.workload.unit.nanos < settings.lifecycle.grace.nanos) (window : UInt64) :
    ∃ t, (d.play [(0, .hangup), ((Duration.ofMillis window).nanos, k)]).exit? = some (t, 0) ∧
      (Duration.ofMillis window).nanos ≤ t ∧
      t ≤ (Duration.ofMillis window).nanos + settings.workload.unit.nanos := by
  have now : (d.raise [.hangup]).settle.engine.now = 0 := by rw [settle_now, raise_now, h.now]
  have far := Duration.nanos_ofMillis_lt window
  generalize (Duration.ofMillis window).nanos = target at far ⊢
  generalize passed : (d.raise [.hangup]).settle.passUntil target = e
  have works : Works settings.lifecycle.grace settings.workload.unit.nanos e := by
    rw [← passed]
    exact (h.works_hangup answer).passUntil busy (now ▸ Nat.zero_le _)
      (Clock.add_lt_horizon far (Duration.nanos_ofMillis_lt _))
  have arrived : e.engine.now = target := by rw [← passed, passUntil_now]
  have reach : e.engine.now + settings.lifecycle.grace.nanos < Clock.horizon := by
    rw [arrived]
    exact Clock.add_lt_horizon far (Duration.nanos_ofMillis_lt _)
  refine ⟨e.engine.lastDue, ?_, ?_, ?_⟩
  · rw [h.play_now, play, now, Nat.zero_max, passed]
    exact works.exit?_of_request asks short reach
  · exact arrived ▸ (Engine.lastDue_le_iff.mp (Nat.le_refl e.engine.lastDue)).1
  · exact arrived ▸ works.lastDue_le

end Begun

end Daemon

end Quiesce
