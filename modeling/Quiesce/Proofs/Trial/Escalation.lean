import Quiesce.Proofs.Trial.Matrix
import Quiesce.Proofs.Trial.Tries
import Quiesce.Trial.Script

/-!
How much time a second request leaves to a daemon. The time that an outcome states counts from
before the first request, but the wait for the exit, as long as the grace period, begins only after
the second one. A daemon that passes may therefore have taken an interval longer than its grace
period, and one that was deaf to the second request and ended with that period passes, too.
-/
namespace Quiesce

/-- What an interval and then a grace period take at most, where the latter could be doubled. -/
theorem Duration.nanos_between_of_le {start now e : Nat} {grace : Duration}
    (small : grace.nanos * 2 < 18446744073709551616000000000)
    (soon : now ≤ start + 50000000) (inTime : e ≤ now + grace.nanos) :
    (between start (max now e : Nat)).nanos = max now e - start ∧
      (between start (max now e : Nat)).nanos ≤ 50000000 + grace.nanos := by
  have bounded : max now e - start < 18446744073709551616000000000 := by omega
  rw [nanos_between bounded]
  omega

theorem Duration.nanos_of_twice? {d e : Duration} (h : d.twice? = some e) :
    e.nanos = d.nanos * 2 := by
  unfold Duration.twice? Duration.ofNanos? at h
  split at h <;> cases h
  rfl

namespace Trial

theorem Scenario.escalation_of_mem {grace budget : Duration} {scenario : Scenario}
    (h : scenario ∈ matrix grace budget)
    (named : scenario.name = "terminate-escalation" ∨ scenario.name = "interrupt-escalation") :
    ∃ k, scenario = escalation grace scenario.name k := by
  simp only [matrix, List.mem_cons, List.not_mem_nil, or_false] at h
  rcases h with rfl | rfl | rfl | rfl | rfl | rfl | rfl | rfl
  case inr.inr.inl => exact ⟨.terminate, rfl⟩
  case inr.inr.inr.inl => exact ⟨.interrupt, rfl⟩
  all_goals simp [single, hangup, beforeReady, killed, expiry] at named

/-- Requests are sent at this interval. -/
theorem pause : (Duration.ofMillis 50).nanos = 50000000 := rfl

/-- A daemon that passes after a second request did not end gracefully, and the time stated is at
least the interval between the requests and at most that interval and the grace period. It can only
be less where the daemon has left its group, as the request that finds nobody there is the last. -/
theorem Controller.escalation_elapsed {grace : Duration} {scenarios : List Scenario}
    (standard : Scenario.standard grace = .ok scenarios) {scenario : Scenario}
    (listed : scenario ∈ scenarios)
    (named : scenario.name = "terminate-escalation" ∨ scenario.name = "interrupt-escalation")
    (c : Controller) {o : Outcome}
    (passed : (c.run scenario).result = .ok o) :
    o.graceful = false ∧
      ((∀ arguments b, c.launch arguments = .ok b → b.Grouped) →
        50000000 ≤ o.elapsed.nanos) ∧
      o.elapsed.nanos ≤ 50000000 + grace.nanos := by
  obtain ⟨budget, twice, rfl⟩ := Scenario.standard_eq_ok standard
  obtain ⟨k, same⟩ := Scenario.escalation_of_mem listed named
  rw [same] at passed
  obtain ⟨b, start, t, launched, sent, concluded⟩ := run_eq_ok passed
  have scripted := scripted_deliverAll sent
  have soon : t.now ≤ start + 50000000 := by
    simpa [Scenario.escalation, pause] using scripted.now_le
  obtain ⟨e, exit, _, inTime, rfl, forced⟩ :=
    conclude_eq_ok scripted.collected (by simp [Scenario.escalation]) concluded
  change e ≤ t.now + grace.nanos at inTime
  have small : grace.nanos * 2 < 18446744073709551616000000000 := by
    rw [← Duration.nanos_of_twice? twice]
    exact budget.bounded
  obtain ⟨elapsed, atMost⟩ := Duration.nanos_between_of_le small soon inTime
  refine ⟨by simpa [Expectation.holds, Scenario.escalation] using forced, fun stays => ?_, atMost⟩
  have later : t.now = start + 50000000 := by
    simpa [Scenario.escalation, pause] using scripted.now_of_grouped (stays _ _ launched)
  have last : start + 50000000 ≤ max t.now e := later ▸ Nat.le_max_left _ _
  exact Nat.le_trans (Nat.le_sub_of_add_le' last) (Nat.le_of_eq elapsed.symm)

/-- A child that answers its first request by an exit after that time, and no other. -/
def deafChild (time : Duration) : Script where
  output := "dvm: ready pid=5 control=none\n".toUTF8.toList
  answers := [(.terminate, [{ sleep := time, ending := some (.code 3) }, {}])]

/-- The trial of such a child, which is to end within a second. -/
def deafTrial (time : Duration) : Controller where
  program := "./fake-daemon"
  launch _ := .ok (deafChild time).life
  graceBound := .ofMillis 1000

/-- The child after two requests. -/
def deafSession (time : Duration) : Session :=
  (deliverAll (.ofMillis 50) true [.terminate, .terminate]
    { behaviour := (deafChild time).life }).2

theorem deafTrial_run (time : Duration) (e : Instant)
    (ready : (((deafChild time).life []).observedBy 0).ready = some (5, none))
    (exits : (deafSession time).life.exit = some (e, .code 3)) (inTime : e ≤ 1050000000) :
    ((deafTrial time).run (.escalation (.ofMillis 1000) "terminate-escalation" .terminate)).result =
      .ok (.classify (.code 3) (.between 0 (max 50000000 e)) (.ofMillis 1000)) := by
  have free : (deafChild time).life.Reachable := fun _ _ _ => rfl
  obtain ⟨t, told⟩ := deliverAll_of_deliverable (s := { behaviour := (deafChild time).life })
    free.deliverable rfl (.ofMillis 50) true [.terminate, .terminate]
  have sent : deliverAll (.ofMillis 50) true [.terminate, .terminate]
      { behaviour := (deafChild time).life } = (.ok (), deafSession time) := by
    rw [deafSession, told]
  have scripted := scripted_deliverAll sent
  have now : (deafSession time).now = 50000000 := by
    simpa [pause] using scripted.now_of_grouped free.grouped
  have concluded : (conclude (.ofMillis 1000)
      (.escalation (.ofMillis 1000) "terminate-escalation" .terminate) 0
      (deafSession time)).1 = _ :=
    conclude_of_exit scripted.collected (by simp [Scenario.escalation]) exits (now ▸ inTime) rfl
  rw [now] at concluded
  exact (Controller.run_of_launch (b := (deafChild time).life) rfl rfl
    (fun _ => ⟨_, ready⟩) sent).trans concluded

theorem escalation_listed (k : Signal) (named : k.asksToStop = true) :
    ∃ scenarios, Scenario.standard (.ofMillis 1000) = .ok scenarios ∧
      .escalation (.ofMillis 1000) (k.name ++ "-escalation") k ∈ scenarios := by
  refine ⟨_, Scenario.standard_of_lt rfl (by decide +kernel), ?_⟩
  cases k with
  | terminate => exact .tail _ (.tail _ (.head _))
  | interrupt => exact .tail _ (.tail _ (.tail _ (.head _)))
  | hangup | kill => cases named

/-- The bound is reached by a child that ends an interval after its grace period. -/
theorem Controller.escalation_elapsed_of_latest : ∃ o : Outcome,
    ((deafTrial (.ofMillis 1050)).run
      (.escalation (.ofMillis 1000) "terminate-escalation" .terminate)).result = .ok o ∧
      o.elapsed.nanos = 1050000000 ∧ o.graceful = false ∧ 50000000 ≤ o.elapsed.nanos ∧
      o.elapsed.nanos ≤ 50000000 + (Duration.ofMillis 1000).nanos := by
  obtain ⟨scenarios, standard, listed⟩ := escalation_listed .terminate rfl
  have passed := deafTrial_run (.ofMillis 1050) 1050000000 (by decide +kernel)
    (by decide +kernel) (by decide)
  obtain ⟨forced, atLeast, atMost⟩ := escalation_elapsed standard listed (.inl rfl) _ passed
  refine ⟨_, passed, rfl, forced, atLeast fun _ b launched => ?_, atMost⟩
  cases launched
  exact fun _ _ _ nobody => by cases nobody

/-- A daemon that ends as its grace period does, whatever it was told before, passes. -/
theorem Controller.escalation_elapsed_not_lt : ∃ (c : Controller) (scenarios : List Scenario)
    (scenario : Scenario) (o : Outcome),
    c.graceBound = .ofMillis 1000 ∧ Scenario.standard (.ofMillis 1000) = .ok scenarios ∧
      scenario ∈ scenarios ∧ scenario.name = "terminate-escalation" ∧
      (c.run scenario).result = .ok o ∧ ¬ o.elapsed.nanos < c.graceBound.nanos := by
  obtain ⟨scenarios, standard, listed⟩ := escalation_listed .terminate rfl
  have passed := deafTrial_run (.ofMillis 1000) 1000000000 (by decide +kernel)
    (by decide +kernel) (by decide)
  exact ⟨_, scenarios, _, _, rfl, standard, listed, rfl, passed, by decide +kernel⟩

end Trial

end Quiesce
