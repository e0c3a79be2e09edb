import Quiesce.Proofs.Trial.Matrix
import Quiesce.Proofs.Trial.Tries

/-!
What a child has to do under the signals of a scenario for its trial to pass. A child that is
launched and ready at once is sent the first signal at once; what it makes of the signals, as its
behaviour says, decides the rest.
-/
namespace Quiesce.Trial

theorem Life.exitedBy_of_none {l : Life} (h : l.exit = none) (t : Instant) :
    l.exitedBy t = false := by
  simp only [exitedBy, h]

theorem Life.exitedBy_of_some {l : Life} {e : Instant} {exit : Exit} (h : l.exit = some (e, exit))
    (t : Instant) : l.exitedBy t = decide (e ≤ t) := by
  simp only [exitedBy, h]

variable {b : Behaviour} {k : Signal} {interval : Duration} {e : Instant} {exit : Exit}

/-! ### What has been sent -/

theorem deliverAll_singleton {s : Session} (free : s.behaviour.Reachable)
    (h : s.collected = none) (first : Bool) :
    deliverAll interval first [k] s =
      (.ok (), ((if first then s else s.sleep interval).signal k).2) := by
  have ready : (if first then s else s.sleep interval).behaviour.Reachable ∧
      (if first then s else s.sleep interval).collected = none := by
    cases first <;> exact ⟨free, h⟩
  simp only [deliverAll, Session.deliver_of_reachable ready.1 ready.2]

theorem deliverAll_one (free : b.Reachable) (alive : (b []).exit = none) (catchable : k ≠ .kill) :
    deliverAll interval true [k] { behaviour := b } =
      (.ok (), { behaviour := b, delivered := [(0, k)], attempts := [(0, k)] }) := by
  have sent := Session.signal_of_alive (s := { behaviour := b }) rfl
    (Life.exitedBy_of_none alive 0) catchable
  rw [deliverAll_singleton free rfl, if_pos rfl, sent]
  rfl

theorem life_deliverAll_kill (free : b.Reachable) (alive : (b []).exit = none) :
    (deliverAll interval true [.kill] { behaviour := b }).2.life = (b []).cutAt 0 := by
  have sent := Session.signal_kill (s := { behaviour := b }) rfl (Life.exitedBy_of_none alive 0)
  rw [deliverAll_singleton free rfl, if_pos rfl, sent]
  rfl

/-- A second signal reaches a child only if it goes on for longer than the interval. -/
theorem life_deliverAll_two (interval : Duration) (free : b.Reachable) (alive : (b []).exit = none)
    (catchable : k ≠ .kill) (ends : (b [(0, k)]).exit = some (e, exit)) :
    (deliverAll interval true [k, k] { behaviour := b }).2.life =
      if e ≤ interval.nanos then b [(0, k)] else b [(0, k), (interval.nanos, k)] := by
  have sent := Session.signal_of_alive (s := { behaviour := b }) rfl
    (Life.exitedBy_of_none alive 0) catchable
  let rested : Session :=
    { behaviour := b, now := interval.nanos, delivered := [(0, k)], attempts := [(0, k)] }
  have slept : Session.sleep { behaviour := b, delivered := [(0, k)], attempts := [(0, k)] }
      interval = rested := by
    simp only [Session.sleep, Nat.zero_add, rested]
  have again : (deliverAll interval true [k, k] { behaviour := b }).2 = (rested.signal k).2 := by
    rw [deliverAll, if_pos rfl, Session.deliver_of_reachable free rfl, sent]
    exact (congrArg Prod.snd (deliverAll_singleton free rfl false)).trans (by rw [← slept]; rfl)
  have exited : rested.life.exitedBy rested.now = decide (e ≤ interval.nanos) :=
    Life.exitedBy_of_some ends _
  rw [again]
  by_cases gone : e ≤ interval.nanos
  · rw [Session.signal_of_gone rfl (exited.trans (decide_eq_true gone)), if_pos gone]
    rfl
  · rw [Session.signal_of_alive rfl (exited.trans (decide_eq_false gone)) catchable, if_neg gone]
    rfl

/-! ### What the trial comes to -/

/-- After the window of a trial of survival, a child that is still there is told to stop. -/
theorem conclude_of_alive {bound window : Duration} {scenario : Scenario} {started : Instant}
    {s : Session} (expects : scenario.expect = .survives window) (free : s.behaviour.Reachable)
    (h : s.collected = none) (alive : s.life.exit = none) :
    (conclude bound scenario started s).1 =
      (((s.sleep window).signal .terminate).2.awaitExit scenario.timeout (s.now + window.nanos)
        bound).1.bind scenario.expect.verify := by
  have waits : s.waitWithin window = (none, s.sleep window) := by
    rw [Session.waitWithin_of_open h, alive]
  have told := Session.deliver_of_reachable (s := s.sleep window) free h .terminate
  simp only [conclude, expects, waits, told]
  rfl

theorem Capability.check_current (signals : List Signal) :
    Capability.current.check signals = .ok () := by
  have all (signal : Signal) : Capability.current.supports signal = true := by
    cases signal <;> rfl
  have none : Capability.current.firstUnsupported? signals = none := by
    simp [firstUnsupported?, all]
  simp only [check, none]

namespace Controller

/-- A child that a scenario launches: it is ready at once, and goes on while it gets no signal. All
signals get through to it. -/
structure Launches (c : Controller) (scenario : Scenario) (b : Behaviour) : Prop where
  able : c.capability.check scenario.required = .ok ()
  launched : c.launch (c.arguments ++ scenario.arguments) = .ok b
  free : b.Reachable
  ready : ∃ line, ((b []).observedBy 0).ready = some line
  alive : (b []).exit = none

variable {c : Controller} {scenario : Scenario}

theorem Launches.run (h : c.Launches scenario b) {t : Session}
    (sent : deliverAll scenario.interval true scenario.signals { behaviour := b } = (.ok (), t)) :
    (c.run scenario).result = (conclude c.graceBound scenario 0 t).1 :=
  run_of_launch h.able h.launched (fun _ => h.ready) sent

/-- A child that ends as expected passes, unless it was to go on. -/
theorem Launches.run_of_exit (h : c.Launches scenario b)
    (brief : ∀ window, scenario.expect ≠ .survives window)
    (ends : (deliverAll scenario.interval true scenario.signals
      { behaviour := b }).2.life.exit = some (e, exit)) {noticed : Instant}
    (known : max ((scenario.signals.length - 1) * scenario.interval.nanos) e = noticed)
    (inTime : e ≤ scenario.timeout.nanos)
    (holds : scenario.expect.holds (.classify exit (.between 0 noticed) c.graceBound) = true) :
    (c.run scenario).result = .ok (.classify exit (.between 0 noticed) c.graceBound) := by
  obtain ⟨t, sent⟩ := deliverAll_of_deliverable (s := { behaviour := b }) h.free.deliverable rfl
    scenario.interval true scenario.signals
  have scripted := scripted_deliverAll sent
  have later : t.now = (scenario.signals.length - 1) * scenario.interval.nanos :=
    (scripted.now_of_grouped h.free.grouped).trans (Nat.zero_add _)
  rw [sent] at ends
  rw [← known, ← later] at holds ⊢
  rw [h.run sent]
  exact conclude_of_exit scripted.collected brief ends
    (Nat.le_trans inTime (Nat.le_add_left _ _)) holds

/-- A child that goes on after its first signal, and ends as expected when it is told to stop. -/
theorem Launches.run_of_survivor {window : Duration} (h : c.Launches scenario b)
    (expects : scenario.expect = .survives window) (one : scenario.signals = [k])
    (catchable : k ≠ .kill) (goesOn : (b [(0, k)]).exit = none)
    (ends : (b [(0, k), (window.nanos, .terminate)]).exit = some (e, exit))
    (after : window.nanos ≤ e) (inTime : e ≤ window.nanos + scenario.timeout.nanos)
    (holds : scenario.expect.holds
      (.classify exit (.between window.nanos e) c.graceBound) = true) :
    (c.run scenario).result = .ok (.classify exit (.between window.nanos e) c.graceBound) := by
  let told : Session := { behaviour := b, delivered := [(0, k)], attempts := [(0, k)] }
  let stopped : Session :=
    { behaviour := b, now := window.nanos
      delivered := [(0, k), (window.nanos, .terminate)]
      attempts := [(0, k), (window.nanos, .terminate)] }
  have stop : ((told.sleep window).signal .terminate).2 = stopped := by
    have stays : (told.sleep window).life.exitedBy (told.sleep window).now = false :=
      Life.exitedBy_of_none goesOn _
    rw [Session.signal_of_alive rfl stays (by decide)]
    simp only [Session.sleep, Nat.zero_add, told, stopped]
    rfl
  have awaited := Session.awaitExit_of_exit (s := stopped) rfl ends inTime window.nanos
    c.graceBound
  have noticed : max stopped.now e = e := Nat.max_eq_right after
  rw [noticed] at awaited
  have sent : deliverAll scenario.interval true scenario.signals { behaviour := b } =
      (.ok (), told) := by
    rw [one, deliverAll_one h.free h.alive catchable]
  rw [h.run sent, conclude_of_alive (s := told) expects h.free rfl goesOn, stop]
  change ((stopped.awaitExit scenario.timeout (0 + window.nanos) c.graceBound).1.bind _) = _
  rw [Nat.zero_add, awaited]
  exact if_pos holds

/-- Whatever ended a child by the time that the second signal is out, it is noticed then. -/
theorem Launches.run_of_noticed {grace : Duration} {name : String}
    (h : c.Launches (.escalation grace name k) b) {e n : Nat}
    (soon : e ≤ (Duration.ofMillis 50).nanos) (inTime : e ≤ grace.nanos)
    (failed : Int32.ofNat n ≠ 0)
    (ends : (deliverAll (.ofMillis 50) true [k, k] { behaviour := b }).2.life.exit =
      some (e, .code n)) :
    (c.run (.escalation grace name k)).result =
      .ok ⟨some (Int32.ofNat n), none, .ofMillis 50, false⟩ := by
  have outcome : Outcome.classify (.code n) (.between 0 (Duration.ofMillis 50).nanos) c.graceBound =
      ⟨some (Int32.ofNat n), none, .ofMillis 50, false⟩ := by
    rw [Duration.between_ofMillis]
    simp [Outcome.classify, Exit.code?, Exit.signal?, failed]
  have last : max (([k, k].length - 1) * (Duration.ofMillis 50).nanos) e =
      (Duration.ofMillis 50).nanos := by
    rw [List.length_cons, List.length_singleton, Nat.add_sub_cancel, Nat.one_mul,
      Nat.max_eq_left soon]
  rw [← outcome]
  refine h.run_of_exit (by simp [Scenario.escalation]) ends last inTime ?_
  rw [outcome]
  rfl

end Controller

end Quiesce.Trial
