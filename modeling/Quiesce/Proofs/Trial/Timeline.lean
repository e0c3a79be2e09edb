import Quiesce.Proofs.Trial.Passing
import Quiesce.Trial.Script

/-!
When a run does what. There are three instants that it counts from: the one at which it starts to
send signals, the one after its last try, from which it waits for the exit or through a window of
survival, and the one at the end of that window, at which the child is told to stop.
-/
namespace Quiesce.Trial

/-! ### Exits -/

namespace Life

variable {l : Life} {t k : Instant}

theorem exitedBy_iff : l.exitedBy t = true ↔ ∃ e exit, l.exit = some (e, exit) ∧ e ≤ t := by
  cases h : l.exit with
  | none => simp [exitedBy, h]
  | some pair =>
      obtain ⟨e, exit⟩ := pair
      simp [exitedBy_of_some h]

/-- A kill leaves nobody alive. -/
theorem exitedBy_cutAt (h : k ≤ t) : (l.cutAt k).exitedBy t = true := by
  unfold cutAt
  split
  · rename_i e exit ends
    split
    · rename_i before
      exact exitedBy_iff.mpr ⟨e, exit, ends, Nat.le_trans before h⟩
    · exact exitedBy_iff.mpr ⟨k, _, rfl, h⟩
  · exact exitedBy_iff.mpr ⟨k, _, rfl, h⟩

theorem exit_cutAt (h : l.exitedBy t = false) :
    (l.cutAt t).exit = some (t, .signal Signal.kill.number) := by
  unfold cutAt
  split
  · rename_i e exit ends
    have later : ¬ e ≤ t := by
      simpa [exitedBy_of_some ends] using h
    rw [if_neg later]
    rfl
  · rfl

end Life

namespace Session

variable {s : Session}

/-- Nobody is killed in the future. -/
def Timely (s : Session) : Prop := ∀ t, s.killed = some t → t ≤ s.now

theorem timely_deliver {k : Signal} (h : s.Timely) : (s.deliver k).2.Timely := by
  unfold deliver
  split
  · simp only
    split <;> exact h
  · simp only [signal]
    split
    · exact h
    · split
      · exact h
      · split
        · intro t killed
          cases killed
          exact Nat.le_refl _
        · exact h

/-- A child that is still there has not been killed. -/
theorem Timely.killed (h : s.Timely) (alive : s.life.exitedBy s.now = false) :
    s.killed = none := by
  cases killed : s.killed with
  | none => rfl
  | some t =>
      have gone : s.life.exitedBy s.now = true := by
        simp only [life, killed]
        exact Life.exitedBy_cutAt (h t killed)
      rw [gone] at alive
      cases alive

theorem waitWithin_of_late (h : s.collected = none) {d : Duration}
    (late : s.life.exitedBy (s.now + d.nanos) = false) : s.waitWithin d = (none, s.sleep d) := by
  rw [waitWithin_of_open h]
  split
  · rename_i e exit ends
    have later : ¬ e ≤ s.now + d.nanos := by
      simpa [Life.exitedBy_of_some ends] using late
    rw [if_neg later]
  · rfl

theorem life_of_unhurt (h : s.killed = none) : s.life = s.behaviour s.delivered := by
  simp only [life, h]

/-- A signal that the system lets through is delivered, and one that finds nobody in the group of a
child is only tried. -/
theorem deliver_of_deliverable (lets : s.behaviour.Deliverable) (h : s.collected = none)
    (k : Signal) : s.deliver k =
      if s.life.refuses s.now k = none then (.ok .delivered, (s.signal k).2)
      else (.ok .alreadyExited, { s with attempts := s.attempts ++ [(s.now, k)] }) := by
  rw [deliver_of_open h]
  cases refused : s.life.refuses s.now k with
  | none => rfl
  | some cause =>
      rw [refuses_life] at refused
      simp only [lets _ _ _ _ refused, ite_true, reduceCtorEq, ite_false]

/-- A kill is collected at once. -/
theorem kill_of_alive (lets : s.behaviour.Deliverable) (h : s.collected = none) (timely : s.Timely)
    (alive : s.life.exitedBy s.now = false) :
    s.kill.attempts = s.attempts ++ [(s.now, .kill)] ∧
      s.kill.life.exit = some (s.now, .signal Signal.kill.number) ∧
        s.kill.collected = some (.signal Signal.kill.number) := by
  have unhurt : s.killed = none := timely.killed alive
  let struck : Session :=
    { s with attempts := s.attempts ++ [(s.now, .kill)], killed := some s.now }
  have ends : struck.life.exit = some (s.now, .signal Signal.kill.number) :=
    Life.exit_cutAt (life_of_unhurt unhurt ▸ alive)
  have gone : struck.life.exitedBy s.now = true :=
    Life.exitedBy_iff.mpr ⟨s.now, _, ends, Nat.le_refl _⟩
  -- The child is hit with its group, or else by itself.
  have told : ∃ delivery t, s.deliver .kill = (.ok delivery, t) ∧ t.strike = struck := by
    rw [deliver_of_deliverable lets h]
    split
    · rw [signal_kill h alive]
      exact ⟨_, _, rfl, if_pos gone⟩
    · refine ⟨_, _, rfl, ?_⟩
      rw [strike, life_attempts, alive]
      rfl
  obtain ⟨delivery, t, told, same⟩ := told
  have reaped : struck.waitWithin .zero = (some (.signal Signal.kill.number),
      { struck with now := max s.now s.now, collected := some (.signal Signal.kill.number) }) :=
    waitWithin_of_exit (s := struck) h ends (Nat.le_refl _)
  refine ⟨attempts_kill s, ?_, ?_⟩
  · simp only [kill, told, same, reaped]
    exact ends
  · simp only [kill, told, same, reaped]

end Session

/-! ### The script -/

theorem timely_deliverAll {s t : Session} (h : s.Timely) {interval : Duration} {first : Bool}
    {signals : List Signal} (sent : deliverAll interval first signals s = (.ok (), t)) :
    t.Timely := by
  have all : (deliverAll interval first signals s).2.Timely :=
    deliverAll_induction (P := Session.Timely)
      (fun s h t killed => Nat.le_trans (h t killed) (Nat.le_add_right _ _))
      (fun _ _ _ h => Session.timely_deliver h) h
  rwa [sent] at all

/-! ### The wait for an exit -/

/-- The outcome for a child that ended like this and was noticed to have done so after a time. -/
structure Outcome.Describes (o : Outcome) (exit : Exit) (elapsed bound : Duration) : Prop where
  exitCode : o.exitCode = exit.code?
  endingSignal : o.endingSignal = exit.signal?
  elapsed : o.elapsed = elapsed
  graceful : o.graceful = true ↔ o.exitCode = some 0 ∧ o.elapsed.nanos < bound.nanos

theorem Outcome.describes_classify (exit : Exit) (elapsed bound : Duration) :
    (classify exit elapsed bound).Describes exit elapsed bound :=
  ⟨rfl, rfl, rfl, by simp [classify]⟩

/-- How a wait for the exit of a child comes out that begins where a session is, where time counts
from a start: a child that does not end in time is killed, and one that does is judged. -/
structure Awaited (t : Session) (started : Instant) (within bound : Duration)
    (expect : Expectation) (result : Except Fault Outcome) (after : Session) : Prop where
  timesOut : (∃ elapsed stage, result = .error (.timeout .exit elapsed stage)) ↔
    t.life.exitedBy (t.now + within.nanos) = false
  late : t.life.exitedBy (t.now + within.nanos) = false →
    result = .error (.timeout .exit (.between started (t.now + within.nanos))
      (t.life.observedBy (t.now + within.nanos)).lastStage) ∧
    after.attempts = t.attempts ++ [(t.now + within.nanos, .kill)] ∧
    after.life.exit = some (t.now + within.nanos, .signal Signal.kill.number) ∧
    after.collected = some (.signal Signal.kill.number)
  inTime : ∀ e exit, t.life.exit = some (e, exit) → e ≤ t.now + within.nanos →
    ∃ o : Outcome, o.Describes exit (.between started (max t.now e)) bound ∧
      (result = .ok o ↔ expect.holds o = true) ∧
      (expect.holds o = false → result = .error (.unexpected expect o)) ∧
      after.attempts = t.attempts

namespace Session

variable {t : Session} {within : Duration}

theorem awaitExit_of_late (h : t.collected = none)
    (late : t.life.exitedBy (t.now + within.nanos) = false) (started : Instant)
    (bound : Duration) : t.awaitExit within started bound =
      (.error (.timeout .exit (.between started (t.now + within.nanos))
        (t.life.observedBy (t.now + within.nanos)).lastStage), (t.sleep within).kill) := by
  simp only [awaitExit, waitWithin_of_late h late]
  rfl

theorem awaited_awaitExit (lets : t.behaviour.Deliverable) (h : t.collected = none)
    (timely : t.Timely) (started : Instant) (within bound : Duration) (expect : Expectation) :
    Awaited t started within bound expect
      ((t.awaitExit within started bound).1.bind expect.verify)
      (t.awaitExit within started bound).2 := by
  cases alive : t.life.exitedBy (t.now + within.nanos) with
  | false =>
      have later : (t.sleep within).Timely := fun k killed =>
        Nat.le_trans (timely k killed) (Nat.le_add_right _ _)
      have killed := kill_of_alive (s := t.sleep within) lets h later alive
      rw [awaitExit_of_late h alive]
      refine ⟨⟨fun _ => alive, fun _ => ⟨_, _, rfl⟩⟩, fun _ => ⟨rfl, killed⟩, ?_⟩
      intro e exit ends inTime
      rw [Life.exitedBy_iff.mpr ⟨e, exit, ends, inTime⟩] at alive
      cases alive
  | true =>
      obtain ⟨e, exit, ends, inTime⟩ := Life.exitedBy_iff.mp alive
      rw [awaitExit_of_exit h ends inTime]
      refine ⟨?_, ?_, ?_⟩
      · simp only [alive, Bool.true_eq_false, iff_false, Except.bind, Expectation.verify]
        rintro ⟨elapsed, stage, got⟩
        split at got <;> cases got
      · intro late
        rw [late] at alive
        cases alive
      · intro e' exit' ends' _
        cases ends.symm.trans ends'
        refine ⟨_, Outcome.describes_classify exit _ bound, ?_, ?_, rfl⟩
        · simp only [Except.bind, Expectation.verify]
          split <;> simp [*]
        · intro fails
          simp only [Except.bind, Expectation.verify, fails]
          rfl

end Session

/-! ### A window of survival -/

/-- The session in which a child that is still there after a window is told to stop. It hears of it
only if that is let through. -/
def Session.stopAfter (t : Session) (window : Duration) : Session :=
  { t.sleep window with
    attempts := t.attempts ++ [(t.now + window.nanos, .terminate)]
    delivered :=
      if t.life.refuses (t.now + window.nanos) .terminate = none then
        t.delivered ++ [(t.now + window.nanos, .terminate)]
      else t.delivered }

theorem Session.deliver_stopAfter {t : Session} {window : Duration}
    (lets : t.behaviour.Deliverable) (h : t.collected = none)
    (alive : t.life.exitedBy (t.now + window.nanos) = false) :
    ∃ delivery, (t.sleep window).deliver .terminate = (.ok delivery, t.stopAfter window) := by
  have told := deliver_of_deliverable (s := t.sleep window) lets h .terminate
  rw [signal_of_alive (s := t.sleep window) (k := .terminate) h alive (by decide)] at told
  have same : (t.sleep window).life.refuses (t.sleep window).now .terminate =
      t.life.refuses (t.now + window.nanos) .terminate := rfl
  rw [told, same, stopAfter]
  split
  · exact ⟨.delivered, rfl⟩
  · exact ⟨.alreadyExited, rfl⟩

/-- How a window comes out that a child is to survive: one that does not is sent nothing more, and
one that does is told to stop at the end of the window, from which on time counts anew. -/
structure Outlived (t : Session) (started : Instant) (window within bound : Duration)
    (expect : Expectation) (result : Except Fault Outcome) (after : Session) : Prop where
  gone : ∀ e exit, t.life.exit = some (e, exit) → e ≤ t.now + window.nanos →
    ∃ o : Outcome, o.Describes exit (.between started (max t.now e)) bound ∧
      result = .error (.unexpected expect o) ∧ after.attempts = t.attempts
  stays : t.life.exitedBy (t.now + window.nanos) = false →
    Awaited (t.stopAfter window) (t.now + window.nanos) within bound expect result after

theorem outlived_conclude {scenario : Scenario} {window : Duration}
    (expects : scenario.expect = .survives window) {t : Session} (lets : t.behaviour.Deliverable)
    (h : t.collected = none) (timely : t.Timely) (started : Instant) (bound : Duration) :
    Outlived t started window scenario.timeout bound scenario.expect
      (conclude bound scenario started t).1 (conclude bound scenario started t).2 := by
  refine ⟨fun e exit ends inTime => ?_, fun alive => ?_⟩
  · simp only [conclude, expects, Session.waitWithin_of_exit h ends inTime]
    exact ⟨_, Outcome.describes_classify exit _ bound, rfl, trivial⟩
  · obtain ⟨delivery, told⟩ := Session.deliver_stopAfter lets h alive
    have later : (t.stopAfter window).Timely := fun k killed =>
      Nat.le_trans (timely k killed) (Nat.le_add_right _ _)
    have awaited := Session.awaited_awaitExit (t := t.stopAfter window) lets h later
      (t.now + window.nanos) scenario.timeout bound scenario.expect
    simp only [conclude, expects, Session.waitWithin_of_late h alive, told]
    rwa [expects] at awaited

/-! ### Readiness -/

/-- A child that, unless it is sent a signal, is first seen to be ready at an instant, no later than
it ends and within a time. -/
structure Behaviour.GetsReady (b : Behaviour) (start : Instant) (within : Duration) : Prop where
  reports : ((b []).observedBy start).ready.isSome = true
  first : ∀ t < start, ((b []).observedBy t).ready = none
  lives : ∀ e exit, (b []).exit = some (e, exit) → start ≤ e
  inTime : start ≤ within.nanos

namespace Life

/-- Nothing is learned of a child while it writes nothing and does not end. -/
theorem observedBy_succ {l : Life} {t : Instant} (silent : t + 1 ∉ l.newsAt) :
    l.observedBy (t + 1) = l.observedBy t := by
  have step {x : Instant} (other : x ≠ t + 1) : x ≤ t + 1 ↔ x ≤ t :=
    ⟨fun le => Nat.lt_succ_iff.mp (Nat.lt_of_le_of_ne le other), Nat.le_succ_of_le⟩
  obtain ⟨output, closed, exit⟩ : (∀ x ∈ l.output, x.1 ≠ t + 1) ∧
      (∀ c, l.closed = some c → c ≠ t + 1) ∧
        ∀ e exit, l.exit = some (e, exit) → e ≠ t + 1 := by
    refine ⟨fun x mem same => silent ?_, fun c isClosed same => silent ?_,
      fun e exit ends same => silent ?_⟩
    · exact List.mem_append_left _ (List.mem_append_left _ (same ▸ List.mem_map_of_mem mem))
    · simp [newsAt, isClosed, same]
    · simp [newsAt, ends, same]
  have written : l.output.filter (·.1 ≤ t + 1) = l.output.filter (·.1 ≤ t) :=
    List.filter_congr fun x mem => by simp only [step (output x mem)]
  have silence : l.silentBy (t + 1) = l.silentBy t := by
    unfold silentBy exitedBy
    cases ends : l.exit with
    | none =>
        cases isClosed : l.closed with
        | none => rfl
        | some c => simp only [step (closed c isClosed)]
    | some pair =>
        cases isClosed : l.closed with
        | none => simp only [step (exit _ _ ends)]
        | some c => simp only [step (exit _ _ ends), step (closed c isClosed)]
  rw [observedBy, written, silence]
  rfl

/-- The first instant at which a child is seen to be ready is one at which there is news of it. -/
theorem readyFrom?_of_first {l : Life} {start : Instant}
    (reports : (l.observedBy start).ready.isSome = true)
    (first : ∀ t < start, (l.observedBy t).ready = none) : l.readyFrom? 0 = some start := by
  have news : start ∈ 0 :: l.newsAt := by
    cases start with
    | zero => exact List.mem_cons_self
    | succ t =>
        refine Decidable.byContradiction fun silent => ?_
        rw [observedBy_succ fun mem => silent (List.mem_cons_of_mem _ mem),
          first t (Nat.lt_succ_self t)] at reports
        cases reports
  unfold readyFrom?
  rw [List.min?_eq_some_iff]
  refine ⟨List.mem_filter.mpr ⟨news, by simp [reports]⟩, fun t ht => Nat.le_of_not_lt ?_⟩
  intro earlier
  simp [first t earlier] at ht

end Life

/-- A child that gets ready is waited for until it does. -/
theorem Session.waitReady_of_getsReady {b : Behaviour} {start : Instant} {program : String}
    {within : Duration} (h : b.GetsReady start within) :
    ∃ line, Session.waitReady program within { behaviour := b } =
      (.ok line, { behaviour := b, now := start }) := by
  obtain ⟨line, seen⟩ := Option.isSome_iff_exists.mp h.reports
  have found : (b []).readyFrom? 0 = some start := Life.readyFrom?_of_first h.reports h.first
  have now : ({ behaviour := b, now := start } : Session).observed.ready = some line := seen
  have life : Session.life { behaviour := b } = b [] := rfl
  refine ⟨line, ?_⟩
  simp only [waitReady, life, found, Option.filter_some, Nat.zero_add, decide_eq_true h.inTime]
  cases ends : (b []).exit with
  | none =>
      simp only [Bool.and_self, Bool.or_true, ite_true, Option.bind_some, now, Option.map_some]
  | some pair =>
      simp only [decide_eq_true (h.lives _ _ ends), Bool.and_self, Bool.or_true, ite_true,
        Option.bind_some, now, Option.map_some]

/-- A run whose child gets ready in time, where that is waited for, and is refused no signal. The
signals of the scenario are tried, an interval apart from the start on, up to one that finds nobody
in the group of the child. The child is then waited for, or the window in which it is not to end
begins. -/
theorem Controller.run_timeline {c : Controller} {scenario : Scenario} {b : Behaviour}
    {start : Instant} (able : c.capability.check scenario.required = .ok ())
    (launched : c.launch (c.arguments ++ scenario.arguments) = .ok b) (lets : b.Deliverable)
    (ready : scenario.waitForReady = true → b.GetsReady start c.readyTimeout)
    (atOnce : scenario.waitForReady = false → start = 0) :
    ∃ t after : Session,
      Scripted b start scenario.interval scenario.signals t ∧
      (c.run scenario).session = some after ∧
      ((∀ window, scenario.expect ≠ .survives window) →
        Awaited t start scenario.timeout c.graceBound scenario.expect (c.run scenario).result
          after) ∧
      ∀ window, scenario.expect = .survives window →
        Outlived t start window scenario.timeout c.graceBound scenario.expect
          (c.run scenario).result after := by
  obtain ⟨t, sent⟩ := deliverAll_of_deliverable (s := { behaviour := b, now := start }) lets rfl
    scenario.interval true scenario.signals
  have scripted := scripted_deliverAll sent
  have timely : t.Timely := timely_deliverAll (fun _ killed => by cases killed) sent
  have still : t.behaviour.Deliverable := scripted.behaviour ▸ lets
  have ran : c.run scenario = c.exercise scenario { behaviour := b, now := start } :=
    (run_of_spawn able launched).trans
      (drive_of_ready (fun waits => Session.waitReady_of_getsReady (ready waits))
        fun waits => by rw [atOnce waits])
  rw [ran, exercise_of_sent sent]
  refine ⟨t, _, scripted, rfl, fun ends => ?_, fun window expects => ?_⟩
  · rw [conclude_of_not_survives ends]
    exact Session.awaited_awaitExit still scripted.collected timely start _ _ _
  · exact outlived_conclude expects still scripted.collected timely start _

/-- A child that takes a request to reload for what it is, and some time to stop. -/
def patientChild : Script where
  output := "dvm: ready pid=5 control=none\n".toUTF8.toList
  answers := [(.hangup, [{}]),
    (.terminate, [{ sleep := .ofMillis 20, ending := some (.code 0) }])]

def patientTrial : Controller where
  program := "./fake-daemon"
  launch _ := .ok patientChild.life

/-- Two requests to reload, and a window after them. -/
def reloads : Scenario where
  name := "reloads"
  signals := [.hangup, .hangup]
  expect := .survives (.ofMillis 100)
  timeout := .ofMillis 1000

/-- The window begins with the second request, and the time that counts when it is over. -/
theorem Controller.run_timeline_of_survivor : ∃ (after : Session) (o : Outcome),
    (patientTrial.run reloads).session = some after ∧
    after.attempts = [(0, .hangup), (50000000, .hangup), (150000000, .terminate)] ∧
    (patientTrial.run reloads).result = .ok o ∧ o.graceful = true ∧
    o.elapsed = .ofMillis 20 := by
  have free : patientChild.life.Reachable := fun _ _ _ => rfl
  have ready : patientChild.life.GetsReady 0 patientTrial.readyTimeout := by
    refine ⟨by decide +kernel, fun t earlier => absurd earlier (Nat.not_lt_zero t), ?_,
      Nat.zero_le _⟩
    exact fun e _ _ => Nat.zero_le e
  obtain ⟨t, after, scripted, left, _, outlived⟩ :=
    @run_timeline patientTrial reloads patientChild.life 0 rfl rfl free.deliverable
      (fun _ => ready) (fun waits => by cases waits)
  have attempts : t.attempts = [(0, .hangup), (50000000, .hangup)] := by
    rw [scripted.tried.all free.grouped]
    decide +kernel
  have now : t.now = 50000000 := by
    rw [scripted.now, attempts]
    decide +kernel
  have heard : t.delivered = [(0, .hangup), (50000000, .hangup)] ∧ t.killed = none := by
    rw [scripted.told, scripted.killed, attempts]
    decide +kernel
  have lives : t.life = patientChild.life [(0, .hangup), (50000000, .hangup)] := by
    rw [Session.life_of_unhurt heard.2, scripted.behaviour, heard.1]
  have stays : t.life.exitedBy (t.now + (Duration.ofMillis 100).nanos) = false := by
    rw [lives, now]
    decide +kernel
  have told : (t.stopAfter (.ofMillis 100)).now = 150000000 := by
    change t.now + (Duration.ofMillis 100).nanos = 150000000
    rw [now]
    decide +kernel
  have ends : (t.stopAfter (.ofMillis 100)).life.exit = some (170000000, .code 0) := by
    have unhurt : (t.stopAfter (.ofMillis 100)).killed = none := heard.2
    rw [Session.life_of_unhurt unhurt]
    simp only [Session.stopAfter, Session.sleep, lives, scripted.behaviour, heard.1, now]
    decide +kernel
  obtain ⟨o, describes, passes, _, tries⟩ :=
    ((outlived (.ofMillis 100) rfl).stays stays).inTime _ _ ends (by rw [told]; decide +kernel)
  have elapsed : o.elapsed = .ofMillis 20 := by
    rw [describes.elapsed, told, now]
    decide +kernel
  have graceful : o.graceful = true :=
    describes.graceful.mpr ⟨describes.exitCode, by rw [elapsed]; decide +kernel⟩
  refine ⟨after, o, left, ?_, passes.mpr graceful, graceful, elapsed⟩
  have last : (t.stopAfter (.ofMillis 100)).attempts =
      t.attempts ++ [((t.stopAfter (.ofMillis 100)).now, .terminate)] := rfl
  rw [tries, last, attempts, told]
  rfl

/-- Such a child that is out of its group after 20 ms. -/
def strayTrial : Controller where
  program := "./fake-daemon"
  launch _ := .ok fun sent =>
    { patientChild.life sent with
      refuses := fun t _ => if 20000000 < t then some .noSuchProcess else none }

/-- It is told nothing after the first request, and so is killed in the end. -/
example : (strayTrial.run { reloads with signals := [.hangup, .hangup, .hangup] }).session.map
      Session.attempts =
    some [(0, .hangup), (50000000, .hangup), (150000000, .terminate), (1150000000, .kill)] := by
  decide +kernel

end Quiesce.Trial
