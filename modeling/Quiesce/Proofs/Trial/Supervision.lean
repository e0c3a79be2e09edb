import Quiesce.Trial.Controller

/-!
What a supervisor comes to, step by step, with a child whose exit nobody has collected yet. Such a
child is taken to be gone only if it has left the group that it was to lead: otherwise every signal
is delivered, unless the system refuses one, and the wait for the exit gives an outcome exactly if
the child ends in time after the last of them.
-/
namespace Quiesce

theorem Duration.nanos_between {start stop : Instant}
    (h : stop - start < 18446744073709551616000000000) :
    (Duration.between start stop).nanos = stop - start := by
  simp only [Duration.between, Duration.ofNanos?, dif_pos h, Option.getD_some]

theorem Duration.between_ofMillis (ms : UInt64) : between 0 (ofMillis ms).nanos = ofMillis ms := by
  simp only [between, Nat.sub_zero, ofNanos?, dif_pos (ofMillis ms).bounded, Option.getD_some]

namespace Trial

/-- A child that the system lets every signal through to. -/
def Behaviour.Reachable (b : Behaviour) : Prop := ∀ sent t k, (b sent).refuses t k = none

/-- A child that stays in the group that it leads. -/
def Behaviour.Grouped (b : Behaviour) : Prop :=
  ∀ sent t k, (b sent).refuses t k ≠ some .noSuchProcess

/-- A child that signals are not refused to, although they may find nobody in its group. -/
def Behaviour.Deliverable (b : Behaviour) : Prop :=
  ∀ sent t k cause, (b sent).refuses t k = some cause → cause = .noSuchProcess

namespace Behaviour.Reachable

variable {b : Behaviour}

theorem grouped (free : b.Reachable) : b.Grouped := by
  intro sent t k nobody
  rw [free sent t k] at nobody
  cases nobody

theorem deliverable (free : b.Reachable) : b.Deliverable := by
  intro sent t k cause refused
  rw [free sent t k] at refused
  cases refused

end Behaviour.Reachable

theorem Life.refuses_cutAt (l : Life) (t : Instant) : (l.cutAt t).refuses = l.refuses := by
  unfold cutAt
  split
  · split <;> rfl
  · rfl

namespace Session

variable {s t : Session} {k : Signal}

theorem refuses_life (s : Session) : s.life.refuses = (s.behaviour s.delivered).refuses := by
  unfold life
  split
  · exact Life.refuses_cutAt _ _
  · rfl

theorem signal_of_open (h : s.collected = none) (k : Signal) :
    (s.signal k).1 = .delivered ∧ (s.signal k).2.now = s.now ∧
      (s.signal k).2.collected = none ∧ (s.signal k).2.behaviour = s.behaviour := by
  simp only [signal, h, Option.isSome_none, Bool.false_eq_true, ite_false]
  split
  · exact ⟨rfl, rfl, rfl, rfl⟩
  · split <;> exact ⟨rfl, rfl, rfl, rfl⟩

/-- To try a signal is nothing that a child notices. -/
theorem life_attempts (s : Session) (attempts : List (Instant × Signal)) :
    life { s with attempts := attempts } = s.life := rfl

theorem not_collected (h : s.collected = none) : ¬ s.collected.isSome = true := by
  rw [h]
  exact Bool.false_ne_true

theorem signal_of_alive (h : s.collected = none) (alive : s.life.exitedBy s.now = false)
    (catchable : k ≠ .kill) :
    s.signal k = (.delivered, { s with
      attempts := s.attempts ++ [(s.now, k)]
      delivered := s.delivered ++ [(s.now, k)] }) := by
  have living : ¬ (life { s with attempts := s.attempts ++ [(s.now, k)] }).exitedBy
      s.now = true := by
    rw [life_attempts, alive]
    exact Bool.false_ne_true
  exact (if_neg (not_collected h)).trans ((if_neg living).trans (if_neg catchable))

theorem signal_kill (h : s.collected = none) (alive : s.life.exitedBy s.now = false) :
    s.signal .kill = (.delivered, { s with
      attempts := s.attempts ++ [(s.now, .kill)]
      killed := some s.now }) := by
  have living : ¬ (life { s with attempts := s.attempts ++ [(s.now, .kill)] }).exitedBy
      s.now = true := by
    rw [life_attempts, alive]
    exact Bool.false_ne_true
  exact (if_neg (not_collected h)).trans ((if_neg living).trans (if_pos rfl))

/-- A child that has ended takes no notice of a signal, and nobody is told. -/
theorem signal_of_gone (h : s.collected = none) (gone : s.life.exitedBy s.now = true) :
    s.signal k = (.delivered, { s with attempts := s.attempts ++ [(s.now, k)] }) :=
  (if_neg (not_collected h)).trans (if_pos gone)

/-- What comes of trying a signal is what the system says of the group of the child. -/
theorem deliver_of_open (h : s.collected = none) (k : Signal) :
    s.deliver k = match s.life.refuses s.now k with
      | some cause =>
        (if cause = .noSuchProcess then .ok .alreadyExited else .error (.delivery k cause),
          { s with attempts := s.attempts ++ [(s.now, k)] })
      | none => (.ok .delivered, (s.signal k).2) := by
  unfold deliver
  rw [h]
  simp only [Option.isSome_none, Bool.false_eq_true, ite_false]
  cases s.life.refuses s.now k with
  | some cause => simp only; split <;> rfl
  | none => simp only [(signal_of_open h k).1]

theorem deliver_of_reachable (free : s.behaviour.Reachable) (h : s.collected = none)
    (k : Signal) : s.deliver k = (.ok .delivered, (s.signal k).2) := by
  rw [deliver_of_open h, refuses_life, free]

theorem waitWithin_of_open (h : s.collected = none) (d : Duration) :
    s.waitWithin d = match s.life.exit with
      | some (t, exit) =>
        if t ≤ s.now + d.nanos then
          (some exit, { s with now := max s.now t, collected := some exit })
        else (none, s.sleep d)
      | none => (none, s.sleep d) := by
  simp only [waitWithin, h]
  cases s.life.exit <;> rfl

theorem waitWithin_of_exit (h : s.collected = none) {d : Duration} {e : Instant} {exit : Exit}
    (ends : s.life.exit = some (e, exit)) (inTime : e ≤ s.now + d.nanos) :
    s.waitWithin d = (some exit, { s with now := max s.now e, collected := some exit }) := by
  simp only [waitWithin_of_open h, ends, if_pos inTime]

/-- An exit that comes in time is classified by when it is noticed. -/
theorem awaitExit_of_exit (h : s.collected = none) {within : Duration} {e : Instant} {exit : Exit}
    (ends : s.life.exit = some (e, exit)) (inTime : e ≤ s.now + within.nanos) (started : Instant)
    (bound : Duration) : s.awaitExit within started bound =
      (.ok (.classify exit (.between started (max s.now e)) bound),
        { s with now := max s.now e, collected := some exit }) := by
  simp only [awaitExit, waitWithin_of_exit h ends inTime]

theorem awaitExit_eq_ok (h : s.collected = none) {within started bound} {o : Outcome}
    (got : (s.awaitExit within started bound).1 = .ok o) :
    ∃ e exit, s.life.exit = some (e, exit) ∧ e ≤ s.now + within.nanos ∧
      o = .classify exit (.between started (max s.now e)) bound := by
  cases ends : s.life.exit with
  | none => simp [awaitExit, waitWithin_of_open h, ends] at got
  | some pair =>
      obtain ⟨e, exit⟩ := pair
      by_cases inTime : e ≤ s.now + within.nanos
      · rw [awaitExit_of_exit h ends inTime] at got
        exact ⟨e, exit, rfl, inTime, (Except.ok.inj got).symm⟩
      · simp [awaitExit, waitWithin_of_open h, ends, inTime] at got

/-- A child that is ready at once is not waited for. -/
theorem waitReady_of_ready {program : String} {within : Duration} {ready : UInt32 × Option String}
    (h : s.observed.ready = some ready) :
    s.waitReady program within = (.ok ready, s) := by
  have first : s.life.readyFrom? s.now = some s.now := by
    unfold Life.readyFrom?
    rw [List.min?_eq_some_iff]
    refine ⟨?_, ?_⟩
    · simp only [List.mem_filter, List.mem_cons, true_or, true_and, Nat.le_refl, decide_true,
        Bool.true_and]
      exact Option.isSome_of_eq_some h
    · intro t ht
      simp only [List.mem_filter, Bool.and_eq_true, decide_eq_true_eq] at ht
      exact ht.2.1
  have same : { s with now := s.now } = s := rfl
  simp only [waitReady, first, Option.filter_some, decide_true, Bool.true_or, ite_true,
    Option.bind_some, h, Option.map_some]

/-- Where a child gets ready, nothing but time has passed. -/
theorem waitReady_eq_ok {program within ready}
    (got : s.waitReady program within = (.ok ready, t)) : ∃ now, t = { s with now := now } := by
  unfold waitReady at got
  simp only at got
  split at got
  · cases got
    exact ⟨_, rfl⟩
  · split at got <;> cases got

end Session

/-- All but a trial of survival wait for the exit at once. -/
theorem conclude_of_not_survives {bound : Duration} {scenario : Scenario} {started : Instant}
    {s : Session} (ends : ∀ window, scenario.expect ≠ .survives window) :
    conclude bound scenario started s =
      ((s.awaitExit scenario.timeout started bound).1.bind scenario.expect.verify,
        (s.awaitExit scenario.timeout started bound).2) := by
  unfold conclude
  split
  · rename_i window expects
    exact absurd expects (ends window)
  · rfl

/-- What a trial passes by, unless it is one of survival. -/
theorem conclude_eq_ok {bound : Duration} {scenario : Scenario} {started : Instant} {s : Session}
    {o : Outcome} (h : s.collected = none)
    (ends : ∀ window, scenario.expect ≠ .survives window)
    (got : (conclude bound scenario started s).1 = .ok o) :
    ∃ e exit, s.life.exit = some (e, exit) ∧ e ≤ s.now + scenario.timeout.nanos ∧
      o = .classify exit (.between started (max s.now e)) bound ∧
      scenario.expect.holds o = true := by
  rw [conclude_of_not_survives ends] at got
  cases awaited : (s.awaitExit scenario.timeout started bound).1 with
  | error fault =>
      rw [awaited] at got
      cases got
  | ok outcome =>
      rw [awaited] at got
      change scenario.expect.verify outcome = .ok o at got
      unfold Expectation.verify at got
      split at got
      · rename_i holds
        cases got
        obtain ⟨e, exit, exits, inTime, same⟩ := Session.awaitExit_eq_ok h awaited
        exact ⟨e, exit, exits, inTime, same, holds⟩
      · cases got

/-- A child that ends in time passes, if it ends as expected. -/
theorem conclude_of_exit {bound : Duration} {scenario : Scenario} {started : Instant} {s : Session}
    (h : s.collected = none) (ends : ∀ window, scenario.expect ≠ .survives window)
    {e : Instant} {exit : Exit} (exits : s.life.exit = some (e, exit))
    (inTime : e ≤ s.now + scenario.timeout.nanos)
    (holds : scenario.expect.holds
      (.classify exit (.between started (max s.now e)) bound) = true) :
    (conclude bound scenario started s).1 =
      .ok (.classify exit (.between started (max s.now e)) bound) := by
  rw [conclude_of_not_survives ends, Session.awaitExit_of_exit h exits inTime]
  exact if_pos holds

namespace Controller

variable {c : Controller} {scenario : Scenario}

/-- A child that does not get ready is sent nothing; any other one is as it was. -/
theorem drive_cases (c : Controller) (scenario : Scenario) (s : Session) :
    (∃ fault t, s.waitReady c.program c.readyTimeout = (.error fault, t) ∧
      c.drive scenario s = ⟨.error fault, some t⟩) ∨
    ∃ now, c.drive scenario s = c.exercise scenario { s with now := now } := by
  unfold drive
  by_cases waits : scenario.waitForReady = true
  · rcases ready : s.waitReady c.program c.readyTimeout with ⟨fault | line, t⟩
    · exact .inl ⟨fault, t, rfl, by simp only [waits, ite_true]; rfl⟩
    · obtain ⟨now, rfl⟩ := Session.waitReady_eq_ok ready
      exact .inr ⟨now, by simp only [waits, ite_true]; rfl⟩
  · exact .inr ⟨s.now, by simp only [waits]; rfl⟩

theorem exercise_of_sent {s t : Session}
    (sent : deliverAll scenario.interval true scenario.signals s = (.ok (), t)) :
    c.exercise scenario s = ⟨(conclude c.graceBound scenario s.now t).1,
      some (conclude c.graceBound scenario s.now t).2⟩ := by
  simp only [exercise, sent]

theorem drive_of_ready {s t : Session}
    (ready : scenario.waitForReady = true →
      ∃ line, s.waitReady c.program c.readyTimeout = (.ok line, t))
    (atOnce : scenario.waitForReady = false → t = s) :
    c.drive scenario s = c.exercise scenario t := by
  unfold drive
  cases waits : scenario.waitForReady with
  | true =>
      obtain ⟨line, got⟩ := ready waits
      simp only [ite_true, got]
      rfl
  | false =>
      rw [atOnce waits]
      rfl

theorem run_of_spawn {b : Behaviour} (able : c.capability.check scenario.required = .ok ())
    (launched : c.launch (c.arguments ++ scenario.arguments) = .ok b) :
    c.run scenario = c.drive scenario { behaviour := b } := by
  simp only [run, able, spawn, launched]

/-- A run with a child that can be launched, is ready at once, if that is waited for, and is sent
all signals. -/
theorem run_of_launch {b : Behaviour} {t : Session}
    (able : c.capability.check scenario.required = .ok ())
    (launched : c.launch (c.arguments ++ scenario.arguments) = .ok b)
    (ready : scenario.waitForReady = true → ∃ line, ((b []).observedBy 0).ready = some line)
    (sent : deliverAll scenario.interval true scenario.signals { behaviour := b } = (.ok (), t)) :
    (c.run scenario).result = (conclude c.graceBound scenario 0 t).1 := by
  have readied (waits : scenario.waitForReady = true) : ∃ line,
      Session.waitReady c.program c.readyTimeout { behaviour := b } =
        (.ok line, { behaviour := b }) := by
    obtain ⟨line, seen⟩ := ready waits
    exact ⟨line, Session.waitReady_of_ready seen⟩
  rw [run_of_spawn able launched, drive_of_ready readied fun _ => rfl, exercise_of_sent sent]

/-- A run that passes has launched a child, and if it was to be waited for, that got ready; then
it was sent all signals. -/
theorem run_eq_ok {o : Outcome} (got : (c.run scenario).result = .ok o) :
    ∃ b start t, c.launch (c.arguments ++ scenario.arguments) = .ok b ∧
      deliverAll scenario.interval true scenario.signals { behaviour := b, now := start } =
        (.ok (), t) ∧
      (conclude c.graceBound scenario start t).1 = .ok o := by
  unfold run at got
  split at got
  · cases got
  · cases launched : c.launch (c.arguments ++ scenario.arguments) with
    | error cause =>
        simp only [spawn, launched] at got
        cases got
    | ok b =>
        simp only [spawn, launched] at got
        rcases c.drive_cases scenario { behaviour := b } with ⟨fault, t, _, driven⟩ | ⟨now, driven⟩
        · rw [driven] at got
          cases got
        · rw [driven] at got
          unfold exercise at got
          split at got
          · cases got
          · rename_i t sent
            exact ⟨b, now, t, rfl, sent, got⟩

end Controller

end Trial

end Quiesce
