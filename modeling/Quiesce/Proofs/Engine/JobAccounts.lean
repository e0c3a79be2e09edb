import Quiesce.Proofs.Engine.GracefulStop

/-!
Every job that is handed in is counted once, as taken on or as refused, and each one taken on is
counted again when it is done. What becomes of it is settled by two questions in this order: whether
it is too long for the limit in force, and whether the daemon is ready. Nothing else that happens
around the daemon touches the two counts of what was handed in.
-/
namespace Quiesce

namespace Engine

variable {D : Type}

/-- What handing in a job can come to: the answer, and what is left behind by it. -/
theorem submit_cases (e : Engine D) (d : Duration) :
    (e.pool.settings.jobLimit.nanos < d.nanos ∧
      e.submit d = (.error (.tooLong d.millisWord e.pool.settings.jobLimit.millisWord),
        { e with pool := { e.pool with rejected := e.pool.rejected + 1 } })) ∨
    (d.nanos ≤ e.pool.settings.jobLimit.nanos ∧ e.stage ≠ .ready ∧
      e.submit d = (.error (.notAccepting e.stage),
        { e with pool := { e.pool with rejected := e.pool.rejected + 1 } })) ∨
    (d.nanos ≤ e.pool.settings.jobLimit.nanos ∧ e.stage = .ready ∧
      e.submit d = (.ok d, { e with
        pool := { e.pool with accepted := e.pool.accepted + 1 }
        tasks := e.tasks ++ [⟨.job, Clock.wake e.now d⟩] })) := by
  by_cases long : e.pool.settings.jobLimit.nanos < d.nanos
  · exact .inl ⟨long, by simp [submit, Pool.refusal?, long]⟩
  · have fits := Nat.le_of_not_lt long
    by_cases ready : e.stage = .ready
    · exact .inr (.inr ⟨fits, ready,
        by simp [submit, Pool.refusal?, long, Stage.acceptsWork, ready, track]⟩)
    · exact .inr (.inl ⟨fits, ready,
        by simp [submit, Pool.refusal?, long, Stage.acceptsWork, ready]⟩)

theorem submit_eq_tooLong_iff {e : Engine D} {d : Duration} {requested most : UInt64} :
    (e.submit d).1 = .error (.tooLong requested most) ↔
      e.pool.settings.jobLimit.nanos < d.nanos ∧ requested = d.millisWord ∧
        most = e.pool.settings.jobLimit.millisWord := by
  obtain ⟨long, answer⟩ | ⟨fits, _, answer⟩ | ⟨fits, _, answer⟩ := e.submit_cases d
  · simp [answer, long, eq_comm]
  all_goals simp [answer, Nat.not_lt.mpr fits]

theorem submit_eq_notAccepting_iff {e : Engine D} {d : Duration} {stage : Stage} :
    (e.submit d).1 = .error (.notAccepting stage) ↔
      d.nanos ≤ e.pool.settings.jobLimit.nanos ∧ e.stage ≠ .ready ∧ stage = e.stage := by
  obtain ⟨long, answer⟩ | ⟨fits, unready, answer⟩ | ⟨_, ready, answer⟩ := e.submit_cases d
  · simp [answer, Nat.not_le.mpr long]
  · simp [answer, fits, unready, eq_comm]
  · simp [answer, ready]

theorem submit_eq_ok_iff {e : Engine D} {d taken : Duration} :
    (e.submit d).1 = .ok taken ↔
      d.nanos ≤ e.pool.settings.jobLimit.nanos ∧ e.stage = .ready ∧ taken = d := by
  obtain ⟨long, answer⟩ | ⟨_, unready, answer⟩ | ⟨fits, ready, answer⟩ := e.submit_cases d
  · simp [answer, Nat.not_le.mpr long]
  · simp [answer, unready]
  · simp [answer, fits, ready, eq_comm]

/-- A job that is taken on becomes a task, and one that is refused does not. -/
theorem submit_tasks (e : Engine D) (d : Duration) :
    (e.submit d).2.tasks = e.tasks ++
      if (e.submit d).1.isOk then [⟨.job, Clock.wake e.now d⟩] else [] := by
  obtain ⟨_, answer⟩ | ⟨_, _, answer⟩ | ⟨_, _, answer⟩ := e.submit_cases d <;>
    simp [answer, Except.isOk, Except.toBool]

end Engine

namespace Pool

/-- All jobs that were handed in, whatever became of them. -/
def asked (p : Pool) : Nat := p.accepted + p.rejected

theorem asked_apply (p : Pool) (update : WorkloadSettings) :
    (p.apply update).2.asked = p.asked := by
  unfold apply
  split <;> rfl

theorem asked_record (p : Pool) (w : Work) : (p.record w).asked = p.asked := by
  cases w <;> rfl

end Pool

theorem Engine.asked_enter {D : Type} (e : Engine D) (x : Entry) :
    (e.enter x).2.pool.asked = e.pool.asked + x.isJob.toNat := by
  cases x with
  | worker =>
      simp only [enter, launchWorker]
      split <;> rfl
  | job d =>
      obtain ⟨_, answer⟩ | ⟨_, _, answer⟩ | ⟨_, _, answer⟩ := e.submit_cases d
      all_goals
        simp only [enter, answer, Pool.asked, Entry.isJob, Bool.toNat_true]
        omega
  | errand d =>
      simp only [enter, admitErrand]
      split <;> rfl
  | lasting d =>
      simp only [enter, admitLastingErrand]
      split <;> rfl

/-- Whether a job is handed in by this move. -/
def Move.handsIn {D : Type} : Move D → Bool
  | .enter x => x.isJob
  | .handIn _ => true
  | _ => false

/-- Whether a call is still to count its job, as taken on or as refused. -/
def Call.isUncounted : Call → Bool
  | refused _ | answered _ _ => false
  | _ => true

namespace Scene

variable {D : Type} {s t : Scene D} {m : Move D}

def uncounted (s : Scene D) : Nat := s.calls.countP Call.isUncounted

/-- Nobody else touches calls under way, or the counts of jobs handed in. -/
theorem asked_of_aside (h : s.move? m = some t) (others : m.isWork = false) :
    t.calls = s.calls ∧ t.engine.pool.asked = s.engine.pool.asked := by
  cases m with
  | enter _ | takeIn _ | handIn _ | proceed _ | fire _ => cases others
  | markReady | signal _ | hangUp | pass _ => cases h; exact ⟨rfl, rfl⟩
  | apply update => cases h; exact ⟨rfl, s.engine.pool.asked_apply update⟩
  | send k =>
      cases h
      obtain ⟨inbox, sent⟩ := s.engine.send_eq k
      exact ⟨rfl, by rw [sent]⟩
  | beginRun =>
      obtain ⟨granted, rfl⟩ := begin?_eq_some h
      exact ⟨rfl, by rw [(Engine.beginRun_granted granted).2]⟩
  | beginDrain =>
      obtain ⟨granted, rfl⟩ := begin?_eq_some h
      obtain ⟨runner, entered, _⟩ := s.engine.enterDrain_eq
      exact ⟨rfl, by rw [(Engine.beginDrain_granted granted).2, entered]⟩
  | discard =>
      obtain ⟨_, k, rest, _, rfl⟩ := discard?_eq_some h
      exact ⟨rfl, rfl⟩
  | elsewhere idle =>
      obtain ⟨_, rfl⟩ := elsewhere?_eq_some h
      exact ⟨rfl, rfl⟩
  | take =>
      obtain ⟨_, _, k, rest, _, rfl⟩ := take?_eq_some h
      exact ⟨rfl, rfl⟩
  | answer =>
      obtain ⟨k, _, rfl⟩ := answer?_eq_some h
      exact ⟨rfl, rfl⟩
  | act =>
      obtain ⟨k, r, _, ⟨_, _, rfl⟩ | ⟨_, _, rfl⟩ | ⟨_, rfl⟩ | rfl⟩ := act?_eq_some h
      · obtain ⟨runner, entered, _⟩ := s.engine.enterDrain_eq
        exact ⟨rfl, by rw [entered]⟩
      all_goals exact ⟨rfl, rfl⟩
  | served desk update =>
      obtain ⟨_, rfl⟩ := served_eq_some h
      cases update with
      | none => exact ⟨rfl, rfl⟩
      | some update => exact ⟨rfl, s.engine.pool.asked_apply update⟩
  | brokeOff cause =>
      obtain ⟨_, rfl⟩ := brokeOff_eq_some h
      exact ⟨rfl, rfl⟩
  | hearClosed =>
      obtain ⟨_, _, _, ⟨_, rfl⟩ | ⟨deadline, _, rfl⟩⟩ := hearClosed?_eq_some h
      all_goals exact ⟨rfl, rfl⟩
  | seeIdle =>
      obtain ⟨_, _, _, rfl⟩ := seeIdle?_eq_some h
      exact ⟨rfl, rfl⟩
  | seeLate =>
      obtain ⟨_, _, rfl⟩ := seeLate?_eq_some h
      exact ⟨rfl, rfl⟩
  | finish =>
      obtain ⟨_, rfl⟩ | ⟨_, rfl⟩ := finish?_eq_some h
      all_goals exact ⟨rfl, rfl⟩

/-- A step of a call adds a task exactly if the call is let in by it, and to the counts as much as
the call counts by it. -/
theorem asked_of_proceed? {j : Nat} (h : s.proceed? j = some t) :
    t.engine.tasks = s.engine.tasks ++
        (if t.calls[j]?.any Call.isAdmitted then [⟨.job, s.engine.now⟩] else []) ∧
      t.engine.pool.asked + t.uncounted = s.engine.pool.asked + s.uncounted := by
  obtain ⟨call, u, next, here, stepped, rfl⟩ := proceed?_eq_some h
  obtain ⟨inside, _⟩ := List.getElem?_eq_some_iff.mp here
  have counted := Ledger.countP_set_add here next Call.isUncounted
  have entry (us : List Call) (same : us = s.calls) : (us.set j next)[j]? = some next := by
    rw [same, List.getElem?_set_self inside]
  cases call with
  | sized time | fitting time =>
      simp only [step?] at stepped
      split_ifs at stepped <;> cases stepped
      all_goals exact ⟨by simp [takeIn, entry _ rfl, Call.isAdmitted, Engine.track, Entry.work],
        congrArg (s.engine.pool.asked + ·) (Nat.add_right_cancel counted)⟩
  | unsized | refused time =>
      cases stepped
      exact ⟨by simp [entry _ rfl, Call.isAdmitted],
        congrArg (s.engine.pool.asked + ·) (Nat.add_right_cancel counted)⟩
  | admitted time | tooLong time most | turnedAway time =>
      cases stepped
      refine ⟨by simp [withPool, entry _ rfl, Call.isAdmitted], ?_⟩
      have once : (s.calls.set j _).countP Call.isUncounted + 1 =
          s.calls.countP Call.isUncounted := counted
      simp only [withPool, uncounted, Pool.asked]
      omega
  | answered time answer => cases stepped

theorem asked_of_move? (h : s.move? m = some t) :
    t.engine.pool.asked + t.uncounted =
      s.engine.pool.asked + s.uncounted + m.handsIn.toNat := by
  cases work : m.isWork with
  | false =>
      obtain ⟨calls, asked⟩ := asked_of_aside h work
      have nobody : m.handsIn = false := by cases m <;> first | rfl | cases work
      rw [uncounted, calls, asked, nobody]
      rfl
  | true =>
      cases m with
      | enter x =>
          cases h
          have entered := s.engine.asked_enter x
          simp only [uncounted, enter, Move.handsIn] at entered ⊢
          omega
      | takeIn x =>
          obtain ⟨_, ⟨_, rfl⟩ | ⟨_, rfl⟩⟩ := takeIn?_eq_some h <;> rfl
      | handIn time =>
          cases h
          cases time <;> simp [uncounted, Call.isUncounted, Move.handsIn, Nat.add_assoc]
      | proceed j => exact (asked_of_proceed? h).2
      | fire i =>
          obtain ⟨newcomer, _, rfl⟩ | ⟨_, e, fired, rfl⟩ := fire?_eq_some h
          · rfl
          · obtain ⟨task, _, _, ⟨next, _, _, _, rfl⟩ | rfl⟩ := Engine.fire_eq_some fired
            all_goals exact congrArg (· + s.uncounted) (s.engine.pool.asked_record task.work)
      | _ => cases work

/-- Over a whole run, as many jobs are counted, or about to be, as were handed in. -/
theorem asked_of_run {ms : List (Move D)} (h : s.run ms = some t) :
    t.engine.pool.asked + t.uncounted =
      s.engine.pool.asked + s.uncounted + ms.countP Move.handsIn := by
  induction ms generalizing s with
  | nil => cases h; rfl
  | cons m ms ih =>
      obtain ⟨u, moved, rest⟩ := Option.bind_eq_some_iff.mp h
      rw [ih rest, asked_of_move? moved, List.countP_cons]
      cases m.handsIn with
      | false => simp
      | true =>
          simp only [Bool.toNat_true, ite_true]
          omega

/-- The jobs let in are those done and those at work, and so the latter are the ones pending once
every job let in is counted. -/
theorem Sound.pending (hs : s.Sound) :
    s.engine.pool.accepted + s.calls.countP Call.isAdmitted =
        s.engine.pool.completed + s.engine.tasks.countP Task.isJob ∧
      ((∀ time, .admitted time ∉ s.calls) →
        s.engine.pool.completed ≤ s.engine.pool.accepted ∧
        s.engine.pool.pending = s.engine.tasks.countP Task.isJob) := by
  have jobs : s.engine.pool.accepted + s.calls.countP Call.isAdmitted =
      s.engine.pool.completed + s.engine.tasks.countP Task.isJob := hs.balanced.jobs
  refine ⟨jobs, ?_⟩
  intro counted
  rw [Call.countP_isAdmitted_eq_zero.mpr counted] at jobs
  rw [Pool.pending]
  omega

end Scene

end Quiesce
