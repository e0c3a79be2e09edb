import Quiesce.Proofs.Engine.JobAccounts
import Quiesce.Proofs.Engine.SignalAccounts
import Quiesce.Proofs.Engine.Workforce

/-!
Calls that hand in jobs, step by step. What becomes of a job is told by the scenes in which its call
took its steps, and by nothing that happened in between: the limit is the one in force at the first
step, the gate is asked at the second, and a stage that is told of is that at the last. A call whose
length is left to the settings has read the unit before. Where nobody comes in between, the steps
make up the whole call again, as they do for work of other kinds that is let in and has its first
turn.
-/
namespace Quiesce

theorem Engine.enter_of_not_isJob {D : Type} (e : Engine D) {x : Entry} (other : x.isJob = false) :
    e.enter x = if e.opensFor x then
      (true, e.track ⟨x.work, Clock.wake e.now (x.time e.pool.settings)⟩) else (false, e) := by
  cases x with
  | job _ => cases other
  | worker | errand _ | lasting _ => rfl

namespace Scene

variable {D : Type} {s t : Scene D} {m : Move D} {past : List (Scene D × Move D)}

/-- Work that has just been let in is the last in flight, and its first turn sets its timer. -/
theorem fire?_takeIn (sound : s.Sound) (awaited : s.Awaited) (x : Entry) (calls : List Call) :
    fire? { s.takeIn x with calls := calls } s.engine.tasks.length = some { s with
      engine := s.engine.track ⟨x.work, Clock.wake s.engine.now (x.time s.engine.pool.settings)⟩
      register := s.register.enroll
      calls := calls } := by
  have length : s.register.live.length = s.engine.tasks.length := sound.balanced.length
  have before : ∀ p ∈ s.newcomers, p.1 ≠ s.register.begun := by
    rintro ⟨n, y⟩ inside
    obtain ⟨task, doing, _⟩ := awaited n y inside
    exact Nat.ne_of_lt (sound.lt_begun doing)
  have others : s.newcomers.find? (·.1 = s.register.begun) = none := by
    simpa [List.find?_eq_none] using before
  have new : newcomer? { s.takeIn x with calls := calls } s.engine.tasks.length =
      some (s.register.begun, x) := by
    simp [newcomer?, takeIn, Register.enroll, ← length, others]
  have left : (s.newcomers ++ [(s.register.begun, x)]).filter (·.1 ≠ s.register.begun) =
      s.newcomers := by
    rw [List.filter_append, List.filter_eq_self.mpr (by simpa using before)]
    simp
  have turned (u : Task) (f : Task → Task) :
      (s.engine.tasks ++ [u]).modify s.engine.tasks.length f = s.engine.tasks ++ [f u] := by
    simp [List.modify_eq_set_getElem?]
  rw [fire?_of_newcomer new]
  simp only [firstTurn, takeIn, Engine.track, turned, left]

/-- To be let in, with the first turn to follow, is to be let in with the first turn. -/
theorem run_takeIn (sound : s.Sound) (awaited : s.Awaited) {x : Entry} (other : x.isJob = false) :
    ∃ ms, s.run (.takeIn x :: ms) = some (s.enter x) := by
  have entered := s.engine.enter_of_not_isJob other
  cases opens : s.engine.opensFor x with
  | true =>
      have letIn : s.move? (.takeIn x) = some (s.takeIn x) := by simp [move?, takeIn?, other, opens]
      have turned : s.enter x = { s with
          engine := s.engine.track
            ⟨x.work, Clock.wake s.engine.now (x.time s.engine.pool.settings)⟩
          register := s.register.enroll } := by
        simp [enter, entered, opens]
      rw [turned]
      exact ⟨[.fire s.engine.tasks.length],
        run_cons letIn (run_cons (fire?_takeIn sound awaited x s.calls) rfl)⟩
  | false =>
      have refused : s.move? (.takeIn x) = some s := by simp [move?, takeIn?, other, opens]
      have same : s.enter x = s := by simp [enter, entered, opens]
      rw [same]
      exact ⟨[], run_cons refused rfl⟩

/-- The call that was begun last takes a step. -/
theorem move?_of_last {u : Scene D} {calls : List Call} {call next : Call}
    (last : s.calls = calls ++ [call]) (stepped : s.step? call = some (u, next))
    (same : u.calls = s.calls) :
    s.move? (.proceed calls.length) = some { u with calls := calls ++ [next] } := by
  simp [move?, proceed?, stepped, same, last]

/-- The steps of a call, with nobody in between, are handing the job in at once. -/
theorem run_handIn (sound : s.Sound) (awaited : s.Awaited) (d : Duration) :
    ∃ ms, s.run (.handIn (some d) :: ms) = some { s.enter (.job d) with
      calls := s.calls ++ [.answered d (s.engine.submit d).1] } := by
  have begun : s.move? (.handIn (some d)) = some { s with calls := s.calls ++ [.sized d] } := rfl
  obtain ⟨long, handedIn⟩ | ⟨fits, unready, handedIn⟩ | ⟨fits, ready, handedIn⟩ :=
    s.engine.submit_cases d
  · have read (t : Scene D) (same : t.engine = s.engine) :
        t.step? (.sized d) = some (t, .tooLong d t.engine.pool.settings.jobLimit) := by
      rw [step?, same, if_pos long]
    simp only [enter, Engine.enter, handedIn]
    exact ⟨List.replicate 2 (.proceed s.calls.length), run_cons begun
      (run_cons (move?_of_last rfl (read _ rfl) rfl) (run_cons (move?_of_last rfl rfl rfl) rfl))⟩
  · have read (t : Scene D) (same : t.engine = s.engine) :
        t.step? (.sized d) = some (t, .fitting d) := by
      rw [step?, same, if_neg (Nat.not_lt.mpr fits)]
    have asked (t : Scene D) (same : t.engine = s.engine) :
        t.step? (.fitting d) = some (t, .turnedAway d) := by
      have closed : s.engine.opensFor (.job d) = false := by
        rw [← Bool.not_eq_true]
        exact mt (Engine.admits_iff s.engine.core).mp unready
      rw [step?, same, if_neg (by simp [closed])]
    simp only [enter, Engine.enter, handedIn]
    exact ⟨List.replicate 4 (.proceed s.calls.length), run_cons begun
      (run_cons (move?_of_last rfl (read _ rfl) rfl)
        (run_cons (move?_of_last rfl (asked _ rfl) rfl)
          (run_cons (move?_of_last rfl rfl rfl) (run_cons (move?_of_last rfl rfl rfl) rfl))))⟩
  · have read (t : Scene D) (same : t.engine = s.engine) :
        t.step? (.sized d) = some (t, .fitting d) := by
      rw [step?, same, if_neg (Nat.not_lt.mpr fits)]
    have asked (t : Scene D) (same : t.engine = s.engine) :
        t.step? (.fitting d) = some (t.takeIn (.job d), .admitted d) := by
      have opens : s.engine.opensFor (.job d) = true := (Engine.admits_iff s.engine.core).mpr ready
      rw [step?, same, if_pos opens]
    have turn := fire?_takeIn sound awaited (.job d) (s.calls ++ [.admitted d])
    simp only [enter, Engine.enter, handedIn]
    exact ⟨[.proceed s.calls.length, .proceed s.calls.length, .fire s.engine.tasks.length,
      .proceed s.calls.length], run_cons begun (run_cons (move?_of_last rfl (read _ rfl) rfl)
        (run_cons (move?_of_last rfl (asked _ rfl) rfl)
          (run_cons turn (run_cons (move?_of_last rfl rfl rfl) rfl))))⟩

/-! ### What the steps of a call come to -/

/-- The scenes in which the call at a position took its steps. -/
def stepsOf (j : Nat) (past : List (Scene D × Move D)) : List (Scene D) :=
  past.filterMap fun (s, m) =>
    match m with
    | .proceed k => if k = j then some s else none
    | _ => none

/-- The lengths of the jobs that calls were begun for, none where it is left to the settings. -/
def handedIn (past : List (Scene D × Move D)) : List (Option Duration) :=
  past.filterMap fun (_, m) =>
    match m with
    | .handIn time => some time
    | _ => none

theorem stepsOf_concat (j : Nat) (past : List (Scene D × Move D)) (s : Scene D) (m : Move D) :
    stepsOf j (past ++ [(s, m)]) = stepsOf j past ++ stepsOf j [(s, m)] :=
  List.filterMap_append

theorem handedIn_concat (past : List (Scene D × Move D)) (s : Scene D) (m : Move D) :
    handedIn (past ++ [(s, m)]) = handedIn past ++ handedIn [(s, m)] :=
  List.filterMap_append

/-- The longest job that is taken on by the settings in force. -/
def limit (s : Scene D) : Duration := s.engine.pool.settings.jobLimit

/-- What a call for a job of that length has come to by the scenes in which it took its steps. -/
inductive Judged (d : Duration) : List (Scene D) → Call → Prop where
  | sized : Judged d [] (.sized d)
  | fitting (read : Scene D) (fits : d.nanos ≤ read.limit.nanos) : Judged d [read] (.fitting d)
  | tooLong (read : Scene D) (long : read.limit.nanos < d.nanos) :
      Judged d [read] (.tooLong d read.limit)
  | long (read count : Scene D) (long : read.limit.nanos < d.nanos) :
      Judged d [read, count] (.answered d (.error (.tooLong d.millisWord read.limit.millisWord)))
  | admitted (read gate : Scene D) (fits : d.nanos ≤ read.limit.nanos)
      (ready : gate.engine.stage = .ready) : Judged d [read, gate] (.admitted d)
  | taken (read gate count : Scene D) (fits : d.nanos ≤ read.limit.nanos)
      (ready : gate.engine.stage = .ready) : Judged d [read, gate, count] (.answered d (.ok d))
  | turnedAway (read gate : Scene D) (fits : d.nanos ≤ read.limit.nanos)
      (unready : gate.engine.stage ≠ .ready) : Judged d [read, gate] (.turnedAway d)
  | refused (read gate count : Scene D) (fits : d.nanos ≤ read.limit.nanos)
      (unready : gate.engine.stage ≠ .ready) : Judged d [read, gate, count] (.refused d)
  | told (read gate count last : Scene D) (fits : d.nanos ≤ read.limit.nanos)
      (unready : gate.engine.stage ≠ .ready) :
      Judged d [read, gate, count, last]
        (.answered d (.error (.notAccepting last.engine.stage)))

theorem Judged.step {d : Duration} {us : List (Scene D)} {call next : Call}
    (h : Judged d us call) (stepped : s.step? call = some (t, next)) :
    Judged d (us ++ [s]) next := by
  cases h with
  | sized =>
      simp only [step?] at stepped
      split_ifs at stepped with long <;> cases stepped
      · exact .tooLong s long
      · exact .fitting s (Nat.le_of_not_lt long)
  | fitting read fits =>
      have gate : s.engine.opensFor (.job d) = true ↔ s.engine.stage = .ready :=
        Engine.admits_iff s.engine.core
      simp only [step?] at stepped
      split_ifs at stepped with opens <;> cases stepped
      · exact .admitted read s fits (gate.mp opens)
      · exact .turnedAway read s fits (mt gate.mpr opens)
  | tooLong read long => cases stepped; exact .long read s long
  | admitted read gate fits ready => cases stepped; exact .taken read gate s fits ready
  | turnedAway read gate fits unready => cases stepped; exact .refused read gate s fits unready
  | refused read gate count fits unready =>
      cases stepped
      exact .told read gate count s fits unready
  | long | taken | told => cases stepped

/-- The answer of a call tells of the limit at its first step, the gate at its second, and the stage
at its last. -/
theorem Judged.answer {d time : Duration} {us : List (Scene D)} {answer : Except JobFault Duration}
    (h : Judged d us (.answered time answer)) :
    time = d ∧ ∃ read gate last, us[0]? = some read ∧ us[1]? = some gate ∧
      us.getLast? = some last ∧
      (∀ requested most, answer = .error (.tooLong requested most) ↔
        read.limit.nanos < d.nanos ∧ requested = d.millisWord ∧ most = read.limit.millisWord) ∧
      (∀ stage, answer = .error (.notAccepting stage) ↔
        d.nanos ≤ read.limit.nanos ∧ gate.engine.stage ≠ .ready ∧ stage = last.engine.stage) ∧
      ∀ taken, answer = .ok taken ↔
        d.nanos ≤ read.limit.nanos ∧ gate.engine.stage = .ready ∧ taken = d := by
  cases h with
  | long read count long =>
      refine ⟨rfl, read, count, count, rfl, rfl, rfl, ?_⟩
      simp [long, Nat.not_le.mpr long, eq_comm]
  | taken read gate count fits ready =>
      refine ⟨rfl, read, gate, count, rfl, rfl, rfl, ?_⟩
      simp [fits, Nat.not_lt.mpr fits, ready, eq_comm]
  | told read gate count last fits unready =>
      refine ⟨rfl, read, gate, last, rfl, rfl, rfl, ?_⟩
      simp [fits, Nat.not_lt.mpr fits, unready, eq_comm]

/-- What a call has come to, whose length was given or is left to the settings. -/
def Followed : Option Duration → List (Scene D) → Call → Prop
  | some d, us, call => Judged d us call
  | none, [], call => call = .unsized
  | none, u :: us, call => Judged u.engine.pool.settings.unit us call

theorem Followed.step {given : Option Duration} {us : List (Scene D)} {call next : Call}
    (h : Followed given us call) (stepped : s.step? call = some (t, next)) :
    Followed given (us ++ [s]) next := by
  cases given with
  | some d => exact Judged.step h stepped
  | none =>
      cases us with
      | nil =>
          cases h
          cases stepped
          exact .sized
      | cons u us => exact Judged.step h stepped

/-- All calls have come to what their steps make of them. -/
structure Traced (s : Scene D) (past : List (Scene D × Move D)) : Prop where
  length : s.calls.length = (handedIn past).length
  unseen : ∀ j, s.calls.length ≤ j → stepsOf j past = []
  followed : ∀ j given call, (handedIn past)[j]? = some given → s.calls[j]? = some call →
    Followed given (stepsOf j past) call

theorem Traced.keep (hs : s.Traced past) (calls : t.calls = s.calls)
    (nobody : handedIn [(s, m)] = []) (still : ∀ j, stepsOf j [(s, m)] = []) :
    t.Traced (past ++ [(s, m)]) := by
  refine ⟨?_, ?_, ?_⟩
  · rw [calls, handedIn_concat, nobody, List.append_nil, hs.length]
  · intro j beyond
    rw [stepsOf_concat, still, List.append_nil, hs.unseen j (calls ▸ beyond)]
  · intro j given call asked here
    rw [handedIn_concat, nobody, List.append_nil] at asked
    rw [stepsOf_concat, still, List.append_nil]
    exact hs.followed j given call asked (calls ▸ here)

theorem Traced.handIn (hs : s.Traced past) (time : Option Duration)
    (calls : t.calls = s.calls ++ [time.elim .unsized .sized]) :
    t.Traced (past ++ [(s, .handIn time)]) := by
  have still (j : Nat) : stepsOf j (past ++ [(s, .handIn time)]) = stepsOf j past := by
    rw [stepsOf_concat]
    exact List.append_nil _
  have asks : handedIn (past ++ [(s, .handIn time)]) = handedIn past ++ [time] :=
    handedIn_concat past s _
  refine ⟨?_, ?_, ?_⟩
  · rw [calls, asks, List.length_append, List.length_append, hs.length]
    rfl
  · intro j beyond
    rw [calls, List.length_append] at beyond
    rw [still, hs.unseen j (Nat.le_of_succ_le beyond)]
  · intro j given call asked here
    rw [asks] at asked
    rw [calls] at here
    rw [still]
    rcases Nat.lt_or_ge j s.calls.length with old | new
    · rw [List.getElem?_append_left old] at here
      rw [List.getElem?_append_left (hs.length ▸ old)] at asked
      exact hs.followed j given call asked here
    · -- The call that was just begun has taken no step yet.
      rw [List.getElem?_append_right (hs.length ▸ new)] at asked
      rw [List.getElem?_append_right new] at here
      rw [List.mem_singleton.mp (List.mem_of_getElem? asked),
        List.mem_singleton.mp (List.mem_of_getElem? here), hs.unseen j new]
      cases time with
      | none => rfl
      | some d => exact .sized

theorem Traced.proceed (hs : s.Traced past) {j : Nat} (h : s.proceed? j = some t) :
    t.Traced (past ++ [(s, .proceed j)]) := by
  obtain ⟨call, u, next, here, stepped, rfl⟩ := proceed?_eq_some h
  have calls : u.calls = s.calls := by
    cases call with
    | sized time | fitting time =>
        simp only [step?] at stepped
        split_ifs at stepped <;> cases stepped <;> rfl
    | _ => cases stepped <;> rfl
  obtain ⟨inside, _⟩ := List.getElem?_eq_some_iff.mp here
  have own : stepsOf j (past ++ [(s, .proceed j)]) = stepsOf j past ++ [s] := by
    rw [stepsOf_concat]
    simp [stepsOf]
  have other {k : Nat} (apart : j ≠ k) :
      stepsOf k (past ++ [(s, .proceed j)]) = stepsOf k past := by
    rw [stepsOf_concat]
    simp [stepsOf, apart]
  have asks : handedIn (past ++ [(s, .proceed j)]) = handedIn past :=
    (handedIn_concat past s _).trans (List.append_nil _)
  refine ⟨?_, ?_, ?_⟩
  · rw [List.length_set, calls, asks, hs.length]
  · intro k beyond
    rw [List.length_set, calls] at beyond
    rw [other (Nat.ne_of_lt (Nat.lt_of_lt_of_le inside beyond)), hs.unseen k beyond]
  · intro k given now asked there
    rw [asks] at asked
    rw [calls] at there
    by_cases same : j = k
    · subst same
      rw [List.getElem?_set_self inside] at there
      cases there
      rw [own]
      exact (hs.followed j given call asked here).step stepped
    · rw [List.getElem?_set_ne same] at there
      rw [other same]
      exact hs.followed k given now asked there

theorem traced_of_move? (h : s.move? m = some t) (hs : s.Traced past) :
    t.Traced (past ++ [(s, m)]) := by
  cases m with
  | handIn time => cases h; exact hs.handIn time rfl
  | proceed j => exact hs.proceed h
  | enter x => cases h; exact hs.keep rfl rfl fun _ => rfl
  | takeIn x =>
      obtain ⟨_, ⟨_, rfl⟩ | ⟨_, rfl⟩⟩ := takeIn?_eq_some h
      all_goals exact hs.keep rfl rfl fun _ => rfl
  | fire i =>
      obtain ⟨newcomer, _, rfl⟩ | ⟨_, e, _, rfl⟩ := fire?_eq_some h
      all_goals exact hs.keep rfl rfl fun _ => rfl
  | _ => exact hs.keep (asked_of_aside h rfl).1 rfl fun _ => rfl

theorem traced_of_run {grace : Duration} {settings : WorkloadSettings} {desk : D}
    {ms : List (Move D)} (hrun : (fresh grace settings desk).run ms = some s) :
    s.Traced ((fresh grace settings desk).history ms) :=
  history_invariant (P := Traced) traced_of_move? hrun []
    ⟨rfl, fun _ _ => rfl, fun _ _ _ none => nomatch none⟩

end Scene

end Quiesce
