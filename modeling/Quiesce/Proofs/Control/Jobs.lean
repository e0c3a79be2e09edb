import Mathlib.Data.List.TakeWhile
import Quiesce.Control.Route
import Quiesce.Proofs.Engine.Calls
import Quiesce.Proofs.Text.Numerals

/-!
Jobs that come in over the network. A request that names a length is the same as handing in a job of
that length, its answer tells which of the three ways that went, and whoever asks after the daemon's
health learns whether a job of no length would be taken on now.
-/
namespace Quiesce

namespace Control

variable {D : Type}

/-- Text without percent and plus signs stands for itself. -/
theorem unescape_of_plain {cs : List Char} (percent : '%' ∉ cs) (plus : '+' ∉ cs) :
    unescape cs = cs := by
  fun_induction unescape cs with
  | case1 | case2 => exact absurd List.mem_cons_self percent
  | case3 => exact absurd List.mem_cons_self plus
  | case4 c cs _ _ ih =>
      rw [ih (fun inside => percent (List.mem_cons_of_mem c inside))
        fun inside => plus (List.mem_cons_of_mem c inside)]
  | case5 => rfl

theorem not_mem_toString {c : Char} (noDigit : c.isDigit = false) (n : UInt64) :
    c ∉ (toString n).toList := by
  intro inside
  have digit : c.isDigit = true := Numeral.isDigit_of_mem_toString (n := n.toNat) inside
  rw [noDigit] at digit
  cases digit

/-- The query that asks for a length. -/
def lengthQuery (n : UInt64) : List Char := "duration_ms=".toList ++ (toString n).toList

theorem not_mem_lengthQuery {c : Char} (noDigit : c.isDigit = false)
    (other : c ∉ "duration_ms=".toList) (n : UInt64) : c ∉ lengthQuery n := by
  intro inside
  rcases List.mem_append.mp inside with name | value
  · exact other name
  · exact not_mem_toString noDigit n value

theorem duration?_lengthQuery (n : UInt64) : duration? (lengthQuery n) = .ok (some n) := by
  have single : Text.splitWhen (· = '&') (lengthQuery n) = [lengthQuery n] := by
    apply Text.splitWhen_of_none
    intro c inside
    have other : c ≠ '&' := fun same =>
      not_mem_lengthQuery (by decide) (by decide) n (same ▸ inside)
    simpa using other
  have noSign : '=' ∉ "duration_ms".toList := by decide
  have cut : Text.cutAt '=' (lengthQuery n) = some ("duration_ms".toList, (toString n).toList) :=
    Text.cutAt_append noSign
  have value : unescape (toString n).toList = (toString n).toList :=
    unescape_of_plain (not_mem_toString (by decide) n) (not_mem_toString (by decide) n)
  have name : unescape "duration_ms".toList = "duration_ms".toList :=
    unescape_of_plain (by decide) (by decide)
  have some : lengthQuery n ≠ [] := List.cons_ne_nil _ _
  simp only [duration?, pairs, single, cut, value, name, List.filter_cons, List.filter_nil,
    List.isEmpty_eq_false_iff.mpr some, Bool.not_false, ite_true, List.map_cons, List.map_nil,
    Option.getD_some, durationFrom, Option.isSome_none, Bool.false_eq_true, ite_false,
    Numeral.readUInt64_toString]

/-- The request for a job of so many milliseconds. -/
def jobRequest (n : UInt64) : Request := ⟨"POST", "/jobs?duration_ms=" ++ toString n⟩

theorem read_jobRequest (n : UInt64) :
    Target.read (jobRequest n).target = ⟨"/jobs".toList, lengthQuery n⟩ := by
  have written : (jobRequest n).target.toList = "/jobs".toList ++ '?' :: lengthQuery n := by
    rw [jobRequest, String.toList_append]
    rfl
  have whole : ("/jobs".toList ++ '?' :: lengthQuery n).takeWhile (· ≠ '#') =
      "/jobs".toList ++ '?' :: lengthQuery n := by
    rw [List.takeWhile_eq_self_iff]
    intro c inside
    have other : c ≠ '#' := by
      rintro rfl
      rcases List.mem_append.mp inside with path | query
      · exact absurd path (by decide)
      · rcases List.mem_cons.mp query with mark | query
        · exact absurd mark (by decide)
        · exact not_mem_lengthQuery (by decide) (by decide) n query
    simpa using other
  have cut : Text.cutAt '?' ("/jobs".toList ++ '?' :: lengthQuery n) =
      some ("/jobs".toList, lengthQuery n) := Text.cutAt_append (by decide)
  have path : ("/jobs".toList ++ '?' :: lengthQuery n).head? = some '/' := rfl
  simp only [Target.read, written, path, ite_true, Target.ofPath, whole, cut, Option.getD_some]

theorem answer_jobRequest (pid : UInt32) (ticket : Ticket) (n : UInt64) (e : Engine D) :
    answer pid ticket (jobRequest n) e = submitJob ticket (some n) e := by
  have jobs : String.ofList "/jobs".toList = "/jobs" := rfl
  have post : (jobRequest n).method = "POST" := rfl
  simp only [answer, read_jobRequest, jobs, postJob, post, ite_true, duration?_lengthQuery]

def healthRequest : Request := ⟨"GET", "/health"⟩

theorem answer_healthRequest (pid : UInt32) (ticket : Ticket) (e : Engine D) :
    answer pid ticket healthRequest e = (health pid e, e) := by
  have target : Target.read healthRequest.target = ⟨"/health".toList, []⟩ := by decide
  have path : String.ofList "/health".toList = "/health" := rfl
  simp only [answer, target, path]
  rfl

theorem jobReply_status_iff (ticket : Ticket) (outcome : Except JobFault Duration) :
    ((jobReply ticket outcome).status = 202 ↔ ∃ taken, outcome = .ok taken) ∧
    ((jobReply ticket outcome).status = 400 ↔
      ∃ requested most, outcome = .error (.tooLong requested most)) ∧
    ((jobReply ticket outcome).status = 503 ↔ ∃ stage, outcome = .error (.notAccepting stage)) := by
  rcases outcome with (_ | _) | taken <;> simp [jobReply, Reply.refusal, refusalStatus]

theorem health_status_iff {pid : UInt32} {e : Engine D} :
    (health pid e).status = 200 ↔ e.stage = .ready := by
  cases stage : e.stage <;> simp [health, Stage.acceptsWork, stage]

end Control

namespace Scene

variable {D : Type} {s : Scene D}

/-- After any history, a job that is handed in is refused as too long exactly if it exceeds the
limit in force, else as not accepted exactly if the daemon is not ready, and else it is taken on and
adds one task; a refusal adds none. If others come in between, the limit is the one in force at the
first step of the call, the gate that at its second, and the stage it tells of that at its last; and
the step that lets the job in is the one that adds a task. The jobs counted as taken on and refused
so far are all that were handed in, but for those still to be counted; and those taken on but not
done are at work. A request for a job gets the answer of the three that its length has, and does
what handing it in does; and the daemon is healthy exactly as long as a job of no length is taken
on. -/
theorem jobs_accounted {grace : Duration} {settings : WorkloadSettings} {desk : D}
    {ms : List (Move D)} (h : (fresh grace settings desk).run ms = some s) :
    let past := (fresh grace settings desk).history ms
    (∀ d : Duration, let answer := (s.engine.submit d).1
      (∀ requested most, answer = .error (.tooLong requested most) ↔
        s.limit.nanos < d.nanos ∧ requested = d.millisWord ∧ most = s.limit.millisWord) ∧
      (∀ stage, answer = .error (.notAccepting stage) ↔
        d.nanos ≤ s.limit.nanos ∧ s.engine.stage ≠ .ready ∧ stage = s.engine.stage) ∧
      (∀ taken, answer = .ok taken ↔
        d.nanos ≤ s.limit.nanos ∧ s.engine.stage = .ready ∧ taken = d) ∧
      (s.engine.submit d).2.tasks = s.engine.tasks ++
        (if answer.isOk then [⟨.job, Clock.wake s.engine.now d⟩] else []) ∧
      ∃ ns, s.run (.handIn (some d) :: ns) = some { s.enter (.job d) with
        calls := s.calls ++ [.answered d answer] }) ∧
    (∀ j d time answer, (handedIn past)[j]? = some (some d) →
      s.calls[j]? = some (.answered time answer) → time = d ∧ ∃ read gate last,
        (stepsOf j past)[0]? = some read ∧ (stepsOf j past)[1]? = some gate ∧
        (stepsOf j past).getLast? = some last ∧
        (∀ requested most, answer = .error (.tooLong requested most) ↔
          read.limit.nanos < d.nanos ∧ requested = d.millisWord ∧ most = read.limit.millisWord) ∧
        (∀ stage, answer = .error (.notAccepting stage) ↔
          d.nanos ≤ read.limit.nanos ∧ gate.engine.stage ≠ .ready ∧ stage = last.engine.stage) ∧
        ∀ taken, answer = .ok taken ↔
          d.nanos ≤ read.limit.nanos ∧ gate.engine.stage = .ready ∧ taken = d) ∧
    (∀ j t, s.move? (.proceed j) = some t → t.engine.tasks = s.engine.tasks ++
      (if t.calls[j]?.any Call.isAdmitted then [⟨.job, s.engine.now⟩] else [])) ∧
    s.engine.pool.accepted + s.engine.pool.rejected + s.uncounted = ms.countP Move.handsIn ∧
    s.engine.pool.accepted + s.calls.countP Call.isAdmitted =
      s.engine.pool.completed + s.engine.tasks.countP Task.isJob ∧
    ((∀ call ∈ s.calls, call.isUncounted = false) →
      s.engine.pool.accepted + s.engine.pool.rejected = ms.countP Move.handsIn ∧
      s.engine.pool.completed ≤ s.engine.pool.accepted ∧
      s.engine.pool.pending = s.engine.tasks.countP Task.isJob) ∧
    (∀ ticket answer, let status := (Control.jobReply ticket answer).status
      (status = 202 ↔ ∃ taken, answer = .ok taken) ∧
      (status = 400 ↔ ∃ requested most, answer = .error (.tooLong requested most)) ∧
      (status = 503 ↔ ∃ stage, answer = .error (.notAccepting stage))) ∧
    ∀ (pid : UInt32) (ticket : Control.Ticket),
      let answer (n : UInt64) := Control.answer pid ticket (Control.jobRequest n) s.engine
      (∀ n : UInt64, let handedIn := s.engine.submit (.ofMillis n)
        answer n = (Control.jobReply ticket handedIn.1, handedIn.2) ∧
        s.move? (.enter (.job (.ofMillis n))) = some { s with
          engine := (answer n).2
          register := if (answer n).1.status = 202 then s.register.enroll else s.register }) ∧
      ((Control.answer pid ticket Control.healthRequest s.engine).1.status = 200 ↔
        (answer 0).1.status = 202) := by
  intro past
  have start := sound_fresh grace settings desk
  have sound := sound_of_run h start
  have awaited : s.Awaited := Reachable.awaited ⟨grace, settings, desk, ms, h⟩
  have traced : s.Traced past := traced_of_run h
  have asked : s.engine.pool.asked + s.uncounted = 0 + ms.countP Move.handsIn := asked_of_run h
  rw [Nat.zero_add] at asked
  refine ⟨?_, ?_, fun j t stepped => (asked_of_proceed? stepped).1, asked, sound.pending.1, ?_,
    fun ticket answer => Control.jobReply_status_iff ticket answer, ?_⟩
  · intro d
    exact ⟨fun _ _ => Engine.submit_eq_tooLong_iff, fun _ => Engine.submit_eq_notAccepting_iff,
      fun _ => Engine.submit_eq_ok_iff, s.engine.submit_tasks d, run_handIn sound awaited d⟩
  · intro j d time answer given here
    have judged : Judged d (stepsOf j past) (.answered time answer) :=
      traced.followed j (some d) _ given here
    exact judged.answer
  · intro settled
    have none : s.uncounted = 0 := List.countP_eq_zero.mpr fun call inside => by
      simp [settled call inside]
    have counted : ∀ time, .admitted time ∉ s.calls := fun time inside =>
      Bool.noConfusion (settled _ inside)
    rw [none] at asked
    exact ⟨asked, sound.pending.2 counted⟩
  · intro pid ticket answer
    have answered (n : UInt64) : answer n =
        (Control.jobReply ticket (s.engine.submit (.ofMillis n)).1,
          (s.engine.submit (.ofMillis n)).2) :=
      Control.answer_jobRequest pid ticket n s.engine
    refine ⟨?_, ?_⟩
    · intro n handedIn
      rw [answered n]
      refine ⟨rfl, ?_⟩
      have register :
          (if (Control.jobReply ticket handedIn.1).status = 202 then s.register.enroll
            else s.register) = if handedIn.1.isOk then s.register.enroll else s.register := by
        rcases handedIn.1 with (_ | _) | taken <;> rfl
      rw [register]
      rfl
    · have short : (Duration.ofMillis 0).nanos ≤ s.engine.pool.settings.jobLimit.nanos :=
        Nat.zero_le _
      rw [answered 0, Control.answer_healthRequest, (Control.jobReply_status_iff _ _).1,
        Control.health_status_iff]
      simp only [Engine.submit_eq_ok_iff, short, true_and, exists_eq_right]

/-- A job comes in before the daemon is ready. Another one is let in under a limit that a reload has
lowered since its call has read it, and one as long is refused right after. A third finds the gate
closed by a request to stop and is told of the forced stop that came next. The job that was let in
is at work then, and is counted last. -/
theorem jobs_accounted_after_force : ∃ (ms : List (Move Unit)) (s t : Scene Unit),
    (fresh (.ofMillis 5000) {} ()).run ms = some s ∧ s.move? (.proceed 0) = some t ∧
    s.engine.core.ending = some (.forced .interrupt) ∧
    s.engine.pool.accepted = 0 ∧ s.engine.pool.rejected + 1 = 4 ∧ s.uncounted = 1 ∧
    s.engine.tasks.countP Task.isJob = 1 ∧ s.engine.pool.pending = 0 ∧
    s.calls[1]? = some (.answered (.ofMillis 50) (.error (.notAccepting .stopped))) ∧
    t.engine.pool.accepted = 1 ∧ t.engine.pool.pending = 1 ∧
    (s.engine.submit (.ofMillis 200)).1 = .error (.tooLong 200 100) ∧
    (s.engine.submit (.ofMillis 50)).1 = .error (.notAccepting .stopped) ∧
    ∀ pid ticket, (Control.answer pid ticket (Control.jobRequest 50) s.engine).1.status = 503 := by
  let moves : List (Move Unit) :=
    [.enter (.job (.ofMillis 10)), .enter .worker, .markReady, .handIn (some (.ofMillis 200)),
      .proceed 0, .apply { jobLimitMs := 100 }, .proceed 0, .fire 1,
      .enter (.job (.ofMillis 200)), .signal .terminate, .pass 1000000,
      .handIn (some (.ofMillis 50)), .proceed 1, .proceed 1, .proceed 1, .signal .interrupt,
      .proceed 1]
  have reached : ∃ s t, (fresh (.ofMillis 5000) {} ()).run moves = some s ∧
      s.run [.proceed 0] = some t ∧ s.engine.core.ending = some (.forced .interrupt) ∧
      s.engine.stage = .stopped ∧ s.engine.pool.settings.jobLimitMs = 100 ∧
      s.engine.pool.accepted = 0 ∧ s.engine.pool.completed = 0 ∧ s.uncounted = 1 ∧
      s.calls = [.admitted (.ofMillis 200),
        .answered (.ofMillis 50) (.error (.notAccepting .stopped))] ∧
      t.calls = [.answered (.ofMillis 200) (.ok (.ofMillis 200)),
        .answered (.ofMillis 50) (.error (.notAccepting .stopped))] ∧
      t.engine.tasks = s.engine.tasks ∧ t.engine.pool.accepted = 1 :=
    ⟨_, _, rfl, rfl, rfl, rfl, rfl, rfl, rfl, rfl, rfl, rfl, rfl, rfl⟩
  obtain ⟨s, t, hrun, counts, ending, stopped, limit, accepted, completed, uncounted, calls, after,
    tasks, taken⟩ := reached
  obtain ⟨answers, _, _, asked, jobs, _, statuses, requests⟩ := jobs_accounted hrun
  have hruns : (fresh (.ofMillis 5000) {} ()).run (moves ++ [.proceed 0]) = some t := by
    rw [run_append, hrun]
    exact counts
  obtain ⟨_, _, _, _, _, settled, _, _⟩ := jobs_accounted hruns
  have limit : s.limit = .ofMillis 100 := congrArg Duration.ofMillis limit
  have atWork : s.engine.tasks.countP Task.isJob = 1 := by
    have admitted : s.calls.countP Call.isAdmitted = 1 := by rw [calls]; rfl
    rw [accepted, completed, admitted, Nat.zero_add, Nat.zero_add] at jobs
    exact jobs.symm
  have refused := ((answers (.ofMillis 50)).2.1 .stopped).mpr
    ⟨by rw [limit]; decide, by rw [stopped]; decide, stopped.symm⟩
  have moved : s.move? (.proceed 0) = some t := by
    obtain ⟨u, moved, rest⟩ := Option.bind_eq_some_iff.mp counts
    cases rest
    exact moved
  refine ⟨moves, s, t, hrun, moved, ending, accepted, ?_, uncounted, atWork, ?_, by rw [calls]; rfl,
    taken, ?_, ?_, refused, ?_⟩
  · rw [accepted, uncounted, Nat.zero_add] at asked
    exact asked
  · rw [Pool.pending, accepted, completed]
  · obtain ⟨_, _, pending⟩ := settled (by simp [after, Call.isUncounted])
    rw [pending, tasks, atWork]
  · refine ((answers (.ofMillis 200)).1 200 100).mpr ?_
    rw [limit]
    decide
  · intro pid ticket
    have answered : Control.answer pid ticket (Control.jobRequest 50) s.engine =
        (Control.jobReply ticket (s.engine.submit (.ofMillis 50)).1,
          (s.engine.submit (.ofMillis 50)).2) := ((requests pid ticket).1 50).1
    rw [answered]
    exact (statuses ticket _).2.2.mpr ⟨_, refused⟩

end Scene

end Quiesce
