import Quiesce.Proofs.Control.Jobs
import Quiesce.Proofs.Settings.Record

/-!
Jobs whose length is not given. Such a job takes as long as a unit of work does, and is held to the
limit for jobs as any other one is. Valid settings say nothing of how the two compare, and neither
do overrides, of which there is one for the unit and none for the limit. So a daemon that is ready
takes the job on exactly if the unit that it has read is within the limit that it reads next; both
are those in force, if nobody comes in between.
-/
namespace Quiesce

variable {D : Type}

namespace Control

/-- No length is read from pairs exactly if none of them is named for it. -/
theorem durationFrom_eq_ok_none_iff {found : Option UInt64}
    {ps : List (List Char × List Char)} : durationFrom found ps = .ok none ↔
      found = none ∧ ∀ p ∈ ps, p.1 ≠ "duration_ms".toList := by
  induction ps generalizing found with
  | nil => simp [durationFrom]
  | cons p ps ih =>
      obtain ⟨name, value⟩ := p
      rw [durationFrom, List.forall_mem_cons]
      by_cases length : name = "duration_ms".toList
      · refine iff_of_false ?_ fun absent => absent.2.1 length
        rw [if_pos length]
        intro read
        split at read
        · cases read
        · split at read
          · exact absurd (ih.mp read).1 (Option.some_ne_none _)
          · cases read
      · rw [if_neg length, ih]
        exact and_congr_right fun _ => (and_iff_right length).symm

/-- A request for a job that does not say how long it is to take. -/
structure Request.LeavesLength (request : Request) : Prop where
  method : request.method = "POST"
  path : (Target.read request.target).path = "/jobs".toList
  unsaid : ∀ p ∈ pairs (Target.read request.target).query, p.1 ≠ "duration_ms".toList

variable {request : Request}

theorem answer_of_leavesLength (h : request.LeavesLength) (pid : UInt32) (ticket : Ticket)
    (e : Engine D) : answer pid ticket request e = submitJob ticket none e := by
  have path : String.ofList (Target.read request.target).path = "/jobs" := by
    rw [h.path]
    rfl
  have length : duration? (Target.read request.target).query = .ok none :=
    durationFrom_eq_ok_none_iff.mpr ⟨rfl, h.unsaid⟩
  simp only [answer, path, postJob, h.method, ite_true, length]

/-- A ready daemon takes on a job of one unit, or refuses it for the limit. -/
theorem submitJob_none {e : Engine D} (ready : e.stage = .ready) (ticket : Ticket) :
    (e.pool.settings.unitMs ≤ e.pool.settings.jobLimitMs ∧
      (submitJob ticket none e).1.status = 202 ∧
      (submitJob ticket none e).2 = { e with
        pool := { e.pool with accepted := e.pool.accepted + 1 }
        tasks := e.tasks ++ [⟨.job, Clock.wake e.now e.pool.settings.unit⟩] }) ∨
    (e.pool.settings.jobLimitMs < e.pool.settings.unitMs ∧
      submitJob ticket none e = (.refusal 400
          (JobFault.tooLong e.pool.settings.unitMs e.pool.settings.jobLimitMs).message,
        { e with pool := { e.pool with rejected := e.pool.rejected + 1 } })) := by
  have unit : e.pool.settings.unit.millisWord = e.pool.settings.unitMs :=
    Duration.millisWord_ofMillis _
  have limit : e.pool.settings.jobLimit.millisWord = e.pool.settings.jobLimitMs :=
    Duration.millisWord_ofMillis _
  have length : ((none : Option UInt64).map Duration.ofMillis).getD e.pool.settings.unit =
      e.pool.settings.unit := rfl
  -- Both durations are whole milliseconds that fit into a word, so they compare as these do.
  obtain ⟨long, handedIn⟩ | ⟨_, unready, _⟩ | ⟨fits, _, handedIn⟩ :=
    e.submit_cases e.pool.settings.unit
  · refine .inr ⟨Duration.nanos_ofMillis_lt_iff.mp long, ?_⟩
    simp only [submitJob, length, handedIn, unit, limit]
    rfl
  · exact absurd ready unready
  · refine .inl ⟨?_, ?_⟩
    · exact UInt64.not_lt.mp (mt Duration.nanos_ofMillis_lt_iff.mpr (Nat.not_lt.mpr fits))
    · simp only [submitJob, length, handedIn, jobReply, and_self]

end Control

/-- A job of no given length is as long as the unit in force at the first step of its call, and is
held to the limit in force at the second. -/
theorem Scene.Traced.default_job {s : Scene D} {past : List (Scene D × Move D)}
    (traced : s.Traced past) {j : Nat} {time : Duration} {answer : Except JobFault Duration}
    (given : (Scene.handedIn past)[j]? = some none)
    (here : s.calls[j]? = some (.answered time answer)) (ticket : Control.Ticket) :
    ∃ first read gate, (Scene.stepsOf j past)[0]? = some first ∧
      (Scene.stepsOf j past)[1]? = some read ∧ (Scene.stepsOf j past)[2]? = some gate ∧
      time = first.engine.pool.settings.unit ∧
      ((Control.jobReply ticket answer).status = 202 ↔
        first.engine.pool.settings.unitMs ≤ read.engine.pool.settings.jobLimitMs ∧
          gate.engine.stage = .ready) := by
  have followed := traced.followed j none _ given here
  cases steps : Scene.stepsOf j past with
  | nil =>
      rw [steps] at followed
      cases followed
  | cons first us =>
      rw [steps] at followed
      obtain ⟨length, read, gate, _, second, third, _, _, _, taken⟩ := followed.answer
      have fits : first.engine.pool.settings.unit.nanos ≤ read.limit.nanos ↔
          first.engine.pool.settings.unitMs ≤ read.engine.pool.settings.jobLimitMs := by
        rw [← Nat.not_lt, ← UInt64.not_lt]
        exact not_congr Duration.nanos_ofMillis_lt_iff
      refine ⟨first, read, gate, rfl, second, third, length, ?_⟩
      rw [(Control.jobReply_status_iff ticket answer).1]
      simp only [taken, fits, exists_and_left, exists_eq, and_true]

namespace Engine

open Control

/-- After any reloads of a daemon with valid settings, the unit and the limit in force are those of
the last reload that did not fail, and the unit takes some time. Asked for a job of no given length
while it is ready, the daemon takes on one of that unit exactly if the unit is within the limit, and
else refuses it as too long. So it takes it on if the unit is within the limit in the settings at
first and in all that are reloaded. If others come in between, the unit is the one in force at the
first step of the call, the limit that at the second, and the daemon has to be ready at the
third. -/
theorem default_job_accepted_iff {settings : Settings} (valid : settings.validate = .ok ())
    {e : Engine Desk} (built : e.pool.settings = settings.workload)
    (readings : List Settings.Sources)
    (ready : (readings.foldl Engine.reloadFrom e).stage = .ready)
    {request : Control.Request} (asks : request.LeavesLength) (pid : UInt32) (ticket : Ticket) :
    let after := readings.foldl Engine.reloadFrom e
    let unit := after.pool.settings.unitMs
    let limit := after.pool.settings.jobLimitMs
    let reply := answer pid ticket request after
    (unit, limit) =
      readings.foldl e.desk.reloader.broughtBy settings.workload.durations ∧ unit ≠ 0 ∧
    (reply.1.status = 202 ↔ unit ≤ limit) ∧
    (unit ≤ limit → reply.2 = { after with
      pool := { after.pool with accepted := after.pool.accepted + 1 }
      tasks := after.tasks ++ [⟨.job, Clock.wake after.now (.ofMillis unit)⟩] }) ∧
    (limit < unit → reply = (.refusal 400 (JobFault.tooLong unit limit).message,
      { after with pool := { after.pool with rejected := after.pool.rejected + 1 } })) ∧
    (settings.workload.unitMs ≤ settings.workload.jobLimitMs →
      (∀ sources ∈ readings, ∀ updated, e.desk.reloader.plan sources = .ok updated →
        updated.workload.unitMs ≤ updated.workload.jobLimitMs) → reply.1.status = 202) ∧
    ∀ grace start (desk : Desk) ms s, (Scene.fresh grace start desk).run ms = some s →
      let past := (Scene.fresh grace start desk).history ms
      ∀ j time answer, (Scene.handedIn past)[j]? = some none →
        s.calls[j]? = some (.answered time answer) →
        ∃ first read gate, (Scene.stepsOf j past)[0]? = some first ∧
          (Scene.stepsOf j past)[1]? = some read ∧ (Scene.stepsOf j past)[2]? = some gate ∧
          time = first.engine.pool.settings.unit ∧
          ((jobReply ticket answer).status = 202 ↔
            first.engine.pool.settings.unitMs ≤ read.engine.pool.settings.jobLimitMs ∧
              gate.engine.stage = .ready) := by
  intro after unit limit reply
  have inForce : (unit, limit) =
      readings.foldl e.desk.reloader.broughtBy settings.workload.durations := by
    rw [← built]
    exact Reloader.durations_reloadFrom e readings
  have some : unit ≠ 0 := by
    have kept : (unit, limit).1 ≠ 0 := inForce ▸ Reloader.broughtBy_induction (P := (·.1 ≠ 0))
      (Settings.ne_zero_of_validate valid).1 fun sources _ updated planned => by
        obtain ⟨_, _, _, sound⟩ := Reloader.plan_eq_ok_iff.mp planned
        exact (Settings.ne_zero_of_validate sound).1
    exact kept
  have answered : reply = submitJob ticket none after :=
    answer_of_leavesLength asks pid ticket after
  have accepted : reply.1.status = 202 ↔ unit ≤ limit := by
    obtain ⟨within, taken, _⟩ | ⟨beyond, refused⟩ := submitJob_none ready ticket
    · exact iff_of_true (answered ▸ taken) within
    · rw [answered, refused]
      exact iff_of_false (by simp [Reply.refusal]) (UInt64.not_le.mpr beyond)
  refine ⟨inForce, some, accepted, ?_, ?_, ?_, fun _ _ _ _ _ hrun _ _ _ given here =>
    (Scene.traced_of_run hrun).default_job given here ticket⟩
  · intro within
    obtain ⟨_, _, left⟩ | ⟨beyond, _⟩ := submitJob_none ready ticket
    · exact answered ▸ left
    · exact absurd within (UInt64.not_le.mpr beyond)
  · intro beyond
    obtain ⟨within, _⟩ | ⟨_, refused⟩ := submitJob_none ready ticket
    · exact absurd within (UInt64.not_le.mpr beyond)
    · exact answered.trans refused
  · intro start news
    refine accepted.mpr ?_
    have kept : (unit, limit).1 ≤ (unit, limit).2 :=
      inForce ▸ Reloader.broughtBy_induction (P := fun d => d.1 ≤ d.2) start news
    exact kept

/-- A request for a job without a query. -/
def plainRequest : Control.Request := ⟨"POST", "/jobs"⟩

theorem plainRequest_leavesLength : plainRequest.LeavesLength := ⟨rfl, by decide, by decide⟩

/-- A ready daemon that has been handed nothing yet. -/
def begun (settings : Settings) (overrides : Overrides) : Engine Desk where
  core := (Core.markReady { grace := settings.lifecycle.grace }).2
  pool := { settings := settings.workload }
  desk := ⟨{}, { overrides := overrides, current := settings }⟩

/-- The command line sets a unit of a second. That is within the limit at first, and beyond the one
that a reload brings. Where a reload comes between what the call reads, the job is refused, although
no settings were in force in which a unit is longer than a job may be. -/
theorem default_job_accepted_iff_of_override :
    (let settings : Settings := { workload := { unitMs := 1000 } }
      let e := begun settings { unitMs := some 1000 }
      let after := [Reloader.durationFile "300" "900"].foldl Engine.reloadFrom e
      settings.validate = .ok () ∧ (answer 5 ⟨"", ""⟩ plainRequest e).1.status = 202 ∧
      after.pool.settings.unitMs = 1000 ∧ after.pool.settings.jobLimitMs = 900 ∧
      (answer 5 ⟨"", ""⟩ plainRequest after).1 =
        .refusal 400 (JobFault.tooLong 1000 900).message) ∧
    ∃ ms s outcome,
      (Scene.fresh (.ofMillis 5000) { unitMs := 1000 } (begun {} {}).desk).run ms = some s ∧
      s.engine.stage = .ready ∧ s.calls[0]? = some (.answered (.ofMillis 1000) outcome) ∧
      (jobReply ⟨"", ""⟩ outcome).status ≠ 202 := by
  have valid : Settings.validate { workload := { unitMs := 1000 } } = .ok () :=
    Settings.eq_ok_of_toOption (by decide +kernel)
  refine ⟨?_, ?_⟩
  · intro settings e after
    have planned : e.desk.reloader.plan (Reloader.durationFile "300" "900") =
        .ok { workload := { unitMs := 1000, jobLimitMs := 900 } } :=
      Reloader.plan_eq_ok_iff.mpr ⟨_, Reloader.load_durationFile, rfl,
        Settings.eq_ok_of_toOption (by decide +kernel)⟩
    have ready : after.stage = .ready := by
      obtain ⟨runner, served⟩ := e.reloadFrom_eq (Reloader.durationFile "300" "900")
      change (e.reloadFrom (Reloader.durationFile "300" "900")).stage = .ready
      rw [served]
      rfl
    obtain ⟨_, _, accepted, _⟩ :=
      default_job_accepted_iff valid (e := e) rfl [] rfl plainRequest_leavesLength 5 ⟨"", ""⟩
    obtain ⟨inForce, _, _, _, refused, _⟩ :=
      default_job_accepted_iff valid (e := e) rfl [Reloader.durationFile "300" "900"] ready
        plainRequest_leavesLength 5 ⟨"", ""⟩
    obtain ⟨unit, limit⟩ := Prod.mk.inj
      (inForce.trans (Reloader.broughtBy_of_plan planned settings.workload.durations))
    refine ⟨valid, accepted.mpr (by decide), unit, limit, ?_⟩
    have beyond : after.pool.settings.jobLimitMs < after.pool.settings.unitMs := by
      rw [unit, limit]
      decide
    rw [refused beyond, unit, limit]
  · let start := Scene.fresh (.ofMillis 5000) { unitMs := 1000 } (begun {} {}).desk
    let moves : List (Move Desk) := [.markReady, .handIn none, .proceed 0,
      .apply { unitMs := 50, jobLimitMs := 500 }, .proceed 0, .proceed 0]
    have reached : ∃ s outcome, start.run moves = some s ∧ s.engine.stage = .ready ∧
        s.calls[0]? = some (.answered (.ofMillis 1000) outcome) ∧
        (Scene.handedIn (start.history moves))[0]? = some none ∧
        (Scene.stepsOf 0 (start.history moves))[0]?.map (·.engine.pool.settings.unitMs) =
          some 1000 ∧
        (Scene.stepsOf 0 (start.history moves))[1]?.map (·.engine.pool.settings.jobLimitMs) =
          some 500 :=
      ⟨_, _, rfl, rfl, rfl, rfl, rfl, rfl⟩
    obtain ⟨s, outcome, hrun, ready, here, given, unit, limit⟩ := reached
    obtain ⟨_, _, _, _, _, _, inSteps⟩ := default_job_accepted_iff valid
      (e := begun { workload := { unitMs := 1000 } } {}) rfl [] rfl plainRequest_leavesLength 5
      ⟨"", ""⟩
    obtain ⟨first, read, gate, one, two, _, _, taken⟩ := inSteps _ _ _ _ s hrun 0 _ _ given here
    refine ⟨moves, s, outcome, hrun, ready, here, ?_⟩
    have unit : first.engine.pool.settings.unitMs = 1000 :=
      Option.some.inj ((congrArg (Option.map _) one).symm.trans unit)
    have limit : read.engine.pool.settings.jobLimitMs = 500 :=
      Option.some.inj ((congrArg (Option.map _) two).symm.trans limit)
    rw [Ne, taken, unit, limit]
    exact fun fits => absurd fits.1 (by decide)

/-- Settings are valid in which a unit takes longer than any job may. The first job of no given
length is refused then. -/
theorem default_job_refused :
    let settings : Settings := { workload := { unitMs := 1000, jobLimitMs := 500 } }
    let e := begun settings {}
    settings.validate = .ok () ∧ e.pool.settings = settings.workload ∧ e.stage = .ready ∧
    (answer 5 ⟨"", ""⟩ plainRequest e).1 = .refusal 400 (JobFault.tooLong 1000 500).message := by
  intro settings e
  refine ⟨Settings.eq_ok_of_toOption (by decide +kernel), rfl, rfl, ?_⟩
  rw [answer_of_leavesLength plainRequest_leavesLength]
  obtain ⟨within, _⟩ | ⟨_, refused⟩ := submitJob_none (e := e) rfl ⟨"", ""⟩
  · exact absurd within (by decide)
  · rw [refused]
    rfl

end Engine

end Quiesce
