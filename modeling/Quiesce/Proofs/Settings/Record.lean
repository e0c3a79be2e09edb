import Quiesce.Proofs.Settings.Reload

/-!
What a reloader has on record, beside what is in force. Both are written by a reload, but only if it
changes what is in force; and that can be changed past the reloader. The record falls behind by such
a change alone. A reload that finds something to change makes good for it, and one that finds
nothing to change does not, even though it succeeds.
-/
namespace Quiesce

/-- What can be reloaded: how long a unit takes, and the longest job. -/
def WorkloadSettings.durations (s : WorkloadSettings) : UInt64 × UInt64 := (s.unitMs, s.jobLimitMs)

theorem WorkloadSettings.differs_eq_false_iff {s update : WorkloadSettings} :
    s.differs update = false ↔ s.durations = update.durations := by
  rw [differs_iff, durations, durations, Prod.mk.injEq]

theorem WorkloadSettings.differs_eq_true_iff {s update : WorkloadSettings} :
    s.differs update = true ↔ s.durations ≠ update.durations := by
  rw [← Bool.not_eq_false, differs_eq_false_iff]

theorem Pool.durations_apply (pool : Pool) (update : WorkloadSettings) :
    (pool.apply update).2.settings.durations = update.durations := by
  rw [apply_eq]
  rfl

namespace Reloader

/-- What can be done to the settings in force: a reload, or an update past the reloader. -/
inductive Occasion where
  | reload (sources : Settings.Sources)
  | update (settings : WorkloadSettings)

def Occasion.isReload : Occasion → Bool
  | reload _ => true
  | update _ => false

def occur : Reloader × Pool → Occasion → Reloader × Pool
  | (r, pool), .reload sources => (r.reload sources pool).2
  | (r, pool), .update settings => (r, (pool.apply settings).2)

/-- The durations on record. -/
def record (r : Reloader) : UInt64 × UInt64 := r.current.workload.durations

def InStep (held : Reloader × Pool) : Prop := held.1.record = held.2.settings.durations

variable {r : Reloader} {pool : Pool}

theorem record_informed (r : Reloader) (inForce updated : WorkloadSettings) :
    (r.informed inForce updated).record =
      if inForce.durations = updated.durations then r.record else updated.durations := by
  cases differs : inForce.differs updated with
  | true =>
      rw [if_neg (WorkloadSettings.differs_eq_true_iff.mp differs), informed, if_pos differs]
      rfl
  | false =>
      rw [if_pos (WorkloadSettings.differs_eq_false_iff.mp differs),
        informed_of_not_differs differs]

/-- After a reload record and pool agree, unless they did not before and the reload found nothing to
change. -/
theorem inStep_reload_iff {sources : Settings.Sources} {updated : Settings}
    (planned : r.plan sources = .ok updated) :
    InStep (r.reload sources pool).2 ↔
      InStep (r, pool) ∨ pool.settings.durations ≠ updated.workload.durations := by
  rw [reload_of_plan planned, InStep, InStep, record_informed, Pool.durations_apply]
  -- If nothing changes, the record stays as it was, be it right or wrong.
  by_cases same : pool.settings.durations = updated.workload.durations
  · simp [same]
  · simp [same]

theorem InStep.reload (h : InStep (r, pool)) (sources : Settings.Sources) :
    InStep (r.reload sources pool).2 := by
  cases planned : r.plan sources with
  | error fault =>
      rw [reload_of_fault planned]
      exact h
  | ok updated => exact (inStep_reload_iff planned).mpr (.inl h)

theorem InStep.reloads {held : Reloader × Pool} (h : InStep held) {history : List Occasion}
    (only : ∀ o ∈ history, o.isReload = true) : InStep (history.foldl occur held) := by
  induction history generalizing held with
  | nil => exact h
  | cons occasion history ih =>
      obtain ⟨first, rest⟩ := List.forall_mem_cons.mp only
      cases occasion with
      | reload sources => exact ih (h.reload sources) rest
      | update settings => cases first

/-- Where a reloader reads and what it lays over that stays as it is. -/
theorem plan_occur (held : Reloader × Pool) (occasion : Occasion) (sources : Settings.Sources) :
    (occur held occasion).1.plan sources = held.1.plan sources := by
  cases occasion with
  | update settings => rfl
  | reload others =>
      cases planned : held.1.plan others with
      | error fault => rw [occur, reload_of_fault planned]
      | ok updated => rw [occur, reload_of_plan planned, plan_informed]

theorem plan_history (held : Reloader × Pool) (history : List Occasion)
    (sources : Settings.Sources) :
    (history.foldl occur held).1.plan sources = held.1.plan sources := by
  induction history generalizing held with
  | nil => rfl
  | cons occasion history ih => exact (ih _).trans (plan_occur held occasion sources)

/-- After any history of reloads and of updates past the reloader: a reload of valid settings puts
their durations in force, and has them on record exactly if record and pool agreed before it, or it
found something to change. An update past the reloader leaves the record as it is, and so makes it
wrong exactly if it brings other durations; where there is none, the record is never wrong. -/
theorem record_in_step_iff (r : Reloader) (pool : Pool) (history : List Occasion) :
    let held := history.foldl occur (r, pool)
    (∀ sources loaded, Settings.load sources r.path = .ok loaded →
      (r.overrides.apply loaded).validate = .ok () →
      let updated := (r.overrides.apply loaded).workload
      let answer := held.1.reload sources held.2
      answer.1 = .ok () ∧ answer.2.2.settings.durations = updated.durations ∧
      (answer.2.1.record = updated.durations ↔
        held.1.record = held.2.settings.durations ∨
          held.2.settings.durations ≠ updated.durations)) ∧
    (∀ settings, let after := occur held (.update settings)
      after.1 = held.1 ∧ after.2.settings.durations = settings.durations ∧
      (after.1.record = after.2.settings.durations ↔ settings.durations = held.1.record)) ∧
    ((∀ o ∈ history, o.isReload = true) → r.record = pool.settings.durations →
      held.1.record = held.2.settings.durations) := by
  intro held
  refine ⟨?_, ?_, ?_⟩
  · intro sources loaded loads valid updated answer
    have planned : held.1.plan sources = .ok (r.overrides.apply loaded) :=
      (plan_history (r, pool) history sources).trans
        (plan_eq_ok_iff.mpr ⟨loaded, loads, rfl, valid⟩)
    have inForce : answer.2.2.settings.durations = updated.durations := by
      simp only [answer, reload_of_plan planned]
      exact Pool.durations_apply held.2 updated
    have agrees : answer.2.1.record = answer.2.2.settings.durations ↔
        held.1.record = held.2.settings.durations ∨
          held.2.settings.durations ≠ updated.durations := inStep_reload_iff planned
    rw [inForce] at agrees
    exact ⟨(reload_eq_ok_iff held.2).mpr ⟨_, planned⟩, inForce, agrees⟩
  · intro settings after
    have inForce : after.2.settings.durations = settings.durations :=
      Pool.durations_apply held.2 settings
    refine ⟨rfl, inForce, ?_⟩
    rw [inForce]
    exact eq_comm
  · intro only start
    have start : InStep (r, pool) := start
    exact start.reloads only

/-- What is in force after a reload from these sources, which may fail. -/
def broughtBy (r : Reloader) (inForce : UInt64 × UInt64) (sources : Settings.Sources) :
    UInt64 × UInt64 :=
  match r.plan sources with
  | .ok updated => updated.workload.durations
  | .error _ => inForce

theorem broughtBy_of_plan {sources : Settings.Sources} {updated : Settings}
    (planned : r.plan sources = .ok updated) (inForce : UInt64 × UInt64) :
    r.broughtBy inForce sources = updated.workload.durations := by
  rw [broughtBy, planned]

theorem broughtBy_of_fault {sources : Settings.Sources} {fault : Settings.Fault}
    (fails : r.plan sources = .error fault) (inForce : UInt64 × UInt64) :
    r.broughtBy inForce sources = inForce := by
  rw [broughtBy, fails]

theorem durations_reload (r : Reloader) (sources : Settings.Sources) (pool : Pool) :
    (r.reload sources pool).2.2.settings.durations =
      r.broughtBy pool.settings.durations sources := by
  cases planned : r.plan sources with
  | error fault => rw [reload_of_fault planned, broughtBy_of_fault planned]
  | ok updated => rw [reload_of_plan planned, broughtBy_of_plan planned, Pool.durations_apply]

/-- What holds of the durations at first and of all that are planned, holds after all reloads. -/
theorem broughtBy_induction {P : UInt64 × UInt64 → Prop} {inForce : UInt64 × UInt64}
    {readings : List Settings.Sources} (start : P inForce)
    (news : ∀ sources ∈ readings, ∀ updated, r.plan sources = .ok updated →
      P updated.workload.durations) : P (readings.foldl r.broughtBy inForce) := by
  induction readings generalizing inForce with
  | nil => exact start
  | cons sources readings ih =>
      obtain ⟨first, rest⟩ := List.forall_mem_cons.mp news
      refine ih ?_ rest
      cases planned : r.plan sources with
      | error fault =>
          rw [broughtBy_of_fault planned]
          exact start
      | ok updated =>
          rw [broughtBy_of_plan planned]
          exact first updated planned

/-- A daemon's reloads bring one after the other what each of them plans. -/
theorem durations_reloadFrom (e : Engine Desk) (readings : List Settings.Sources) :
    (readings.foldl Engine.reloadFrom e).pool.settings.durations =
      readings.foldl e.desk.reloader.broughtBy e.pool.settings.durations := by
  induction readings generalizing e with
  | nil => rfl
  | cons sources readings ih =>
      obtain ⟨runner, served⟩ := e.reloadFrom_eq sources
      -- What a reload plans does not depend on the ones before it.
      have same : (e.reloadFrom sources).desk.reloader.broughtBy = e.desk.reloader.broughtBy := by
        funext inForce others
        have reads := plan_occur (e.desk.reloader, e.pool) (.reload sources) others
        rw [served, broughtBy, broughtBy, ← reads]
        rfl
      rw [List.foldl_cons, List.foldl_cons, ih, same, served]
      exact congrArg (readings.foldl _) (durations_reload e.desk.reloader sources e.pool)

/-- A file with these durations, and no variables. -/
def durationFile (unit limit : String) : Settings.Sources :=
  Settings.Sources.setFile {} "dvm.toml" (String.toUTF8
    ("[workload]\nunit_duration_ms = " ++ unit ++ "\nmax_job_duration_ms = " ++ limit ++ "\n"))

theorem load_durationFile : Settings.load (durationFile "300" "900") Settings.defaultPath =
    .ok { workload := { unitMs := 300, jobLimitMs := 900 } } :=
  Settings.eq_ok_of_toOption (by decide +kernel)

/-- An update past the reloader has made the record wrong. The reload after it brings something new
and so mends that; if it had come alone, there would have been nothing to mend. -/
theorem record_in_step_iff_of_news :
    let r : Reloader := { current := {} }
    let pool : Pool := { settings := r.current.workload }
    let held := occur (r, pool) (.update { unitMs := 100 })
    let news := durationFile "300" "900"
    held.1.record ≠ held.2.settings.durations ∧
    (held.1.reload news held.2).1 = .ok () ∧
    (held.1.reload news held.2).2.1.record = (300, 900) ∧
    InStep (occur (r, pool) (.reload news)) := by
  intro r pool held news
  have valid : (r.overrides.apply
      { workload := { unitMs := 300, jobLimitMs := 900 } }).validate = .ok () :=
    Settings.eq_ok_of_toOption (by decide +kernel)
  obtain ⟨_, updates, _⟩ := record_in_step_iff r pool []
  obtain ⟨reloads, _, _⟩ := record_in_step_iff r pool [.update { unitMs := 100 }]
  obtain ⟨_, _, alone⟩ := record_in_step_iff r pool [.reload news]
  obtain ⟨succeeds, _, onRecord⟩ := reloads news _ load_durationFile valid
  obtain ⟨_, _, wrong⟩ := updates { unitMs := 100 }
  have other : held.2.settings.durations ≠ (300, 900) := by decide
  refine ⟨?_, succeeds, onRecord.mpr (.inr other), ?_⟩
  · intro right
    exact absurd (wrong.mp right) (by decide)
  · rw [List.foldl_cons, List.foldl_nil] at alone
    exact alone (by simp [Occasion.isReload]) rfl

/-- An update past the reloader brings what the file says too. The reload after it finds nothing to
change, and succeeds with another length of a unit on record than the one in force. -/
theorem record_falls_behind :
    let r : Reloader := { current := {} }
    let pool : Pool := { settings := r.current.workload }
    let held := occur (r, pool) (.update { unitMs := 100 })
    let loaded : Settings := { workload := { unitMs := 100 } }
    let answer := held.1.reload (durationFile "100" "60000") held.2
    r.current.validate = .ok () ∧ InStep (r, pool) ∧
    Settings.load (durationFile "100" "60000") r.path = .ok loaded ∧
    (r.overrides.apply loaded).validate = .ok () ∧
    answer.1 = .ok () ∧ answer.2.2.settings.durations = (100, 60000) ∧
    answer.2.1.record = (250, 60000) := by
  intro r pool held loaded answer
  have loads : Settings.load (durationFile "100" "60000") r.path = .ok loaded :=
    Settings.eq_ok_of_toOption (by decide +kernel)
  have valid : (r.overrides.apply loaded).validate = .ok () :=
    Settings.eq_ok_of_toOption (by decide +kernel)
  have planned : held.1.plan (durationFile "100" "60000") = .ok (r.overrides.apply loaded) :=
    plan_eq_ok_iff.mpr ⟨loaded, loads, rfl, valid⟩
  have answered : answer = (.ok (), r, held.2) := reload_of_plan planned held.2
  rw [answered]
  exact ⟨Settings.eq_ok_of_toOption (by decide +kernel), rfl, loads, valid, rfl, rfl, rfl⟩

end Reloader

end Quiesce
