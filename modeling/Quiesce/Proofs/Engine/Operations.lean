import Quiesce.Proofs.Engine.Interleaving

/-!
What each operation of an engine does and what it leaves alone. The proofs about scenes go by these
statements and do not look into the operations again.
-/
namespace Quiesce

namespace Pool

theorem apply_counts (p : Pool) (update : WorkloadSettings) :
    (p.apply update).2.accepted = p.accepted ∧ (p.apply update).2.completed = p.completed := by
  unfold apply
  split <;> exact ⟨rfl, rfl⟩

theorem apply_units (p : Pool) (update : WorkloadSettings) :
    (p.apply update).2.units = p.units := by
  unfold apply
  split <;> rfl

theorem apply_workers (p : Pool) (update : WorkloadSettings) :
    (p.apply update).2.settings.workers = p.settings.workers := by
  unfold apply
  split <;> rfl

theorem record_settings (p : Pool) (w : Work) : (p.record w).settings = p.settings := by
  cases w <;> rfl

theorem record_accepted (p : Pool) (w : Work) : (p.record w).accepted = p.accepted := by
  cases w <;> rfl

theorem record_completed (p : Pool) (t : Task) :
    (p.record t.work).completed = p.completed + t.isJob.toNat := by
  cases hw : t.work <;> simp [record, Task.isJob, hw]

/-- No job is let in by a stage other than ready. -/
theorem stage_of_refusal?_eq_none {p : Pool} {stage : Stage} {d : Duration}
    (h : p.refusal? stage d = none) : stage = .ready := by
  unfold refusal? at h
  split at h
  · cases h
  · split at h
    · rename_i accepts
      simpa [Stage.acceptsWork] using accepts
    · cases h

end Pool

namespace Engine

variable {D : Type}

theorem send_eq (e : Engine D) (k : Signal) :
    ∃ inbox, (e.send k).2 = { e with inbox := inbox } := by
  unfold send
  split
  · exact ⟨_, rfl⟩
  · exact ⟨e.inbox, rfl⟩

theorem enterDrain_eq (e : Engine D) :
    ∃ runner, e.enterDrain = { e with runner := runner } ∧
      ((∃ deadline, runner = .draining deadline true) ∨ runner = .ended (.overflow .instant)) := by
  unfold enterDrain
  split
  · exact ⟨_, rfl, .inl ⟨_, rfl⟩⟩
  · exact ⟨_, rfl, .inr rfl⟩

theorem beginRun_granted {e : Engine D} (h : e.beginRun.1 = true) :
    e.runner.holdsChannel = false ∧ e.beginRun.2 = { e with runner := .receiving } := by
  unfold beginRun at h ⊢
  split at h
  · cases h
  · rename_i free
    simp [free]

theorem beginDrain_granted {e : Engine D} (h : e.beginDrain.1 = true) :
    e.runner.holdsChannel = false ∧ e.beginDrain.2 = e.enterDrain := by
  unfold beginDrain at h ⊢
  split at h
  · cases h
  · rename_i free
    simp [free]

theorem reloaded_eq (e : Engine D) (desk : D) (update : Option WorkloadSettings) :
    ∃ pool, e.reloaded desk update = { e with desk := desk, pool := pool } ∧
      pool.accepted = e.pool.accepted ∧ pool.completed = e.pool.completed := by
  cases update with
  | none => exact ⟨e.pool, rfl, rfl, rfl⟩
  | some update => exact ⟨_, rfl, e.pool.apply_counts update⟩

theorem admitsLasting_iff (c : Core) : c.admitsLasting = true ↔ c.stage.isEnding = false := by
  simp [Core.admitsLasting, StageCell.withStage, Core.stage]

theorem admits_iff (c : Core) : c.admits = true ↔ c.stage = .ready := by
  simp [Core.admits, StageCell.withStage, Stage.acceptsWork, Core.stage]

theorem isEnding_of_opensFor {e : Engine D} {x : Entry} (opens : e.opensFor x = true) :
    e.stage.isEnding = false := by
  cases x with
  | worker | lasting _ => exact (admitsLasting_iff e.core).mp opens
  | job _ | errand _ =>
      have ready : e.stage = .ready := (admits_iff e.core).mp opens
      rw [ready]
      rfl

/-- Whatever is let in comes through an open gate, and is tracked from then on. -/
theorem enter_granted {e : Engine D} {x : Entry} (h : (e.enter x).1 = true) :
    e.stage.isEnding = false ∧ ∃ t : Task, (e.enter x).2 = { e with
      tasks := e.tasks ++ [t]
      pool := { e.pool with accepted := e.pool.accepted + t.isJob.toNat } } := by
  have ready (hr : e.stage = .ready) : e.stage.isEnding = false := by rw [hr]; rfl
  cases x with
  | worker =>
      by_cases admitted : e.core.admitsLasting = true
      · refine ⟨(admitsLasting_iff e.core).mp admitted,
          ⟨.worker, Clock.wake e.now e.pool.settings.unit⟩, ?_⟩
        simp [enter, launchWorker, admitted, track, Task.isJob]
      · simp [enter, launchWorker, admitted] at h
  | job time =>
      cases refusal : e.pool.refusal? e.stage time with
      | some fault => simp [enter, submit, refusal, Except.isOk, Except.toBool] at h
      | none =>
          refine ⟨ready (Pool.stage_of_refusal?_eq_none refusal),
            ⟨.job, Clock.wake e.now time⟩, ?_⟩
          simp [enter, submit, refusal, track, Task.isJob]
  | errand time =>
      by_cases admitted : e.core.admits = true
      · refine ⟨ready ((admits_iff e.core).mp admitted), ⟨.errand, Clock.wake e.now time⟩, ?_⟩
        simp [enter, admitErrand, admitted, track, Task.isJob]
      · simp [enter, admitErrand, admitted] at h
  | lasting time =>
      by_cases admitted : e.core.admitsLasting = true
      · refine ⟨(admitsLasting_iff e.core).mp admitted, ⟨.errand, Clock.wake e.now time⟩, ?_⟩
        simp [enter, admitLastingErrand, admitted, track, Task.isJob]
      · simp [enter, admitLastingErrand, admitted] at h

/-- What is turned away leaves no trace but in the count of refusals. -/
theorem enter_refused {e : Engine D} {x : Entry} (h : (e.enter x).1 = false) :
    ∃ n, (e.enter x).2 = { e with pool := { e.pool with rejected := n } } := by
  cases x with
  | worker =>
      refine ⟨e.pool.rejected, ?_⟩
      by_cases admitted : e.core.admitsLasting = true
      · simp [enter, launchWorker, admitted] at h
      · simp [enter, launchWorker, admitted]
  | job time =>
      cases refusal : e.pool.refusal? e.stage time with
      | some fault => exact ⟨e.pool.rejected + 1, by simp [enter, submit, refusal]⟩
      | none => simp [enter, submit, refusal, Except.isOk, Except.toBool] at h
  | errand time =>
      refine ⟨e.pool.rejected, ?_⟩
      by_cases admitted : e.core.admits = true
      · simp [enter, admitErrand, admitted] at h
      · simp [enter, admitErrand, admitted]
  | lasting time =>
      refine ⟨e.pool.rejected, ?_⟩
      by_cases admitted : e.core.admitsLasting = true
      · simp [enter, admitLastingErrand, admitted] at h
      · simp [enter, admitLastingErrand, admitted]

/-- Who asks to be let in changes the work and its counts, if anything. -/
theorem enter_eq (e : Engine D) (x : Entry) :
    ∃ tasks pool, (e.enter x).2 = { e with tasks := tasks, pool := pool } ∧
      pool.settings = e.pool.settings := by
  cases granted : (e.enter x).1 with
  | true =>
      obtain ⟨_, task, entered⟩ := enter_granted granted
      exact ⟨_, _, entered, rfl⟩
  | false =>
      obtain ⟨n, refused⟩ := enter_refused granted
      exact ⟨e.tasks, _, refused, rfl⟩

theorem launch_eq (e : Engine D) :
    e.launch.2 = (e.launchFrom 0 e.pool.settings.workers.toNat).2 := by
  simp only [launch]
  split <;> rename_i tried <;> rw [tried]

/-- As long as the gate lets lasting work in, workers can be launched. -/
theorem launchFrom_of_admits {e : Engine D} (admits : e.core.admitsLasting = true)
    (worker count : Nat) :
    e.launchFrom worker count =
      (.ok (), { e with
        tasks := e.tasks ++
          List.replicate count ⟨.worker, Clock.wake e.now e.pool.settings.unit⟩ }) := by
  induction count generalizing e worker with
  | zero => simp [launchFrom]
  | succ count ih =>
      have launched : e.launchWorker =
          (true, e.track ⟨.worker, Clock.wake e.now e.pool.settings.unit⟩) := if_pos admits
      have rest := @ih (e.track ⟨.worker, Clock.wake e.now e.pool.settings.unit⟩) admits
        (worker + 1)
      simp only [launchFrom, launched, rest]
      simp [track, List.replicate_succ]

/-- A timer that goes off is due. A worker behind an open gate goes on, all else is done. -/
theorem fire_eq_some {e f : Engine D} {i : Nat} (h : e.fire i = some f) :
    ∃ t, e.tasks[i]? = some t ∧ t.due ≤ e.now ∧
      ((∃ next : Task, t.work = .worker ∧ next.work = .worker ∧ e.core.admissionClosed = false ∧
          f = { e with pool := e.pool.record t.work, tasks := e.tasks.set i next }) ∨
        f = { e with pool := e.pool.record t.work, tasks := e.tasks.eraseIdx i }) := by
  unfold fire at h
  split at h
  · cases h
  · rename_i t here
    split at h
    · rename_i due
      refine ⟨t, here, due, ?_⟩
      cases hn : t.next? e.now e.core.admissionClosed e.pool.settings with
      | none =>
          simp only [hn] at h
          cases h
          exact .inr rfl
      | some next =>
          simp only [hn] at h
          cases h
          unfold Task.next? at hn
          split at hn
          · rename_i worker
            split at hn
            · cases hn
            · rename_i opened
              cases hn
              exact .inl ⟨_, worker, rfl, by simpa using opened, rfl⟩
          · cases hn
    · cases h

end Engine

end Quiesce
