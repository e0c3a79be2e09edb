import Mathlib.Data.List.Perm.Basic
import Quiesce.Workload.Pool

/-!
Accounts of the work that passed the gate. Every piece is given a number when it is let in, so
that it can be told from others like it when it is done. The accounts change in four ways only,
and stay balanced: what was begun is in flight or done, and each accepted job that is not
completed is in flight.
-/
namespace Quiesce

/-- All the work that ever passed the gate. Each piece has a number, counted from zero. -/
structure Register where
  begun : Nat := 0
  /-- The numbers of the work in flight, in its order there. -/
  live : List Nat := []
  done : List Nat := []
  deriving DecidableEq

namespace Register

def enroll (r : Register) : Register :=
  { r with begun := r.begun + 1, live := r.live ++ [r.begun] }

/-- Strikes off the work at a position, which is done. -/
def complete (r : Register) (i : Nat) : Register :=
  { r with live := r.live.eraseIdx i, done := r.done ++ r.live[i]?.toList }

/-- Every piece of work is in flight or done, and not both. -/
def Complete (r : Register) : Prop := (r.done ++ r.live).Perm (List.range r.begun)

theorem complete_enroll {r : Register} (h : r.Complete) : r.enroll.Complete := by
  simp only [Complete, enroll, List.range_succ, ← List.append_assoc]
  exact h.append_right [r.begun]

theorem complete_complete {r : Register} (h : r.Complete) (i : Nat) :
    (r.complete i).Complete := by
  refine List.Perm.trans ?_ h
  simp only [complete, List.append_assoc]
  apply List.Perm.append_left
  by_cases hi : i < r.live.length
  · simpa [hi] using List.getElem_cons_eraseIdx_perm hi
  · have beyond : r.live.length ≤ i := by omega
    simp [List.eraseIdx_of_length_le beyond, List.getElem?_eq_none beyond]

theorem done_perm_of_live_nil {r : Register} (h : r.Complete) (hl : r.live = []) :
    r.done.Perm (List.range r.begun) := by
  simpa [Complete, hl] using h

end Register

/-- Whether a task does a job that was accepted. -/
def Task.isJob (t : Task) : Bool := t.work = .job

/-- The tasks in flight, with what is on record about them and the jobs among them. -/
structure Ledger where
  tasks : List Task
  register : Register
  /-- The jobs that were let in. -/
  accepted : Nat
  completed : Nat

namespace Ledger

/-- What one step can make of the accounts, if the gate is closed or open. -/
inductive Change (closed : Bool) : Ledger → Ledger → Prop where
  | keep (l : Ledger) : Change closed l l
  | enroll (l : Ledger) (t : Task) (isOpen : closed = false) :
      Change closed l { l with
        tasks := l.tasks ++ [t], register := l.register.enroll
        accepted := l.accepted + t.isJob.toNat }
  /-- A task has its first turn, or a worker starts its next unit. -/
  | proceed (l : Ledger) (i : Nat) (t next : Task) (here : l.tasks[i]? = some t)
      (same : next.work = t.work) : Change closed l { l with tasks := l.tasks.set i next }
  | complete (l : Ledger) (i : Nat) (t : Task) (here : l.tasks[i]? = some t) :
      Change closed l { l with
        tasks := l.tasks.eraseIdx i, register := l.register.complete i
        completed := l.completed + t.isJob.toNat }

/-- The accounts are right: the register lists the work in flight, misses nothing that was begun,
and the jobs accepted are those completed and those in flight. -/
structure Balanced (l : Ledger) : Prop where
  length : l.register.live.length = l.tasks.length
  register : l.register.Complete
  jobs : l.accepted = l.completed + l.tasks.countP Task.isJob

theorem getElem?_perm {α : Type} {l : List α} {i : Nat} {a : α} (h : l[i]? = some a) :
    (a :: l.eraseIdx i).Perm l := by
  obtain ⟨hi, rfl⟩ := List.getElem?_eq_some_iff.mp h
  exact List.getElem_cons_eraseIdx_perm hi

/-- What a list counts, if one element takes the place of another. -/
theorem countP_set_add {α : Type} {l : List α} {i : Nat} {a : α} (here : l[i]? = some a) (b : α)
    (p : α → Bool) : (l.set i b).countP p + (p a).toNat = l.countP p + (p b).toNat := by
  obtain ⟨hi, _⟩ := List.getElem?_eq_some_iff.mp here
  have before := (getElem?_perm here).countP_eq p
  have after := (List.set_perm_cons_eraseIdx hi b).countP_eq p
  rw [List.countP_cons] at before after
  rw [after, ← before]
  cases p a <;> cases p b <;> simp

theorem balanced_of_change {closed : Bool} {l k : Ledger} (h : Change closed l k)
    (hl : l.Balanced) : k.Balanced := by
  cases h with
  | keep => exact hl
  | enroll t isOpen =>
      refine ⟨?_, Register.complete_enroll hl.register, ?_⟩
      · simp [Register.enroll, hl.length]
      · have count : ([t].countP Task.isJob) = t.isJob.toNat := by cases ht : t.isJob <;> simp [ht]
        simp only [List.countP_append, count, hl.jobs]
        omega
  | proceed i t next here same =>
      refine ⟨by simp [hl.length], hl.register, ?_⟩
      have counted := countP_set_add here next Task.isJob
      have kind : next.isJob = t.isJob := by simp only [Task.isJob, same]
      rw [kind] at counted
      exact hl.jobs.trans (congrArg (l.completed + ·) (Nat.add_right_cancel counted).symm)
  | complete i t here =>
      obtain ⟨hi, _⟩ := List.getElem?_eq_some_iff.mp here
      refine ⟨?_, Register.complete_complete hl.register i, ?_⟩
      · simp [Register.complete, List.length_eraseIdx, hl.length]
      · have before := (getElem?_perm here).countP_eq Task.isJob
        simp only [List.countP_cons] at before
        simp only [hl.jobs]
        cases ht : t.isJob <;> simp [ht] at before ⊢ <;> omega

/-- Behind a closed gate the work in flight only gets less, and none is begun. -/
theorem live_sublist_of_change {l k : Ledger} (h : Change true l k) :
    k.register.live.Sublist l.register.live ∧ k.register.begun = l.register.begun := by
  cases h with
  | keep => exact ⟨List.Sublist.refl _, rfl⟩
  | enroll t isOpen => cases isOpen
  | proceed i t next here same => exact ⟨List.Sublist.refl _, rfl⟩
  | complete i t here => exact ⟨List.eraseIdx_sublist _ _, rfl⟩

/-- Where nothing is in flight behind a closed gate, nothing will be. -/
theorem tasks_nil_of_change {l k : Ledger} (h : Change true l k) (hl : l.tasks = []) :
    k.tasks = [] := by
  cases h with
  | keep => exact hl
  | enroll t isOpen => cases isOpen
  | proceed i t next here same => simp [hl] at here
  | complete i t here => simp [hl] at here

end Ledger

end Quiesce
