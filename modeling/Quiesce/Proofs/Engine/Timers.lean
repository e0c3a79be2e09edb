import Quiesce.Proofs.Engine.Executor
import Quiesce.Proofs.Engine.Workforce

/-!
Timers and the passing of time. Every timer of a daemon is set for a whole millisecond, so that
only so many of them can go off between two instants, and time always passes as far as it is to.
What every single timer keeps, and what waiting for the next one keeps, is therefore kept however
much time passes.
-/
namespace Quiesce

namespace Clock

theorem dvd_tick (t : Nat) : 1000000 ∣ tick t := by
  change 1000000 ∣ t + (1000000 - t % 1000000) % 1000000
  omega

theorem le_tick (t : Nat) : t ≤ tick t := Nat.le_add_right _ _

theorem tick_of_dvd {t : Nat} (whole : 1000000 ∣ t) : tick t = t := by
  change t + (1000000 - t % 1000000) % 1000000 = t
  omega

/-- Whole milliseconds that lie apart are counted apart. -/
theorem millis_lt {now t target fuel : Nat} (later : now < t) (whole : 1000000 ∣ t)
    (enough : target / 1000000 < now / 1000000 + (fuel + 1)) :
    target / 1000000 < t / 1000000 + fuel := by
  omega

theorem dvd_wake (now : Instant) (d : Duration) : 1000000 ∣ wake now d := dvd_tick _

theorem wake_of_whole {now : Nat} {d : Duration} (whole : 1000000 ∣ now + d.nanos)
    (reach : now + d.nanos < horizon) : wake now d = now + d.nanos := by
  simp only [wake, after?, if_pos reach, Option.getD_some]
  exact tick_of_dvd whole

/-- Goes from one timer to the next, each with its turn, and waits when the next one is too far
away. -/
def walk {S : Type} (next? : S → Option Instant) (turn : Instant → S → S) (wait : S → S)
    (target : Instant) : Nat → S → S
  | 0, s => wait s
  | fuel + 1, s =>
    match next? s with
    | some t => if t ≤ target then walk next? turn wait target fuel (turn t s) else wait s
    | none => wait s

/-- The timers between two instants are no more than there are milliseconds, so that a walk that
may take so many steps gets to its end. -/
theorem walk_induction {S : Type} {next? : S → Option Instant} {turn : Instant → S → S}
    {wait : S → S} {P : S → Prop} (now : S → Nat) {target : Nat}
    (step : ∀ {s : S} {t : Nat}, P s → next? s = some t → t ≤ target →
      now s < t ∧ 1000000 ∣ t ∧ now (turn t s) = t ∧ P (turn t s))
    (rest : ∀ {s : S}, P s → now s ≤ target → (∀ t, next? s = some t → target < t) → P (wait s))
    {s : S} (start : P s) (ahead : now s ≤ target) :
    P (walk next? turn wait target ((target - now s) / 1000000 + 2) s) := by
  have enough : target / 1000000 < now s / 1000000 + ((target - now s) / 1000000 + 2) := by omega
  generalize (target - now s) / 1000000 + 2 = fuel at enough ⊢
  induction fuel generalizing s with
  | zero => omega
  | succ fuel ih =>
      cases next : next? s with
      | none =>
          simp only [walk, next]
          exact rest start ahead (by simp [next])
      | some t =>
          by_cases soon : t ≤ target
          · obtain ⟨later, whole, reached, kept⟩ := step start next soon
            simp only [walk, next, if_pos soon]
            refine ih kept (by rw [reached]; exact soon) ?_
            rw [reached]
            exact millis_lt later whole enough
          · simp only [walk, next, if_neg soon]
            refine rest start ahead ?_
            intro u hu
            rw [next] at hu
            cases hu
            exact Nat.lt_of_not_le soon

end Clock

theorem WorkloadSettings.dvd_unit (s : WorkloadSettings) : 1000000 ∣ s.unit.nanos :=
  ⟨s.unitMs.toNat, rfl⟩

theorem Task.dvd_nextUnit (now : Instant) (s : WorkloadSettings) :
    1000000 ∣ (nextUnit now s).due := by
  simp only [nextUnit]
  rcases Nat.le_total (Clock.wake now s.unit) (Clock.tick (now + 1)) with le | le
  · rw [Nat.max_eq_right le]
    exact Clock.dvd_tick _
  · rw [Nat.max_eq_left le]
    exact Clock.dvd_tick _

namespace Engine

variable {D : Type}

/-- Every timer is set for a whole millisecond. -/
def Timely (e : Engine D) : Prop := ∀ t ∈ e.tasks, 1000000 ∣ t.due

end Engine

namespace Scene

variable {D : Type} {s t : Scene D} {m : Move D}

/-- Every timer that runs is set for a whole millisecond. Work that has not had its first turn has
none. -/
def Timely (s : Scene D) : Prop :=
  ∀ task ∈ s.engine.tasks, s.engine.now < task.due → 1000000 ∣ task.due

theorem timely_of_move? (h : s.move? m = some t) (sound : s.Sound) (timely : s.Timely) :
    t.Timely := by
  have later := now_le_of_move? h sound
  have old {task : Task} (inside : task ∈ s.engine.tasks) (runs : t.engine.now < task.due) :
      1000000 ∣ task.due :=
    timely task inside (Nat.lt_of_le_of_lt later runs)
  intro task inside runs
  cases sound.labour h with
  | keep unasked others tasks => exact old (tasks ▸ inside) runs
  | letIn x due lets isOpen turn tasks register units now =>
      rw [tasks] at inside
      rcases List.mem_append.mp inside with before | last
      · exact old before runs
      · cases List.mem_singleton.mp last
        rcases turn with ⟨_, rfl, _⟩ | ⟨_, rfl, _⟩
        · exact Clock.dvd_wake _ _
        · exact absurd runs (Nat.not_lt_of_le (Nat.le_of_eq now.symm))
  | start i n x task number here newcomer tasks =>
      rw [tasks] at inside
      rcases List.mem_or_eq_of_mem_set inside with before | rfl
      · exact old before runs
      · exact Clock.dvd_wake _ _
  | goOn i n task number here begun due worker isOpen tasks =>
      rw [tasks] at inside
      rcases List.mem_or_eq_of_mem_set inside with before | rfl
      · exact old before runs
      · exact Task.dvd_nextUnit _ _
  | leave i n task number here begun due last tasks =>
      rw [tasks] at inside
      exact old (List.mem_of_mem_eraseIdx inside) runs

theorem Timely.engine (h : s.Timely)
    (running : ∀ task ∈ s.engine.tasks, s.engine.now < task.due) : s.engine.Timely :=
  fun task inside => h task inside (running task inside)

theorem Reachable.timely (h : s.Reachable) : s.Timely := by
  obtain ⟨grace, settings, desk, ms, hrun⟩ := h
  exact (sound_fresh grace settings desk).run_invariant timely_of_move? hrun
    fun _ none => nomatch none

end Scene

namespace Engine

variable {D : Type} {handler : Handler D}

/-- The timers that are running, that of the deadline included. -/
def dues (e : Engine D) : List Instant := e.deadline?.toList ++ e.tasks.map (·.due)

theorem Timely.dvd_of_mem_dues {e : Engine D} (timely : e.Timely) {u : Nat} (hu : u ∈ e.dues) :
    1000000 ∣ u := by
  rcases List.mem_append.mp hu with deadline | task
  · unfold deadline? at deadline
    split at deadline
    · cases Option.mem_toList.mp deadline
      exact Clock.dvd_tick _
    · cases deadline
  · obtain ⟨t, ht, rfl⟩ := List.mem_map.mp task
    exact timely t ht

theorem nextDue?_eq_some {e : Engine D} {t : Instant} (h : e.nextDue? = some t) :
    t ∈ e.dues ∧ ∀ u ∈ e.dues, t ≤ u :=
  List.min?_eq_some_iff.mp h

theorem lt_of_nextDue? {e : Engine D} {limit : Instant}
    (h : ∀ t, e.nextDue? = some t → limit < t) : ∀ u ∈ e.dues, limit < u := by
  intro u hu
  cases next : e.nextDue? with
  | none =>
      have none : e.dues = [] := List.min?_eq_none_iff.mp next
      rw [none] at hu
      cases hu
  | some t => exact Nat.lt_of_lt_of_le (h t next) ((nextDue?_eq_some next).2 u hu)

theorem advanceTo_eq_walk (handler : Handler D) (target : Instant) (fuel : Nat) (e : Engine D) :
    e.advanceTo handler target fuel =
      Clock.walk nextDue? (fun t e => ({ e with now := max e.now t }).settle handler)
        (fun e => { e with now := target }) target fuel e := by
  induction fuel generalizing e with
  | zero => rfl
  | succ fuel ih => cases next : e.nextDue? <;> simp only [advanceTo, Clock.walk, next, ih]

/-- What each timer keeps that goes off, and what waiting without one keeps, is kept however much
time passes. -/
theorem passUntil_induction {P : Engine D → Prop} {target : Nat}
    (turn : ∀ {e : Engine D} {t : Nat}, P e → e.nextDue? = some t → t ≤ target →
      e.now < t ∧ 1000000 ∣ t ∧ P ({ e with now := t }.settle handler))
    (wait : ∀ {e : Engine D}, P e → e.now ≤ target → (∀ u ∈ e.dues, target < u) →
      P { e with now := target })
    {e : Engine D} (start : P e) (ahead : e.now ≤ target) : P (e.passUntil handler target) := by
  rw [passUntil, advanceTo_eq_walk]
  refine Clock.walk_induction Engine.now ?_ ?_ start ahead
  · intro f t kept next soon
    obtain ⟨later, whole, settled⟩ := turn kept next soon
    have passed : max f.now t = t := Nat.max_eq_right (Nat.le_of_lt later)
    rw [passed]
    exact ⟨later, whole, settle_now handler _, settled⟩
  · intro f kept before none
    exact wait kept before (lt_of_nextDue? none)

end Engine

end Quiesce
