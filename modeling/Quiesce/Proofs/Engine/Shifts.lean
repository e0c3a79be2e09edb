import Mathlib.Algebra.BigOperators.Group.Finset.Piecewise
import Mathlib.Order.Bounds.Basic
import Quiesce.Proofs.Engine.Punctual

/-!
The shifts of workers. A shift is the list of the boundaries of a worker's units: the first turn,
and each end of a unit. A unit begins where the one before ended, and takes the time that is in
force at its beginning; where each timer goes off when it is due, that is where it ends. A move
that brings a worker to a boundary adds it to the shift, and all other moves leave the shifts as
they are.
-/
namespace Quiesce

namespace Clock

theorem tick_le_of_dvd {a b : Nat} (le : a ≤ b) (whole : 1000000 ∣ b) : tick a ≤ b := by
  change a + (1000000 - a % 1000000) % 1000000 ≤ b
  omega

theorem tick_le_tick {a b : Nat} (le : a ≤ b) : tick a ≤ tick b :=
  tick_le_of_dvd (Nat.le_trans le (le_tick b)) (dvd_tick b)

/-- A timer is set for the first whole millisecond that leaves the time it is to take. -/
theorem isLeast_wake {now : Nat} {d : Duration} (reach : now + d.nanos < horizon) :
    IsLeast {t : Nat | 1000000 ∣ t ∧ now + d.nanos ≤ t} (wake now d) := by
  have woken : wake now d = tick (now + d.nanos) := by
    simp only [wake, after?, if_pos reach, Option.getD_some]
  rw [woken]
  exact ⟨⟨dvd_tick _, le_tick _⟩, fun t later => tick_le_of_dvd later.2 later.1⟩

end Clock

/-- A unit that takes time is over when its time is. -/
theorem Task.nextUnit_due {settings : WorkloadSettings} (takes : settings.unitMs ≠ 0)
    (now : Instant) : (nextUnit now settings).due = Clock.wake now settings.unit := by
  have nanos : settings.unit.nanos = 1000000 * settings.unitMs.toNat := rfl
  have some : settings.unitMs.toNat ≠ 0 := fun none => takes (UInt64.toNat_inj.mp none)
  refine Nat.max_eq_left (Clock.tick_le_tick ?_)
  unfold Clock.after? Clock.ages
  split
  · rw [Option.getD_some]
    omega
  · rw [Option.getD_none]
    omega

/-- Where a unit of a worker begins: at its first turn, or at the end of the unit before. -/
structure Boundary where
  worker : Nat
  instant : Instant
  /-- The time that a unit takes by the settings in force. -/
  unit : Duration
  deriving DecidableEq

namespace Boundary

/-- When the timer goes off that is set here. -/
def next (b : Boundary) : Instant := Clock.wake b.instant b.unit

/-- The second boundary is where the unit ends that begins at the first. -/
def Adjoins (a b : Boundary) : Prop := b.instant = a.next

instance : DecidableRel Adjoins := fun a b => inferInstanceAs (Decidable (b.instant = a.next))

end Boundary

namespace Scene

variable {D : Type} {s t : Scene D} {m : Move D} {past : List (Scene D × Move D)}

/-- The boundary that a worker comes to by this move. -/
def boundary? (s : Scene D) : Move D → Option Boundary
  | .enter .worker =>
    if (s.engine.enter .worker).1 then
      some ⟨s.register.begun, s.engine.now, s.engine.pool.settings.unit⟩
    else none
  | .fire i =>
    match s.register.live[i]?, s.engine.tasks[i]? with
    | some n, some ⟨.worker, _⟩ => some ⟨n, s.engine.now, s.engine.pool.settings.unit⟩
    | _, _ => none
  | _ => none

/-- The boundaries that the worker of that number came to, its first turn first. -/
def shift (n : Nat) (past : List (Scene D × Move D)) : List Boundary :=
  (past.filterMap fun (s, m) => s.boundary? m).filter (·.worker = n)

/-- The units that the worker of that number completed. -/
def completed (n : Nat) (past : List (Scene D × Move D)) : Nat := (shift n past).tail.length

theorem shift_append (n : Nat) (past more : List (Scene D × Move D)) :
    shift n (past ++ more) = shift n past ++ shift n more := by
  simp [shift]

theorem shift_one_of_none (unmarked : s.boundary? m = none) (n : Nat) : shift n [(s, m)] = [] := by
  simp [shift, unmarked]

theorem shift_one_of_other {b : Boundary} (marked : s.boundary? m = some b) {n : Nat}
    (other : n ≠ b.worker) : shift n [(s, m)] = [] := by
  simp [shift, marked, Ne.symm other]

theorem shift_one_of_own {b : Boundary} (marked : s.boundary? m = some b) :
    shift b.worker [(s, m)] = [b] := by
  simp [shift, marked]

theorem shift_of_none (unmarked : s.boundary? m = none) (n : Nat) :
    shift n (past ++ [(s, m)]) = shift n past := by
  rw [shift_append, shift_one_of_none unmarked, List.append_nil]

/-- The boundaries of the others stay as they are. -/
theorem shift_of_other {b : Boundary} (marked : s.boundary? m = some b) {n : Nat}
    (other : n ≠ b.worker) : shift n (past ++ [(s, m)]) = shift n past := by
  rw [shift_append, shift_one_of_other marked other, List.append_nil]

theorem shift_of_own {b : Boundary} (marked : s.boundary? m = some b) :
    shift b.worker (past ++ [(s, m)]) = shift b.worker past ++ [b] := by
  rw [shift_append, shift_one_of_own marked]

/-- Where the work in flight stands after a history: the timer of a worker is set from the last
boundary of its shift, which begins with its first turn, and units are counted where they end. -/
structure Paced (s : Scene D) (past : List (Scene D × Move D)) : Prop where
  unseen : ∀ n, s.register.begun ≤ n → shift n past = []
  unbegun : ∀ n x, (n, x) ∈ s.newcomers → shift n past = []
  due : ∀ n task, s.Does n task → task.work = .worker → (∀ x, (n, x) ∉ s.newcomers) →
    ∃ b, (shift n past).getLast? = some b ∧ b.instant ≤ s.engine.now ∧ task.due = b.next
  adjoin : ∀ n, (shift n past).IsChain Boundary.Adjoins
  units : s.engine.pool.units = ∑ n ∈ Finset.range s.register.begun, completed n past
  atWork : s.engine.stage.isEnding = false → ∀ n, shift n past ≠ [] →
    ∃ task, s.Does n task ∧ task.work = .worker

theorem paced_fresh (grace : Duration) (settings : WorkloadSettings) (desk : D) :
    (fresh grace settings desk).Paced [] where
  unseen _ _ := rfl
  unbegun _ _ _ := rfl
  due n task does := by
    obtain ⟨i, number, _⟩ := does
    cases number
  adjoin _ := List.isChain_nil
  units := rfl
  atWork _ _ some := absurd rfl some

theorem boundary?_of_aside (s : Scene D) (unasked : s.lets? m = none)
    (others : ∀ i, m ≠ .fire i) : s.boundary? m = none := by
  cases m with
  | fire i => exact absurd rfl (others i)
  | enter x =>
      cases x with
      | worker =>
          simp only [lets?] at unasked
          split_ifs at unasked with granted
          exact if_neg granted
      | _ => rfl
  | _ => rfl

theorem boundary?_of_enter {x : Entry} (lets : s.lets? (.enter x) = some x) :
    s.boundary? (.enter x) = if x.work = .worker then
      some ⟨s.register.begun, s.engine.now, s.engine.pool.settings.unit⟩ else none := by
  simp only [lets?] at lets
  split_ifs at lets with granted
  cases x with
  | worker => exact if_pos granted
  | _ => rfl

theorem boundary?_of_takeIn {x : Entry} (lets : s.lets? m = some x) (others : ∀ y, m ≠ .enter y) :
    s.boundary? m = none := by
  cases m with
  | enter y => exact absurd rfl (others y)
  | fire _ => cases lets
  | _ => rfl

theorem boundary?_of_fire {i n : Nat} {task : Task} (number : s.register.live[i]? = some n)
    (here : s.engine.tasks[i]? = some task) : s.boundary? (.fire i) =
      if task.work = .worker then some ⟨n, s.engine.now, s.engine.pool.settings.unit⟩
      else none := by
  obtain ⟨work, due⟩ := task
  cases work <;> simp [boundary?, number, here]

/-- A move that leaves the work in flight as it is. -/
theorem Paced.keep (hs : s.Paced past) (tasks : t.engine.tasks = s.engine.tasks)
    (register : t.register = s.register) (newcomers : t.newcomers = s.newcomers)
    (units : t.engine.pool.units = s.engine.pool.units)
    (later : s.engine.now ≤ t.engine.now) (unmarked : s.boundary? m = none)
    (isOpen : t.engine.stage.isEnding = false → s.engine.stage.isEnding = false) :
    t.Paced (past ++ [(s, m)]) := by
  have same (n : Nat) : shift n (past ++ [(s, m)]) = shift n past := shift_of_none unmarked n
  have does (n : Nat) (task : Task) : t.Does n task ↔ s.Does n task := by
    simp only [Does, tasks, register]
  refine ⟨?_, ?_, ?_, ?_, ?_, ?_⟩
  · intro n new
    rw [same, hs.unseen n (register ▸ new)]
  · intro n x newcomer
    rw [same, hs.unbegun n x (newcomers ▸ newcomer)]
  · intro n task doing worker begun
    obtain ⟨b, last, before, due⟩ :=
      hs.due n task ((does n task).mp doing) worker (newcomers ▸ begun)
    exact ⟨b, (same n).symm ▸ last, Nat.le_trans before later, due⟩
  · intro n
    rw [same]
    exact hs.adjoin n
  · rw [units, register, hs.units]
    simp only [completed, same]
  · intro opened n some
    obtain ⟨task, doing, worker⟩ := hs.atWork (isOpen opened) n (same n ▸ some)
    exact ⟨task, (does n task).mpr doing, worker⟩

/-- Work that is let in has its number from then on. A worker that has its first turn at once is at
its first boundary, and nobody else is at one. -/
theorem Paced.letIn (hs : s.Paced past) (sound : s.Sound) {x : Entry} {due : Instant}
    {new : List Boundary} (isOpen : s.engine.stage.isEnding = false)
    (tasks : t.engine.tasks = s.engine.tasks ++ [⟨x.work, due⟩])
    (register : t.register = s.register.enroll)
    (units : t.engine.pool.units = s.engine.pool.units) (now : t.engine.now = s.engine.now)
    (old : ∀ n, n ≠ s.register.begun → shift n (past ++ [(s, m)]) = shift n past)
    (own : shift s.register.begun (past ++ [(s, m)]) = new)
    (one : new = [] ∨ x.work = .worker ∧
      ∃ b : Boundary, new = [b] ∧ b.instant = s.engine.now ∧ due = b.next)
    (wait : ∀ n y, (n, y) ∈ s.newcomers → (n, y) ∈ t.newcomers)
    (waits : ∀ n y, (n, y) ∈ t.newcomers → (n, y) ∈ s.newcomers ∧ n ≠ s.register.begun ∨
      n = s.register.begun ∧ new = [])
    (turn : x.work = .worker → (∀ y, (s.register.begun, y) ∉ t.newcomers) → new ≠ []) :
    t.Paced (past ++ [(s, m)]) := by
  have length : s.register.live.length = s.engine.tasks.length := sound.balanced.length
  have does (n : Nat) (task : Task) : t.Does n task ↔ s.Does n task ∨
      n = s.register.begun ∧ task = ⟨x.work, due⟩ := by
    rw [Does, tasks, register]
    exact paired_concat length
  refine ⟨?_, ?_, ?_, ?_, ?_, ?_⟩
  · intro n later
    have beyond : s.register.begun < n := by
      rw [register] at later
      exact later
    rw [old n (Nat.ne_of_gt beyond), hs.unseen n (Nat.le_of_lt beyond)]
  · intro n y newcomer
    rcases waits n y newcomer with ⟨before, other⟩ | ⟨rfl, none⟩
    · rw [old n other, hs.unbegun n y before]
    · rw [own, none]
  · intro n task doing worker begun
    rcases (does n task).mp doing with before | ⟨rfl, rfl⟩
    · obtain ⟨b, last, started, set⟩ :=
        hs.due n task before worker fun y inside => begun y (wait n y inside)
      refine ⟨b, ?_, now ▸ started, set⟩
      rw [old n (Nat.ne_of_lt (sound.lt_begun before)), last]
    · rcases one with none | ⟨_, b, single, started, set⟩
      · exact absurd none (turn worker begun)
      · exact ⟨b, by rw [own, single]; rfl, Nat.le_of_eq (started.trans now.symm), set⟩
  · intro n
    by_cases other : n = s.register.begun
    · subst other
      rw [own]
      rcases one with rfl | ⟨_, b, rfl, _⟩
      · exact List.isChain_nil
      · exact List.isChain_singleton _
    · rw [old n other]
      exact hs.adjoin n
  · have none : completed s.register.begun (past ++ [(s, m)]) = 0 := by
      rw [completed, own]
      rcases one with rfl | ⟨_, b, rfl, _⟩ <;> rfl
    have before : ∀ n ∈ Finset.range s.register.begun,
        completed n (past ++ [(s, m)]) = completed n past := fun n inside => by
      rw [completed, old n (Nat.ne_of_lt (Finset.mem_range.mp inside)), completed]
    have enrolled : t.register.begun = s.register.begun + 1 := by rw [register]; rfl
    rw [units, hs.units, enrolled, Finset.sum_range_succ, none, Nat.add_zero,
      Finset.sum_congr rfl before]
  · intro _ n some
    by_cases other : n = s.register.begun
    · subst other
      rw [own] at some
      rcases one with none | ⟨worker, _⟩
      · exact absurd none some
      · exact ⟨_, (does _ _).mpr (.inr ⟨rfl, rfl⟩), worker⟩
    · obtain ⟨task, doing, worker⟩ := hs.atWork isOpen n (old n other ▸ some)
      exact ⟨task, (does n task).mpr (.inl doing), worker⟩

theorem Entry.time_of_worker {x : Entry} (worker : x.work = .worker)
    (settings : WorkloadSettings) : x.time settings = settings.unit := by
  cases x <;> cases worker
  rfl

/-- Work that is let in has its first turn at once, or is still to have it. -/
theorem Paced.turn (hs : s.Paced past) (sound : s.Sound) (awaited : s.Awaited) {x : Entry}
    {due : Instant} (lets : s.lets? m = some x) (isOpen : s.engine.stage.isEnding = false)
    (turn : m = .enter x ∧ due = Clock.wake s.engine.now (x.time s.engine.pool.settings) ∧
        t.newcomers = s.newcomers ∨
      (∀ y, m ≠ .enter y) ∧ due = s.engine.now ∧
        t.newcomers = s.newcomers ++ [(s.register.begun, x)])
    (tasks : t.engine.tasks = s.engine.tasks ++ [⟨x.work, due⟩])
    (register : t.register = s.register.enroll)
    (units : t.engine.pool.units = s.engine.pool.units) (now : t.engine.now = s.engine.now) :
    t.Paced (past ++ [(s, m)]) := by
  have nobody : shift s.register.begun past = [] := hs.unseen _ (Nat.le_refl _)
  have apart {n : Nat} {y : Entry} (inside : (n, y) ∈ s.newcomers) : n ≠ s.register.begun := by
    obtain ⟨task, doing, _⟩ := awaited n y inside
    exact Nat.ne_of_lt (sound.lt_begun doing)
  rcases turn with ⟨rfl, rfl, newcomers⟩ | ⟨others, rfl, newcomers⟩
  · have marked := boundary?_of_enter lets
    have before {n : Nat} {y : Entry} (inside : (n, y) ∈ t.newcomers) :
        (n, y) ∈ s.newcomers ∧ n ≠ s.register.begun :=
      ⟨newcomers ▸ inside, apart (newcomers ▸ inside)⟩
    split_ifs at marked with worker
    · have own : shift s.register.begun (past ++ [(s, .enter x)]) = _ := shift_of_own marked
      rw [nobody, List.nil_append] at own
      refine hs.letIn sound isOpen tasks register units now (fun n => shift_of_other marked) own
        (.inr ⟨worker, _, rfl, rfl, ?_⟩) (fun n y inside => newcomers ▸ inside)
        (fun n y inside => .inl (before inside)) fun _ _ => List.cons_ne_nil _ _
      rw [Entry.time_of_worker worker]
      rfl
    · exact hs.letIn sound isOpen tasks register units now (fun n _ => shift_of_none marked n)
        ((shift_of_none marked _).trans nobody) (.inl rfl) (fun n y inside => newcomers ▸ inside)
        (fun n y inside => .inl (before inside)) fun is => absurd is worker
  · have unmarked := boundary?_of_takeIn lets others
    refine hs.letIn sound isOpen tasks register units now (fun n _ => shift_of_none unmarked n)
      ((shift_of_none unmarked _).trans nobody) (.inl rfl)
      (fun n y inside => newcomers ▸ List.mem_append_left _ inside) ?_ fun _ begun => ?_
    · intro n y inside
      rw [newcomers] at inside
      rcases List.mem_append.mp inside with before | last
      · exact .inl ⟨before, apart before⟩
      · cases List.mem_singleton.mp last
        exact .inr ⟨rfl, rfl⟩
    · exact absurd (newcomers ▸ List.mem_append_right _ List.mem_cons_self) (begun x)

/-- At its first turn a worker is at its first boundary. -/
theorem Paced.start (hs : s.Paced past) (sound : s.Sound) (awaited : s.Awaited) {i n : Nat}
    {x : Entry} {task : Task} (number : s.register.live[i]? = some n)
    (here : s.engine.tasks[i]? = some task) (newcomer : (n, x) ∈ s.newcomers)
    (isOpen : t.engine.stage.isEnding = false → s.engine.stage.isEnding = false)
    (tasks : t.engine.tasks = s.engine.tasks.set i
      ⟨task.work, Clock.wake s.engine.now (x.time s.engine.pool.settings)⟩)
    (register : t.register = s.register)
    (newcomers : t.newcomers = s.newcomers.filter (·.1 ≠ n))
    (units : t.engine.pool.units = s.engine.pool.units)
    (now : t.engine.now = s.engine.now) : t.Paced (past ++ [(s, .fire i)]) := by
  have marked := boundary?_of_fire number here
  have doing : s.Does n task := ⟨i, number, here⟩
  have kind : task.work = x.work := by
    obtain ⟨other, doingToo, kind, _⟩ := awaited n x newcomer
    rw [sound.does_unique doing doingToo, kind]
  have nothing : shift n past = [] := hs.unbegun n x newcomer
  have does (k : Nat) (u : Task) : t.Does k u ↔ k ≠ n ∧ s.Does k u ∨
      k = n ∧ u = ⟨task.work, Clock.wake s.engine.now (x.time s.engine.pool.settings)⟩ := by
    rw [Does, tasks, register]
    exact paired_set sound.nodup number here
  have waits {k : Nat} {y : Entry} : (k, y) ∈ t.newcomers ↔ (k, y) ∈ s.newcomers ∧ k ≠ n := by
    rw [newcomers, List.mem_filter]
    simp
  have old {k : Nat} (other : k ≠ n) : shift k (past ++ [(s, .fire i)]) = shift k past := by
    split_ifs at marked
    · exact shift_of_other marked other
    · exact shift_of_none marked k
  have own : shift n (past ++ [(s, .fire i)]) = if task.work = .worker then
      [⟨n, s.engine.now, s.engine.pool.settings.unit⟩] else [] := by
    split_ifs at marked ⊢
    · exact (shift_of_own marked).trans (by rw [nothing, List.nil_append])
    · exact (shift_of_none marked n).trans nothing
  refine ⟨?_, ?_, ?_, ?_, ?_, ?_⟩
  · intro k new
    have new : s.register.begun ≤ k := register ▸ new
    rw [old (Nat.ne_of_gt (Nat.lt_of_lt_of_le (sound.lt_begun doing) new)), hs.unseen k new]
  · intro k y inside
    obtain ⟨before, other⟩ := waits.mp inside
    rw [old other, hs.unbegun k y before]
  · intro k u does' worker begun
    rcases (does k u).mp does' with ⟨other, before⟩ | ⟨rfl, rfl⟩
    · obtain ⟨b, last, started, set⟩ :=
        hs.due k u before worker fun y inside => begun y (waits.mpr ⟨inside, other⟩)
      exact ⟨b, (old other).symm ▸ last, now ▸ started, set⟩
    · have worker : task.work = .worker := worker
      refine ⟨⟨k, s.engine.now, s.engine.pool.settings.unit⟩, ?_, Nat.le_of_eq now.symm, ?_⟩
      · rw [own, if_pos worker]
        rfl
      · exact congrArg (Clock.wake s.engine.now) (Entry.time_of_worker (kind ▸ worker) _)
  · intro k
    by_cases other : k = n
    · subst other
      rw [own]
      split
      · exact List.isChain_singleton _
      · exact List.isChain_nil
    · rw [old other]
      exact hs.adjoin k
  · have same (k : Nat) : completed k (past ++ [(s, .fire i)]) = completed k past := by
      by_cases other : k = n
      · subst other
        rw [completed, own, completed, nothing]
        split <;> rfl
      · rw [completed, old other, completed]
    rw [units, hs.units, register]
    simp only [same]
  · intro opened k some
    by_cases other : k = n
    · subst other
      rw [own] at some
      split at some
      · exact ⟨_, (does _ _).mpr (.inr ⟨rfl, rfl⟩), ‹_›⟩
      · exact absurd rfl some
    · obtain ⟨u, before, worker⟩ := hs.atWork (isOpen opened) k (old other ▸ some)
      exact ⟨u, (does k u).mpr (.inl ⟨other, before⟩), worker⟩

/-- Each timer goes off when it is due, at the next boundary of its worker. -/
theorem Paced.adjoin_fire (hs : s.Paced past) (ahead : s.Ahead) {n : Nat} {task : Task}
    {u : Duration} (doing : s.Does n task) (worker : task.work = .worker)
    (begun : ∀ x, (n, x) ∉ s.newcomers) (due : task.due ≤ s.engine.now)
    (marked : s.boundary? m = some ⟨n, s.engine.now, u⟩) (k : Nat) :
    (shift k (past ++ [(s, m)])).IsChain Boundary.Adjoins := by
  by_cases other : k = n
  · subst other
    rw [shift_of_own marked]
    refine List.isChain_append.mpr ⟨hs.adjoin k, List.isChain_singleton _, ?_⟩
    intro a last b first
    obtain ⟨c, same, _, set⟩ := hs.due k task doing worker begun
    cases last.symm.trans same
    cases first
    obtain ⟨i, _, here⟩ := doing
    exact (Nat.le_antisymm due (ahead task (List.mem_of_getElem? here))).symm.trans set
  · rw [shift_of_other marked other]
    exact hs.adjoin k

theorem Paced.units_fire (hs : s.Paced past) (sound : s.Sound) {n : Nat} {task : Task}
    {u : Duration} (doing : s.Does n task) (worker : task.work = .worker)
    (begun : ∀ x, (n, x) ∉ s.newcomers) (marked : s.boundary? m = some ⟨n, s.engine.now, u⟩) :
    s.engine.pool.units + 1 =
      ∑ k ∈ Finset.range s.register.begun, completed k (past ++ [(s, m)]) := by
  have more (k : Nat) : completed k (past ++ [(s, m)]) =
      completed k past + if k = n then 1 else 0 := by
    by_cases other : k = n
    · subst other
      obtain ⟨b, last, _⟩ := hs.due k task doing worker begun
      rw [completed, completed, shift_of_own marked, if_pos rfl]
      cases some : shift k past with
      | nil => simp [some] at last
      | cons c rest => simp
    · rw [completed, completed, shift_of_other marked other, if_neg other, Nat.add_zero]
  have counted : n ∈ Finset.range s.register.begun :=
    Finset.mem_range.mpr (sound.lt_begun doing)
  simp only [more, Finset.sum_add_distrib, Finset.sum_ite_eq', counted, ite_true, ← hs.units]

/-- A worker behind an open gate goes on to its next unit. -/
theorem Paced.goOn (hs : s.Paced past) (sound : s.Sound) (ahead : s.Ahead) {i n : Nat}
    {task : Task} (number : s.register.live[i]? = some n) (here : s.engine.tasks[i]? = some task)
    (begun : ∀ x, (n, x) ∉ s.newcomers) (due : task.due ≤ s.engine.now)
    (worker : task.work = .worker) (isOpen : s.engine.stage.isEnding = false)
    (takes : s.engine.pool.settings.unitMs ≠ 0)
    (tasks : t.engine.tasks =
      s.engine.tasks.set i (.nextUnit s.engine.now s.engine.pool.settings))
    (register : t.register = s.register) (newcomers : t.newcomers = s.newcomers)
    (units : t.engine.pool.units = s.engine.pool.units + 1)
    (now : t.engine.now = s.engine.now) : t.Paced (past ++ [(s, .fire i)]) := by
  have marked := boundary?_of_fire number here
  rw [if_pos worker] at marked
  have doing : s.Does n task := ⟨i, number, here⟩
  have next := Task.nextUnit_due takes s.engine.now
  have does (k : Nat) (u : Task) : t.Does k u ↔ k ≠ n ∧ s.Does k u ∨
      k = n ∧ u = .nextUnit s.engine.now s.engine.pool.settings := by
    rw [Does, tasks, register]
    exact paired_set sound.nodup number here
  refine ⟨?_, ?_, ?_, ?_, ?_, ?_⟩
  · intro k new
    have new : s.register.begun ≤ k := register ▸ new
    have other : k ≠ n := Nat.ne_of_gt (Nat.lt_of_lt_of_le (sound.lt_begun doing) new)
    rw [shift_of_other marked other, hs.unseen k new]
  · intro k y inside
    rw [newcomers] at inside
    have other : k ≠ n := by
      rintro rfl
      exact begun y inside
    rw [shift_of_other marked other, hs.unbegun k y inside]
  · intro k u does' worker' begun'
    rcases (does k u).mp does' with ⟨other, before⟩ | ⟨rfl, rfl⟩
    · obtain ⟨b, last, started, set⟩ := hs.due k u before worker' (newcomers ▸ begun')
      exact ⟨b, (shift_of_other marked other).symm ▸ last, now ▸ started, set⟩
    · refine ⟨⟨k, s.engine.now, s.engine.pool.settings.unit⟩, ?_, Nat.le_of_eq now.symm, next⟩
      rw [shift_of_own marked, List.getLast?_concat]
  · exact hs.adjoin_fire ahead doing worker begun due marked
  · rw [units, register]
    exact hs.units_fire sound doing worker begun marked
  · intro _ k some
    by_cases other : k = n
    · exact ⟨_, (does k _).mpr (.inr ⟨other, rfl⟩), rfl⟩
    · obtain ⟨u, before, worker'⟩ := hs.atWork isOpen k (shift_of_other marked other ▸ some)
      exact ⟨u, (does k u).mpr (.inl ⟨other, before⟩), worker'⟩

/-- Work that is done leaves. -/
theorem Paced.leave (hs : s.Paced past) (sound : s.Sound) (ahead : s.Ahead) {i n : Nat}
    {task : Task} (number : s.register.live[i]? = some n) (here : s.engine.tasks[i]? = some task)
    (unborn : ∀ x, (n, x) ∉ s.newcomers) (due : task.due ≤ s.engine.now)
    (last : task.work = .worker → s.engine.stage.isEnding = true)
    (isOpen : t.engine.stage.isEnding = false → s.engine.stage.isEnding = false)
    (tasks : t.engine.tasks = s.engine.tasks.eraseIdx i)
    (register : t.register = s.register.complete i) (newcomers : t.newcomers = s.newcomers)
    (units : t.engine.pool.units =
      s.engine.pool.units + (decide (task.work = .worker)).toNat)
    (now : t.engine.now = s.engine.now) : t.Paced (past ++ [(s, .fire i)]) := by
  have marked := boundary?_of_fire number here
  have doing : s.Does n task := ⟨i, number, here⟩
  have begun : t.register.begun = s.register.begun := by rw [register]; rfl
  have does (k : Nat) (u : Task) : t.Does k u ↔ k ≠ n ∧ s.Does k u := by
    rw [Does, tasks, register]
    exact paired_eraseIdx sound.nodup number
  have old {k : Nat} (other : k ≠ n) : shift k (past ++ [(s, .fire i)]) = shift k past := by
    split_ifs at marked
    · exact shift_of_other marked other
    · exact shift_of_none marked k
  refine ⟨?_, ?_, ?_, ?_, ?_, ?_⟩
  · intro k new
    have new : s.register.begun ≤ k := begun ▸ new
    rw [old (Nat.ne_of_gt (Nat.lt_of_lt_of_le (sound.lt_begun doing) new)), hs.unseen k new]
  · intro k y inside
    rw [newcomers] at inside
    have other : k ≠ n := by
      rintro rfl
      exact unborn y inside
    rw [old other, hs.unbegun k y inside]
  · intro k u does' worker begun'
    obtain ⟨other, before⟩ := (does k u).mp does'
    obtain ⟨b, latest, started, set⟩ := hs.due k u before worker (newcomers ▸ begun')
    exact ⟨b, (old other).symm ▸ latest, now ▸ started, set⟩
  · intro k
    split_ifs at marked with worker
    · exact hs.adjoin_fire ahead doing worker unborn due marked k
    · rw [shift_of_none marked]
      exact hs.adjoin k
  · rw [units, begun]
    split_ifs at marked with worker
    · rw [← hs.units_fire sound doing worker unborn marked, decide_eq_true worker]
      rfl
    · rw [decide_eq_false worker, hs.units]
      simp only [completed, shift_of_none marked]
      rfl
  · intro opened k some
    have errand : task.work ≠ .worker := fun worker =>
      absurd (isOpen opened) (by simp [last worker])
    rw [if_neg errand] at marked
    obtain ⟨u, before, worker⟩ := hs.atWork (isOpen opened) k (shift_of_none marked k ▸ some)
    refine ⟨u, (does k u).mpr ⟨?_, before⟩, worker⟩
    rintro rfl
    exact errand (sound.does_unique doing before ▸ worker)

theorem paced_of_move? (h : s.move? m = some t) (sound : s.Sound) (awaited : s.Awaited)
    (ahead : s.Ahead) (takes : s.engine.pool.settings.unitMs ≠ 0) (hs : s.Paced past) :
    t.Paced (past ++ [(s, m)]) := by
  have isOpen := isOpen_of_move? h sound
  have later := now_le_of_move? h sound
  cases sound.labour h with
  | keep unasked others tasks register newcomers units now =>
      exact hs.keep tasks register newcomers units later (s.boundary?_of_aside unasked others)
        isOpen
  | letIn x due lets opened turn tasks register units now =>
      exact hs.turn sound awaited lets opened turn tasks register units now
  | start i n x task number here newcomer tasks register newcomers units now =>
      exact hs.start sound awaited number here newcomer isOpen tasks register newcomers units now
  | goOn i n task number here begun due worker opened tasks register newcomers units now =>
      exact hs.goOn sound ahead number here begun due worker opened takes tasks register newcomers
        units now
  | leave i n task number here begun due last tasks register newcomers units now =>
      exact hs.leave sound ahead number here begun due last isOpen tasks register newcomers units
        now

end Scene

end Quiesce
