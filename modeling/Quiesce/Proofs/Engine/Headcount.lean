import Quiesce.Proofs.Engine.JobAccounts
import Quiesce.Proofs.Engine.Punctual

/-!
What is in flight, by kind: workers, jobs, and errands that only passed the gate. Of each kind as
much is in flight as was let in and has not ended. Workers do not end as long as the gate is open,
and launching them is all or nothing; so a drain that finds workers at work takes a unit of each.
-/
namespace Quiesce

namespace Engine

variable {D : Type}

/-- How much work of a kind is in flight. -/
def atWork (e : Engine D) (w : Work) : Nat := e.tasks.countP (·.work = w)

theorem inFlight_eq_atWork (e : Engine D) :
    e.inFlight = e.atWork .worker + e.atWork .job + e.atWork .errand := by
  unfold inFlight atWork
  induction e.tasks with
  | nil => rfl
  | cons t ts ih => cases kind : t.work <;> simp [kind] <;> omega

/-- Either all workers are launched, or none. -/
theorem launch_all_or_nothing (e : Engine D) :
    (∀ n, e.launch.1 = .ok n → n = e.pool.settings.workers.toNat ∧ e.launch.2 = { e with
      tasks := e.tasks ++ List.replicate n ⟨.worker, Clock.wake e.now e.pool.settings.unit⟩ }) ∧
    ∀ fault, e.launch.1 = .error fault → e.launch.2 = e := by
  cases ending : e.stage.isEnding with
  | false =>
      have admits : e.core.admitsLasting = true := (admitsLasting_iff e.core).mpr ending
      have launched := launchFrom_of_admits admits 0 e.pool.settings.workers.toNat
      simp only [launch, launched]
      refine ⟨fun n same => ?_, fun fault wrong => (by cases wrong)⟩
      cases same
      exact ⟨rfl, rfl⟩
  | true =>
      have refused := launchFrom_of_isEnding ending 0 e.pool.settings.workers.toNat
      by_cases none : e.pool.settings.workers.toNat = 0
      · rw [if_pos none] at refused
        simp only [launch, refused]
        refine ⟨fun n same => ?_, fun fault wrong => (by cases wrong)⟩
        cases same
        simp [none]
      · rw [if_neg none] at refused
        simp only [launch, refused]
        exact ⟨fun n same => (by cases same), fun _ _ => trivial⟩

end Engine

namespace Scene

variable {D : Type} {s t : Scene D} {m : Move D} {past : List (Scene D × Move D)}

/-- Whether work of that kind is let in by this move. -/
def letsIn (w : Work) (s : Scene D) (m : Move D) : Bool := (s.lets? m).any (·.work = w)

/-- Whether work of that kind ends by this move. Nothing ends at its first turn. -/
def ends (w : Work) (s : Scene D) : Move D → Bool
  | .fire i => (s.newcomer? i).isNone && s.engine.tasks[i]?.any fun task => task.work = w &&
      (task.next? s.engine.now s.engine.core.admissionClosed s.engine.pool.settings).isNone
  | _ => false

def letIn (w : Work) (past : List (Scene D × Move D)) : Nat :=
  past.countP fun (s, m) => s.letsIn w m

def ended (w : Work) (past : List (Scene D × Move D)) : Nat :=
  past.countP fun (s, m) => s.ends w m

theorem letIn_concat (w : Work) (past : List (Scene D × Move D)) (s : Scene D) (m : Move D) :
    letIn w (past ++ [(s, m)]) = letIn w past + (s.letsIn w m).toNat := by
  cases lets : s.letsIn w m <;> simp [letIn, lets]

theorem ended_concat (w : Work) (past : List (Scene D × Move D)) (s : Scene D) (m : Move D) :
    ended w (past ++ [(s, m)]) = ended w past + (s.ends w m).toNat := by
  cases ends : s.ends w m <;> simp [ended, ends]

theorem ends_of_aside (w : Work) (s : Scene D) (others : ∀ i, m ≠ .fire i) :
    s.ends w m = false := by
  cases m with
  | fire i => exact absurd rfl (others i)
  | _ => rfl

theorem ends_of_newcomer {i n : Nat} {x : Entry} (number : s.register.live[i]? = some n)
    (newcomer : (n, x) ∈ s.newcomers) (w : Work) : s.ends w (.fire i) = false := by
  cases first : s.newcomer? i with
  | none => exact absurd newcomer (newcomer?_eq_none first number x)
  | some _ => simp [ends, first]

theorem newcomer?_of_begun {i n : Nat} (number : s.register.live[i]? = some n)
    (begun : ∀ x, (n, x) ∉ s.newcomers) : s.newcomer? i = none := by
  cases first : s.newcomer? i with
  | none => rfl
  | some newcomer =>
      obtain ⟨number', inside⟩ := newcomer?_eq_some (n := newcomer.1) (x := newcomer.2) first
      rw [number] at number'
      cases number'
      exact absurd inside (begun _)

/-- A task whose timer is set anew stays the work that it was. -/
theorem atWork_set {e f : Engine D} {i : Nat} {task next : Task} (here : e.tasks[i]? = some task)
    (tasks : f.tasks = e.tasks.set i next) (same : next.work = task.work) (w : Work) :
    f.atWork w = e.atWork w := by
  obtain ⟨inside, _⟩ := List.getElem?_eq_some_iff.mp here
  have before := (Ledger.getElem?_perm here).countP_eq (·.work = w)
  have after := (List.set_perm_cons_eraseIdx inside next).countP_eq (·.work = w)
  simp only [Engine.atWork, tasks, List.countP_cons, same] at before after ⊢
  rw [after, before]

/-- Each move leaves as much of a kind in flight as was there, with what it lets in and without what
ends by it. -/
theorem Sound.atWork_of_move? (sound : s.Sound) (h : s.move? m = some t) (w : Work) :
    t.engine.atWork w + (s.ends w m).toNat = s.engine.atWork w + (s.letsIn w m).toNat := by
  cases sound.labour h with
  | keep unasked others tasks =>
      rw [Engine.atWork, tasks, letsIn, unasked, ends_of_aside w s others]
      rfl
  | letIn x due lets isOpen turn tasks =>
      have stays : s.ends w m = false := ends_of_aside w s (by rintro i rfl; cases lets)
      by_cases own : x.work = w <;> simp [Engine.atWork, tasks, letsIn, lets, stays, own]
  | start i n x task number here newcomer tasks =>
      rw [ends_of_newcomer number newcomer w, atWork_set here tasks rfl w]
      rfl
  | goOn i n task number here begun due worker isOpen tasks =>
      have opened : s.engine.core.admissionClosed = false := sound.core.admission.trans isOpen
      have goes : s.ends w (.fire i) = false := by
        simp [ends, here, Task.next?, worker, opened]
      rw [goes, atWork_set here tasks worker.symm w]
      rfl
  | leave i n task number here begun due last tasks =>
      have stops : (task.next? s.engine.now s.engine.core.admissionClosed
          s.engine.pool.settings).isNone = true := by
        rw [Option.isNone_iff_eq_none, Task.next?_eq_none_iff]
        exact fun worker => sound.core.admission.trans (last worker)
      have before := (Ledger.getElem?_perm here).countP_eq (·.work = w)
      simp only [Engine.atWork, tasks, letsIn, lets?, ends, newcomer?_of_begun number begun, here,
        stops, List.countP_cons, Option.any_some, Option.any_none, Option.isNone_none,
        Bool.true_and, Bool.and_true] at before ⊢
      rw [← before]
      by_cases own : task.work = w <;> simp [own]

theorem Sound.atWork_of_run (sound : s.Sound) {ms : List (Move D)} (hrun : s.run ms = some t)
    (w : Work) :
    t.engine.atWork w + ended w (s.history ms) = s.engine.atWork w + letIn w (s.history ms) := by
  refine sound.history_invariant (C := fun _ _ => True) (P := fun u past =>
    u.engine.atWork w + ended w past = s.engine.atWork w + letIn w past) ?_ hrun
    (fun _ _ => trivial) [] rfl
  intro u v m past moved soundOf _ before
  have step := soundOf.atWork_of_move? moved w
  rw [letIn_concat, ended_concat]
  omega

/-- A worker ends behind a closed gate only. -/
theorem Sound.isEnding_of_ends (sound : s.Sound) (ends : s.ends .worker m = true) :
    s.engine.stage.isEnding = true := by
  unfold Scene.ends at ends
  split at ends
  · rename_i i
    cases here : s.engine.tasks[i]? with
    | none => simp [here] at ends
    | some task =>
        simp only [here, Option.any_some, Bool.and_eq_true, decide_eq_true_iff] at ends
        obtain ⟨_, worker, last⟩ := ends
        have closed := Task.next?_eq_none_iff.mp (Option.isNone_iff_eq_none.mp last) worker
        exact sound.core.admission.symm.trans closed
  · cases ends

theorem isOpen_of_run {ms : List (Move D)} (hrun : s.run ms = some t) (sound : s.Sound)
    (isOpen : t.engine.stage.isEnding = false) : s.engine.stage.isEnding = false := by
  cases ending : s.engine.stage.isEnding with
  | false => rfl
  | true =>
      exact (Core.isEnding_of_rank_le (rank_le_of_run hrun sound) ending).symm.trans isOpen

theorem Sound.ended_worker (sound : s.Sound) {ms : List (Move D)} (hrun : s.run ms = some t) :
    t.engine.stage.isEnding = false → ended .worker (s.history ms) = 0 := by
  refine sound.history_invariant (C := fun _ _ => True) (P := fun u past =>
    u.engine.stage.isEnding = false → ended .worker past = 0) ?_ hrun (fun _ _ => trivial) []
    fun _ => rfl
  intro u v m past moved soundOf _ before isOpen
  -- A gate that is open now was so before: it is closed once and for all.
  have opened := isOpen_of_move? moved soundOf isOpen
  have stays : u.ends .worker m = false := by
    rw [Bool.eq_false_iff]
    intro ends
    exact Bool.noConfusion (opened.symm.trans (soundOf.isEnding_of_ends ends))
  rw [ended_concat, stays, before opened]
  rfl

/-- A worker that ends has completed a unit. -/
theorem Sound.units_of_move? (sound : s.Sound) (h : s.move? m = some t) :
    s.engine.pool.units + (s.ends .worker m).toNat ≤ t.engine.pool.units := by
  cases sound.labour h with
  | keep unasked others tasks register newcomers units =>
      rw [units, ends_of_aside .worker s others]
      exact Nat.le_refl _
  | letIn x due lets isOpen turn tasks register units =>
      rw [units, ends_of_aside .worker s (by rintro i rfl; cases lets)]
      exact Nat.le_refl _
  | start i n x task number here newcomer tasks register newcomers units =>
      rw [units, ends_of_newcomer number newcomer .worker]
      exact Nat.le_refl _
  | goOn i n task number here begun due worker isOpen tasks register newcomers units =>
      rw [units]
      exact Nat.add_le_add_left (Bool.toNat_le _) _
  | leave i n task number here begun due last tasks register newcomers units =>
      rw [units]
      refine Nat.add_le_add_left ?_ _
      simp only [ends, newcomer?_of_begun number begun, here, Option.any_some, Option.isNone_none,
        Bool.true_and]
      cases decide (task.work = .worker) <;> simp [Bool.toNat_le]

theorem Sound.units_of_run (sound : s.Sound) {ms : List (Move D)} (hrun : s.run ms = some t) :
    s.engine.pool.units + ended .worker (s.history ms) ≤ t.engine.pool.units := by
  refine sound.history_invariant (C := fun _ _ => True) (P := fun u past =>
    s.engine.pool.units + ended .worker past ≤ u.engine.pool.units) ?_ hrun (fun _ _ => trivial) []
    (Nat.le_refl _)
  intro u v m past moved soundOf _ before
  have step := soundOf.units_of_move? moved
  rw [ended_concat]
  omega

/-- A drain that ends with the work has taken a unit of each worker that it found. -/
theorem Sound.units_of_drained (sound : s.Sound) {ms : List (Move D)} (hrun : s.run ms = some t)
    (drained : t.engine.core.ending = some .drained) :
    s.engine.pool.units + s.engine.atWork .worker ≤ t.engine.pool.units := by
  obtain ⟨nothing, _⟩ := (sound_of_run hrun sound).accounts_of_drained drained
  have none : t.engine.atWork .worker = 0 := by
    have all := t.engine.inFlight_eq_atWork
    omega
  have accounts := sound.atWork_of_run hrun .worker
  have units := sound.units_of_run hrun
  omega

/-- At the instant at which it is not due, work stays in flight. -/
theorem Sound.does_of_instant (sound : s.Sound) (awaited : s.Awaited) {ms : List (Move D)}
    (hrun : s.run ms = some t) (instant : t.engine.now = s.engine.now) {n : Nat} {task : Task}
    (doing : s.Does n task) (early : s.engine.now < task.due) : t.Does n task := by
  have kept := sound.run_invariant (P := fun u => u.Awaited ∧
    s.engine.now ≤ u.engine.now ∧ (u.engine.now = s.engine.now → u.Does n task)) ?_ hrun
    ⟨awaited, Nat.le_refl _, fun _ => doing⟩
  · exact kept.2.2 instant
  · rintro u v m moved soundOf ⟨awaitedOf, later, before⟩
    have goesOn := now_le_of_move? moved soundOf
    refine ⟨awaited_of_move? moved soundOf awaitedOf, Nat.le_trans later goesOn, ?_⟩
    intro same
    have stays : u.engine.now = s.engine.now := Nat.le_antisymm (same ▸ goesOn) later
    have still := before stays
    rcases soundOf.does_of_move? moved still with done | ⟨i, rfl, number⟩
    · exact done
    · rcases fire?_eq_some moved with ⟨⟨k, x⟩, first, _⟩ | ⟨_, e, fired, _⟩
      · -- Work that has not had its first turn is due.
        obtain ⟨number', newcomer⟩ := newcomer?_eq_some first
        rw [number] at number'
        cases number'
        obtain ⟨other, doing, _, due⟩ := awaitedOf n x newcomer
        rw [soundOf.does_unique doing still, stays] at due
        exact absurd due (Nat.not_le_of_lt early)
      · obtain ⟨other, here, due, _⟩ := Engine.task_of_fire fired
        rw [soundOf.does_unique ⟨i, number, here⟩ still, stays] at due
        exact absurd due (Nat.not_le_of_lt early)

theorem AtRest.awaited (rest : s.AtRest) : s.Awaited := by
  intro n x inside
  rw [rest.newcomers] at inside
  cases inside

/-- A drain does not end with the work at an instant at which some is in flight and none is due. -/
theorem Sound.lt_of_drained (sound : s.Sound) (awaited : s.Awaited) {ms : List (Move D)}
    (hrun : s.run ms = some t) (drained : t.engine.core.ending = some .drained)
    (some : 0 < s.engine.inFlight)
    (early : ∀ task ∈ s.engine.tasks, s.engine.now < task.due) :
    s.engine.now < t.engine.now := by
  refine Nat.lt_of_le_of_ne (now_le_of_run hrun sound) ?_
  intro instant
  obtain ⟨task, here⟩ : ∃ task, s.engine.tasks[0]? = .some task :=
    ⟨_, List.getElem?_eq_getElem some⟩
  obtain ⟨n, number⟩ := sound.number_of_task here
  have still : t.Does n task := sound.does_of_instant awaited hrun instant.symm ⟨0, number, here⟩
    (early task (List.mem_of_getElem? here))
  obtain ⟨i, _, there⟩ := still
  obtain ⟨nothing, _⟩ := (sound_of_run hrun sound).accounts_of_drained drained
  rw [List.eq_nil_of_length_eq_zero nothing] at there
  cases there

/-- A launch lets in as many workers as it tells of, or none. -/
theorem Sound.letIn_of_launch (sound : s.Sound) : ∃ ms t, s.run ms = some t ∧
    t.engine = s.engine.launch.2 ∧
    letIn .worker (s.history ms) = s.engine.launch.1.toOption.getD 0 := by
  obtain ⟨tried, t, moves, _, launched⟩ := s.run_launch
  refine ⟨_, t, moves, launched, ?_⟩
  have none : ended .worker (s.history (List.replicate tried (.enter .worker))) = 0 := by
    refine List.countP_eq_zero.mpr fun p inside => ?_
    have enters := (List.mem_replicate.mp (mem_of_mem_history inside)).2
    simp [enters, ends]
  have accounts := sound.atWork_of_run moves .worker
  rw [none, launched] at accounts
  obtain ⟨all, nobody⟩ := s.engine.launch_all_or_nothing
  cases result : s.engine.launch.1 with
  | ok n =>
      rw [(all n result).2] at accounts
      simp [Engine.atWork, List.countP_replicate] at accounts
      simpa [Except.toOption] using accounts.symm
  | error fault =>
      rw [nobody fault result] at accounts
      simpa [Except.toOption] using accounts.symm

theorem Sound.atWork_le_of_run (sound : s.Sound) {ms : List (Move D)} (hrun : s.run ms = some t)
    (isOpen : t.engine.stage.isEnding = false) :
    s.engine.atWork .worker ≤ t.engine.atWork .worker := by
  have accounts := sound.atWork_of_run hrun .worker
  have none := sound.ended_worker hrun isOpen
  omega

/-- Whatever is asked of an engine after its workers are launched, they are all at work as long as
the gate is open; and a drain does not end with the work at an instant at which the gate was. -/
theorem manned_serveEach (handler : Handler D) (grace : Duration) (settings : WorkloadSettings)
    (desk : D) (requests : List Request) {e : Engine D}
    (asked : e = (fresh grace settings desk).engine.serveEach handler (.launch :: requests))
    (isOpen : e.stage.isEnding = false) :
    settings.workers.toNat ≤ e.atWork .worker ∧ (settings.workers ≠ 0 → ∀ more,
      (e.serveEach handler more).core.ending = some .drained →
        e.now < (e.serveEach handler more).now) := by
  have start := onTime_fresh grace settings desk
  obtain ⟨u, moves, rest, launched⟩ := run_ask handler start.rest .launch
  have instant : u.engine.now = (fresh grace settings desk).engine.now := by
    rw [launched]
    exact Engine.ask_now handler _ nofun
  have onTime : OnTime u u := (start.atOnce moves rest instant).refl
  have crew : u.engine.atWork .worker = settings.workers.toNat := by
    rw [launched, Engine.ask, Engine.launch_eq, Engine.launchFrom_of_admits rfl]
    simp [Engine.atWork, fresh, List.countP_replicate]
  have served : e = (u.engine.settle handler).serveEach handler requests := by
    rw [asked, launched]
    rfl
  obtain ⟨⟨s, reached, rfl⟩, ahead⟩ :=
    served ▸ (onTime.settle handler).serveEach handler requests
  obtain ⟨ms, hrun, _⟩ := reached.moves
  have manned := onTime.sound.atWork_le_of_run hrun isOpen
  refine ⟨crew ▸ manned, ?_⟩
  intro some more drained
  have rests : Rests s s.engine := ⟨⟨s, reached.refl, rfl⟩, ahead⟩
  obtain ⟨⟨t, later, same⟩, _⟩ := rests.serveEach handler more
  obtain ⟨ns, hruns, _⟩ := later.moves
  rw [← same] at drained ⊢
  refine reached.sound.lt_of_drained reached.rest.awaited hruns drained ?_ ?_
  · have all := s.engine.inFlight_eq_atWork
    have positive : settings.workers.toNat ≠ 0 := fun none => some (UInt64.toNat_inj.mp none)
    omega
  · exact fun task inside => ahead _ (List.mem_append_right _ (List.mem_map_of_mem inside))

end Scene

end Quiesce
