import Mathlib.Data.List.Nodup
import Quiesce.Proofs.Engine.SceneSound

/-!
The work in flight, move by move. Each piece has its number on the register, by which it is told
from the others. A piece comes in by the gate; at its first turn its timer is set for the end of its
time; when the timer goes off, a worker behind an open gate sets it for the next unit, and
everything else is done. No other move touches the work in flight, or the units that are counted,
and none the number of workers that are to be launched.
-/
namespace Quiesce

section Paired

variable {α β : Type} {ns : List α} {ts : List β} {n k : α} {t u : β} {i : Nat}

/-- Two elements that stand at the same position of their lists. -/
def Paired (ns : List α) (ts : List β) (n : α) (t : β) : Prop :=
  ∃ i : Nat, ns[i]? = some n ∧ ts[i]? = some t

theorem paired_concat (length : ns.length = ts.length) :
    Paired (ns ++ [n]) (ts ++ [t]) k u ↔ Paired ns ts k u ∨ k = n ∧ u = t := by
  constructor
  · rintro ⟨i, number, here⟩
    rcases Nat.lt_or_ge i ns.length with old | new
    · rw [List.getElem?_append_left old] at number
      rw [List.getElem?_append_left (length ▸ old)] at here
      exact .inl ⟨i, number, here⟩
    · rw [List.getElem?_append_right new] at number
      rw [List.getElem?_append_right (length ▸ new), ← length] at here
      cases last : i - ns.length with
      | zero =>
          rw [last] at number here
          cases number
          cases here
          exact .inr ⟨rfl, rfl⟩
      | succ j =>
          rw [last] at number
          cases number
  · rintro (⟨i, number, here⟩ | ⟨rfl, rfl⟩)
    · obtain ⟨old, _⟩ := List.getElem?_eq_some_iff.mp number
      refine ⟨i, ?_, ?_⟩
      · rwa [List.getElem?_append_left old]
      · rwa [List.getElem?_append_left (length ▸ old)]
    · exact ⟨ns.length, by simp, by simp [length]⟩

theorem index_eq (nodup : ns.Nodup) {j : Nat} (hi : ns[i]? = some n)
    (hj : ns[j]? = some n) : i = j := by
  obtain ⟨inside, rfl⟩ := List.getElem?_eq_some_iff.mp hi
  obtain ⟨insideToo, same⟩ := List.getElem?_eq_some_iff.mp hj
  exact (nodup.getElem_inj_iff.mp same).symm

theorem paired_set (nodup : ns.Nodup) {old : β} (number : ns[i]? = some n)
    (here : ts[i]? = some old) :
    Paired ns (ts.set i t) k u ↔ k ≠ n ∧ Paired ns ts k u ∨ k = n ∧ u = t := by
  obtain ⟨inside, _⟩ := List.getElem?_eq_some_iff.mp here
  constructor
  · rintro ⟨j, other, there⟩
    by_cases same : i = j
    · subst same
      rw [List.getElem?_set_self inside] at there
      rw [number] at other
      cases other
      cases there
      exact .inr ⟨rfl, rfl⟩
    · rw [List.getElem?_set_ne same] at there
      refine .inl ⟨?_, j, other, there⟩
      rintro rfl
      exact same (index_eq nodup number other)
  · rintro (⟨apart, j, other, there⟩ | ⟨rfl, rfl⟩)
    · have different : i ≠ j := by
        rintro rfl
        rw [number] at other
        exact apart (Option.some.inj other).symm
      exact ⟨j, other, by rwa [List.getElem?_set_ne different]⟩
    · exact ⟨i, number, List.getElem?_set_self inside⟩

theorem paired_eraseIdx (nodup : ns.Nodup) (number : ns[i]? = some n) :
    Paired (ns.eraseIdx i) (ts.eraseIdx i) k u ↔ k ≠ n ∧ Paired ns ts k u := by
  constructor
  · rintro ⟨j, other, there⟩
    rw [List.getElem?_eraseIdx] at other there
    split at other
    · rename_i before
      rw [if_pos before] at there
      refine ⟨?_, j, other, there⟩
      rintro rfl
      exact absurd (index_eq nodup number other) (by omega)
    · rename_i behind
      rw [if_neg behind] at there
      refine ⟨?_, j + 1, other, there⟩
      rintro rfl
      exact absurd (index_eq nodup number other) (by omega)
  · rintro ⟨apart, j, other, there⟩
    have different : i ≠ j := by
      rintro rfl
      rw [number] at other
      exact apart (Option.some.inj other).symm
    rcases Nat.lt_or_gt_of_ne different with behind | before
    · obtain ⟨j, rfl⟩ : ∃ l, j = l + 1 := ⟨j - 1, by omega⟩
      refine ⟨j, ?_, ?_⟩ <;> rw [List.getElem?_eraseIdx, if_neg (by omega)] <;> assumption
    · refine ⟨j, ?_, ?_⟩ <;> rw [List.getElem?_eraseIdx, if_pos (by omega)] <;> assumption

end Paired

/-- What is in flight has a number of its own, below those of work to come. -/
theorem Register.Complete.nodup {r : Register} (h : r.Complete) : r.live.Nodup :=
  ((List.nodup_append.mp (h.nodup_iff.mpr List.nodup_range)).2).1

theorem Register.Complete.lt_begun {r : Register} (h : r.Complete) {n : Nat} (live : n ∈ r.live) :
    n < r.begun :=
  List.mem_range.mp (h.mem_iff.mp (List.mem_append_right _ live))

namespace Engine

variable {D : Type} {e f : Engine D}

theorem enter_admits {x : Entry} (granted : (e.enter x).1 = true) :
    (e.enter x).2.tasks = e.tasks ++ [⟨x.work, Clock.wake e.now (x.time e.pool.settings)⟩] := by
  cases x with
  | worker =>
      by_cases admitted : e.core.admitsLasting = true
      · simp [enter, launchWorker, admitted, track, Entry.work, Entry.time]
      · simp [enter, launchWorker, admitted] at granted
  | job time =>
      cases refusal : e.pool.refusal? e.stage time with
      | some fault => simp [enter, submit, refusal, Except.isOk, Except.toBool] at granted
      | none => simp [enter, submit, refusal, track, Entry.work, Entry.time]
  | errand time =>
      by_cases admitted : e.core.admits = true
      · simp [enter, admitErrand, admitted, track, Entry.work, Entry.time]
      · simp [enter, admitErrand, admitted] at granted
  | lasting time =>
      by_cases admitted : e.core.admitsLasting = true
      · simp [enter, admitLastingErrand, admitted, track, Entry.work, Entry.time]
      · simp [enter, admitLastingErrand, admitted] at granted

/-- A timer that goes off leads on to the next unit of a worker, or else to the end of the work. -/
theorem task_of_fire {i : Nat} (h : e.fire i = some f) :
    ∃ task, e.tasks[i]? = some task ∧ task.due ≤ e.now ∧ f = { e with
      pool := e.pool.record task.work
      tasks := (task.next? e.now e.core.admissionClosed e.pool.settings).elim
        (e.tasks.eraseIdx i) (e.tasks.set i) } := by
  unfold fire at h
  split at h
  · cases h
  · rename_i task here
    split at h
    · rename_i due
      cases h
      refine ⟨task, here, due, ?_⟩
      cases task.next? e.now e.core.admissionClosed e.pool.settings <;> rfl
    · cases h

end Engine

theorem Task.next?_eq_some_iff {t next : Task} {now : Instant} {closed : Bool}
    {settings : WorkloadSettings} : t.next? now closed settings = some next ↔
      t.work = .worker ∧ closed = false ∧ next = nextUnit now settings := by
  unfold next?
  cases t.work <;> cases closed <;> simp [eq_comm]

theorem Task.next?_eq_none_iff {t : Task} {now : Instant} {closed : Bool}
    {settings : WorkloadSettings} : t.next? now closed settings = none ↔
      (t.work = .worker → closed = true) := by
  unfold next?
  cases t.work <;> cases closed <;> simp

namespace Scene

variable {D : Type} {s t : Scene D} {m : Move D}

/-- The work of that number is in flight, as that task. -/
def Does (s : Scene D) (n : Nat) (task : Task) : Prop :=
  Paired s.register.live s.engine.tasks n task

/-- Whose work is let in by a move, if some is. -/
def lets? (s : Scene D) : Move D → Option Entry
  | .enter x => if (s.engine.enter x).1 then some x else none
  | .takeIn x => if s.engine.opensFor x then some x else none
  | .proceed j =>
    match s.calls[j]? with
    | some (.fitting time) => if s.engine.opensFor (.job time) then some (.job time) else none
    | _ => none
  | _ => none

/-- What a move does to the work in flight. -/
inductive Labour (s t : Scene D) : Move D → Prop where
  | keep {m : Move D} (unasked : s.lets? m = none) (others : ∀ i, m ≠ .fire i)
      (tasks : t.engine.tasks = s.engine.tasks) (register : t.register = s.register)
      (newcomers : t.newcomers = s.newcomers)
      (units : t.engine.pool.units = s.engine.pool.units)
      (now : t.engine.now = s.engine.now ∨
        ∃ time, m = .pass time ∧ t.engine.now = s.engine.now + time)
      (workers : t.engine.pool.settings.workers = s.engine.pool.settings.workers) : Labour s t m
  /-- Work that is let in has its first turn at once or later. -/
  | letIn {m : Move D} (x : Entry) (due : Instant) (lets : s.lets? m = some x)
      (isOpen : s.engine.stage.isEnding = false)
      (turn : m = .enter x ∧ due = Clock.wake s.engine.now (x.time s.engine.pool.settings) ∧
          t.newcomers = s.newcomers ∨
        (∀ y, m ≠ .enter y) ∧ due = s.engine.now ∧
          t.newcomers = s.newcomers ++ [(s.register.begun, x)])
      (tasks : t.engine.tasks = s.engine.tasks ++ [⟨x.work, due⟩])
      (register : t.register = s.register.enroll)
      (units : t.engine.pool.units = s.engine.pool.units)
      (now : t.engine.now = s.engine.now)
      (workers : t.engine.pool.settings.workers = s.engine.pool.settings.workers) : Labour s t m
  | start (i n : Nat) (x : Entry) (task : Task) (number : s.register.live[i]? = some n)
      (here : s.engine.tasks[i]? = some task) (newcomer : (n, x) ∈ s.newcomers)
      (tasks : t.engine.tasks = s.engine.tasks.set i
        ⟨task.work, Clock.wake s.engine.now (x.time s.engine.pool.settings)⟩)
      (register : t.register = s.register)
      (newcomers : t.newcomers = s.newcomers.filter (·.1 ≠ n))
      (units : t.engine.pool.units = s.engine.pool.units)
      (now : t.engine.now = s.engine.now)
      (workers : t.engine.pool.settings.workers = s.engine.pool.settings.workers) :
      Labour s t (.fire i)
  | goOn (i n : Nat) (task : Task) (number : s.register.live[i]? = some n)
      (here : s.engine.tasks[i]? = some task) (begun : ∀ x, (n, x) ∉ s.newcomers)
      (due : task.due ≤ s.engine.now) (worker : task.work = .worker)
      (isOpen : s.engine.stage.isEnding = false)
      (tasks : t.engine.tasks =
        s.engine.tasks.set i (.nextUnit s.engine.now s.engine.pool.settings))
      (register : t.register = s.register) (newcomers : t.newcomers = s.newcomers)
      (units : t.engine.pool.units = s.engine.pool.units + 1)
      (now : t.engine.now = s.engine.now)
      (workers : t.engine.pool.settings.workers = s.engine.pool.settings.workers) :
      Labour s t (.fire i)
  | leave (i n : Nat) (task : Task) (number : s.register.live[i]? = some n)
      (here : s.engine.tasks[i]? = some task) (begun : ∀ x, (n, x) ∉ s.newcomers)
      (due : task.due ≤ s.engine.now)
      (last : task.work = .worker → s.engine.stage.isEnding = true)
      (tasks : t.engine.tasks = s.engine.tasks.eraseIdx i)
      (register : t.register = s.register.complete i) (newcomers : t.newcomers = s.newcomers)
      (units : t.engine.pool.units =
        s.engine.pool.units + (decide (task.work = .worker)).toNat)
      (now : t.engine.now = s.engine.now)
      (workers : t.engine.pool.settings.workers = s.engine.pool.settings.workers) :
      Labour s t (.fire i)

theorem Sound.number_of_task (hs : s.Sound) {i : Nat} {task : Task}
    (here : s.engine.tasks[i]? = some task) : ∃ n, s.register.live[i]? = some n := by
  obtain ⟨inside, _⟩ := List.getElem?_eq_some_iff.mp here
  have length : s.register.live.length = s.engine.tasks.length := hs.balanced.length
  exact ⟨_, List.getElem?_eq_getElem (length ▸ inside)⟩

theorem Sound.task_of_number (hs : s.Sound) {i n : Nat} (number : s.register.live[i]? = some n) :
    ∃ task, s.engine.tasks[i]? = some task := by
  obtain ⟨inside, _⟩ := List.getElem?_eq_some_iff.mp number
  have length : s.register.live.length = s.engine.tasks.length := hs.balanced.length
  exact ⟨_, List.getElem?_eq_getElem (length ▸ inside)⟩

/-- Moves that do not concern the work in flight leave it as it is. -/
theorem labour_of_aside (h : s.move? m = some t) (others : m.isWork = false) : Labour s t m := by
  cases m with
  | enter _ | takeIn _ | handIn _ | proceed _ | fire _ => cases others
  | pass time =>
      cases h
      exact .keep rfl nofun rfl rfl rfl rfl (.inr ⟨time, rfl, rfl⟩) rfl
  | markReady | signal _ | hangUp =>
      cases h
      exact .keep rfl nofun rfl rfl rfl rfl (.inl rfl) rfl
  | apply update =>
      cases h
      exact .keep rfl nofun rfl rfl rfl (s.engine.pool.apply_units update) (.inl rfl)
        (s.engine.pool.apply_workers update)
  | send k =>
      cases h
      obtain ⟨inbox, sent⟩ := s.engine.send_eq k
      rw [sent]
      exact .keep rfl nofun rfl rfl rfl rfl (.inl rfl) rfl
  | beginRun =>
      obtain ⟨granted, rfl⟩ := begin?_eq_some h
      rw [(Engine.beginRun_granted granted).2]
      exact .keep rfl nofun rfl rfl rfl rfl (.inl rfl) rfl
  | beginDrain =>
      obtain ⟨granted, rfl⟩ := begin?_eq_some h
      obtain ⟨runner, entered, _⟩ := s.engine.enterDrain_eq
      rw [(Engine.beginDrain_granted granted).2, entered]
      exact .keep rfl nofun rfl rfl rfl rfl (.inl rfl) rfl
  | discard =>
      obtain ⟨_, k, rest, _, rfl⟩ := discard?_eq_some h
      exact .keep rfl nofun rfl rfl rfl rfl (.inl rfl) rfl
  | elsewhere idle =>
      obtain ⟨_, rfl⟩ := elsewhere?_eq_some h
      exact .keep rfl nofun rfl rfl rfl rfl (.inl rfl) rfl
  | take =>
      obtain ⟨_, _, k, rest, _, rfl⟩ := take?_eq_some h
      exact .keep rfl nofun rfl rfl rfl rfl (.inl rfl) rfl
  | answer =>
      obtain ⟨k, _, rfl⟩ := answer?_eq_some h
      exact .keep rfl nofun rfl rfl rfl rfl (.inl rfl) rfl
  | act =>
      obtain ⟨k, r, _, ⟨_, _, rfl⟩ | ⟨_, _, rfl⟩ | ⟨_, rfl⟩ | rfl⟩ := act?_eq_some h
      · obtain ⟨runner, entered, _⟩ := s.engine.enterDrain_eq
        rw [entered]
        exact .keep rfl nofun rfl rfl rfl rfl (.inl rfl) rfl
      all_goals exact .keep rfl nofun rfl rfl rfl rfl (.inl rfl) rfl
  | served desk update =>
      obtain ⟨_, rfl⟩ := served_eq_some h
      cases update with
      | none => exact .keep rfl nofun rfl rfl rfl rfl (.inl rfl) rfl
      | some update =>
          exact .keep rfl nofun rfl rfl rfl (s.engine.pool.apply_units update) (.inl rfl)
            (s.engine.pool.apply_workers update)
  | brokeOff cause =>
      obtain ⟨_, rfl⟩ := brokeOff_eq_some h
      exact .keep rfl nofun rfl rfl rfl rfl (.inl rfl) rfl
  | hearClosed =>
      obtain ⟨_, _, _, ⟨_, rfl⟩ | ⟨deadline, _, rfl⟩⟩ := hearClosed?_eq_some h
      all_goals exact .keep rfl nofun rfl rfl rfl rfl (.inl rfl) rfl
  | seeIdle =>
      obtain ⟨_, _, _, rfl⟩ := seeIdle?_eq_some h
      exact .keep rfl nofun rfl rfl rfl rfl (.inl rfl) rfl
  | seeLate =>
      obtain ⟨_, _, rfl⟩ := seeLate?_eq_some h
      exact .keep rfl nofun rfl rfl rfl rfl (.inl rfl) rfl
  | finish =>
      obtain ⟨_, rfl⟩ | ⟨_, rfl⟩ := finish?_eq_some h
      all_goals exact .keep rfl nofun rfl rfl rfl rfl (.inl rfl) rfl

theorem labour_of_enter (s : Scene D) (x : Entry) : Labour s (s.enter x) (.enter x) := by
  cases granted : (s.engine.enter x).1 with
  | false =>
      obtain ⟨n, refused⟩ := Engine.enter_refused granted
      refine .keep (by simp [lets?, granted]) nofun ?_ ?_ rfl ?_ (.inl ?_) ?_ <;>
        simp [enter, granted, refused]
  | true =>
      obtain ⟨isOpen, task, entered⟩ := Engine.enter_granted granted
      refine .letIn x _ (by simp [lets?, granted]) isOpen (.inl ⟨rfl, rfl, rfl⟩)
        (Engine.enter_admits granted) ?_ ?_ ?_ ?_ <;> simp [enter, granted, entered]

theorem labour_of_takeIn {x : Entry} (h : s.takeIn? x = some t) : Labour s t (.takeIn x) := by
  obtain ⟨_, ⟨opens, rfl⟩ | ⟨closed, rfl⟩⟩ := takeIn?_eq_some h
  · exact .letIn x s.engine.now (if_pos opens) (Engine.isEnding_of_opensFor opens)
      (.inr ⟨nofun, rfl, rfl⟩) rfl rfl rfl rfl rfl
  · exact .keep (by simp [lets?, closed]) nofun rfl rfl rfl rfl (.inl rfl) rfl

theorem labour_of_proceed {j : Nat} (h : s.proceed? j = some t) : Labour s t (.proceed j) := by
  obtain ⟨call, u, next, here, stepped, rfl⟩ := proceed?_eq_some h
  have others : ∀ i, (.proceed j : Move D) ≠ .fire i := by
    intro i same
    cases same
  have apart : ∀ y, (.proceed j : Move D) ≠ .enter y := by
    intro y same
    cases same
  have unasked (elsewhere : ∀ time, call ≠ .fitting time) : s.lets? (.proceed j) = none := by
    simp only [lets?, here]
    split
    · rename_i time same
      exact absurd (Option.some.inj same) (elsewhere time)
    · rfl
  cases call with
  | fitting time =>
      simp only [step?] at stepped
      split_ifs at stepped with opens <;> cases stepped
      · exact .letIn (.job time) s.engine.now (by simp [lets?, here, opens])
          (Engine.isEnding_of_opensFor opens) (.inr ⟨apart, rfl, rfl⟩) rfl rfl rfl rfl rfl
      · exact .keep (by simp [lets?, here, opens]) others rfl rfl rfl rfl (.inl rfl) rfl
  | sized time =>
      have unasked := unasked (by intro other same; cases same)
      simp only [step?] at stepped
      split_ifs at stepped <;> cases stepped <;>
        exact .keep unasked others rfl rfl rfl rfl (.inl rfl) rfl
  | unsized | tooLong _ _ | admitted _ | turnedAway _ | refused _ =>
      have unasked := unasked (by intro other same; cases same)
      cases stepped
      exact .keep unasked others rfl rfl rfl rfl (.inl rfl) rfl
  | answered _ _ => cases stepped

theorem Sound.labour_of_fire (hs : s.Sound) {i : Nat} (h : s.fire? i = some t) :
    Labour s t (.fire i) := by
  obtain ⟨⟨n, x⟩, first, rfl⟩ | ⟨later, e, fired, rfl⟩ := fire?_eq_some h
  · obtain ⟨number, newcomer⟩ := newcomer?_eq_some first
    obtain ⟨task, here⟩ := hs.task_of_number number
    refine .start i n x task number here newcomer ?_ rfl rfl rfl rfl rfl
    simp only [firstTurn, List.modify_eq_set_getElem?, here]
    rfl
  obtain ⟨task, here, due, rfl⟩ := Engine.task_of_fire fired
  obtain ⟨n, number⟩ := hs.number_of_task here
  obtain ⟨inside, _⟩ := List.getElem?_eq_some_iff.mp here
  have begun := newcomer?_eq_none later number
  have settings := congrArg WorkloadSettings.workers (s.engine.pool.record_settings task.work)
  cases next : task.next? s.engine.now s.engine.core.admissionClosed s.engine.pool.settings with
  | some again =>
      obtain ⟨worker, opened, rfl⟩ := Task.next?_eq_some_iff.mp next
      have isOpen : s.engine.stage.isEnding = false := hs.core.admission.symm.trans opened
      refine .goOn i n task number here begun due worker isOpen ?_ ?_ rfl ?_ rfl settings
      · rfl
      · simp [Engine.inFlight]
      · simp [Pool.record, worker]
  | none =>
      have last : task.work = .worker → s.engine.stage.isEnding = true := fun worker =>
        hs.core.admission.symm.trans (Task.next?_eq_none_iff.mp next worker)
      have fewer : (s.engine.tasks.eraseIdx i).length < s.engine.tasks.length := by
        rw [List.length_eraseIdx_of_lt inside]
        omega
      refine .leave i n task number here begun due last ?_ ?_ rfl ?_ rfl settings
      · rfl
      · simp [Engine.inFlight, fewer]
      · cases kind : task.work <;> simp [Pool.record]

theorem Sound.nodup (hs : s.Sound) : s.register.live.Nodup := hs.balanced.register.nodup

theorem Sound.does_unique (hs : s.Sound) {n : Nat} {task other : Task} (doing : s.Does n task)
    (too : s.Does n other) : task = other := by
  obtain ⟨i, number, here⟩ := doing
  obtain ⟨j, number', there⟩ := too
  rw [index_eq hs.nodup number' number, here] at there
  exact Option.some.inj there

theorem Sound.lt_begun (hs : s.Sound) {n : Nat} {task : Task} (does : s.Does n task) :
    n < s.register.begun := by
  obtain ⟨i, number, _⟩ := does
  exact hs.balanced.register.lt_begun (List.mem_of_getElem? number)

theorem Sound.labour (hs : s.Sound) (h : s.move? m = some t) : Labour s t m := by
  cases m with
  | enter x =>
      cases h
      exact labour_of_enter s x
  | takeIn x => exact labour_of_takeIn h
  | handIn time =>
      cases h
      exact .keep rfl nofun rfl rfl rfl rfl (.inl rfl) rfl
  | proceed j => exact labour_of_proceed h
  | fire i => exact hs.labour_of_fire h
  | _ => exact labour_of_aside h rfl

/-- A unit under way ends by its own timer alone: no other move touches it. -/
theorem Sound.does_of_move? (sound : s.Sound) (h : s.move? m = some t) {n : Nat} {task : Task}
    (doing : s.Does n task) :
    t.Does n task ∨ ∃ i : Nat, m = .fire i ∧ s.register.live[i]? = some n := by
  cases sound.labour h with
  | keep unasked others tasks register => exact .inl (by rwa [Does, tasks, register])
  | letIn x due lets isOpen turn tasks register =>
      have length : s.register.live.length = s.engine.tasks.length := sound.balanced.length
      rw [Does, tasks, register]
      exact .inl ((paired_concat length).mpr (.inl doing))
  | start i k x other number here newcomer tasks register
  | goOn i k other number here begun due worker isOpen tasks register =>
      by_cases same : n = k
      · exact .inr ⟨i, rfl, same ▸ number⟩
      · rw [Does, tasks, register]
        exact .inl ((paired_set sound.nodup number here).mpr (.inl ⟨same, doing⟩))
  | leave i k other number here begun due last tasks register =>
      by_cases same : n = k
      · exact .inr ⟨i, rfl, same ▸ number⟩
      · rw [Does, tasks, register]
        exact .inl ((paired_eraseIdx sound.nodup number).mpr ⟨same, doing⟩)

theorem now_le_of_move? (h : s.move? m = some t) (sound : s.Sound) :
    s.engine.now ≤ t.engine.now := by
  cases sound.labour h with
  | keep unasked others tasks register newcomers units now =>
      rcases now with now | ⟨time, _, now⟩
      · exact Nat.le_of_eq now.symm
      · exact now ▸ Nat.le_add_right _ _
  | letIn x due lets isOpen turn tasks register units now
  | start i n x task number here newcomer tasks register newcomers units now
  | goOn i n task number here begun due worker isOpen tasks register newcomers units now
  | leave i n task number here begun due last tasks register newcomers units now =>
      exact Nat.le_of_eq now.symm

theorem now_le_of_run {ms : List (Move D)} (hrun : s.run ms = some t) (sound : s.Sound) :
    s.engine.now ≤ t.engine.now :=
  sound.run_invariant (P := fun u => s.engine.now ≤ u.engine.now)
    (fun moved soundOf before => Nat.le_trans before (now_le_of_move? moved soundOf)) hrun
    (Nat.le_refl _)

theorem isEnding_of_move? (h : s.move? m = some t) (sound : s.Sound)
    (ending : s.engine.stage.isEnding = true) : t.engine.stage.isEnding = true :=
  Core.isEnding_of_rank_le (Core.rank_le_of_change (core_change h sound.sawIdle)) ending

theorem isOpen_of_move? (h : s.move? m = some t) (sound : s.Sound)
    (isOpen : t.engine.stage.isEnding = false) : s.engine.stage.isEnding = false := by
  cases ending : s.engine.stage.isEnding with
  | false => rfl
  | true => exact (isEnding_of_move? h sound ending).symm.trans isOpen

/-- What has not had its first turn is in flight, as the kind of work that was let in, and it has
been time for that turn ever since. -/
def Awaited (s : Scene D) : Prop :=
  ∀ n x, (n, x) ∈ s.newcomers → ∃ task, s.Does n task ∧ task.work = x.work ∧
    task.due ≤ s.engine.now

theorem awaited_of_move? (h : s.move? m = some t) (sound : s.Sound) (hs : s.Awaited) :
    t.Awaited := by
  have later := now_le_of_move? h sound
  -- Whoever has not had the first turn before, and still has not, is where it was.
  have stays {n : Nat} {x : Entry} (inside : (n, x) ∈ s.newcomers)
      (apart : ∀ i, m = .fire i → s.register.live[i]? ≠ some n) :
      ∃ task, t.Does n task ∧ task.work = x.work ∧ task.due ≤ t.engine.now := by
    obtain ⟨task, doing, kind, due⟩ := hs n x inside
    have still := (sound.does_of_move? h doing).resolve_right
      fun ⟨i, fires, number⟩ => apart i fires number
    exact ⟨task, still, kind, Nat.le_trans due later⟩
  intro n x inside
  cases sound.labour h with
  | keep unasked others tasks register newcomers =>
      exact stays (newcomers ▸ inside) fun i fires => absurd fires (others i)
  | letIn y due lets isOpen turn tasks register units now =>
      have still : ∀ i, m ≠ .fire i := by rintro i rfl; cases lets
      rcases turn with ⟨_, _, newcomers⟩ | ⟨_, due, newcomers⟩
      · exact stays (newcomers ▸ inside) fun i fires => absurd fires (still i)
      · rw [newcomers] at inside
        rcases List.mem_append.mp inside with before | last
        · exact stays before fun i fires => absurd fires (still i)
        · cases List.mem_singleton.mp last
          have length : s.register.live.length = s.engine.tasks.length := sound.balanced.length
          refine ⟨⟨x.work, s.engine.now⟩, ?_, rfl, Nat.le_of_eq now.symm⟩
          rw [Does, tasks, register, ← due]
          exact (paired_concat length).mpr (.inr ⟨rfl, rfl⟩)
  | start i k y task number here newcomer tasks register newcomers =>
      rw [newcomers, List.mem_filter] at inside
      refine stays inside.1 ?_
      intro j fires other
      cases fires
      rw [number] at other
      exact of_decide_eq_true inside.2 (Option.some.inj other).symm
  | goOn i k task number here begun due worker isOpen tasks register newcomers
  | leave i k task number here begun due last tasks register newcomers =>
      rw [newcomers] at inside
      refine stays inside ?_
      intro j fires other
      cases fires
      rw [number] at other
      cases other
      exact begun x inside

theorem Reachable.awaited (h : s.Reachable) : s.Awaited := by
  obtain ⟨grace, settings, desk, ms, hrun⟩ := h
  exact (sound_fresh grace settings desk).run_invariant awaited_of_move? hrun
    fun _ _ none => nomatch none

/-- Where no turn is due, everybody has had the first one. -/
theorem Awaited.newcomers (hs : s.Awaited)
    (early : ∀ task ∈ s.engine.tasks, s.engine.now < task.due) : s.newcomers = [] := by
  refine List.eq_nil_iff_forall_not_mem.mpr ?_
  rintro ⟨n, x⟩ inside
  obtain ⟨task, ⟨i, _, here⟩, _, due⟩ := hs n x inside
  exact absurd due (Nat.not_le.mpr (early task (List.mem_of_getElem? here)))

end Scene

end Quiesce
