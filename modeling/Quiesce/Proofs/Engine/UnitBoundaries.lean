import Quiesce.Proofs.Engine.Shifts

/-!
Workers do one unit after the other, from their first turn on. A unit begins where the one before
ended, and takes the time that is in force at its beginning: settings that change under way count
from the next unit on. Time is taken to pass from one timer to the next, so that each goes off when
it is due and nobody has to wait for the first turn, and units are taken to last some time.
-/
namespace Quiesce

namespace Scene

variable {D : Type} {s t : Scene D} {m : Move D} {past : List (Scene D × Move D)}

/-! ### The first unit -/

/-- Nobody but the one who is let in, or whose turn it is, comes to a boundary. -/
theorem shift_one_of_idle {n : Nat} (old : n ≠ s.register.begun)
    (idle : ∀ i, m = .fire i → s.register.live[i]? ≠ some n) : shift n [(s, m)] = [] := by
  cases marked : s.boundary? m with
  | none => exact shift_one_of_none marked n
  | some b =>
      refine shift_one_of_other marked ?_
      rintro rfl
      unfold boundary? at marked
      split at marked
      · split_ifs at marked
        cases marked
        exact old rfl
      · rename_i i
        split at marked
        · rename_i number _
          cases marked
          exact idle i rfl number
        · cases marked
      · cases marked

/-- Who has not had the first turn waits for it. -/
theorem Sound.newcomer_of_move? (sound : s.Sound) (h : s.move? m = some t) {n : Nat} {x : Entry}
    (newcomer : (n, x) ∈ s.newcomers)
    (idle : ∀ i, m = .fire i → s.register.live[i]? ≠ some n) : (n, x) ∈ t.newcomers := by
  cases sound.labour h with
  | keep unasked others tasks register newcomers => exact newcomers ▸ newcomer
  | letIn y due lets isOpen turn =>
      rcases turn with ⟨_, _, newcomers⟩ | ⟨_, _, newcomers⟩ <;> rw [newcomers]
      · exact newcomer
      · exact List.mem_append_left _ newcomer
  | start i k y task number here own tasks register newcomers =>
      have other : n ≠ k := by
        rintro rfl
        exact idle i rfl number
      rw [newcomers, List.mem_filter]
      exact ⟨newcomer, decide_eq_true other⟩
  | goOn i k task number here begun due worker isOpen tasks register newcomers
  | leave i k task number here begun due last tasks register newcomers =>
      exact newcomers ▸ newcomer

/-- Only who is let in waits for a first turn. -/
theorem Sound.newcomer_of_newcomer (sound : s.Sound) (h : s.move? m = some t) {n : Nat} {x : Entry}
    (newcomer : (n, x) ∈ t.newcomers) : (n, x) ∈ s.newcomers ∨ n = s.register.begun := by
  cases sound.labour h with
  | keep unasked others tasks register newcomers => exact .inl (newcomers ▸ newcomer)
  | letIn y due lets isOpen turn =>
      rcases turn with ⟨_, _, newcomers⟩ | ⟨_, _, newcomers⟩ <;> rw [newcomers] at newcomer
      · exact .inl newcomer
      · rcases List.mem_append.mp newcomer with before | last
        · exact .inl before
        · cases List.mem_singleton.mp last
          exact .inr rfl
  | start i k y task number here own tasks register newcomers =>
      rw [newcomers] at newcomer
      exact .inl (List.mem_of_mem_filter newcomer)
  | goOn i k task number here begun due worker isOpen tasks register newcomers
  | leave i k task number here begun due last tasks register newcomers =>
      exact .inl (newcomers ▸ newcomer)

/-- Time does not pass over the first turn of a worker, by which it is at its first boundary. -/
theorem first_unit_of_move? (h : s.move? m = some t) (sound : s.Sound) (awaited : s.Awaited)
    (ahead : t.Ahead) {n : Nat} (newcomer : (n, .worker) ∈ s.newcomers) :
    t.engine.now = s.engine.now ∧
      ((n, .worker) ∈ t.newcomers ∧ shift n [(s, m)] = [] ∨
        ∃ b : Boundary, shift n [(s, m)] = [b] ∧ b.instant = s.engine.now ∧
          t.Does n ⟨.worker, b.next⟩ ∧ ∀ x, (n, x) ∉ t.newcomers) := by
  obtain ⟨task, doing, kind, due⟩ := awaited n .worker newcomer
  by_cases turn : ∃ i, m = .fire i ∧ s.register.live[i]? = some n
  · obtain ⟨i, rfl, number⟩ := turn
    cases sound.labour h with
    | keep unasked others => exact absurd rfl (others i)
    | letIn x due lets => cases lets
    | start _ k x other number' here own tasks register newcomers units now =>
        rw [number] at number'
        cases number'
        have same : other = task := sound.does_unique ⟨i, number, here⟩ doing
        have worker : x.work = .worker := by
          obtain ⟨too, doingToo, kind', _⟩ := awaited n x own
          rw [← kind', sound.does_unique doingToo doing, kind]
          rfl
        have marked := boundary?_of_fire number here
        rw [if_pos (by rw [same, kind]; rfl)] at marked
        refine ⟨now, .inr ⟨_, shift_one_of_own marked, rfl, ?_, ?_⟩⟩
        · rw [Does, tasks, register, same, kind, Entry.time_of_worker worker]
          exact (paired_set sound.nodup number here).mpr (.inr ⟨rfl, rfl⟩)
        · intro y inside
          rw [newcomers, List.mem_filter] at inside
          exact of_decide_eq_true inside.2 rfl
    | goOn _ k other number' here begun | leave _ k other number' here begun =>
        rw [number] at number'
        cases number'
        exact absurd newcomer (begun _)
  · have idle : ∀ i, m = .fire i → s.register.live[i]? ≠ some n :=
      fun i fires number => turn ⟨i, fires, number⟩
    have still := (sound.does_of_move? h doing).resolve_right turn
    have now : t.engine.now = s.engine.now := by
      obtain ⟨i, _, here⟩ := still
      exact Nat.le_antisymm (Nat.le_trans (ahead task (List.mem_of_getElem? here)) due)
        (now_le_of_move? h sound)
    exact ⟨now, .inl ⟨sound.newcomer_of_move? h newcomer idle,
      shift_one_of_idle (Nat.ne_of_lt (sound.lt_begun doing)) idle⟩⟩

/-- Each worker that was let in is at its first boundary at that instant, or will be. -/
def Launched (s : Scene D) (past : List (Scene D × Move D)) : Prop :=
  ∀ p ∈ past, p.1.lets? p.2 = some .worker →
    (p.1.register.begun, .worker) ∈ s.newcomers ∧ shift p.1.register.begun past = [] ∧
        s.engine.now = p.1.engine.now ∨
      ∃ b, (shift p.1.register.begun past).head? = some b ∧ b.instant = p.1.engine.now

theorem launched_of_move? (h : s.move? m = some t) (sound : s.Sound) (awaited : s.Awaited)
    (ahead : t.Ahead) (paced : s.Paced past) (hs : s.Launched past) :
    t.Launched (past ++ [(s, m)]) := by
  intro p inside lets
  rw [shift_append]
  rcases List.mem_append.mp inside with before | last
  · rcases hs p before lets with ⟨newcomer, nothing, now⟩ | ⟨b, first, instant⟩
    · rw [nothing, List.nil_append]
      obtain ⟨same, ⟨still, none⟩ | ⟨b, one, instant, _⟩⟩ :=
        first_unit_of_move? h sound awaited ahead newcomer
      · exact .inl ⟨still, none, same.trans now⟩
      · exact .inr ⟨b, by rw [one]; rfl, instant.trans now⟩
    · refine .inr ⟨b, ?_, instant⟩
      rw [List.head?_append, first]
      rfl
  · cases List.mem_singleton.mp last
    rw [paced.unseen _ (Nat.le_refl _), List.nil_append]
    cases sound.labour h with
    | letIn x due lets' isOpen turn tasks register units now =>
        rw [lets] at lets'
        cases lets'
        rcases turn with ⟨rfl, _, newcomers⟩ | ⟨others, _, newcomers⟩
        · have marked : s.boundary? (.enter .worker) =
              some ⟨s.register.begun, s.engine.now, s.engine.pool.settings.unit⟩ :=
            boundary?_of_enter lets
          exact .inr ⟨_, congrArg List.head? (shift_one_of_own marked), rfl⟩
        · refine .inl ⟨?_, shift_one_of_none (boundary?_of_takeIn lets others) _, now⟩
          rw [newcomers]
          exact List.mem_append_right _ List.mem_cons_self
    | keep unasked => rw [unasked] at lets; cases lets
    | start | goOn | leave => cases lets

/-- What a run of punctual moves keeps of workers and their boundaries. -/
theorem paced_of_run {ms : List (Move D)} (hrun : s.run ms = some t) (sound : s.Sound)
    (awaited : s.Awaited) (ahead : s.Ahead)
    (takes : ∀ p ∈ s.history ms, p.1.engine.pool.settings.unitMs ≠ 0)
    (punctual : ∀ p ∈ s.history ms, p.1.Punctual p.2) (hs : s.Paced past)
    (launched : s.Launched past) :
    t.Paced (past ++ s.history ms) ∧ t.Launched (past ++ s.history ms) := by
  have kept := sound.history_invariant
    (C := fun u m => u.engine.pool.settings.unitMs ≠ 0 ∧ u.Punctual m)
    (P := fun u past => u.Awaited ∧ u.Ahead ∧ u.Paced past ∧ u.Launched past) ?_ hrun
    (fun p inside => ⟨takes p inside, punctual p inside⟩) past ⟨awaited, ahead, hs, launched⟩
  · exact kept.2.2
  · rintro u v m past moved soundOf ⟨takes, punctual⟩ ⟨awaited, ahead, paced, launched⟩
    have next := ahead_of_move? moved soundOf punctual ahead
    exact ⟨awaited_of_move? moved soundOf awaited, next,
      paced_of_move? moved soundOf awaited ahead takes paced,
      launched_of_move? moved soundOf awaited next paced launched⟩

/-! ### The last unit -/

theorem Sound.not_live_of_done (sound : s.Sound) {n : Nat} (done : n ∈ s.register.done) :
    n ∉ s.register.live ∧ n < s.register.begun := by
  have register : (s.register.done ++ s.register.live).Perm (List.range s.register.begun) :=
    sound.balanced.register
  have apart := (List.nodup_append.mp (register.nodup_iff.mpr List.nodup_range)).2.2
  exact ⟨fun live => apart n done n live rfl,
    List.mem_range.mp (register.mem_iff.mp (List.mem_append_left _ done))⟩

/-- Work that is done stays done, and comes to no boundary any more. -/
theorem gone_of_move? (h : s.move? m = some t) (sound : s.Sound) {n : Nat}
    (gone : n ∈ s.register.done) : n ∈ t.register.done ∧ shift n [(s, m)] = [] := by
  obtain ⟨notLive, old⟩ := sound.not_live_of_done gone
  refine ⟨?_, shift_one_of_idle (Nat.ne_of_lt old)
    fun i _ number => notLive (List.mem_of_getElem? number)⟩
  cases sound.labour h with
  | keep unasked others tasks register | start i k x task number here newcomer tasks register
  | goOn i k task number here begun due worker opened tasks register => exact register ▸ gone
  | letIn x due lets opened turn tasks register => rw [register]; exact gone
  | leave i k task number here begun due last tasks register =>
      rw [register]
      exact List.mem_append_left _ gone

/-- Behind a closed gate a worker is at its unit, or ends with it when its timer goes off. -/
theorem last_unit_of_move? (h : s.move? m = some t) (sound : s.Sound) (ahead : s.Ahead)
    (ending : s.engine.stage.isEnding = true) {n : Nat} {task : Task} (doing : s.Does n task)
    (worker : task.work = .worker) (begun : ∀ x, (n, x) ∉ s.newcomers) :
    (t.Does n task ∧ (∀ x, (n, x) ∉ t.newcomers) ∧ shift n [(s, m)] = []) ∨
      n ∈ t.register.done ∧ (shift n [(s, m)]).map (·.instant) = [task.due] ∧
        task.due = s.engine.now := by
  have old : n ≠ s.register.begun := Nat.ne_of_lt (sound.lt_begun doing)
  by_cases turn : ∃ i, m = .fire i ∧ s.register.live[i]? = some n
  · obtain ⟨i, rfl, number⟩ := turn
    cases sound.labour h with
    | keep unasked others => exact absurd rfl (others i)
    | letIn x due lets => cases lets
    | start _ k x other number' here newcomer =>
        rw [number] at number'
        cases number'
        exact absurd newcomer (begun x)
    | goOn _ k other number' here _ due _ opened => simp [opened] at ending
    | leave _ k other number' here _ due last tasks register =>
        rw [number] at number'
        cases number'
        cases sound.does_unique ⟨i, number, here⟩ doing
        have marked := boundary?_of_fire number here
        rw [if_pos worker] at marked
        have onTime : task.due = s.engine.now :=
          Nat.le_antisymm due (ahead task (List.mem_of_getElem? here))
        refine .inr ⟨?_, ?_, onTime⟩
        · rw [register]
          exact List.mem_append_right _ (by simp [number])
        · have own : shift n [(s, .fire i)] = [_] := shift_one_of_own marked
          rw [own, onTime]
          rfl
  · have idle : ∀ i, m = .fire i → s.register.live[i]? ≠ some n :=
      fun i fires number => turn ⟨i, fires, number⟩
    refine .inl ⟨(sound.does_of_move? h doing).resolve_right turn, ?_, shift_one_of_idle old idle⟩
    intro x inside
    rcases sound.newcomer_of_newcomer h inside with before | new
    · exact begun x before
    · exact old new

/-- How the unit that is under way behind a closed gate turns out: it is still under way, or has
ended on time as the last one. -/
def LastUnit (t : Scene D) (n : Nat) (task : Task) (bs : List Boundary) : Prop :=
  (t.Does n task ∧ bs = [] ∧ t.engine.now ≤ task.due) ∨
    n ∈ t.register.done ∧ bs.map (·.instant) = [task.due] ∧ task.due ≤ t.engine.now

theorem last_unit {ms : List (Move D)} (hrun : s.run ms = some t) (sound : s.Sound)
    (ahead : s.Ahead) (punctual : ∀ p ∈ s.history ms, p.1.Punctual p.2)
    (ending : s.engine.stage.isEnding = true) {n : Nat} {task : Task} (doing : s.Does n task)
    (worker : task.work = .worker) (begun : ∀ x, (n, x) ∉ s.newcomers) :
    t.LastUnit n task (shift n (s.history ms)) := by
  have notDue {u : Scene D} (ahead : u.Ahead) (doing : u.Does n task) :
      u.engine.now ≤ task.due := by
    obtain ⟨i, _, here⟩ := doing
    exact ahead task (List.mem_of_getElem? here)
  have kept := sound.history_invariant (C := Punctual) (P := fun u past =>
    u.Ahead ∧ u.engine.stage.isEnding = true ∧ u.LastUnit n task (shift n past) ∧
      (shift n past = [] → ∀ x, (n, x) ∉ u.newcomers)) ?_ hrun punctual []
    ⟨ahead, ending, .inl ⟨doing, rfl, notDue ahead doing⟩, fun _ => begun⟩
  · exact kept.2.2.1
  · rintro u v m past moved soundOf punctual ⟨ahead, ending, unit, begun⟩
    have aheadNext := ahead_of_move? moved soundOf punctual ahead
    have later := now_le_of_move? moved soundOf
    refine ⟨aheadNext, isEnding_of_move? moved soundOf ending, ?_⟩
    rw [shift_append]
    obtain ⟨doing, unmarked, _⟩ | ⟨done, marked, due⟩ := unit
    · rw [unmarked, List.nil_append]
      obtain ⟨still, begun, none⟩ | ⟨done, last, due⟩ :=
        last_unit_of_move? moved soundOf ahead ending doing worker (begun unmarked)
      · exact ⟨.inl ⟨still, none, notDue aheadNext still⟩, fun _ => begun⟩
      · exact ⟨.inr ⟨done, last, due ▸ later⟩, fun none => by simp [none] at last⟩
    · obtain ⟨stays, none⟩ := gone_of_move? moved soundOf done
      rw [none, List.append_nil]
      exact ⟨.inr ⟨stays, marked, Nat.le_trans due later⟩, fun none => by simp [none] at marked⟩

/-- A worker that was let in and finds the gate closed at its first turn has one unit to do. -/
theorem first_and_last_unit {ms : List (Move D)} (hrun : s.run ms = some t) (sound : s.Sound)
    (awaited : s.Awaited) (ahead : s.Ahead) (punctual : ∀ p ∈ s.history ms, p.1.Punctual p.2)
    (ending : s.engine.stage.isEnding = true) {n : Nat} (newcomer : (n, .worker) ∈ s.newcomers) :
    ((n, .worker) ∈ t.newcomers ∧ shift n (s.history ms) = [] ∧ t.engine.now = s.engine.now) ∨
      ∃ b rest, shift n (s.history ms) = b :: rest ∧ b.instant = s.engine.now ∧
        t.LastUnit n ⟨.worker, b.next⟩ rest := by
  induction ms generalizing s with
  | nil =>
      cases hrun
      exact .inl ⟨newcomer, rfl, rfl⟩
  | cons m ms ih =>
      obtain ⟨u, moved, rest⟩ := Option.bind_eq_some_iff.mp hrun
      have past : s.history (m :: ms) = [(s, m)] ++ u.history ms := by
        simp [history, moved]
      rw [past] at punctual ⊢
      rw [shift_append]
      obtain ⟨own, later⟩ := List.forall_mem_append.mp punctual
      have aheadOf := ahead_of_move? moved sound (own _ List.mem_cons_self) ahead
      have soundOf := sound_of_move? moved sound
      have endingOf := isEnding_of_move? moved sound ending
      obtain ⟨now, ⟨still, none⟩ | ⟨b, one, instant, doing, begun⟩⟩ :=
        first_unit_of_move? moved sound awaited aheadOf newcomer
      · rw [none, List.nil_append, ← now]
        exact ih rest soundOf (awaited_of_move? moved sound awaited) aheadOf later endingOf still
      · rw [one]
        exact .inr ⟨b, _, rfl, instant,
          last_unit rest soundOf aheadOf later endingOf doing rfl begun⟩

/-! ### Units of one length -/

theorem eq_div_of_between {now first last unit k : Nat} (passed : last = first + k * unit)
    (started : last ≤ now) (early : now < last + unit) : k = (now - first) / unit := by
  refine (Nat.div_eq_of_lt_le ?_ ?_).symm
  · omega
  · rw [Nat.succ_mul]
    omega

theorem instant_le_of_chain {first last : Boundary} {bs : List Boundary}
    (chain : bs.IsChain Boundary.Adjoins) (begins : bs.head? = some first)
    (ends : bs.getLast? = some last) : first.instant ≤ last.instant := by
  induction bs generalizing first with
  | nil => cases begins
  | cons a bs ih =>
      cases begins
      cases bs with
      | nil =>
          cases ends
          exact Nat.le_refl _
      | cons b bs =>
          obtain ⟨adjoin, rest⟩ := List.isChain_cons_cons.mp chain
          have later := ih rest rfl (by simpa using ends)
          rw [adjoin] at later
          exact Nat.le_trans (Clock.le_wake _ _) later

theorem instant_of_chain {first last : Boundary} {unit : Duration} {bs : List Boundary}
    (chain : bs.IsChain Boundary.Adjoins) (begins : bs.head? = some first)
    (ends : bs.getLast? = some last) (steady : ∀ b ∈ bs, b.unit = unit)
    (millis : 1000000 ∣ unit.nanos) (whole : 1000000 ∣ first.instant)
    (reach : last.instant + unit.nanos < Clock.horizon) :
    last.instant = first.instant + bs.tail.length * unit.nanos ∧
      last.next = last.instant + unit.nanos := by
  induction bs generalizing first with
  | nil => cases begins
  | cons a bs ih =>
      cases begins
      have before := instant_le_of_chain chain rfl ends
      have unitOf : a.unit = unit := steady a List.mem_cons_self
      have next : a.next = a.instant + unit.nanos := by
        rw [Boundary.next, unitOf]
        exact Clock.wake_of_whole (Nat.dvd_add whole millis)
          (Nat.lt_of_le_of_lt (Nat.add_le_add_right before _) reach)
      cases bs with
      | nil =>
          cases ends
          exact ⟨by simp, next⟩
      | cons b bs =>
          obtain ⟨adjoin, rest⟩ := List.isChain_cons_cons.mp chain
          have start : b.instant = a.instant + unit.nanos := adjoin.trans next
          obtain ⟨passed, after⟩ := ih rest rfl (by simpa using ends)
            (fun c inside => steady c (List.mem_cons_of_mem a inside))
            (start ▸ Nat.dvd_add whole millis)
          refine ⟨?_, after⟩
          rw [passed, start, List.tail_cons, List.tail_cons, List.length_cons, Nat.succ_mul,
            Nat.add_assoc, Nat.add_comm unit.nanos]

/-- Units are as long as the settings say, which is in whole milliseconds. -/
theorem dvd_unit_of_mem_shift {n : Nat} {b : Boundary} (inside : b ∈ shift n past) :
    1000000 ∣ b.unit.nanos := by
  obtain ⟨⟨s, m⟩, _, marked⟩ := List.mem_filterMap.mp (List.mem_of_mem_filter inside)
  change s.boundary? m = some b at marked
  unfold boundary? at marked
  split at marked
  · split_ifs at marked
    cases marked
    exact s.engine.pool.settings.dvd_unit
  · split at marked <;> cases marked
    exact s.engine.pool.settings.dvd_unit
  · cases marked

theorem Paced.completed_eq_div (hs : s.Paced past) (awaited : s.Awaited) {n : Nat}
    {first : Boundary} {unit : Duration} (isOpen : s.engine.stage.isEnding = false)
    (begins : (shift n past).head? = some first)
    (steady : ∀ b ∈ shift n past, b.unit = unit) (whole : 1000000 ∣ first.instant)
    (reach : s.engine.now + unit.nanos < Clock.horizon)
    (settled : ∀ task ∈ s.engine.tasks, s.engine.now < task.due) :
    completed n past = (s.engine.now - first.instant) / unit.nanos := by
  have inside : first ∈ shift n past := List.mem_of_mem_head? begins
  have millis : 1000000 ∣ unit.nanos := steady first inside ▸ dvd_unit_of_mem_shift inside
  obtain ⟨task, doing, worker⟩ := hs.atWork isOpen n (List.ne_nil_of_mem inside)
  have begun : ∀ x, (n, x) ∉ s.newcomers := by simp [awaited.newcomers settled]
  obtain ⟨last, ends, started, due⟩ := hs.due n task doing worker begun
  obtain ⟨i, _, here⟩ := doing
  have early := settled task (List.mem_of_getElem? here)
  obtain ⟨passed, next⟩ := instant_of_chain (hs.adjoin n) begins ends steady millis whole
    (Nat.lt_of_le_of_lt (Nat.add_le_add_right started _) reach)
  rw [due, next] at early
  exact eq_div_of_between passed started early

/-- A worker has its first turn at the instant of its launch. From then on it does one unit right
after the other, each of the length that is in force where it begins, rounded up to whole
milliseconds; settings that change meanwhile touch no unit under way. The units counted are those
that all workers completed; with units of one length a worker has completed as many as fit in the
time since its first turn. From a closed gate on it completes the one unit that is under way, and
ends; and if it has not had its first turn by then, it has it and completes one unit. -/
theorem units_back_to_back {grace : Duration} {settings : WorkloadSettings} {desk : D}
    {ms : List (Move D)} (hrun : (fresh grace settings desk).run ms = some s)
    (takes : ∀ p ∈ (fresh grace settings desk).history ms, p.1.engine.pool.settings.unitMs ≠ 0)
    (punctual : ∀ p ∈ (fresh grace settings desk).history ms, p.1.Punctual p.2) :
    let past := (fresh grace settings desk).history ms
    (∀ p ∈ past, p.1.lets? p.2 = some .worker →
      (p.1.register.begun, .worker) ∈ s.newcomers ∧ shift p.1.register.begun past = [] ∧
        s.engine.now = p.1.engine.now ∨
      ∃ b, (shift p.1.register.begun past).head? = some b ∧ b.instant = p.1.engine.now) ∧
    (∀ n, (shift n past).IsChain fun a b => b.instant = Clock.wake a.instant a.unit ∧
      (a.instant + a.unit.nanos < Clock.horizon →
        IsLeast {t : Nat | 1000000 ∣ t ∧ a.instant + a.unit.nanos ≤ t} b.instant)) ∧
    (∀ n task, s.Does n task → task.work = .worker →
      ((n, .worker) ∈ s.newcomers ∧ shift n past = [] ∨
        ∃ b, (shift n past).getLast? = some b ∧ b.instant ≤ s.engine.now ∧
          s.engine.now ≤ task.due ∧ task.due = Clock.wake b.instant b.unit) ∧
      ∀ m t, s.move? m = some t →
        t.Does n task ∨ ∃ i : Nat, m = .fire i ∧ s.register.live[i]? = some n) ∧
    s.engine.pool.units = ∑ n ∈ Finset.range s.register.begun, completed n past ∧
    (s.engine.stage.isEnding = false → (∀ task ∈ s.engine.tasks, s.engine.now < task.due) →
      ∀ n first unit, (shift n past).head? = some first → (∀ b ∈ shift n past, b.unit = unit) →
        1000000 ∣ first.instant → s.engine.now + unit.nanos < Clock.horizon →
        completed n past = (s.engine.now - first.instant) / unit.nanos) ∧
    (s.engine.stage.isEnding = true → ∀ ns t, s.run ns = some t →
      (∀ p ∈ s.history ns, p.1.Punctual p.2) → ∀ n task, s.Does n task → task.work = .worker →
        ((n, .worker) ∈ s.newcomers →
          (n, .worker) ∈ t.newcomers ∧ shift n (s.history ns) = [] ∧
            t.engine.now = s.engine.now ∨
          ∃ b rest, shift n (s.history ns) = b :: rest ∧ b.instant = s.engine.now ∧
            t.LastUnit n ⟨.worker, b.next⟩ rest) ∧
        ((n, .worker) ∉ s.newcomers → t.LastUnit n task (shift n (s.history ns)))) := by
  intro past
  have start := sound_fresh grace settings desk
  have early : (fresh grace settings desk).Ahead := fun _ none => nomatch none
  have nobody : (fresh grace settings desk).Awaited := fun _ _ none => nomatch none
  have sound := sound_of_run hrun start
  have ahead := ahead_of_run hrun start punctual early
  have awaited : s.Awaited := start.run_invariant awaited_of_move? hrun nobody
  obtain ⟨paced, launched⟩ : s.Paced past ∧ s.Launched past :=
    paced_of_run hrun start nobody early takes punctual (paced_fresh grace settings desk)
      fun _ none => nomatch none
  -- A worker in flight waits for its first turn as a worker, if it does.
  have begun {n : Nat} {task : Task} (doing : s.Does n task) (worker : task.work = .worker)
      (had : (n, .worker) ∉ s.newcomers) (x : Entry) : (n, x) ∉ s.newcomers := by
    intro inside
    obtain ⟨other, too, kind, _⟩ := awaited n x inside
    rw [sound.does_unique too doing, worker] at kind
    cases x <;> cases kind
    exact had inside
  refine ⟨launched, ?_, ?_, paced.units, ?_, ?_⟩
  · intro n
    refine (paced.adjoin n).imp fun a b adjoin => ⟨adjoin, fun reach => ?_⟩
    rw [adjoin]
    exact Clock.isLeast_wake reach
  · intro n task doing worker
    refine ⟨?_, fun m t moved => sound.does_of_move? moved doing⟩
    by_cases newcomer : (n, .worker) ∈ s.newcomers
    · exact .inl ⟨newcomer, paced.unbegun n .worker newcomer⟩
    · obtain ⟨b, last, started, due⟩ := paced.due n task doing worker (begun doing worker newcomer)
      obtain ⟨i, _, here⟩ := doing
      exact .inr ⟨b, last, started, ahead task (List.mem_of_getElem? here), due⟩
  · intro isOpen settled n first unit begins steady whole reach
    exact paced.completed_eq_div awaited isOpen begins steady whole reach settled
  · intro ending ns t hruns promptly n task doing worker
    exact ⟨fun newcomer =>
        first_and_last_unit hruns sound awaited ahead promptly ending newcomer,
      fun had => last_unit hruns sound ahead promptly ending doing worker
        (begun doing worker had)⟩

/-- Units get shorter between the launch of a worker and its first turn, and once more while two
workers are at theirs. The second one began between two milliseconds; both are at a unit when they
are asked to stop, and a third one has not had its first turn by then. -/
theorem units_back_to_back_of_three : ∃ (ms ns : List (Move Unit)) (s t : Scene Unit),
    (fresh (.ofMillis 5000) {} ()).run ms = some s ∧ s.run ns = some t ∧
    shift 0 ((fresh (.ofMillis 5000) {} ()).history ms) = [⟨0, 0, .ofMillis 200⟩,
      ⟨0, 200000000, .ofMillis 40⟩, ⟨0, 240000000, .ofMillis 40⟩] ∧
    shift 1 ((fresh (.ofMillis 5000) {} ()).history ms) = [⟨1, 100500000, .ofMillis 200⟩] ∧
    s.engine.pool.units = 2 ∧
    (shift 0 (s.history ns)).map (·.instant) = [280000000] ∧
    (shift 1 (s.history ns)).map (·.instant) = [301000000] ∧
    (∃ b : Boundary, b.instant = 240000000 ∧
      (shift 2 (s.history ns)).map (·.instant) = [b.instant, b.next]) ∧
    t.register.done = [0, 2, 1] := by
  let moves : List (Move Unit) :=
    [.takeIn .worker, .apply { unitMs := 200 }, .fire 0, .pass 100500000, .enter .worker,
      .pass 99500000, .apply { unitMs := 40 }, .fire 0, .pass 40000000, .fire 0, .takeIn .worker,
      .signal .terminate]
  let more : List (Move Unit) :=
    [.fire 2, .pass 40000000, .fire 0, .fire 1, .pass 21000000, .fire 0]
  have reached : ∃ s t, (fresh (.ofMillis 5000) {} ()).run moves = some s ∧
      s.run more = some t ∧ s.engine.stage.isEnding = true ∧ s.register = ⟨3, [0, 1, 2], []⟩ ∧
      s.engine.tasks = [⟨.worker, 280000000⟩, ⟨.worker, 301000000⟩, ⟨.worker, 240000000⟩] ∧
      s.newcomers = [(2, .worker)] ∧ s.engine.now = 240000000 ∧
      (∀ p ∈ s.history more, p.1.Punctual p.2) ∧ t.register = ⟨3, [], [0, 2, 1]⟩ ∧
      t.newcomers = [] :=
    ⟨_, _, rfl, rfl, rfl, rfl, by decide +kernel, rfl, rfl, by decide +kernel, rfl, rfl⟩
  obtain ⟨s, t, hrun, hruns, ending, register, tasks, newcomers, now, promptly, done, nobody⟩ :=
    reached
  have takes : ∀ p ∈ (fresh (.ofMillis 5000) {} ()).history moves,
      p.1.engine.pool.settings.unitMs ≠ 0 := by decide +kernel
  have punctual : ∀ p ∈ (fresh (.ofMillis 5000) {} ()).history moves, p.1.Punctual p.2 := by
    decide +kernel
  obtain ⟨_, _, _, units, _, last⟩ := units_back_to_back hrun takes punctual
  have first : shift 0 ((fresh (.ofMillis 5000) {} ()).history moves) = [⟨0, 0, .ofMillis 200⟩,
      ⟨0, 200000000, .ofMillis 40⟩, ⟨0, 240000000, .ofMillis 40⟩] := by decide +kernel
  have second : shift 1 ((fresh (.ofMillis 5000) {} ()).history moves) =
      [⟨1, 100500000, .ofMillis 200⟩] := by decide +kernel
  have third : shift 2 ((fresh (.ofMillis 5000) {} ()).history moves) = [] := by decide +kernel
  have ended {n : Nat} {task : Task} {bs : List Boundary} (unit : t.LastUnit n task bs) :
      bs.map (·.instant) = [task.due] := by
    obtain ⟨⟨i, number, _⟩, _⟩ | ⟨_, marked, _⟩ := unit
    · simp [done] at number
    · exact marked
  have doing : s.Does 0 ⟨.worker, 280000000⟩ ∧ s.Does 1 ⟨.worker, 301000000⟩ ∧
      s.Does 2 ⟨.worker, 240000000⟩ := by
    simp only [Does, register, tasks]
    exact ⟨⟨0, rfl, rfl⟩, ⟨1, rfl, rfl⟩, ⟨2, rfl, rfl⟩⟩
  have ends := fun n task => last ending more t hruns promptly n task
  refine ⟨moves, more, s, t, hrun, hruns, first, second, ?_,
    ended ((ends 0 _ doing.1 rfl).2 (by simp [newcomers])),
    ended ((ends 1 _ doing.2.1 rfl).2 (by simp [newcomers])), ?_, by rw [done]⟩
  · rw [units, register]
    simp [Finset.sum_range_succ, completed, first, second, third]
  · obtain ⟨waits, _⟩ | ⟨b, rest, marked, instant, unit⟩ :=
      (ends 2 _ doing.2.2 rfl).1 (by simp [newcomers])
    · rw [nobody] at waits
      cases waits
    · refine ⟨b, instant.trans now, ?_⟩
      rw [marked, List.map_cons, ended unit]

end Scene

end Quiesce
