import Quiesce.Proofs.Engine.Operations
import Quiesce.Proofs.Lifecycle.CoreChange

/-!
What holds of every scene, in whatever order the moves come. A move changes the core in one of the
ways that a core can change, or the accounts of the work in one of theirs, and never both. The
invariants of both follow, and with them what ties the two together: a drain that saw no work left
still finds none when it records its ending, since the gate was closed by then.
-/
namespace Quiesce.Scene

variable {D : Type} {s t : Scene D} {m : Move D}

/-- The accounts of a scene. A job counts from when it is let in on, also where the call that has
handed it in is still to count it. -/
def ledger (s : Scene D) : Ledger :=
  ⟨s.engine.tasks, s.register, s.engine.pool.accepted + s.calls.countP Call.isAdmitted,
    s.engine.pool.completed⟩

theorem isIdle_iff (e : Engine D) :
    e.isIdle = true ↔ e.core.trackerClosed = true ∧ e.tasks = [] := by
  simp [Engine.isIdle]

private theorem enter_change (s : Scene D) (x : Entry) :
    (s.enter x).engine.core = s.engine.core ∧
      Ledger.Change s.engine.stage.isEnding s.ledger (s.enter x).ledger := by
  cases granted : (s.engine.enter x).1 with
  | true =>
      obtain ⟨opened, task, entered⟩ := Engine.enter_granted granted
      have step : Ledger.Change s.engine.stage.isEnding s.ledger _ := .enroll s.ledger task opened
      simp only [enter, entered, granted, ite_true, true_and]
      simpa only [ledger, Nat.add_right_comm] using step
  | false =>
      obtain ⟨n, refused⟩ := Engine.enter_refused granted
      simp only [enter, refused, granted, true_and]
      exact .keep _

private theorem admit_change {x : Entry} (h : s.takeIn? x = some t) :
    t.engine.core = s.engine.core ∧
      Ledger.Change s.engine.stage.isEnding s.ledger t.ledger := by
  obtain ⟨other, ⟨opens, rfl⟩ | ⟨_, rfl⟩⟩ := takeIn?_eq_some h
  · have step : Ledger.Change s.engine.stage.isEnding s.ledger _ :=
      .enroll s.ledger ⟨x.work, s.engine.now⟩ (Engine.isEnding_of_opensFor opens)
    refine ⟨rfl, ?_⟩
    cases x with
    | job _ => cases other
    | worker | errand _ | lasting _ => exact step
  · exact ⟨rfl, .keep _⟩

private theorem proceed_change {j : Nat} (h : s.proceed? j = some t) :
    t.engine.core = s.engine.core ∧
      Ledger.Change s.engine.stage.isEnding s.ledger t.ledger := by
  obtain ⟨call, u, next, here, stepped, rfl⟩ := proceed?_eq_some h
  have counted := Ledger.countP_set_add here next Call.isAdmitted
  -- All steps leave the accounts as they are, but for the one through the gate.
  have keep (core : u.engine.core = s.engine.core)
      (same : ledger { u with calls := u.calls.set j next } = s.ledger) :
      u.engine.core = s.engine.core ∧ Ledger.Change s.engine.stage.isEnding s.ledger
        (ledger { u with calls := u.calls.set j next }) := by
    rw [same]
    exact ⟨core, .keep _⟩
  cases call with
  | fitting time =>
      simp only [step?] at stepped
      split_ifs at stepped with opens <;> cases stepped
      · have step : Ledger.Change s.engine.stage.isEnding s.ledger _ :=
          .enroll s.ledger ⟨.job, s.engine.now⟩ (Engine.isEnding_of_opensFor opens)
        refine ⟨rfl, ?_⟩
        have more : (s.calls.set j (.admitted time)).countP Call.isAdmitted =
            s.calls.countP Call.isAdmitted + 1 := counted
        simpa [ledger, takeIn, more, Engine.track, Entry.work, Task.isJob, Nat.add_assoc] using step
      · exact keep rfl (by simpa [ledger, Call.isAdmitted] using counted)
  | sized time =>
      simp only [step?] at stepped
      split_ifs at stepped <;> cases stepped <;>
        exact keep rfl (by simpa [ledger, Call.isAdmitted] using counted)
  | admitted time =>
      cases stepped
      have moved : s.engine.pool.accepted + 1 +
          (s.calls.set j (.answered time (.ok time))).countP Call.isAdmitted =
          s.engine.pool.accepted + s.calls.countP Call.isAdmitted := by
        simp only [Call.isAdmitted, Bool.toNat_true, Bool.toNat_false] at counted
        omega
      exact keep rfl (by simp only [ledger, withPool, moved])
  | unsized | tooLong _ _ | turnedAway _ | refused _ =>
      cases stepped
      exact keep rfl (by simpa [ledger, withPool, Call.isAdmitted] using counted)
  | answered _ _ => cases stepped

private theorem firstTurn_change {i : Nat} {newcomer : Nat × Entry} :
    (s.firstTurn i newcomer).engine.core = s.engine.core ∧
      Ledger.Change s.engine.stage.isEnding s.ledger (s.firstTurn i newcomer).ledger := by
  refine ⟨rfl, ?_⟩
  cases here : s.engine.tasks[i]? with
  | none =>
      have nobody (f : Task → Task) : s.engine.tasks.modify i f = s.engine.tasks :=
        List.modify_eq_self (List.getElem?_eq_none_iff.mp here)
      simp only [ledger, firstTurn, nobody]
      exact .keep _
  | some task =>
      simp only [ledger, firstTurn, List.modify_eq_set_getElem?, here]
      exact .proceed s.ledger i task _ here rfl

private theorem fire_change {i : Nat} (h : s.fire? i = some t) :
    t.engine.core = s.engine.core ∧
      Ledger.Change s.engine.stage.isEnding s.ledger t.ledger := by
  obtain ⟨newcomer, _, rfl⟩ | ⟨_, e, fired, rfl⟩ := fire?_eq_some h
  · exact firstTurn_change
  obtain ⟨task, here, _, ⟨next, worker, again, _, rfl⟩ | rfl⟩ := Engine.fire_eq_some fired
  · refine ⟨rfl, ?_⟩
    have stays : ¬ (s.engine.tasks.set i next).length < s.engine.tasks.length := by simp
    have notJob : task.isJob = false := by simp [Task.isJob, worker]
    have step : Ledger.Change s.engine.stage.isEnding s.ledger _ :=
      .proceed s.ledger i task next here (again.trans worker.symm)
    simpa [ledger, Engine.inFlight, stays, Pool.record_accepted, Pool.record_completed, notJob]
      using step
  · refine ⟨rfl, ?_⟩
    obtain ⟨hi, _⟩ := List.getElem?_eq_some_iff.mp here
    have leaves : (s.engine.tasks.eraseIdx i).length < s.engine.tasks.length := by
      rw [List.length_eraseIdx_of_lt hi]
      omega
    have step : Ledger.Change s.engine.stage.isEnding s.ledger _ :=
      .complete s.ledger i task here
    simpa [ledger, Engine.inFlight, leaves, Pool.record_accepted, Pool.record_completed]
      using step

/-- New settings count nothing. -/
private theorem ledger_of_counts {pool : Pool}
    (counts : pool.accepted = s.engine.pool.accepted ∧
      pool.completed = s.engine.pool.completed) :
    (s.withPool pool).ledger = s.ledger := by
  simp only [ledger, withPool, counts.1, counts.2]

/-- Work that is let in or goes on, and jobs that are handed in, leave all else as it is. -/
theorem work_of_move? (h : s.move? m = some t) (work : m.isWork = true) :
    ∃ tasks pool register newcomers calls, t = { s with
      engine := { s.engine with tasks := tasks, pool := pool }
      register := register, newcomers := newcomers, calls := calls } ∧
      pool.settings = s.engine.pool.settings := by
  cases m with
  | enter x =>
      cases h
      obtain ⟨tasks, pool, entered, settings⟩ := s.engine.enter_eq x
      refine ⟨tasks, pool, (s.enter x).register, s.newcomers, s.calls, ?_, settings⟩
      simp only [enter, entered]
  | takeIn x =>
      obtain ⟨_, ⟨_, rfl⟩ | ⟨_, rfl⟩⟩ := takeIn?_eq_some h
      all_goals exact ⟨_, _, _, _, _, rfl, rfl⟩
  | handIn time => cases h; exact ⟨_, _, _, _, _, rfl, rfl⟩
  | proceed j =>
      obtain ⟨call, u, next, _, stepped, rfl⟩ := proceed?_eq_some h
      cases call with
      | sized time | fitting time =>
          simp only [step?] at stepped
          split_ifs at stepped <;> cases stepped <;> exact ⟨_, _, _, _, _, rfl, rfl⟩
      | _ => cases stepped <;> exact ⟨_, _, _, _, _, rfl, rfl⟩
  | fire i =>
      obtain ⟨newcomer, _, rfl⟩ | ⟨_, e, fired, rfl⟩ := fire?_eq_some h
      · exact ⟨_, _, _, _, _, rfl, rfl⟩
      · obtain ⟨task, _, _, ⟨next, _, _, _, rfl⟩ | rfl⟩ := Engine.fire_eq_some fired
        all_goals exact ⟨_, _, _, _, _, rfl, s.engine.pool.record_settings task.work⟩
  | _ => cases work

theorem move?_change (h : s.move? m = some t)
    (saw : s.point = .sawIdle → s.engine.isIdle = true) :
    (Core.Change (s.engine.isIdle = true) s.engine.core t.engine.core ∧ t.ledger = s.ledger) ∨
      (t.engine.core = s.engine.core ∧
        Ledger.Change s.engine.stage.isEnding s.ledger t.ledger) := by
  cases m with
  | markReady => cases h; exact .inl ⟨Core.markReady_change _, rfl⟩
  | signal k => cases h; exact .inl ⟨Core.receive_change _ k, rfl⟩
  | send k =>
      cases h
      obtain ⟨inbox, sent⟩ := s.engine.send_eq k
      rw [sent]
      exact .inl ⟨.refl _, rfl⟩
  | beginRun =>
      obtain ⟨granted, rfl⟩ := begin?_eq_some h
      rw [(Engine.beginRun_granted granted).2]
      exact .inl ⟨.refl _, rfl⟩
  | beginDrain =>
      obtain ⟨granted, rfl⟩ := begin?_eq_some h
      obtain ⟨runner, entered, _⟩ := s.engine.enterDrain_eq
      rw [(Engine.beginDrain_granted granted).2, entered]
      exact .inl ⟨.refl _, rfl⟩
  | discard =>
      obtain ⟨_, k, rest, _, rfl⟩ := discard?_eq_some h
      exact .inl ⟨Core.receive_change _ k, rfl⟩
  | enter x => cases h; exact .inr (enter_change s x)
  | takeIn x => exact .inr (admit_change h)
  | handIn time =>
      cases h
      cases time <;> exact .inl ⟨.refl _, by simp [ledger, Call.isAdmitted]⟩
  | proceed j => exact .inr (proceed_change h)
  | apply update =>
      cases h
      exact .inl ⟨.refl _, ledger_of_counts (s.engine.pool.apply_counts update)⟩
  | fire i => exact .inr (fire_change h)
  | elsewhere idle =>
      obtain ⟨idles, rfl⟩ := elsewhere?_eq_some h
      refine .inl ⟨Core.finish_change _ _ ?_ ?_, rfl⟩
      · intro drained
        cases idle with
        | true => exact idles rfl
        | false => cases drained
      · intro k forced
        cases idle <;> cases forced
  | take =>
      obtain ⟨_, _, k, rest, _, rfl⟩ := take?_eq_some h
      exact .inl ⟨.refl _, rfl⟩
  | answer =>
      obtain ⟨k, _, rfl⟩ := answer?_eq_some h
      exact .inl ⟨Core.receive_change _ k, rfl⟩
  | act =>
      obtain ⟨k, r, _, ⟨_, _, rfl⟩ | ⟨_, _, rfl⟩ | ⟨_, rfl⟩ | rfl⟩ := act?_eq_some h
      · obtain ⟨runner, entered, _⟩ := s.engine.enterDrain_eq
        rw [entered]
        exact .inl ⟨.refl _, rfl⟩
      all_goals exact .inl ⟨.refl _, rfl⟩
  | served desk update =>
      obtain ⟨_, rfl⟩ := served_eq_some h
      obtain ⟨pool, reloaded, counts⟩ := s.engine.reloaded_eq desk update
      rw [reloaded]
      exact .inl ⟨.refl _, ledger_of_counts counts⟩
  | brokeOff cause =>
      obtain ⟨_, rfl⟩ := brokeOff_eq_some h
      exact .inl ⟨.refl _, rfl⟩
  | hearClosed =>
      obtain ⟨_, _, _, ⟨_, rfl⟩ | ⟨deadline, _, rfl⟩⟩ := hearClosed?_eq_some h
      all_goals exact .inl ⟨.refl _, rfl⟩
  | seeIdle =>
      obtain ⟨_, _, _, rfl⟩ := seeIdle?_eq_some h
      exact .inl ⟨.refl _, rfl⟩
  | seeLate =>
      obtain ⟨_, _, rfl⟩ := seeLate?_eq_some h
      exact .inl ⟨.refl _, rfl⟩
  | finish =>
      obtain ⟨idle, rfl⟩ | ⟨_, rfl⟩ := finish?_eq_some h
      · exact .inl ⟨Core.finish_change _ _ (fun _ => saw idle) (fun _ h => nomatch h), rfl⟩
      · exact .inl ⟨Core.finish_change _ _ (fun h => nomatch h) (fun _ h => nomatch h), rfl⟩
  | hangUp | pass _ => cases h; exact .inl ⟨.refl _, rfl⟩

theorem core_change (h : s.move? m = some t)
    (saw : s.point = .sawIdle → s.engine.isIdle = true) :
    Core.Change (s.engine.isIdle = true) s.engine.core t.engine.core := by
  obtain ⟨core, _⟩ | ⟨core, _⟩ := move?_change h saw
  · exact core
  · rw [core]
    exact .refl _

theorem ledger_change (h : s.move? m = some t)
    (saw : s.point = .sawIdle → s.engine.isIdle = true) :
    Ledger.Change s.engine.stage.isEnding s.ledger t.ledger := by
  obtain ⟨_, ledger⟩ | ⟨_, ledger⟩ := move?_change h saw
  · rw [ledger]
    exact .keep _
  · exact ledger

/-- The runner takes no part: it is where it was. -/
structure Aside (s t : Scene D) : Prop where
  point : t.point = s.point
  direct : t.direct = s.direct
  runner : t.engine.runner = s.engine.runner

theorem aside_of_move? (h : s.move? m = some t) : Aside s t ∨ m.isRunners = true := by
  cases m with
  | beginRun | beginDrain | take | answer | act | served _ _ | brokeOff _ | hearClosed | seeIdle
  | seeLate | finish => exact .inr rfl
  | markReady | signal _ | hangUp | apply _ | pass _ =>
      cases h
      exact .inl ⟨rfl, rfl, rfl⟩
  | send k =>
      cases h
      obtain ⟨inbox, sent⟩ := s.engine.send_eq k
      exact .inl ⟨rfl, rfl, by rw [sent]⟩
  | discard =>
      obtain ⟨_, k, rest, _, rfl⟩ := discard?_eq_some h
      exact .inl ⟨rfl, rfl, rfl⟩
  | enter _ | takeIn _ | handIn _ | proceed _ | fire _ =>
      obtain ⟨tasks, pool, register, newcomers, calls, rfl, _⟩ := work_of_move? h rfl
      exact .inl ⟨rfl, rfl, rfl⟩
  | elsewhere idle =>
      obtain ⟨_, rfl⟩ := elsewhere?_eq_some h
      exact .inl ⟨rfl, rfl, rfl⟩

/-- A drain is seen to be over only when the gate is closed and nothing is left behind it. -/
theorem point_of_move? (h : s.move? m = some t) (hp : t.point = .sawIdle) :
    s.point = .sawIdle ∨ s.engine.isIdle = true := by
  rcases aside_of_move? h with aside | own
  · exact .inl (aside.point.symm.trans hp)
  · cases m with
    | markReady | signal _ | send _ | hangUp | discard | enter _ | takeIn _ | handIn _ | proceed _
    | apply _ | fire _ | pass _ | elsewhere _ => cases own
    | beginRun | beginDrain =>
        obtain ⟨_, rfl⟩ := begin?_eq_some h
        exact .inl hp
    | take =>
        obtain ⟨_, _, k, rest, _, rfl⟩ := take?_eq_some h
        cases hp
    | answer =>
        obtain ⟨k, _, rfl⟩ := answer?_eq_some h
        cases hp
    | act =>
        obtain ⟨k, r, _, ⟨_, _, rfl⟩ | ⟨_, _, rfl⟩ | ⟨_, rfl⟩ | rfl⟩ := act?_eq_some h <;> cases hp
    | served desk update =>
        obtain ⟨_, rfl⟩ := served_eq_some h
        cases hp
    | brokeOff cause =>
        obtain ⟨_, rfl⟩ := brokeOff_eq_some h
        cases hp
    | hearClosed =>
        obtain ⟨_, _, _, ⟨_, rfl⟩ | ⟨deadline, _, rfl⟩⟩ := hearClosed?_eq_some h <;> exact .inl hp
    | seeIdle =>
        obtain ⟨_, _, idle, _⟩ := seeIdle?_eq_some h
        exact .inr idle
    | seeLate =>
        obtain ⟨_, _, rfl⟩ := seeLate?_eq_some h
        cases hp
    | finish =>
        obtain ⟨_, rfl⟩ | ⟨_, rfl⟩ := finish?_eq_some h <;> cases hp

/-- The core is sound, the accounts are balanced, and that no work is left is neither seen nor
recorded while there is some. -/
structure Sound (s : Scene D) : Prop where
  core : s.engine.core.Sound
  balanced : s.ledger.Balanced
  sawIdle : s.point = .sawIdle → s.engine.isIdle = true
  drained : s.engine.core.ending = some .drained → s.engine.isIdle = true

theorem sound_fresh (grace : Duration) (settings : WorkloadSettings) (desk : D) :
    (fresh grace settings desk).Sound where
  core := Core.sound_fresh grace
  balanced := ⟨rfl, List.Perm.refl _, rfl⟩
  sawIdle := by simp [fresh]
  drained := by simp [fresh]

/-- Behind a closed gate, no work left means none to come. -/
theorem isIdle_of_move? (hs : s.Sound) (h : s.move? m = some t) (idle : s.engine.isIdle = true) :
    t.engine.isIdle = true := by
  obtain ⟨closed, nothing⟩ := (isIdle_iff s.engine).mp idle
  have change := core_change h hs.sawIdle
  have ending : s.engine.stage.isEnding = true := hs.core.tracker ▸ closed
  have accounts := ledger_change h hs.sawIdle
  rw [ending] at accounts
  refine (isIdle_iff t.engine).mpr ⟨?_, Ledger.tasks_nil_of_change accounts nothing⟩
  rw [(Core.sound_of_change change hs.core).tracker]
  exact Core.isEnding_of_rank_le (Core.rank_le_of_change change) ending

theorem sound_of_move? (h : s.move? m = some t) (hs : s.Sound) : t.Sound := by
  have change := core_change h hs.sawIdle
  have accounts := ledger_change h hs.sawIdle
  refine ⟨Core.sound_of_change change hs.core, Ledger.balanced_of_change accounts hs.balanced,
    ?_, ?_⟩
  · intro hp
    rcases point_of_move? h hp with already | idle
    · exact isIdle_of_move? hs h (hs.sawIdle already)
    · exact isIdle_of_move? hs h idle
  · intro drained
    apply isIdle_of_move? hs h
    cases ending : s.engine.core.ending with
    | none => exact Core.idle_of_change_of_drained change ending drained
    | some e =>
        have stopped := hs.core.ending.mp (by simp [ending])
        rw [(Core.still_of_change_of_stopped change stopped).ending] at drained
        exact hs.drained drained

theorem Reachable.sound (h : s.Reachable) : s.Sound :=
  h.invariant sound_fresh sound_of_move?

theorem sound_of_run {ms : List (Move D)} (h : s.run ms = some t) (hs : s.Sound) : t.Sound :=
  run_invariant sound_of_move? h hs

/-- What every move keeps on sound scenes, a run keeps. -/
theorem Sound.run_invariant {P : Scene D → Prop}
    (keep : ∀ {u v : Scene D} {m : Move D}, u.move? m = some v → u.Sound → P u → P v)
    (hs : s.Sound) {ms : List (Move D)} (h : s.run ms = some t) (start : P s) : P t := by
  have kept : t.Sound ∧ P t := by
    refine Scene.run_invariant (P := fun u => u.Sound ∧ P u) ?_ h ⟨hs, start⟩
    rintro u v m hm ⟨sound, hu⟩
    exact ⟨sound_of_move? hm sound, keep hm sound hu⟩
  exact kept.2

theorem rank_le_of_run {ms : List (Move D)} (h : s.run ms = some t) (hs : s.Sound) :
    s.engine.stage.rank ≤ t.engine.stage.rank := by
  refine hs.run_invariant (P := fun u => s.engine.stage.rank ≤ u.engine.stage.rank) ?_ h
    (Nat.le_refl _)
  intro u v m hm sound le
  exact Nat.le_trans le (Core.rank_le_of_change (core_change hm sound.sawIdle))

/-- Once stopped, a daemon counts signals and does nothing else to its core. -/
theorem still_of_run_of_stopped {ms : List (Move D)} (h : s.run ms = some t) (hs : s.Sound)
    (stopped : s.engine.stage = .stopped) : s.engine.core.Still t.engine.core := by
  refine hs.run_invariant (P := fun u => s.engine.core.Still u.engine.core) ?_ h (.refl _)
  intro u v m hm sound still
  have change := core_change hm sound.sawIdle
  exact still.trans (Core.still_of_change_of_stopped change (still.stage.trans stopped))

theorem ending_of_run {ms : List (Move D)} (h : s.run ms = some t) (hs : s.Sound) {e : Ending}
    (he : s.engine.core.ending = some e) : t.engine.core.ending = some e := by
  have stopped := hs.core.ending.mp (by simp [he])
  exact (still_of_run_of_stopped h hs stopped).ending.trans he

end Quiesce.Scene
