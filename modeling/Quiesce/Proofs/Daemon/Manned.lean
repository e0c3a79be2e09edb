import Quiesce.Proofs.Daemon.Course
import Quiesce.Proofs.Daemon.Exit
import Quiesce.Proofs.Engine.Headcount
import Quiesce.Proofs.Settings.Reload

/-!
A daemon that is ready has its workers at work, all that its settings ask for. They are launched
before it becomes ready, and do not end until its gate is closed. A drain has to wait for each of
them: none ends with the work at the instant at which it begins.
-/
namespace Quiesce

theorem Settings.workers_ne_zero_of_validate {s : Settings} (valid : s.validate = .ok ()) :
    s.workload.workers ≠ 0 := by
  have nothing := objection?_of_validate valid
  grind [objection?]

/-- No signal makes a daemon ready. -/
theorem Core.ready_of_receive {c : Core} {k : Signal} (ready : (c.receive k).2.stage = .ready) :
    c.stage = .ready := by
  cases asks : k.asksToStop with
  | false =>
      rw [receive_of_target?_eq_none c k (Response.target?_of c.stage k asks)] at ready
      exact ready
  | true =>
      cases ending : c.stage.isEnding with
      | false =>
          rw [receive_beginDrain c k ending asks] at ready
          cases ready
      | true =>
          have change : Change True c (c.receive k).2 := receive_change c k
          have closed := isEnding_of_rank_le (rank_le_of_change change) ending
          rw [ready] at closed
          cases closed

theorem Core.ready_of_finish {c : Core} {r : Ending} (ready : (c.finish r).2.stage = .ready) :
    c.stage = .ready := by
  by_cases draining : c.stage = .draining
  · rw [finish_of_draining c r draining] at ready
    cases ready
  · rwa [finish_of_not_draining c r draining] at ready

/-- Only the main task makes a daemon ready. -/
theorem Scene.ready_of_move? {D : Type} {s t : Scene D} {m : Move D} (h : s.move? m = some t)
    (others : m ≠ .markReady) (ready : t.engine.stage = .ready) : s.engine.stage = .ready := by
  cases heard : s.heard? m with
  | some x =>
      obtain ⟨_, core⟩ := core_of_heard h heard
      exact Core.ready_of_receive ((congrArg Core.stage core).symm.trans ready)
  | none =>
      obtain core | ⟨own, _⟩ | ⟨e, _, core⟩ := core_of_unheard h heard
      · exact (congrArg Core.stage core).symm.trans ready
      · exact absurd own others
      · exact Core.ready_of_finish ((congrArg Core.stage core).symm.trans ready)

theorem Scene.workers_of_run {D : Type} {s t : Scene D} {ms : List (Move D)}
    (hrun : s.run ms = some t) (sound : s.Sound) :
    t.engine.pool.settings.workers = s.engine.pool.settings.workers := by
  refine sound.run_invariant (P := fun u =>
    u.engine.pool.settings.workers = s.engine.pool.settings.workers) ?_ hrun rfl
  intro u v m moved soundOf same
  refine Eq.trans ?_ same
  cases soundOf.labour moved <;> assumption

/-- How many workers of a crew are still to be launched before the daemon can be ready. -/
def Station.missing (crew : Nat) : Station → Nat
  | .created | .announced | .listening | .failed => crew
  | .launching left => left
  | _ => 0

/-- Whether the main task has had the daemon become ready, if it can. -/
def Station.isPast : Station → Bool
  | .turned _ | .started | .running | .concluded => true
  | _ => false

theorem Station.missing_of_isPast {crew : Nat} {a : Station} (past : a.isPast = true) :
    a.missing crew = 0 := by
  cases a <;> first | rfl | cases past

namespace Course

variable {host : Host} {c d : Course} {m : Turn} {crew : Nat}

/-- What a turn does to the engine, over a whole course. -/
theorem moves_of_run (sound : c.Sound) {ms : List Turn} (hrun : c.run host ms = some d) :
    d.Sound ∧ ∃ ns, c.scene.run ns = some d.scene := by
  refine sound.run_invariant (P := fun e => ∃ ns, c.scene.run ns = some e.scene) ?_ hrun ⟨[], rfl⟩
  rintro e f m turned soundOf ⟨ns, before⟩
  obtain ⟨moves, one, _⟩ := moves_of_turn? soundOf.byRun turned
  exact ⟨ns ++ moves, by rw [Scene.run_append, before]; exact one⟩

/-- All workers of a crew are at work as long as the gate is open, but for those that the main task
has still to launch; and the daemon does not become ready before. -/
structure Manned (crew : Nat) (c : Course) : Prop where
  settings : c.daemon.engine.pool.settings.workers.toNat = crew
  workers : c.daemon.engine.stage.isEnding = false →
    crew ≤ c.daemon.engine.atWork .worker + c.station.missing crew
  ready : c.daemon.engine.stage = .ready → c.station.isPast = true

theorem manned_create (settings : Settings) (path : String) (overrides : Overrides)
    (sources : Settings.Sources) :
    (create settings path overrides sources).Manned settings.workload.workers.toNat where
  settings := rfl
  workers _ := Nat.le_add_left _ _
  ready := nofun

/-- A turn that launches no worker leaves no more of them missing than there were. -/
theorem Manned.keep (hc : c.Manned crew) (sound : c.Sound) {ns : List (Move Desk)}
    (moves : c.scene.run ns = some d.scene)
    (missing : c.station.missing crew ≤ d.station.missing crew)
    (ready : d.daemon.engine.stage = .ready → d.station.isPast = true) : d.Manned crew := by
  refine ⟨?_, ?_, ready⟩
  · have same := Scene.workers_of_run moves sound.scene
    exact (congrArg UInt64.toNat same).trans hc.settings
  · intro isOpen
    have before := hc.workers (Scene.isOpen_of_run moves sound.scene isOpen)
    have stay : c.daemon.engine.atWork .worker ≤ d.daemon.engine.atWork .worker :=
      sound.scene.atWork_le_of_run moves isOpen
    omega

/-- A worker that is launched is no longer missing. -/
theorem Manned.launch (hc : c.Manned crew) (sound : c.Sound) {left : Nat}
    (launching : c.station = .launching (left + 1))
    (opens : c.daemon.engine.opensFor .worker = true) :
    Manned crew { c.follow (c.scene.takeIn .worker) with station := .launching left } := by
  have moved : c.scene.move? (.takeIn .worker) = some (c.scene.takeIn .worker) := if_pos opens
  have lets : c.scene.letsIn .worker (.takeIn .worker) = true := by
    have opened : c.scene.engine.opensFor .worker = true := opens
    simp [Scene.letsIn, Scene.lets?, opened, Entry.work]
  have counted := sound.scene.atWork_of_move? moved .worker
  rw [lets] at counted
  refine ⟨hc.settings, ?_, ?_⟩
  · intro isOpen
    have before := hc.workers isOpen
    rw [launching] at before
    have more : (c.scene.takeIn .worker).engine.atWork .worker =
        c.daemon.engine.atWork .worker + 1 := counted
    change crew ≤ (c.scene.takeIn .worker).engine.atWork .worker + left
    change crew ≤ c.daemon.engine.atWork .worker + (left + 1) at before
    omega
  · intro ready
    have past := hc.ready ready
    rw [launching] at past
    cases past

theorem manned_of_turn? (turned : c.turn? host m = some d) (sound : c.Sound)
    (hc : c.Manned crew) : d.Manned crew := by
  obtain ⟨ns, moves, _⟩ := moves_of_turn? sound.byRun turned
  have early (unready : c.station.isPast = false) {P : Prop} :
      c.daemon.engine.stage = .ready → P := fun ready =>
    absurd (hc.ready ready) (by rw [unready]; exact Bool.false_ne_true)
  cases step_of_turn? turned with
  | announce here | listen here | listensAlready here | launched here =>
      exact hc.keep sound moves (by rw [here]; exact Nat.le_refl _) (early (by rw [here]; rfl))
  | count listening =>
      exact hc.keep sound moves (by rw [listening]; exact Nat.le_of_eq hc.settings.symm)
        (early (by rw [listening]; rfl))
  | launch launching opens => exact hc.launch sound launching opens
  | launchRefused launching =>
      exact ⟨hc.settings, fun _ => Nat.le_add_left _ _, early (by rw [launching]; rfl)⟩
  | openControl launched =>
      exact hc.keep sound moves (by rw [launched]; exact Nat.zero_le _)
        (early (by rw [launched]; rfl))
  | becomeReady here | sayReady here | notReady here | beginRun here | conclude here
  | breakOff here =>
      exact hc.keep sound moves (by rw [here]; exact Nat.le_refl _) fun _ => rfl
  | look | report | forget => exact hc.keep sound moves (Nat.le_refl _) hc.ready
  | other others moved =>
      refine hc.keep sound moves (Nat.le_refl _) fun ready => hc.ready ?_
      refine Scene.ready_of_move? moved ?_ ready
      rintro rfl
      cases others

/-- A ready daemon has as many workers at work as its settings ask for. -/
theorem crew_of_ready {settings : Settings} {path : String} {overrides : Overrides}
    {sources : Settings.Sources} {ms : List Turn}
    (hrun : (create settings path overrides sources).run host ms = some c)
    (ready : c.daemon.engine.stage = .ready) :
    settings.workload.workers.toNat ≤ c.daemon.engine.atWork .worker := by
  obtain ⟨_, manned⟩ := (sound_create settings path overrides sources).run_invariant
    (P := Manned settings.workload.workers.toNat)
    manned_of_turn? hrun (manned_create settings path overrides sources)
  have all := manned.workers (by rw [ready]; rfl)
  rwa [Station.missing_of_isPast (manned.ready ready), Nat.add_zero] at all

end Course

theorem Daemon.lt_due_of_settle (d : Daemon) :
    ∀ task ∈ d.settle.engine.tasks, d.settle.engine.now < task.due := by
  obtain ⟨now, tasks, _⟩ :=
    followUp_frame { d with engine := d.engine.settle Desk.handler }
  intro task inside
  have ahead := Engine.lt_dues_of_settle Desk.handler d.engine task.due
  rw [settle, tasks] at inside
  rw [settle, now]
  exact ahead (List.mem_append_right _ (List.mem_map_of_mem inside))

open Scene

/-- All that is in flight is accounted for by kind: what was let in is in flight or has ended. As
long as the gate is open no worker has ended, and launching workers is all or nothing. A daemon that
is ready, having started with valid settings, has all of its workers at work, each of which has a
unit to complete before a drain ends with the work; at the instant at which it begins a drain does
not, for by then the timers that are due have gone off. -/
theorem in_flight_accounted :
    (∀ (D : Type) grace settings (desk : D) ms s,
      (fresh grace settings desk).run ms = some s →
      let past := (fresh grace settings desk).history ms
      let e := s.engine
      e.inFlight = e.atWork .worker + e.atWork .job + e.atWork .errand ∧
      (∀ w, e.atWork w + ended w past = letIn w past) ∧
      e.pool.accepted + s.calls.countP Call.isAdmitted = e.pool.completed + e.atWork .job ∧
      ((∀ time, .admitted time ∉ s.calls) → e.pool.pending = e.atWork .job) ∧
      (e.stage.isEnding = false → e.atWork .worker = letIn .worker past) ∧
      (∀ n, e.launch.1 = .ok n → n = e.pool.settings.workers.toNat ∧ e.launch.2 = { e with
        tasks := e.tasks ++
          List.replicate n ⟨.worker, Clock.wake e.now e.pool.settings.unit⟩ }) ∧
      (∀ fault, e.launch.1 = .error fault → e.launch.2 = e) ∧
      ∃ ns t, s.run ns = some t ∧ t.engine = e.launch.2 ∧
        letIn .worker (s.history ns) = e.launch.1.toOption.getD 0) ∧
    (∀ host settings path overrides sources ms c, settings.validate = .ok () →
      (Course.create settings path overrides sources).run host ms = some c →
      c.daemon.engine.stage = .ready →
      let e := c.daemon.engine
      settings.workload.workers.toNat ≤ e.atWork .worker ∧ 0 < e.inFlight ∧
      ∀ ns d, c.run host ns = some d → d.daemon.engine.core.ending = some .drained →
        e.pool.units + e.atWork .worker ≤ d.daemon.engine.pool.units ∧
        ((∀ task ∈ e.tasks, e.now < task.due) → e.now < d.daemon.engine.now)) ∧
    (∀ d : Daemon, ∀ task ∈ d.settle.engine.tasks, d.settle.engine.now < task.due) ∧
    ∀ (D : Type) (handler : Handler D) grace settings (desk : D) requests,
      settings.workers ≠ 0 →
      let e := (fresh grace settings desk).engine.serveEach handler (.launch :: requests)
      e.stage = .ready → settings.workers.toNat ≤ e.atWork .worker ∧ 0 < e.inFlight ∧
      ∀ more, (e.serveEach handler more).core.ending = some .drained →
        e.now < (e.serveEach handler more).now := by
  refine ⟨?_, ?_, Daemon.lt_due_of_settle, ?_⟩
  · intro D grace settings desk ms s hrun past e
    have start := sound_fresh grace settings desk
    have sound := sound_of_run hrun start
    have accounts (w : Work) : e.atWork w + ended w past = letIn w past :=
      (start.atWork_of_run hrun w).trans (Nat.zero_add _)
    obtain ⟨all, nobody⟩ := e.launch_all_or_nothing
    refine ⟨e.inFlight_eq_atWork, accounts, sound.pending.1,
      fun counted => (sound.pending.2 counted).2, ?_, all, nobody, sound.letIn_of_launch⟩
    intro isOpen
    have counted := accounts .worker
    rwa [start.ended_worker hrun isOpen, Nat.add_zero] at counted
  · intro host settings path overrides sources ms c valid hrun ready e
    have crew : settings.workload.workers.toNat ≤ e.atWork .worker :=
      Course.crew_of_ready hrun ready
    have positive : settings.workload.workers.toNat ≠ 0 := fun none =>
      Settings.workers_ne_zero_of_validate valid (UInt64.toNat_inj.mp none)
    have all := e.inFlight_eq_atWork
    have some : 0 < e.inFlight := by omega
    refine ⟨crew, some, ?_⟩
    intro ns d hruns drained
    obtain ⟨sound, before, reached⟩ :=
      Course.moves_of_run (Course.sound_create settings path overrides sources) hrun
    have awaited : c.scene.Awaited := Reachable.awaited ⟨_, _, _, before, reached⟩
    obtain ⟨_, moves, further⟩ := Course.moves_of_run sound hruns
    exact ⟨sound.scene.units_of_drained further drained,
      sound.scene.lt_of_drained awaited further drained some⟩
  · intro D handler grace settings desk requests nonzero e ready
    have isOpen : e.stage.isEnding = false := by rw [ready]; rfl
    obtain ⟨manned, later⟩ := manned_serveEach handler grace settings desk requests rfl isOpen
    have crew : settings.workers.toNat ≤ e.atWork .worker := manned
    have positive : settings.workers.toNat ≠ 0 := fun none => nonzero (UInt64.toNat_inj.mp none)
    have all := e.inFlight_eq_atWork
    exact ⟨crew, by omega, later nonzero⟩

/-- A worker and a job are at work when an errand has ended; and a worker is at its first unit when
a drain begins. -/
theorem in_flight_accounted_of_one :
    (∃ (ms : List (Move Unit)) (s : Scene Unit), (fresh (.ofMillis 5000) {} ()).run ms = some s ∧
      letIn .errand ((fresh (.ofMillis 5000) {} ()).history ms) = 1 ∧
      s.engine.inFlight = 2 ∧ s.engine.pool.pending = 1) ∧
    ∃ ns c d, Course.small.run Course.someHost Course.begins = some c ∧
      c.run Course.someHost ns = some d ∧ c.daemon.engine.stage = .ready ∧
      0 < c.daemon.engine.inFlight ∧ d.daemon.engine.core.ending = some .drained ∧
      0 < d.daemon.engine.pool.units ∧ c.daemon.engine.now < d.daemon.engine.now := by
  obtain ⟨accounted, manned, _, _⟩ := in_flight_accounted
  refine ⟨?_, ?_⟩
  · let moves : List (Move Unit) :=
      [.enter .worker, .markReady, .enter (.job (.ofMillis 100)), .enter (.errand (.ofMillis 10)),
        .pass 10000000, .fire 2]
    obtain ⟨s, hrun⟩ : ∃ s, (fresh (.ofMillis 5000) {} ()).run moves = some s := ⟨_, rfl⟩
    obtain ⟨all, each, _, jobs, _⟩ := accounted Unit _ _ () moves s hrun
    have counts : ∀ w, letIn w ((fresh (.ofMillis 5000) {} ()).history moves) = 1 ∧
        ended w ((fresh (.ofMillis 5000) {} ()).history moves) = if w = .errand then 1 else 0 := by
      intro w
      cases w <;> decide +kernel
    have worker := each .worker
    have job := each .job
    have errand := each .errand
    rw [(counts _).1, (counts _).2] at worker job errand
    have job : s.engine.atWork .job = 1 := job
    have calls : s.calls = [] := by cases hrun; rfl
    refine ⟨moves, s, hrun, (counts .errand).1, ?_, (jobs (by simp [calls])).trans job⟩
    simp only [reduceCtorEq, if_true, if_false] at worker errand
    omega
  · let turns : List Turn := Course.hears .terminate ++
      [.other (.pass 250000000), .other (.fire 0), .other .seeIdle, .other .finish]
    obtain ⟨c, d, hrun, hruns, ready, drained, early⟩ : ∃ c d,
        Course.small.run Course.someHost Course.begins = some c ∧
        c.run Course.someHost turns = some d ∧ c.daemon.engine.stage = .ready ∧
        d.daemon.engine.core.ending = some .drained ∧
        ∀ task ∈ c.daemon.engine.tasks, c.daemon.engine.now < task.due :=
      ⟨_, _, rfl, rfl, rfl, rfl, by decide +kernel⟩
    obtain ⟨crew, some, ends⟩ := manned _ _ _ _ _ _ c rfl hrun ready
    obtain ⟨units, later⟩ := ends turns d hruns drained
    refine ⟨turns, c, d, hrun, hruns, ready, some, drained, ?_, later early⟩
    exact Nat.lt_of_lt_of_le (Nat.lt_of_lt_of_le Nat.one_pos crew)
      (Nat.le_trans (Nat.le_add_left _ _) units)

end Quiesce
