import Quiesce.Proofs.Engine.Calls
import Quiesce.Proofs.Engine.Executor

/-!
A daemon in the midst of what its tasks do. The main task starts the daemon, runs it and says how it
stopped; the reporter looks at the stage and writes of it, in two steps; and the runner, the timers
and everybody else act on the engine. Any order of their turns is a possible one.
-/
namespace Quiesce

namespace Daemon

variable {d e : Daemon}

theorem listen_eq (d : Daemon) : d.listen = (.error .alreadyListening, d) ∨
    d.listening = false ∧ d.listen = (.ok (), { d with
      listening := true, hasChannel := true
      reporter := some ⟨d.engine.core.cell.subscribe, none⟩ }) := by
  unfold listen
  split
  · exact .inl rfl
  · rename_i deaf
    exact .inr ⟨by simpa using deaf, rfl⟩

theorem openControl_eq (host : Host) (d : Daemon) :
    ∃ result control, d.openControl host = (result, { d with control := control }) := by
  unfold openControl
  repeat' split
  all_goals exact ⟨_, _, rfl⟩

/-- The run begins on a runner that is free, if at all. -/
theorem beginRun_eq (d : Daemon) : ∃ hasChannel refusal engine,
    d.beginRun = { d with hasChannel := hasChannel, refusal := refusal, engine := engine } ∧
      (engine = d.engine ∨
        d.engine.beginRun.1 = true ∧ engine = { d.engine with runner := .receiving }) := by
  unfold beginRun
  split
  · refine ⟨_, _, _, rfl, ?_⟩
    unfold Engine.beginRun
    split
    · exact .inl rfl
    · exact .inr ⟨rfl, rfl⟩
  · exact ⟨_, _, _, rfl, .inl rfl⟩

/-- What is said at the end, if something is, is how the run ended. -/
theorem conclude?_eq_some (h : d.conclude? = some e) :
    (∃ r, d.engine.runner = .ended (.stopped r) ∧ e = ({ d with
      engine := d.engine.discard.2.hangUp
      concluded := some d.engine.now }.write (.ofEnding r))) ∨
    (∃ cause, d.engine.runner = .ended (.overflow cause)) ∧
      e = { d with concluded := some d.engine.now } := by
  unfold conclude? at h
  split at h
  · cases h
  · split at h
    · rename_i r returned
      cases h
      exact .inl ⟨r, returned, rfl⟩
    · rename_i cause broke
      cases h
      exact .inr ⟨⟨cause, broke⟩, rfl⟩
    · cases h

/-- The reporter reads the stage last published, if that was published since it looked. -/
theorem reporterRead?_eq_some (h : d.reporterRead? = some e) :
    ∃ watcher, d.reporter = some ⟨watcher, none⟩ ∧ watcher.seen ≠ d.engine.core.cell.version ∧
      e = { d with
        reporter := some ⟨⟨d.engine.core.cell.version⟩, some d.engine.core.cell.published⟩ } := by
  unfold reporterRead? at h
  split at h
  · rename_i watcher idle
    cases news : watcher.changed d.engine.core.cell with
    | false => simp [StageCell.Watcher.look, news] at h
    | true =>
        simp only [StageCell.Watcher.look, news] at h
        cases h
        exact ⟨watcher, idle, by simpa [StageCell.Watcher.changed] using news, rfl⟩
  · cases h

theorem reporterWrite?_eq_some (h : d.reporterWrite? = some e) :
    ∃ watcher stage, d.reporter = some ⟨watcher, some stage⟩ ∧
      ((stage = .draining ∧
          e = { d with reporter := some ⟨watcher, none⟩ }.write (.stage .draining)) ∨
        stage ≠ .draining ∧ e = { d with reporter := some ⟨watcher, none⟩ }) := by
  unfold reporterWrite? at h
  split at h
  · rename_i watcher stage holds
    by_cases draining : stage = .draining
    · subst draining
      cases h
      exact ⟨watcher, _, holds, .inl ⟨rfl, rfl⟩⟩
    · simp only [draining, ite_false] at h
      cases h
      exact ⟨watcher, stage, holds, .inr ⟨draining, rfl⟩⟩
  · cases h

end Daemon

/-- How far the main task of a daemon is. -/
inductive Station where
  | created
  | announced
  | listening
  /-- So many workers are still to be launched. -/
  | launching (workers : Nat)
  | launched
  | opened
  /-- The daemon has become ready, or has not, but it has not said so yet. -/
  | turned (ready : Bool)
  | started
  | running
  | concluded
  /-- The start was given up. -/
  | failed
  deriving DecidableEq

/-- A daemon with the place of its main task, and that of its runner. -/
structure Course where
  daemon : Daemon
  station : Station := .created
  point : Point := .waiting
  direct : Bool := false
  register : Register := {}
  newcomers : List (Nat × Entry) := []
  calls : List Call := []

inductive Turn where
  | announce
  | listen
  /-- The workers are counted, or one of them is let in, or there are no more. -/
  | launch
  | openControl
  | becomeReady
  | sayReady
  | beginRun
  | conclude
  /-- The reporter reads the stage, if there is news. -/
  | look
  /-- The reporter writes of what it has read. -/
  | report
  | other (m : Move Desk)

/-- Whether a turn is that of somebody who has a signal answered past the channel. -/
def Turn.isDirect : Turn → Bool
  | .other (.signal _) => true
  | _ => false

/-- Whether a move has a signal answered, or sets the runner to work. -/
def Move.stirs {D : Type} : Move D → Bool
  | .signal _ | .discard | .beginRun | .beginDrain => true
  | _ => false

/-- Whether a move is one that others make than the main task. Signals that are sent to the process
reach it from the time on at which it listens for them. -/
def Move.isOthers (listening : Bool) : Move Desk → Bool
  | .markReady | .beginRun | .beginDrain | .discard | .hangUp => false
  | .send _ => listening
  | _ => true

/-- Others do not set the runner to work. -/
theorem Move.direct_of_isOthers {listening : Bool} {m : Move Desk} {s t : Scene Desk}
    (others : m.isOthers listening = true) (h : s.move? m = some t) : t.direct = s.direct := by
  rcases Scene.aside_of_move? h with aside | own
  · exact aside.direct
  · cases m with
    | markReady | signal _ | send _ | hangUp | discard | enter _ | takeIn _ | handIn _
    | proceed _ | apply _ | fire _ | pass _ | elsewhere _ => cases own
    | beginRun | beginDrain => cases others
    | take =>
        obtain ⟨_, _, k, rest, _, rfl⟩ := Scene.take?_eq_some h
        rfl
    | answer =>
        obtain ⟨k, _, rfl⟩ := Scene.answer?_eq_some h
        rfl
    | act =>
        obtain ⟨k, r, _, ⟨_, _, rfl⟩ | ⟨_, _, rfl⟩ | ⟨_, rfl⟩ | rfl⟩ := Scene.act?_eq_some h <;> rfl
    | served desk update =>
        obtain ⟨_, rfl⟩ := Scene.served_eq_some h
        rfl
    | brokeOff cause =>
        obtain ⟨_, rfl⟩ := Scene.brokeOff_eq_some h
        rfl
    | hearClosed =>
        obtain ⟨_, _, _, ⟨_, rfl⟩ | ⟨deadline, _, rfl⟩⟩ := Scene.hearClosed?_eq_some h <;> rfl
    | seeIdle =>
        obtain ⟨_, _, _, rfl⟩ := Scene.seeIdle?_eq_some h
        rfl
    | seeLate =>
        obtain ⟨_, _, rfl⟩ := Scene.seeLate?_eq_some h
        rfl
    | finish =>
        obtain ⟨_, rfl⟩ | ⟨_, rfl⟩ := Scene.finish?_eq_some h <;> rfl

namespace Course

def create (settings : Settings) (path : String) (overrides : Overrides)
    (sources : Settings.Sources) : Course where
  daemon := .new settings path overrides sources

/-- What the tasks of the daemon act on. -/
def scene (c : Course) : Scene Desk where
  engine := c.daemon.engine
  point := c.point
  direct := c.direct
  register := c.register
  newcomers := c.newcomers
  calls := c.calls

def follow (c : Course) (s : Scene Desk) : Course where
  daemon := { c.daemon with engine := s.engine }
  station := c.station
  point := s.point
  direct := s.direct
  register := s.register
  newcomers := s.newcomers
  calls := s.calls

/-- The main task gets to its next station, or gives up. -/
def onward (c : Course) (next : Station) : Except Fault Unit × Daemon → Course
  | (.ok _, d) => { c with daemon := d, station := next }
  | (.error _, d) => { c with daemon := d, station := .failed }

/-- The next worker is let in, and has its first turn later. -/
def launchOne (c : Course) (left : Nat) : Course :=
  if c.daemon.engine.opensFor .worker then
    { c.follow (c.scene.takeIn .worker) with station := .launching left }
  else { c with station := .failed }

/-- What a turn makes of a course, if somebody can take it. -/
def turn? (host : Host) (c : Course) : Turn → Option Course
  | .announce =>
    if c.station = .created then
      some { c with daemon := c.daemon.write (.stage .starting), station := .announced }
    else none
  | .listen =>
    if c.station = .announced then some (c.onward .listening c.daemon.listen) else none
  | .launch =>
    match c.station with
    | .listening =>
      some { c with station := .launching c.daemon.engine.pool.settings.workers.toNat }
    | .launching 0 => some { c with station := .launched }
    | .launching (left + 1) => some (c.launchOne left)
    | _ => none
  | .openControl =>
    if c.station = .launched then some (c.onward .opened (c.daemon.openControl host)) else none
  | .becomeReady =>
    if c.station = .opened then
      some { c with
        daemon := { c.daemon with engine := c.daemon.engine.markReady.2 }
        station := .turned c.daemon.engine.markReady.1 }
    else none
  | .sayReady =>
    match c.station with
    | .turned true => some { c with
        daemon := c.daemon.write (.ready host.pid c.daemon.controlText), station := .started }
    | .turned false => some { c with station := .started }
    | _ => none
  | .beginRun =>
    if c.station = .started then some { c with daemon := c.daemon.beginRun, station := .running }
    else none
  | .conclude =>
    if c.station = .running then
      c.daemon.conclude?.map fun d => { c with daemon := d, station := .concluded }
    else none
  | .look => c.daemon.reporterRead?.map fun d => { c with daemon := d }
  | .report => c.daemon.reporterWrite?.map fun d => { c with daemon := d }
  | .other m => if m.isOthers c.daemon.listening then (c.scene.move? m).map c.follow else none

def run (host : Host) : Course → List Turn → Option Course
  | c, [] => some c
  | c, m :: rest => (c.turn? host m).bind (run host · rest)

theorem run_append (host : Host) (c : Course) (ms ns : List Turn) :
    c.run host (ms ++ ns) = (c.run host ms).bind (run host · ns) := by
  induction ms generalizing c with
  | nil => rfl
  | cons m ms ih =>
      simp only [List.cons_append, run]
      cases c.turn? host m with
      | none => rfl
      | some d => exact ih d

/-- What a turn comes to, in each of its cases. -/
inductive Step (host : Host) (c : Course) : Turn → Course → Prop where
  | announce (created : c.station = .created) : Step host c .announce { c with
      daemon := c.daemon.write (.stage .starting), station := .announced }
  | listen (announced : c.station = .announced) (deaf : c.daemon.listening = false) :
      Step host c .listen { c with
        daemon := { c.daemon with
          listening := true, hasChannel := true
          reporter := some ⟨c.daemon.engine.core.cell.subscribe, none⟩ }
        station := .listening }
  | listensAlready (announced : c.station = .announced) :
      Step host c .listen { c with station := .failed }
  | count (listening : c.station = .listening) : Step host c .launch { c with
      station := .launching c.daemon.engine.pool.settings.workers.toNat }
  | launch {left : Nat} (launching : c.station = .launching (left + 1))
      (opens : c.daemon.engine.opensFor .worker = true) :
      Step host c .launch { c.follow (c.scene.takeIn .worker) with station := .launching left }
  | launchRefused {left : Nat} (launching : c.station = .launching (left + 1))
      (closed : c.daemon.engine.opensFor .worker = false) :
      Step host c .launch { c with station := .failed }
  | launched (launching : c.station = .launching 0) :
      Step host c .launch { c with station := .launched }
  | openControl (launched : c.station = .launched) (control : Option (Address × UInt16))
      {next : Station} (on : next = .opened ∨ next = .failed) :
      Step host c .openControl { c with
        daemon := { c.daemon with control := control }, station := next }
  | becomeReady (opened : c.station = .opened) : Step host c .becomeReady { c with
      daemon := { c.daemon with engine := c.daemon.engine.markReady.2 }
      station := .turned c.daemon.engine.markReady.1 }
  | sayReady (turned : c.station = .turned true) : Step host c .sayReady { c with
      daemon := c.daemon.write (.ready host.pid c.daemon.controlText), station := .started }
  | notReady (turned : c.station = .turned false) :
      Step host c .sayReady { c with station := .started }
  | beginRun (started : c.station = .started) (hasChannel : Bool) (refusal : Option Fault)
      {engine : Engine Desk}
      (begun : engine = c.daemon.engine ∨ c.daemon.engine.beginRun.1 = true ∧
        engine = { c.daemon.engine with runner := .receiving }) :
      Step host c .beginRun { c with
        daemon := { c.daemon with hasChannel := hasChannel, refusal := refusal, engine := engine }
        station := .running }
  | conclude (running : c.station = .running) {r : Ending}
      (returned : c.daemon.engine.runner = .ended (.stopped r)) :
      Step host c .conclude { c with
        daemon := { c.daemon with
          engine := c.daemon.engine.discard.2.hangUp
          concluded := some c.daemon.engine.now }.write (.ofEnding r)
        station := .concluded }
  | breakOff (running : c.station = .running) {cause : Overflow}
      (broke : c.daemon.engine.runner = .ended (.overflow cause)) : Step host c .conclude { c with
        daemon := { c.daemon with concluded := some c.daemon.engine.now }
        station := .concluded }
  | look (watcher : StageCell.Watcher) (idle : c.daemon.reporter = some ⟨watcher, none⟩)
      (news : watcher.seen ≠ c.daemon.engine.core.cell.version) :
      Step host c .look { c with daemon := { c.daemon with
        reporter := some ⟨⟨c.daemon.engine.core.cell.version⟩,
          some c.daemon.engine.core.cell.published⟩ } }
  | report (watcher : StageCell.Watcher)
      (holds : c.daemon.reporter = some ⟨watcher, some .draining⟩) :
      Step host c .report { c with
        daemon := { c.daemon with reporter := some ⟨watcher, none⟩ }.write (.stage .draining) }
  | forget (watcher : StageCell.Watcher) {stage : Stage} (other : stage ≠ .draining)
      (holds : c.daemon.reporter = some ⟨watcher, some stage⟩) :
      Step host c .report { c with daemon := { c.daemon with reporter := some ⟨watcher, none⟩ } }
  | other {m : Move Desk} {t : Scene Desk} (others : m.isOthers c.daemon.listening = true)
      (moved : c.scene.move? m = some t) : Step host c (.other m) (c.follow t)

variable {host : Host} {c d : Course} {m : Turn}

/-- What every turn keeps, a whole course keeps. -/
theorem run_invariant {P : Course → Prop}
    (keep : ∀ {c d : Course} {m : Turn}, c.turn? host m = some d → P c → P d)
    {ms : List Turn} (h : c.run host ms = some d) (start : P c) : P d := by
  induction ms generalizing c with
  | nil => cases h; exact start
  | cons m ms ih =>
      obtain ⟨u, turned, rest⟩ := Option.bind_eq_some_iff.mp h
      exact ih rest (keep turned start)

theorem step_of_turn? (h : c.turn? host m = some d) : Step host c m d := by
  cases m with
  | announce =>
      simp only [turn?] at h
      split at h <;> cases h
      exact .announce ‹_›
  | listen =>
      simp only [turn?] at h
      split at h <;> cases h
      rename_i announced
      rcases c.daemon.listen_eq with refused | ⟨deaf, listens⟩
      · rw [refused]
        exact .listensAlready announced
      · rw [listens]
        exact .listen announced deaf
  | launch =>
      simp only [turn?] at h
      split at h <;> cases h
      · exact .count ‹_›
      · exact .launched ‹_›
      · unfold launchOne
        split
        · exact .launch ‹_› ‹_›
        · rename_i closed
          exact .launchRefused ‹_› (Bool.eq_false_iff.mpr closed)
  | openControl =>
      simp only [turn?] at h
      split at h <;> cases h
      rename_i launched
      obtain ⟨result, control, opens⟩ := c.daemon.openControl_eq host
      rw [opens]
      cases result with
      | ok _ => exact .openControl launched control (.inl rfl)
      | error _ => exact .openControl launched control (.inr rfl)
  | becomeReady =>
      simp only [turn?] at h
      split at h <;> cases h
      exact .becomeReady ‹_›
  | sayReady =>
      simp only [turn?] at h
      split at h <;> cases h
      · exact .sayReady ‹_›
      · exact .notReady ‹_›
  | beginRun =>
      simp only [turn?] at h
      split at h <;> cases h
      obtain ⟨hasChannel, refusal, engine, begins, begun⟩ := c.daemon.beginRun_eq
      rw [begins]
      exact .beginRun ‹_› hasChannel refusal begun
  | conclude =>
      simp only [turn?] at h
      split at h
      · obtain ⟨e, concluded, rfl⟩ := Option.map_eq_some_iff.mp h
        rcases Daemon.conclude?_eq_some concluded with ⟨r, returned, rfl⟩ | ⟨⟨cause, broke⟩, rfl⟩
        · exact .conclude ‹_› returned
        · exact .breakOff ‹_› broke
      · cases h
  | look =>
      obtain ⟨e, looked, rfl⟩ := Option.map_eq_some_iff.mp h
      obtain ⟨watcher, idle, news, rfl⟩ := Daemon.reporterRead?_eq_some looked
      exact .look watcher idle news
  | report =>
      obtain ⟨e, reported, rfl⟩ := Option.map_eq_some_iff.mp h
      obtain ⟨watcher, stage, holds, ⟨rfl, rfl⟩ | ⟨other, rfl⟩⟩ :=
        Daemon.reporterWrite?_eq_some reported
      · exact .report watcher holds
      · exact .forget watcher other holds
  | other m =>
      simp only [turn?] at h
      split at h
      · obtain ⟨t, moved, rfl⟩ := Option.map_eq_some_iff.mp h
        exact .other ‹_› moved
      · cases h

/-- The daemon's parts agree, and its runner is aware of the others; nobody but the main task has
set it to work. -/
structure Sound (c : Course) : Prop where
  scene : c.scene.Sound
  aware : c.scene.Aware
  byRun : c.direct = false

theorem sound_create (settings : Settings) (path : String) (overrides : Overrides)
    (sources : Settings.Sources) : (create settings path overrides sources).Sound where
  scene := Scene.sound_fresh settings.lifecycle.grace settings.workload _
  aware := Scene.aware_fresh settings.lifecycle.grace settings.workload _
  byRun := rfl

/-- What a turn does to the engine is made up of moves, by which the runner is not set to drain.
Before the run only signals that are answered past the channel stir the daemon. -/
def Moves (m : Turn) (c d : Course) : Prop :=
  ∃ ms, c.scene.run ms = some d.scene ∧ d.direct = false ∧ ∀ n ∈ ms, n.stirs = true →
    m.isDirect = true ∨ c.station = .started ∨ c.station = .running

theorem moves_of_turn? (byRun : c.direct = false) (h : c.turn? host m = some d) :
    Moves m c d := by
  have unmoved {e : Course} (same : e.scene = c.scene) : Moves m c e :=
    ⟨[], congrArg some same.symm, (congrArg Scene.direct same).trans byRun,
      fun _ none => absurd none List.not_mem_nil⟩
  have moved {e : Course} (k : Move Desk) (one : c.scene.move? k = some e.scene)
      (direct : e.direct = false)
      (stirs : k.stirs = true →
        m.isDirect = true ∨ c.station = .started ∨ c.station = .running) : Moves m c e := by
    refine ⟨[k], by rw [Scene.run, one]; rfl, direct, ?_⟩
    intro n only
    rw [List.mem_singleton.mp only]
    exact stirs
  cases step_of_turn? h with
  | announce | listen | listensAlready | count | launchRefused | launched | openControl | sayReady
  | notReady | breakOff | look | report | forget => exact unmoved rfl
  | launch _ opens => exact moved (.takeIn .worker) (if_pos opens) byRun Bool.noConfusion
  | becomeReady => exact moved .markReady rfl byRun Bool.noConfusion
  | beginRun started hasChannel refusal begun =>
      rcases begun with rfl | ⟨granted, rfl⟩
      · exact unmoved rfl
      · refine moved .beginRun ?_ byRun fun _ => .inr (.inl started)
        obtain ⟨free, _⟩ := Engine.beginRun_granted granted
        simp [Scene.move?, Scene.begin?, scene, Engine.beginRun, free, byRun]
  | conclude running returned =>
      have free : c.scene.engine.runner.holdsChannel = false :=
        congrArg Runner.holdsChannel returned
      refine ⟨List.replicate c.scene.engine.inbox.length .discard ++ [.hangUp], ?_, byRun,
        fun _ _ _ => .inr (.inr running)⟩
      rw [Scene.run_append, Scene.run_discard _ free]
      rfl
  | @other m _ others one =>
      refine moved m one ((Move.direct_of_isOthers others one).trans byRun) ?_
      intro stirs
      cases m with
      | signal k => exact .inl rfl
      | discard | beginRun | beginDrain => cases others
      | _ => cases stirs

/-- The end of the run is told of at its station only. -/
def Pending (c : Course) : Prop := c.station ≠ .concluded → c.daemon.concluded = none

theorem pending_of_turn? (h : c.turn? host m = some d) (hc : c.Pending) : d.Pending := by
  cases step_of_turn? h with
  | conclude | breakOff => exact fun early => absurd rfl early
  | look | report | forget | other => exact hc
  | _ => exact fun _ => hc (by simp [*])

theorem sound_of_turn? (h : c.turn? host m = some d) (hc : c.Sound) : d.Sound := by
  obtain ⟨ms, moves, byRun, _⟩ := moves_of_turn? hc.byRun h
  exact ⟨Scene.sound_of_run moves hc.scene,
    hc.scene.run_invariant Scene.aware_of_move? moves hc.aware, byRun⟩

theorem Sound.run_invariant {P : Course → Prop}
    (keep : ∀ {c d : Course} {m : Turn}, c.turn? host m = some d → c.Sound → P c → P d)
    (hc : c.Sound) {ms : List Turn} (h : c.run host ms = some d) (start : P c) :
    d.Sound ∧ P d := by
  refine Course.run_invariant (P := fun c => c.Sound ∧ P c) ?_ h ⟨hc, start⟩
  rintro c d m turned ⟨sound, hold⟩
  exact ⟨sound_of_turn? turned sound, keep turned sound hold⟩

theorem sound_of_run {ms : List Turn} (h : c.run host ms = some d) (hc : c.Sound) : d.Sound :=
  Course.run_invariant sound_of_turn? h hc

theorem turn?_other (host : Host) {k : Move Desk} {t : Scene Desk}
    (others : k.isOthers c.daemon.listening = true) (moved : c.scene.move? k = some t) :
    c.turn? host (.other k) = some (c.follow t) := by
  simp only [turn?, if_pos others, moved, Option.map_some]

/-- A worker is launched, and has its first turn right after. -/
private theorem run_launchOne (host : Host) (sound : c.Sound) (nobody : c.newcomers = [])
    {left : Nat} (station : c.station = .launching (left + 1)) {e : Engine Desk}
    (launched : c.daemon.engine.launchWorker = (true, e)) :
    c.run host [.launch, .other (.fire c.daemon.engine.tasks.length)] = some { c with
      daemon := { c.daemon with engine := e }
      station := .launching left, register := c.register.enroll } := by
  have awaited : c.scene.Awaited := fun n x inside => by
    rw [show c.scene.newcomers = [] from nobody] at inside
    cases inside
  cases opens : c.daemon.engine.opensFor .worker with
  | false =>
      have refused : c.daemon.engine.launchWorker = (false, c.daemon.engine) := by
        simp [Engine.launchWorker, show c.daemon.engine.core.admitsLasting = false from opens]
      rw [refused] at launched
      cases launched
  | true =>
      have entered : c.daemon.engine.launchWorker = (true, c.daemon.engine.track
          ⟨.worker, Clock.wake c.daemon.engine.now c.daemon.engine.pool.settings.unit⟩) := by
        simp [Engine.launchWorker, show c.daemon.engine.core.admitsLasting = true from opens]
      rw [entered] at launched
      cases launched
      have turn := Scene.fire?_takeIn sound.scene awaited .worker c.scene.calls
      have one : c.turn? host .launch =
          some { c.follow (c.scene.takeIn .worker) with station := .launching left } := by
        simp only [turn?, station, launchOne, opens, if_true]
      have two := turn?_other host
        (c := { c.follow (c.scene.takeIn .worker) with station := .launching left })
        (k := .fire c.daemon.engine.tasks.length) rfl turn
      rw [run, one, Option.bind_some, run, two]
      rfl

private theorem run_launches (host : Host) (sound : c.Sound) (nobody : c.newcomers = [])
    {left : Nat} (station : c.station = .launching left) (worker : Nat) {e : Engine Desk}
    (launched : c.daemon.engine.launchFrom worker left = (.ok (), e)) :
    ∃ ms register, c.run host ms = some { c with
      daemon := { c.daemon with engine := e }, station := .launched, register := register } := by
  induction left generalizing c worker with
  | zero =>
      cases launched
      exact ⟨[.launch], c.register, by simp [run, turn?, station]⟩
  | succ left ih =>
      cases first : c.daemon.engine.launchWorker with
      | mk granted next =>
          simp only [Engine.launchFrom, first] at launched
          cases granted with
          | false => cases launched
          | true =>
              have one := run_launchOne host sound nobody station first
              obtain ⟨ms, register, rest⟩ :=
                ih (sound_of_run one sound) nobody rfl (worker + 1) launched
              refine ⟨[.launch, .other (.fire c.daemon.engine.tasks.length)] ++ ms, register, ?_⟩
              rw [run_append, one, Option.bind_some, rest]

/-- A daemon that starts undisturbed takes the turns of its start, one after the other. -/
theorem run_start (sound : c.Sound) (nobody : c.newcomers = []) (created : c.station = .created)
    {e : Daemon} (starts : c.daemon.start host = (.ok (), e)) :
    ∃ ms register, c.run host ms = some { c with
      daemon := e, station := .started, register := register } := by
  unfold Daemon.start at starts
  split at starts
  · cases starts
  · rename_i heard listens
    split at starts
    · cases starts
    · rename_i workers engine launches
      split at starts
      · cases starts
      · rename_i opened opens
        cases starts
        have waits : c.run host [.announce, .listen, .launch] = some { c with
            daemon := heard
            station := .launching heard.engine.pool.settings.workers.toNat } := by
          simp [run, turn?, created, onward, listens]
        have launched : heard.engine.launchFrom 0 heard.engine.pool.settings.workers.toNat =
            (.ok (), engine) := by
          simp only [Engine.launch] at launches
          split at launches <;> cases launches
          assumption
        obtain ⟨ms, register, works⟩ :=
          run_launches host (sound_of_run waits sound) nobody rfl 0 launched
        have ends : Course.run host { c with
            daemon := { heard with engine := engine }, station := .launched, register := register }
            [.openControl, .becomeReady, .sayReady] = some { c with
              daemon := opened.becomeReady host, station := .started, register := register } := by
          cases ready : opened.engine.markReady.1 <;>
            simp [run, turn?, onward, opens, Daemon.becomeReady, ready, Daemon.write,
              Daemon.controlText]
        refine ⟨[.announce, .listen, .launch] ++ (ms ++ [.openControl, .becomeReady, .sayReady]),
          register, ?_⟩
        rw [run_append, waits, Option.bind_some, run_append, works]
        exact ends

/-- A daemon without its network part, with one worker. -/
def small : Course :=
  create { control := { enabled := false }, workload := { workers := 1 } } "dvm" {} {}

def someHost : Host where
  pid := 7
  freePort := 40000

/-- The turns of its start, and the beginning of its run. -/
def begins : List Turn :=
  [.announce, .listen, .launch, .launch, .launch, .other (.fire 0), .openControl, .becomeReady,
    .sayReady, .beginRun]

/-- The runner takes a signal out of the channel, answers it and acts on the answer. -/
def hears (s : Signal) : List Turn :=
  [.other (.send s), .other .take, .other .answer, .other .act]

end Course

end Quiesce
