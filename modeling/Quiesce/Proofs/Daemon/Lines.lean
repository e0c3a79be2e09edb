import Quiesce.Proofs.Daemon.Course
import Quiesce.Trial.Observation

/-!
The order in which a daemon says things. The main task writes of the start, of being ready and of
the stop; the reporter writes of the drain, some time after it has read of it. Either may be late:
the main task with being ready, when the drain is already told of, and the reporter with the drain,
when the stop is. All other lines come in the order of the stages.
-/
namespace Quiesce

namespace Core

/-- From one core to the other the gate does not open again, and watchers of a drain that goes on
get to see nothing new. -/
structure Wanes (c d : Core) : Prop where
  closed : c.stage.isEnding = true → d.stage.isEnding = true
  unmoved : c.stage.isEnding = true → d.stage = .draining → d.cell = c.cell

theorem Wanes.refl (c : Core) : c.Wanes c := ⟨id, fun _ _ => rfl⟩

theorem Wanes.trans {c d e : Core} (h : c.Wanes d) (k : d.Wanes e) : c.Wanes e where
  closed ending := k.closed (h.closed ending)
  unmoved ending drains := by
    have second := k.unmoved (h.closed ending) drains
    have stays : d.stage = .draining := (congrArg StageCell.stage second).symm.trans drains
    exact second.trans (h.unmoved ending stays)

theorem wanes_of_change {idle : Prop} {c d : Core} (h : Change idle c d) : c.Wanes d := by
  cases h with
  | count t => exact ⟨id, fun _ _ => rfl⟩
  | becomeReady start => constructor <;> intro ending <;> rw [start] at ending <;> cases ending
  | close t before => constructor <;> intro ending <;> rw [before] at ending <;> cases ending
  | stop e t before done asked => exact ⟨fun _ => rfl, fun _ drains => nomatch drains⟩

end Core

theorem Scene.Sound.wanes_of_run {D : Type} {s t : Scene D} (hs : s.Sound) {ms : List (Move D)}
    (h : s.run ms = some t) : s.engine.core.Wanes t.engine.core := by
  refine hs.run_invariant (P := fun u => s.engine.core.Wanes u.engine.core) ?_ h (.refl _)
  intro u v m moved sound wanes
  exact wanes.trans (Core.wanes_of_change (Scene.core_change moved sound.sawIdle))

/-- The main task's lines up to a station are of stages below this rank, and those after it are
not. -/
def Station.reach : Station → Nat
  | .created => 0
  | .started | .running => 2
  | .concluded => 4
  | _ => 1

namespace Course

/-- The stages that the lines tell of. -/
def said (c : Course) : List Stage := c.daemon.lines.map (·.2.impliedStage)

/-- What the reporter has read of but not yet written. -/
def unsaid (c : Course) : List Stage :=
  match c.daemon.reporter with
  | some ⟨_, some .draining⟩ => [.draining]
  | _ => []

/-- What a supervisor learns from the lines. -/
def observed (c : Course) : Trial.Observation :=
  c.daemon.lines.foldl (fun o line => o.record line.2) {}

/-- A line that is written too late: later stages have been told of. -/
def lags (c : Course) : Turn → Prop
  | .sayReady => c.station = .turned true ∧ .draining ∈ c.said
  | .report => c.unsaid ≠ [] ∧ .stopped ∈ c.said
  | _ => False

/-- In a course from here on no line comes too late. -/
def Paced (host : Host) : Course → List Turn → Prop
  | _, [] => True
  | c, m :: ms => ¬ c.lags m ∧ ∀ d, c.turn? host m = some d → Paced host d ms

/-- What a turn does to the lines, and to what the reporter knows. -/
inductive Telling (c : Course) : Turn → Course → Prop where
  | silent {m : Turn} {d : Course} (said : d.said = c.said)
      (reporter : d.daemon.reporter = c.daemon.reporter)
      (listening : d.daemon.listening = c.daemon.listening)
      (reach : c.station.reach ≤ d.station.reach) (paced : ¬ c.lags m) : Telling c m d
  | tell {m : Turn} {d : Course} (s : Stage) (own : s ≠ .draining) (said : d.said = c.said ++ [s])
      (reporter : d.daemon.reporter = c.daemon.reporter)
      (listening : d.daemon.listening = c.daemon.listening)
      (after : c.station.reach ≤ s.rank) (before : s.rank < d.station.reach)
      (stopped : s = .stopped → d.daemon.engine.stage = .stopped)
      (late : c.lags m ↔ s = .ready ∧ .draining ∈ c.said) : Telling c m d
  | subscribe {d : Course} (deaf : c.daemon.listening = false) (said : d.said = c.said)
      (reporter : d.daemon.reporter = some ⟨d.daemon.engine.core.cell.subscribe, none⟩)
      (listening : d.daemon.listening = true) (was : c.station.reach = 1)
      (is : d.station.reach = 1) : Telling c .listen d
  | look (watcher : StageCell.Watcher) (idle : c.daemon.reporter = some ⟨watcher, none⟩)
      (news : watcher.seen ≠ c.daemon.engine.core.cell.version) :
      Telling c .look { c with daemon := { c.daemon with
        reporter := some ⟨⟨c.daemon.engine.core.cell.version⟩,
          some c.daemon.engine.core.cell.published⟩ } }
  | report {d : Course} (watcher : StageCell.Watcher) (stage : Stage)
      (holds : c.daemon.reporter = some ⟨watcher, some stage⟩) (said : d.said = c.said ++ c.unsaid)
      (listening : d.daemon.listening = c.daemon.listening) (station : d.station = c.station)
      (engine : d.daemon.engine = c.daemon.engine)
      (wrote : d.daemon.reporter = some ⟨watcher, none⟩) : Telling c .report d

variable {host : Host} {c d : Course} {m : Turn}

theorem said_write (c : Course) (line : StatusLine) :
    said { c with daemon := c.daemon.write line } = c.said ++ [line.impliedStage] := by
  simp [said, Daemon.write]

theorem unsaid_congr (same : d.daemon.reporter = c.daemon.reporter) : d.unsaid = c.unsaid := by
  unfold unsaid
  rw [same]

theorem unsaid_of_idle {watcher : StageCell.Watcher}
    (idle : c.daemon.reporter = some ⟨watcher, none⟩) : c.unsaid = [] := by
  simp [unsaid, idle]

theorem unsaid_of_holds {watcher : StageCell.Watcher} {stage : Stage}
    (holds : c.daemon.reporter = some ⟨watcher, some stage⟩) :
    c.unsaid = if stage = .draining then [.draining] else [] := by
  cases stage <;> simp [unsaid, holds]

theorem said_of_report (h : c.turn? host .report = some d) : d.said = c.said ++ c.unsaid := by
  cases step_of_turn? h with
  | report watcher holds =>
      rw [unsaid_of_holds holds]
      exact c.said_write _
  | forget watcher other holds =>
      rw [unsaid_of_holds holds, if_neg other, List.append_nil]
      rfl

/-- The main task goes on without a word. -/
private theorem Telling.on {before after : Station} (said : d.said = c.said)
    (reporter : d.daemon.reporter = c.daemon.reporter)
    (listening : d.daemon.listening = c.daemon.listening) (was : c.station = before)
    (is : d.station = after) (reach : before.reach ≤ after.reach) (paced : ¬ c.lags m) :
    Telling c m d :=
  .silent said reporter listening (was ▸ is ▸ reach) paced

theorem telling_of_turn? (hc : c.Sound) (h : c.turn? host m = some d) : Telling c m d := by
  cases step_of_turn? h with
  | announce created =>
      refine .tell .starting (by decide) (c.said_write _) rfl rfl ?_ ?_ Stage.noConfusion ?_
      · rw [created]; exact Nat.zero_le _
      · exact Nat.zero_lt_one
      · simp [lags]
  | listen announced deaf =>
      exact .subscribe deaf rfl rfl rfl (congrArg Station.reach announced) rfl
  | listensAlready announced => exact .on rfl rfl rfl announced rfl (Nat.le_refl 1) id
  | count station | launch station _ | launchRefused station _ | launched station =>
      exact .on rfl rfl rfl station rfl (Nat.le_refl 1) id
  | openControl launched control on =>
      refine .on rfl rfl rfl launched rfl ?_ id
      rcases on with rfl | rfl <;> exact Nat.le_refl 1
  | becomeReady opened => exact .on rfl rfl rfl opened rfl (Nat.le_refl 1) id
  | sayReady ready =>
      refine .tell .ready (by decide) (c.said_write _) rfl rfl ?_ ?_ Stage.noConfusion ?_
      · rw [ready]; decide
      · exact Nat.one_lt_two
      · simp [lags, ready]
  | notReady turned =>
      exact .on rfl rfl rfl turned rfl (Nat.le_succ 1) (by simp [lags, turned])
  | beginRun started => exact .on rfl rfl rfl started rfl (Nat.le_refl 2) id
  | @conclude running r returned =>
      have recorded := hc.aware.ended hc.byRun r returned
      have stopped := hc.scene.core.ending.mp (by simp [recorded])
      have stays := Core.still_receiveAll stopped c.daemon.engine.inbox
      refine .tell .stopped (by decide) ?_ rfl rfl ?_ ?_ ?_ ?_
      · simp [said, Daemon.write, StatusLine.ofEnding, StatusLine.impliedStage]
      · rw [running]; decide
      · exact Nat.lt_succ_self 3
      · exact fun _ => stays.stage.trans stopped
      · simp [lags]
  | breakOff running => exact .on rfl rfl rfl running rfl (Nat.le_add_right 2 2) id
  | look watcher idle news => exact .look watcher idle news
  | report watcher holds => exact .report watcher _ holds (said_of_report h) rfl rfl rfl rfl
  | forget watcher other holds => exact .report watcher _ holds (said_of_report h) rfl rfl rfl rfl
  | other => exact .silent rfl rfl rfl (Nat.le_refl _) id

theorem Sound.wanes_of_turn? (hc : c.Sound) (h : c.turn? host m = some d) :
    c.daemon.engine.core.Wanes d.daemon.engine.core := by
  obtain ⟨ms, moves, _, _⟩ := moves_of_turn? hc.byRun h
  exact hc.scene.wanes_of_run moves

theorem Sound.stopped_of_turn? (hc : c.Sound) (h : c.turn? host m = some d)
    (stopped : c.daemon.engine.stage = .stopped) : d.daemon.engine.stage = .stopped := by
  obtain ⟨ms, moves, _, _⟩ := moves_of_turn? hc.byRun h
  exact (Scene.still_of_run_of_stopped moves hc.scene stopped).stage.trans stopped

theorem unsaid_eq (c : Course) : c.unsaid = [] ∨
    ∃ watcher, c.daemon.reporter = some ⟨watcher, some .draining⟩ ∧ c.unsaid = [.draining] := by
  unfold unsaid
  split
  · rename_i watcher holds
    exact .inr ⟨watcher, holds, rfl⟩
  · exact .inl rfl

/-- The lines of the main task are in order and not ahead of its station; that the daemon drains is
said once at most, and not to be learned anew; and the daemon has stopped if it says so. -/
structure Honest (c : Course) : Prop where
  own : (c.said.filter (· ≠ .draining)).Pairwise (·.rank < ·.rank)
  within : ∀ s ∈ c.said, s ≠ .draining → s.rank < c.station.reach
  deaf : c.station.reach = 0 → c.daemon.listening = false
  unheard : c.daemon.listening = false → c.daemon.reporter = none ∧ .draining ∉ c.said
  once : (c.said ++ c.unsaid).count .draining ≤ 1
  drains : .draining ∈ c.said ++ c.unsaid → c.daemon.engine.stage.isEnding = true ∧
    (c.daemon.engine.stage = .draining → ∃ r, c.daemon.reporter = some r ∧
      r.watcher.seen = c.daemon.engine.core.cell.version)
  stopped : .stopped ∈ c.said → c.daemon.engine.stage = .stopped

theorem honest_create (settings : Settings) (path : String) (overrides : Overrides)
    (sources : Settings.Sources) : (create settings path overrides sources).Honest where
  own := .nil
  within _ none := nomatch none
  deaf _ := rfl
  unheard _ := ⟨rfl, fun none => nomatch none⟩
  once := Nat.zero_le 1
  drains none := nomatch none
  stopped none := nomatch none

/-- What is known of a drain stays true while the reporter does nothing. -/
private theorem Honest.drains_of_wanes (hc : c.Honest)
    (wanes : c.daemon.engine.core.Wanes d.daemon.engine.core)
    (reporter : d.daemon.reporter = c.daemon.reporter) (told : .draining ∈ c.said ++ c.unsaid) :
    d.daemon.engine.stage.isEnding = true ∧
      (d.daemon.engine.stage = .draining → ∃ r, d.daemon.reporter = some r ∧
        r.watcher.seen = d.daemon.engine.core.cell.version) := by
  obtain ⟨ending, latest⟩ := hc.drains told
  refine ⟨wanes.closed ending, ?_⟩
  intro drains
  have same := wanes.unmoved ending drains
  obtain ⟨r, holds, seen⟩ := latest ((congrArg StageCell.stage same).symm.trans drains)
  exact ⟨r, reporter.trans holds, seen.trans (congrArg StageCell.version same).symm⟩

private theorem Honest.tell (hc : c.Honest) {s : Stage}
    (wanes : c.daemon.engine.core.Wanes d.daemon.engine.core)
    (stopped : c.daemon.engine.stage = .stopped → d.daemon.engine.stage = .stopped)
    (own : s ≠ .draining) (said : d.said = c.said ++ [s])
    (reporter : d.daemon.reporter = c.daemon.reporter)
    (listening : d.daemon.listening = c.daemon.listening) (after : c.station.reach ≤ s.rank)
    (before : s.rank < d.station.reach)
    (stops : s = .stopped → d.daemon.engine.stage = .stopped) : d.Honest := by
  have unsaid := unsaid_congr reporter
  have drained : .draining ∈ d.said ++ d.unsaid → .draining ∈ c.said ++ c.unsaid := by
    simp [said, unsaid, own.symm]
  refine ⟨?_, ?_, ?_, ?_, ?_, fun told => hc.drains_of_wanes wanes reporter (drained told), ?_⟩
  · rw [said, List.filter_append, List.pairwise_append]
    refine ⟨hc.own, by simp [own], ?_⟩
    intro t told u last
    obtain ⟨among, other⟩ := List.mem_filter.mp told
    have earlier := hc.within t among (of_decide_eq_true other)
    obtain rfl : u = s := by simpa [own] using last
    exact Nat.lt_of_lt_of_le earlier after
  · intro t told other
    rw [said] at told
    rcases List.mem_append.mp told with among | last
    · exact Nat.lt_trans (Nat.lt_of_lt_of_le (hc.within t among other) after) before
    · obtain rfl := List.mem_singleton.mp last
      exact before
  · intro start
    rw [start] at before
    cases before
  · intro deaf
    rw [reporter, said]
    simpa [own.symm] using hc.unheard (listening ▸ deaf)
  · simpa [said, unsaid, List.count_append, own] using hc.once
  · intro told
    rw [said] at told
    rcases List.mem_append.mp told with among | last
    · exact stopped (hc.stopped among)
    · exact stops (List.mem_singleton.mp last).symm

/-- That the daemon drains is read but once: it is published once, and then seen. -/
private theorem Honest.look (hc : c.Honest) (sound : c.daemon.engine.core.Sound)
    {watcher : StageCell.Watcher} (idle : c.daemon.reporter = some ⟨watcher, none⟩)
    (news : watcher.seen ≠ c.daemon.engine.core.cell.version) (said : d.said = c.said)
    (listening : d.daemon.listening = c.daemon.listening) (station : d.station = c.station)
    (engine : d.daemon.engine = c.daemon.engine)
    (reads : d.daemon.reporter = some ⟨⟨c.daemon.engine.core.cell.version⟩,
      some c.daemon.engine.core.cell.published⟩) : d.Honest := by
  have read : d.unsaid = if c.daemon.engine.stage = .draining then [.draining] else [] :=
    (unsaid_of_holds reads).trans (by rw [sound.published]; rfl)
  have before : .draining ∈ c.said → c.daemon.engine.stage.isEnding = true ∧
      c.daemon.engine.stage ≠ .draining := by
    intro told
    obtain ⟨ending, latest⟩ := hc.drains (List.mem_append_left _ told)
    refine ⟨ending, fun drains => ?_⟩
    obtain ⟨r, holds, seen⟩ := latest drains
    rw [idle] at holds
    cases holds
    exact news seen
  have after : .draining ∈ d.said ++ d.unsaid → c.daemon.engine.stage.isEnding = true := by
    intro told
    rw [said, read] at told
    rcases List.mem_append.mp told with among | now
    · exact (before among).1
    · split at now
      · rename_i drains
        rw [drains]
        rfl
      · cases now
  have once : (d.said ++ d.unsaid).count .draining ≤ 1 := by
    rw [said, read, List.count_append]
    split
    · rename_i drains
      have first := List.count_eq_zero.mpr fun told => (before told).2 drains
      rw [first]
      decide
    · have sometimes := (List.sublist_append_left c.said c.unsaid).count_le Stage.draining
      exact Nat.le_trans sometimes hc.once
  refine ⟨said ▸ hc.own, by rw [said, station]; exact hc.within, ?_, ?_, once, ?_, ?_⟩
  · rw [station, listening]
    exact hc.deaf
  · intro deaf
    obtain ⟨none, _⟩ := hc.unheard (listening ▸ deaf)
    rw [idle] at none
    cases none
  · intro told
    rw [engine]
    exact ⟨after told, fun _ => ⟨_, reads, rfl⟩⟩
  · rw [said, engine]
    exact hc.stopped

/-- What the reporter has read is written, or is of no interest. -/
private theorem Honest.report (hc : c.Honest) {watcher : StageCell.Watcher} {stage : Stage}
    (holds : c.daemon.reporter = some ⟨watcher, some stage⟩) (said : d.said = c.said ++ c.unsaid)
    (listening : d.daemon.listening = c.daemon.listening) (station : d.station = c.station)
    (engine : d.daemon.engine = c.daemon.engine)
    (wrote : d.daemon.reporter = some ⟨watcher, none⟩) : d.Honest := by
  have same : d.said ++ d.unsaid = c.said ++ c.unsaid := by
    rw [said, unsaid_of_idle wrote, List.append_nil]
  have drains : ∀ s ∈ c.unsaid, s = .draining := by
    intro s told
    rcases c.unsaid_eq with nothing | ⟨_, _, drain⟩ <;> simp_all
  have among : ∀ s ∈ d.said, s ≠ .draining → s ∈ c.said := by
    intro s told other
    rw [said] at told
    exact (List.mem_append.mp told).resolve_right fun now => other (drains s now)
  refine ⟨?_, ?_, ?_, ?_, same ▸ hc.once, ?_, ?_⟩
  · have none : c.unsaid.filter (· ≠ .draining) = [] :=
      List.filter_eq_nil_iff.mpr fun s told => by simp [drains s told]
    rw [said, List.filter_append, none, List.append_nil]
    exact hc.own
  · intro s told other
    rw [station]
    exact hc.within s (among s told other) other
  · rw [station, listening]
    exact hc.deaf
  · intro deaf
    obtain ⟨none, _⟩ := hc.unheard (listening ▸ deaf)
    rw [holds] at none
    cases none
  · rw [same, engine]
    intro told
    obtain ⟨ending, latest⟩ := hc.drains told
    refine ⟨ending, fun drains => ?_⟩
    obtain ⟨r, held, seen⟩ := latest drains
    rw [holds] at held
    cases held
    exact ⟨_, wrote, seen⟩
  · intro told
    rw [engine]
    exact hc.stopped (among _ told (by decide))

theorem honest_of_turn? (h : c.turn? host m = some d) (sound : c.Sound) (hc : c.Honest) :
    d.Honest := by
  have wanes := sound.wanes_of_turn? h
  have stopped := sound.stopped_of_turn? h
  cases telling_of_turn? sound h with
  | silent said reporter listening reach paced =>
      have unsaid := unsaid_congr reporter
      refine ⟨said ▸ hc.own, ?_, ?_, ?_, by rw [said, unsaid]; exact hc.once, ?_, ?_⟩
      · intro s told own
        exact Nat.lt_of_lt_of_le (hc.within s (said ▸ told) own) reach
      · intro start
        exact listening.trans (hc.deaf (Nat.le_zero.mp (start ▸ reach)))
      · intro deaf
        rw [reporter, said]
        exact hc.unheard (listening ▸ deaf)
      · rw [said, unsaid]
        exact hc.drains_of_wanes wanes reporter
      · intro told
        exact stopped (hc.stopped (said ▸ told))
  | tell s own said reporter listening after before stops late =>
      exact hc.tell wanes stopped own said reporter listening after before stops
  | subscribe deaf said reporter listening was is =>
      obtain ⟨none, untold⟩ := hc.unheard deaf
      have nothing : d.unsaid = [] := unsaid_of_idle reporter
      have never : .draining ∉ d.said ++ d.unsaid := by simpa [said, nothing] using untold
      refine ⟨said ▸ hc.own, ?_, ?_, ?_, ?_, fun told => absurd told never, ?_⟩
      · rw [said, is, ← was]
        exact hc.within
      · intro start
        rw [is] at start
        cases start
      · intro deaf
        rw [listening] at deaf
        cases deaf
      · rw [List.count_eq_zero.mpr never]
        exact Nat.zero_le 1
      · intro told
        exact stopped (hc.stopped (said ▸ told))
  | look watcher idle news => exact hc.look sound.scene.core idle news rfl rfl rfl rfl rfl
  | report watcher stage holds said listening station engine wrote =>
      exact hc.report holds said listening station engine wrote

/-- The main task does not go back. -/
theorem reach_of_turn? (h : c.turn? host m = some d) (sound : c.Sound) :
    c.station.reach ≤ d.station.reach := by
  cases telling_of_turn? sound h with
  | silent _ _ _ reach => exact reach
  | tell s _ _ _ _ after before => exact Nat.le_trans after (Nat.le_of_lt before)
  | subscribe _ _ _ _ was is => exact Nat.le_of_eq (was.trans is.symm)
  | look watcher _ _ => exact Nat.le_refl _
  | report watcher stage _ _ _ station => exact Nat.le_of_eq (congrArg Station.reach station.symm)

/-- What was said is not taken back. -/
theorem prefix_of_turn? (h : c.turn? host m = some d) (sound : c.Sound) : c.said <+: d.said := by
  cases telling_of_turn? sound h with
  | silent said => exact said ▸ List.prefix_rfl
  | tell s _ said => exact said ▸ List.prefix_append _ _
  | subscribe _ said => exact said ▸ List.prefix_rfl
  | look watcher _ _ => exact List.prefix_rfl
  | report watcher stage _ said => exact said ▸ List.prefix_append _ _

/-- The stages are told of in their order, each of them once. -/
def Ordered (c : Course) : Prop := c.said.Pairwise (·.rank < ·.rank)

/-- A line of the main task is in its place unless it says that the daemon is ready. -/
private theorem ordered_tell {s : Stage} (hc : c.Honest) (ordered : c.Ordered)
    (own : s ≠ .draining) (said : d.said = c.said ++ [s]) (after : c.station.reach ≤ s.rank) :
    d.Ordered ↔ ¬ (s = .ready ∧ .draining ∈ c.said) := by
  unfold Ordered
  rw [said, List.pairwise_append]
  constructor
  · rintro ⟨_, _, earlier⟩ ⟨rfl, told⟩
    exact absurd (earlier _ told _ (List.mem_singleton_self _)) (by decide)
  · intro timely
    refine ⟨ordered, List.pairwise_singleton _ _, ?_⟩
    intro t told u last
    obtain rfl := List.mem_singleton.mp last
    by_cases drains : t = .draining
    · subst drains
      cases u with
      | starting =>
          have deaf := hc.deaf (Nat.le_zero.mp after)
          exact absurd told (hc.unheard deaf).2
      | ready => exact absurd ⟨rfl, told⟩ timely
      | draining => exact absurd rfl own
      | stopped => decide
    · exact Nat.lt_of_lt_of_le (hc.within t told drains) after

/-- That the daemon drains is in its place unless it has said already that it has stopped. -/
private theorem ordered_report (hc : c.Honest) (ordered : c.Ordered)
    (said : d.said = c.said ++ c.unsaid) :
    d.Ordered ↔ ¬ (c.unsaid ≠ [] ∧ .stopped ∈ c.said) := by
  unfold Ordered
  rcases c.unsaid_eq with nothing | ⟨_, _, drain⟩
  · rw [said, nothing, List.append_nil]
    exact iff_of_true ordered fun late => late.1 rfl
  · have once := hc.once
    rw [drain, List.count_append, List.count_singleton_self] at once
    have none : c.said.count .draining = 0 := Nat.le_zero.mp (Nat.le_of_succ_le_succ once)
    have first : .draining ∉ c.said := List.count_eq_zero.mp none
    rw [said, drain, List.pairwise_append]
    constructor
    · rintro ⟨_, _, earlier⟩ ⟨_, told⟩
      exact absurd (earlier _ told _ (List.mem_singleton_self _)) (by decide)
    · intro timely
      refine ⟨ordered, List.pairwise_singleton _ _, ?_⟩
      intro t told u last
      obtain rfl := List.mem_singleton.mp last
      cases t with
      | starting | ready => decide
      | draining => exact absurd told first
      | stopped => exact absurd ⟨List.cons_ne_nil _ _, told⟩ timely

theorem ordered_of_turn? (h : c.turn? host m = some d) (sound : c.Sound) (hc : c.Honest)
    (ordered : c.Ordered) : d.Ordered ↔ ¬ c.lags m := by
  cases telling_of_turn? sound h with
  | silent said _ _ _ paced =>
      unfold Ordered
      rw [said]
      exact iff_of_true ordered paced
  | tell s own said _ _ after _ _ late =>
      rw [late]
      exact ordered_tell hc ordered own said after
  | subscribe _ said =>
      unfold Ordered
      rw [said]
      exact iff_of_true ordered id
  | look watcher _ _ => exact iff_of_true ordered id
  | report watcher stage _ said => exact ordered_report hc ordered said

theorem prefix_of_run {ms : List Turn} (h : c.run host ms = some d) (sound : c.Sound) :
    c.said <+: d.said :=
  (sound.run_invariant (P := fun u => c.said <+: u.said)
    (fun turned sound before => before.trans (prefix_of_turn? turned sound)) h
    List.prefix_rfl).2

theorem ordered_iff_paced {ms : List Turn} (h : c.run host ms = some d) (sound : c.Sound)
    (hc : c.Honest) (ordered : c.Ordered) : d.Ordered ↔ c.Paced host ms := by
  induction ms generalizing c with
  | nil => cases h; exact iff_of_true ordered trivial
  | cons m ms ih =>
      obtain ⟨u, turned, rest⟩ := Option.bind_eq_some_iff.mp h
      have one := ordered_of_turn? turned sound hc ordered
      have next := sound_of_turn? turned sound
      simp only [Paced, turned, Option.some.injEq, forall_eq']
      rw [← one]
      constructor
      · intro last
        have before : u.Ordered := last.sublist (prefix_of_run rest next).sublist
        exact ⟨before, (ih rest next (honest_of_turn? turned sound hc) before).mp last⟩
      · rintro ⟨before, paced⟩
        exact (ih rest next (honest_of_turn? turned sound hc) before).mpr paced

/-- Once the stop is told of, only what the reporter has read by then is still to come. -/
theorem settled_of_turn? (h : c.turn? host m = some d) (sound : c.Sound) (hc : c.Honest)
    (told : .stopped ∈ c.said) : d.said ++ d.unsaid = c.said ++ c.unsaid := by
  cases telling_of_turn? sound h with
  | silent said reporter => rw [said, unsaid_congr reporter]
  | tell s own said _ _ after =>
      have last := Nat.lt_of_lt_of_le (hc.within .stopped told (by decide)) after
      cases s <;> exact absurd last (by decide)
  | subscribe deaf said reporter =>
      have nothing : c.unsaid = [] := by simp [unsaid, (hc.unheard deaf).1]
      rw [said, unsaid_of_idle reporter, nothing]
  | look watcher idle _ =>
      have stopped : c.daemon.engine.core.cell.published = .stopped :=
        sound.scene.core.published.trans (hc.stopped told)
      rw [unsaid_of_holds rfl, if_neg (by rw [stopped]; decide), unsaid_of_idle idle]
      rfl
  | report watcher stage _ said _ _ _ wrote =>
      rw [said, unsaid_of_idle wrote, List.append_nil]

theorem settled_of_run {ms : List Turn} (h : c.run host ms = some d) (sound : c.Sound)
    (hc : c.Honest) (told : .stopped ∈ c.said) : d.said ++ d.unsaid = c.said ++ c.unsaid := by
  have kept := (sound.run_invariant
    (P := fun u => u.Honest ∧ .stopped ∈ u.said ∧ u.said ++ u.unsaid = c.said ++ c.unsaid)
    ?_ h ⟨hc, told, rfl⟩).2
  · exact kept.2.2
  · rintro u v m turned sound ⟨honest, told, same⟩
    exact ⟨honest_of_turn? turned sound honest, (prefix_of_turn? turned sound).subset told,
      (settled_of_turn? turned sound honest told).trans same⟩

/-- If nothing is still to come by then, the line of the stop is the last one. -/
theorem said_of_settled {ms : List Turn} (h : c.run host ms = some d) (sound : c.Sound)
    (hc : c.Honest) (told : .stopped ∈ c.said) (nothing : c.unsaid = []) : d.said = c.said := by
  have settled := settled_of_run h sound hc told
  rw [nothing, List.append_nil] at settled
  have shorter : d.said.length ≤ c.said.length := by
    rw [← settled, List.length_append]
    exact Nat.le_add_right _ _
  exact ((prefix_of_run h sound).eq_of_length_le shorter).symm

/-- A run that has stopped the daemon is told of, by the line that comes next. -/
theorem conclude_of_stopped (host : Host) (hc : c.Pending) (running : c.station = .running)
    {r : Ending} (returned : c.daemon.engine.runner = .ended (.stopped r)) :
    ∃ d, c.turn? host .conclude = some d ∧ d.said = c.said ++ [.stopped] ∧
      d.unsaid = c.unsaid := by
  have silent := hc (by simp [running])
  refine ⟨_, by simp [turn?, running, Daemon.conclude?, silent, returned]; rfl, ?_, ?_⟩
  · simp [said, Daemon.write, StatusLine.ofEnding, StatusLine.impliedStage]
  · exact unsaid_congr rfl

/-- What the reporter holds it can write. -/
theorem report_of_unsaid (host : Host) (holds : c.unsaid ≠ []) :
    ∃ d, c.turn? host .report = some d ∧ d.said = c.said ++ [.draining] := by
  rcases c.unsaid_eq with nothing | ⟨watcher, reporter, drain⟩
  · exact absurd nothing holds
  · have written : ∃ d, c.turn? host .report = some d := by
      simp [turn?, Daemon.reporterWrite?, reporter]
    obtain ⟨d, written⟩ := written
    exact ⟨d, written, by rw [said_of_report written, drain]⟩

/-- A supervisor believes the line that it saw last. -/
theorem observed_lastStage (c : Course) : c.observed.lastStage = c.said.getLast? := by
  unfold observed said
  rcases List.eq_nil_or_concat c.daemon.lines with none | ⟨before, ⟨t, line⟩, lines⟩
  · rw [none]
    rfl
  · rw [lines]
    cases line <;> simp [Trial.Observation.record]

end Course

end Quiesce
