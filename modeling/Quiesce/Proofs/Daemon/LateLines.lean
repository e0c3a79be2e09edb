import Quiesce.Proofs.Daemon.Lines

/-!
When a daemon's lines are late. As long as signals come through the channel only, the main task is
on time; then the last line is that of the stop, unless the reporter had read of the drain by then
and not written of it. Where a signal is answered past the channel, being ready may be told of after
the drain; and a second such signal stops the daemon without its run getting to know of it, so that
the stop is never told of.
-/
namespace Quiesce

namespace Scene

variable {D : Type} {s t : Scene D} {m : Move D}

/-- The runner has not been set to work, and nobody has asked the daemon to stop. -/
structure Asleep (s : Scene D) : Prop where
  runner : s.engine.runner = .idle
  point : s.point = .waiting
  opened : s.engine.stage.isEnding = false

/-- Who answers no signal does not wake up a runner. -/
theorem asleep_of_move? (h : s.move? m = some t) (hs : s.Asleep) (quiet : m.stirs = false) :
    t.Asleep := by
  obtain ⟨runner, point, opened⟩ := hs
  cases m with
  | signal _ | discard | beginRun | beginDrain => cases quiet
  | markReady =>
      cases h
      refine ⟨runner, point, ?_⟩
      change s.engine.core.markReady.2.stage.isEnding = false
      simp only [Core.markReady, StageCell.transition]
      split
      · rfl
      · exact opened
  | send k =>
      cases h
      obtain ⟨inbox, sent⟩ := s.engine.send_eq k
      rw [sent]
      exact ⟨runner, point, opened⟩
  | hangUp | apply _ | pass _ => cases h; exact ⟨runner, point, opened⟩
  | enter _ | takeIn _ | handIn _ | proceed _ | fire _ =>
      obtain ⟨tasks, pool, register, newcomers, calls, rfl, _⟩ := work_of_move? h rfl
      exact ⟨runner, point, opened⟩
  | elsewhere idle =>
      obtain ⟨_, rfl⟩ := elsewhere?_eq_some h
      have early : s.engine.core.stage ≠ .draining := by
        intro drains
        rw [Engine.stage, drains] at opened
        cases opened
      rw [Core.finish_of_not_draining _ _ early]
      exact ⟨runner, point, opened⟩
  | take =>
      obtain ⟨_, listens, _⟩ := take?_eq_some h
      rw [runner] at listens
      cases listens
  | answer =>
      obtain ⟨k, holds, _⟩ := answer?_eq_some h
      rw [point] at holds
      cases holds
  | act =>
      obtain ⟨k, r, answered, _⟩ := act?_eq_some h
      rw [point] at answered
      cases answered
  | served desk update =>
      have serving := (served_eq_some h).1
      rw [point] at serving
      cases serving
  | brokeOff cause =>
      have serving := (brokeOff_eq_some h).1
      rw [point] at serving
      cases serving
  | hearClosed =>
      obtain ⟨_, _, _, ⟨receiving, _⟩ | ⟨_, draining, _⟩⟩ := hearClosed?_eq_some h
      · rw [runner] at receiving
        cases receiving
      · rw [runner] at draining
        cases draining
  | seeIdle =>
      obtain ⟨_, ⟨_, _, draining⟩, _⟩ := seeIdle?_eq_some h
      rw [runner] at draining
      cases draining
  | seeLate =>
      obtain ⟨_, ⟨_, _, draining, _⟩, _⟩ := seeLate?_eq_some h
      rw [runner] at draining
      cases draining
  | finish =>
      obtain ⟨saw, _⟩ | ⟨saw, _⟩ := finish?_eq_some h <;> rw [point] at saw <;> cases saw

theorem asleep_of_run {ms : List (Move D)} (h : s.run ms = some t) (hs : s.Asleep)
    (quiet : ∀ m ∈ ms, m.stirs = false) : t.Asleep := by
  induction ms generalizing s with
  | nil => cases h; exact hs
  | cons m ms ih =>
      obtain ⟨u, moved, rest⟩ := Option.bind_eq_some_iff.mp h
      have next := asleep_of_move? moved hs (quiet m List.mem_cons_self)
      exact ih rest next fun n among => quiet n (List.mem_cons_of_mem m among)

/-- The daemon has stopped, and its run waits for signals nevertheless. -/
structure Stalled (s : Scene Desk) : Prop where
  stopped : s.engine.stage = .stopped
  runner : s.engine.runner = .receiving
  opened : s.engine.senderOpen = true
  point : s.point = .waiting ∨ (∃ k, s.point = .holding k) ∨
    ∃ k why, s.point = .answered k (.ignored why)

theorem stalled_of_move? {s t : Scene Desk} {m : Move Desk} {listening : Bool}
    (others : m.isOthers listening = true) (h : s.move? m = some t) (sound : s.Sound)
    (hs : s.Stalled) : t.Stalled := by
  have stopped := (onward_of_move? h sound).stopped hs.stopped
  obtain ⟨before, runner, opened, point⟩ := hs
  cases m with
  | hangUp | beginRun | beginDrain | discard => cases others
  | markReady | signal _ | apply _ | pass _ => cases h; exact ⟨stopped, runner, opened, point⟩
  | send k =>
      cases h
      obtain ⟨inbox, sent⟩ := s.engine.send_eq k
      rw [sent]
      exact ⟨before, runner, opened, point⟩
  | enter _ | takeIn _ | handIn _ | proceed _ | fire _ =>
      obtain ⟨tasks, pool, register, newcomers, calls, rfl, _⟩ := work_of_move? h rfl
      exact ⟨stopped, runner, opened, point⟩
  | elsewhere idle =>
      obtain ⟨_, rfl⟩ := elsewhere?_eq_some h
      exact ⟨stopped, runner, opened, point⟩
  | take =>
      obtain ⟨_, _, k, rest, _, rfl⟩ := take?_eq_some h
      exact ⟨stopped, runner, opened, .inr (.inl ⟨k, rfl⟩)⟩
  | answer =>
      obtain ⟨k, _, rfl⟩ := answer?_eq_some h
      have late : (s.engine.signal k).1 = .ignored .afterStop := by
        change (s.engine.core.receive k).1 = _
        rw [Core.receive_response, show s.engine.core.stage = .stopped from before]
        rfl
      exact ⟨stopped, runner, opened, .inr (.inr ⟨k, _, congrArg (Point.answered k) late⟩)⟩
  | act =>
      obtain ⟨k, r, answered, acts⟩ := act?_eq_some h
      obtain ⟨why, rfl⟩ : ∃ why, r = .ignored why := by
        rcases point with rest | ⟨_, holds⟩ | ⟨_, why, ignored⟩
        · rw [answered] at rest; cases rest
        · rw [answered] at holds; cases holds
        · rw [answered] at ignored; cases ignored; exact ⟨why, rfl⟩
      rcases acts with ⟨drain, _⟩ | ⟨reload, _⟩ | ⟨force, _⟩ | rfl
      · cases drain
      · cases reload
      · cases force
      · exact ⟨before, runner, opened, .inl rfl⟩
  | served desk update =>
      have serving := (served_eq_some h).1
      simp [serving] at point
  | brokeOff cause =>
      have serving := (brokeOff_eq_some h).1
      simp [serving] at point
  | hearClosed =>
      obtain ⟨_, _, closed, _⟩ := hearClosed?_eq_some h
      rw [opened] at closed
      cases closed
  | seeIdle =>
      obtain ⟨_, ⟨_, _, draining⟩, _⟩ := seeIdle?_eq_some h
      rw [runner] at draining
      cases draining
  | seeLate =>
      obtain ⟨_, ⟨_, _, draining, _⟩, _⟩ := seeLate?_eq_some h
      rw [runner] at draining
      cases draining
  | finish => obtain ⟨saw, _⟩ | ⟨saw, _⟩ := finish?_eq_some h <;> simp [saw] at point

end Scene

namespace Course

variable {host : Host} {c d : Course} {m : Turn}

/-- Before the run nobody has asked the daemon to stop. -/
def Unasked (c : Course) : Prop := c.station.reach ≤ 1 → c.scene.Asleep

theorem unasked_create (settings : Settings) (path : String) (overrides : Overrides)
    (sources : Settings.Sources) : (create settings path overrides sources).Unasked :=
  fun _ => ⟨rfl, rfl, rfl⟩

theorem unasked_of_turn? (h : c.turn? host m = some d) (sound : c.Sound)
    (through : m.isDirect = false) (hc : c.Unasked) : d.Unasked := by
  intro early
  have before := Nat.le_trans (reach_of_turn? h sound) early
  obtain ⟨ms, moves, _, stirs⟩ := moves_of_turn? sound.byRun h
  refine Scene.asleep_of_run moves (hc before) ?_
  intro n among
  cases stir : n.stirs with
  | false => rfl
  | true =>
      rcases stirs n among stir with direct | started | running
      · rw [through] at direct
        cases direct
      · rw [started] at before
        exact absurd before (by decide)
      · rw [running] at before
        exact absurd before (by decide)

/-- Unless it was asked to stop past the channel, a daemon says in time that it is ready. -/
theorem Unasked.report_of_lags (unasked : c.Unasked) (hc : c.Honest) (late : c.lags m) :
    m = .report := by
  cases m with
  | report => rfl
  | sayReady =>
      obtain ⟨ready, told⟩ := late
      have asleep := unasked (Nat.le_of_eq (congrArg Station.reach ready))
      have ending := (hc.drains (List.mem_append_left _ told)).1
      rw [show c.daemon.engine.stage.isEnding = false from asleep.opened] at ending
      cases ending
  | _ => exact late.elim

/-- The stages are told of in their order, up to a last line that tells of the drain when the stop
was told of already. -/
def LateAtMost (c : Course) : Prop :=
  c.Ordered ∨ ∃ before, c.said = before ++ [.draining] ∧ before.Pairwise (·.rank < ·.rank) ∧
    .stopped ∈ before

theorem lateAtMost_of_turn? (h : c.turn? host m = some d) (sound : c.Sound) (hc : c.Honest)
    (unasked : c.Unasked) (ordered : c.Ordered) : d.LateAtMost := by
  have on := ordered_of_turn? h sound hc ordered
  by_cases late : c.lags m
  · obtain rfl := unasked.report_of_lags hc late
    obtain ⟨reads, told⟩ := late
    rcases c.unsaid_eq with nothing | ⟨_, _, drain⟩
    · exact absurd nothing reads
    · exact .inr ⟨c.said, by rw [said_of_report h, drain], ordered, told⟩
  · exact .inl (on.mpr late)

theorem lateAtMost_of_run {ms : List Turn} (h : c.run host ms = some d) (sound : c.Sound)
    (hc : c.Honest) (unasked : c.Unasked) (ordered : c.Ordered)
    (through : ∀ m ∈ ms, m.isDirect = false) : d.LateAtMost := by
  induction ms generalizing c with
  | nil => cases h; exact .inl ordered
  | cons m ms ih =>
      obtain ⟨u, turned, rest⟩ := Option.bind_eq_some_iff.mp h
      have sounds := sound_of_turn? turned sound
      have honest := honest_of_turn? turned sound hc
      have first := through m List.mem_cons_self
      have others n (among : n ∈ ms) := through n (List.mem_cons_of_mem m among)
      rcases lateAtMost_of_turn? turned sound hc unasked ordered with on | late
      · exact ih rest sounds honest (unasked_of_turn? turned sound first unasked) on others
      · obtain ⟨before, said, inOrder, told⟩ := late
        have nothing : u.unsaid = [] := by
          have once := honest.once
          rcases u.unsaid_eq with nothing | ⟨_, _, drain⟩
          · exact nothing
          · simp [said, drain, List.count_append] at once
        have last := said_of_settled rest sounds honest
          (said ▸ List.mem_append_left _ told) nothing
        exact .inr ⟨before, last.trans said, inOrder, told⟩

/-- A run that does not know that the daemon has stopped. -/
structure Stalled (c : Course) : Prop where
  running : c.station = .running
  scene : c.scene.Stalled

theorem stalled_of_turn? (h : c.turn? host m = some d) (sound : c.Sound) (hc : c.Stalled) :
    d.Stalled := by
  obtain ⟨running, stalled⟩ := hc
  have receiving : c.daemon.engine.runner = .receiving := stalled.runner
  cases step_of_turn? h with
  | look | report | forget => exact ⟨running, stalled⟩
  | other others moved => exact ⟨running, Scene.stalled_of_move? others moved sound.scene stalled⟩
  | conclude _ returned =>
      rw [receiving] at returned
      cases returned
  | breakOff _ broke =>
      rw [receiving] at broke
      cases broke
  | _ => simp_all

/-- A run that does not know that the daemon has stopped never gets to know, nor does anybody who
reads the lines. -/
theorem untold_of_stalled {ms : List Turn} (h : c.run host ms = some d) (sound : c.Sound)
    (hc : c.Honest) (stalled : c.Stalled) :
    .stopped ∉ d.said ∧ d.observed.lastStage ≠ some .stopped := by
  have kept := (sound.run_invariant (P := fun c => c.Honest ∧ c.Stalled)
    (fun turned sound kept =>
      ⟨honest_of_turn? turned sound kept.1, stalled_of_turn? turned sound kept.2⟩)
    h ⟨hc, stalled⟩).2
  have untold : .stopped ∉ d.said := by
    intro told
    have last := kept.1.within .stopped told (by decide)
    rw [kept.2.running] at last
    exact absurd last (by decide)
  refine ⟨untold, ?_⟩
  rw [observed_lastStage]
  exact fun last => untold (List.mem_of_getLast? last)

/-- In every course of a daemon, its main task tells of the stages in their order, and the reporter
tells of the drain once at most. All lines are in order unless one of them came too late, and if no
signal is answered past the channel, that can only be the line of the drain, after that of the stop.
Once the run returns, the stop is told of; a supervisor goes on to believe it if the reporter holds
nothing by then, and if it does, the supervisor may be told of the drain again. -/
theorem ordered_iff_no_line_lags (settings : Settings) (path : String) (overrides : Overrides)
    (sources : Settings.Sources) {ms : List Turn}
    (h : (create settings path overrides sources).run host ms = some c) :
    (c.said.filter (· ≠ .draining)).Pairwise (·.rank < ·.rank) ∧
    c.said.count .draining ≤ 1 ∧
    (c.said.Pairwise (·.rank < ·.rank) ↔
      (create settings path overrides sources).Paced host ms) ∧
    ((∀ m ∈ ms, m.isDirect = false) → c.LateAtMost) ∧
    ∀ r, c.station = .running → c.daemon.engine.runner = .ended (.stopped r) →
      ∃ d, c.turn? host .conclude = some d ∧ d.said = c.said ++ [.stopped] ∧
        d.observed.lastStage = some .stopped ∧
        (c.unsaid = [] → ∀ ns e, d.run host ns = some e →
          e.said = d.said ∧ e.observed.lastStage = some .stopped) ∧
        (c.unsaid ≠ [] → ∃ e, d.turn? host .report = some e ∧
          e.said = d.said ++ [.draining] ∧ e.observed.lastStage = some .draining) := by
  have start := sound_create settings path overrides sources
  have ordered : (create settings path overrides sources).Ordered := .nil
  have honest := honest_create settings path overrides sources
  obtain ⟨sound, hc, pending⟩ := start.run_invariant (P := fun c => c.Honest ∧ c.Pending)
    (fun turned sound kept =>
      ⟨honest_of_turn? turned sound kept.1, pending_of_turn? turned kept.2⟩)
    h ⟨honest, fun _ => rfl⟩
  refine ⟨hc.own, ?_, ordered_iff_paced h start honest ordered, ?_, ?_⟩
  · exact Nat.le_trans ((List.sublist_append_left c.said c.unsaid).count_le _) hc.once
  · exact lateAtMost_of_run h start honest (unasked_create settings path overrides sources) ordered
  · intro r running returned
    obtain ⟨d, concluded, said, unsaid⟩ := conclude_of_stopped host pending running returned
    have told : .stopped ∈ d.said := by simp [said]
    have stops : d.observed.lastStage = some .stopped := by simp [observed_lastStage, said]
    refine ⟨d, concluded, said, stops, ?_, ?_⟩
    · intro nothing ns e later
      have same := said_of_settled later (sound_of_turn? concluded sound)
        (honest_of_turn? concluded sound hc) told (unsaid.trans nothing)
      exact ⟨same, by rw [observed_lastStage, same, ← observed_lastStage, stops]⟩
    · intro holds
      obtain ⟨e, written, more⟩ := report_of_unsaid host (unsaid ▸ holds)
      exact ⟨e, written, more, by simp [observed_lastStage, more]⟩

/-- A second request to stop, when the reporter has written of the drain. -/
theorem ordered_iff_no_line_lags_forced :
    ∃ ms c d, small.run someHost ms = some c ∧ small.Paced someHost ms ∧
      c.turn? someHost .conclude = some d ∧
      d.said = [.starting, .ready, .draining, .stopped] ∧
      ∀ ns e, d.run someHost ns = some e → e.observed.lastStage = some .stopped := by
  have reached : ∃ c, small.run someHost
      (begins ++ hears .terminate ++ [.look, .report] ++ hears .interrupt) = some c ∧
      c.said = [.starting, .ready, .draining] ∧ c.unsaid = [] ∧ c.station = .running ∧
      c.daemon.engine.runner = .ended (.stopped (.forced .interrupt)) :=
    ⟨_, rfl, rfl, rfl, rfl, rfl⟩
  obtain ⟨c, runs, said, unsaid, running, returned⟩ := reached
  obtain ⟨_, _, paced, _, concludes⟩ := ordered_iff_no_line_lags _ _ _ _ runs
  obtain ⟨d, concluded, more, _, stays, _⟩ := concludes _ running returned
  refine ⟨_, c, d, runs, paced.mp (by rw [said]; decide), concluded, by rw [more, said]; rfl, ?_⟩
  intro ns e later
  exact (stays unsaid ns e later).2

/-- A second request to stop comes between what the reporter reads and what it writes, and the lines
end with the drain. A request past the channel is written of before the daemon says that it is
ready. Two of them stop a daemon that never says so. -/
theorem lines_out_of_order :
    (∃ ms c, small.run someHost ms = some c ∧ (∀ m ∈ ms, m.isDirect = false) ∧
      c.said = [.starting, .ready, .stopped, .draining] ∧
      c.observed.lastStage = some .draining) ∧
    (∃ ms c, small.run someHost ms = some c ∧ c.said = [.starting, .draining, .ready]) ∧
    ∃ ms c, small.run someHost ms = some c ∧ c.daemon.engine.stage = .stopped ∧
      c.said = [.starting, .ready, .draining] ∧
      ∀ ns d, c.run someHost ns = some d →
        .stopped ∉ d.said ∧ d.observed.lastStage ≠ some .stopped := by
  refine ⟨?_, ?_, ?_⟩
  · exact ⟨begins ++ hears .terminate ++ [.look] ++ hears .interrupt ++ [.conclude, .report], _,
      rfl, by decide, rfl, rfl⟩
  · exact ⟨[.announce, .listen, .launch, .launch, .launch, .openControl, .becomeReady,
      .other (.signal .terminate), .look, .report, .sayReady], _, rfl, rfl⟩
  · have reached : ∃ c, small.run someHost (begins ++
        [.other (.signal .terminate), .look, .report, .other (.signal .terminate)]) = some c ∧
        c.daemon.engine.stage = .stopped ∧ c.said = [.starting, .ready, .draining] ∧
        c.station = .running ∧ c.daemon.engine.runner = .receiving ∧
        c.daemon.engine.senderOpen = true ∧ c.point = .waiting :=
      ⟨_, rfl, rfl, rfl, rfl, rfl, rfl, rfl⟩
    obtain ⟨c, runs, stopped, said, running, receiving, opened, waiting⟩ := reached
    have stalled : c.Stalled := ⟨running, stopped, receiving, opened, .inl waiting⟩
    have start := sound_create { control := { enabled := false }, workload := { workers := 1 } }
      "dvm" {} {}
    obtain ⟨sound, honest⟩ := start.run_invariant honest_of_turn? runs (honest_create _ _ _ _)
    exact ⟨_, c, runs, stopped, said,
      fun ns d later => untold_of_stalled later sound honest stalled⟩

end Course

end Quiesce
