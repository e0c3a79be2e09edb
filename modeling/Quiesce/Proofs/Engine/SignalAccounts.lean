import Quiesce.Proofs.Daemon.StopReport
import Quiesce.Proofs.Lifecycle.Tally

/-!
Every signal is accounted for. A history lists the moves of a run with the scenes in which they were
made; what it says of signals given and of reload requests served is compared with the counts that
the core keeps. The counts are entered after a signal was answered, and so in any order.
-/
namespace Quiesce

/-- A stopped core counts what it is given, and that is all. -/
theorem Core.receiveAll_of_stopped {c : Core} (stopped : c.stage = .stopped) (ks : List Signal) :
    ks.foldl (fun c k => (c.receive k).2) c = { c with tally := { c.tally with
      ignoredAfterStop := c.tally.ignoredAfterStop + ks.length
      last := ks.getLast?.or c.tally.last } } := by
  rw [← Tally.countAll_of_stopped]
  induction ks generalizing c with
  | nil => rfl
  | cons k ks ih =>
      have quiet : (Response.of c.stage k).target? = none := by rw [stopped]; rfl
      rw [List.foldl_cons, receive_of_target?_eq_none c k quiet, stopped]
      exact ih (c := { c with tally := c.tally.count k (.ignored .afterStop) }) stopped

namespace Scene

variable {D : Type} {s t : Scene D} {m : Move D}

/-- The signal that a move gives to the core, with the stage that it finds there. -/
def heard? (s : Scene D) : Move D → Option Hearing
  | .signal k => some ⟨s.engine.stage, k⟩
  | .discard => s.engine.inbox.head?.map (⟨s.engine.stage, ·⟩)
  | .answer =>
    match s.point with
    | .holding k => some ⟨s.engine.stage, k⟩
    | _ => none
  | _ => none

theorem core_of_heard (h : s.move? m = some t) {x : Hearing} (heard : s.heard? m = some x) :
    x.stage = s.engine.stage ∧ t.engine.core = (s.engine.core.receive x.signal).2 := by
  cases m with
  | signal k =>
      cases h
      cases heard
      exact ⟨rfl, rfl⟩
  | discard =>
      obtain ⟨_, k, rest, inbox, rfl⟩ := discard?_eq_some h
      simp only [heard?, inbox, List.head?_cons, Option.map_some] at heard
      cases heard
      exact ⟨rfl, rfl⟩
  | answer =>
      obtain ⟨k, holding, rfl⟩ := answer?_eq_some h
      simp only [heard?, holding] at heard
      cases heard
      exact ⟨rfl, rfl⟩
  | markReady | send _ | hangUp | beginRun | beginDrain | enter _ | takeIn _ | handIn _ | proceed _
  | apply _ | fire _ | pass _ | elsewhere _ | take | act | served _ _ | brokeOff _ | hearClosed
  | seeIdle | seeLate | finish => cases heard

/-- Without a signal a daemon can only become ready, or end its drain by itself. -/
theorem core_of_unheard (h : s.move? m = some t) (unheard : s.heard? m = none) :
    t.engine.core = s.engine.core ∨ m = .markReady ∧ t.engine.core = s.engine.core.markReady.2 ∨
      ∃ e, (∀ k, e ≠ .forced k) ∧ t.engine.core = (s.engine.core.finish e).2 := by
  cases m with
  | markReady => cases h; exact .inr (.inl ⟨rfl, rfl⟩)
  | signal k => cases unheard
  | send k =>
      cases h
      obtain ⟨inbox, sent⟩ := s.engine.send_eq k
      exact .inl (by rw [sent])
  | beginRun =>
      obtain ⟨granted, rfl⟩ := begin?_eq_some h
      exact .inl (by rw [(Engine.beginRun_granted granted).2])
  | beginDrain =>
      obtain ⟨granted, rfl⟩ := begin?_eq_some h
      obtain ⟨runner, entered, _⟩ := s.engine.enterDrain_eq
      exact .inl (by rw [(Engine.beginDrain_granted granted).2, entered])
  | discard =>
      obtain ⟨_, k, rest, inbox, _⟩ := discard?_eq_some h
      simp [heard?, inbox] at unheard
  | enter _ | takeIn _ | handIn _ | proceed _ | fire _ =>
      obtain ⟨tasks, pool, register, newcomers, calls, rfl, _⟩ := work_of_move? h rfl
      exact .inl rfl
  | elsewhere idle =>
      obtain ⟨_, rfl⟩ := elsewhere?_eq_some h
      exact .inr (.inr ⟨_, by cases idle <;> exact fun _ => Ending.noConfusion, rfl⟩)
  | take =>
      obtain ⟨_, _, k, rest, _, rfl⟩ := take?_eq_some h
      exact .inl rfl
  | answer =>
      obtain ⟨k, holding, _⟩ := answer?_eq_some h
      simp [heard?, holding] at unheard
  | act =>
      obtain ⟨k, r, _, ⟨_, _, rfl⟩ | ⟨_, _, rfl⟩ | ⟨_, rfl⟩ | rfl⟩ := act?_eq_some h
      · obtain ⟨runner, entered, _⟩ := s.engine.enterDrain_eq
        exact .inl (by rw [entered])
      all_goals exact .inl rfl
  | served desk update =>
      obtain ⟨_, rfl⟩ := served_eq_some h
      obtain ⟨pool, reloaded, _⟩ := s.engine.reloaded_eq desk update
      exact .inl (by rw [reloaded])
  | brokeOff cause =>
      obtain ⟨_, rfl⟩ := brokeOff_eq_some h
      exact .inl rfl
  | hearClosed =>
      obtain ⟨_, _, _, ⟨_, rfl⟩ | ⟨deadline, _, rfl⟩⟩ := hearClosed?_eq_some h
      all_goals exact .inl rfl
  | seeIdle =>
      obtain ⟨_, _, _, rfl⟩ := seeIdle?_eq_some h
      exact .inl rfl
  | seeLate =>
      obtain ⟨_, _, rfl⟩ := seeLate?_eq_some h
      exact .inl rfl
  | finish =>
      obtain ⟨_, rfl⟩ | ⟨_, rfl⟩ := finish?_eq_some h
      all_goals exact .inr (.inr ⟨_, fun _ => Ending.noConfusion, rfl⟩)
  | hangUp | apply _ | pass _ => cases h; exact .inl rfl

theorem accounted_of_move? {log : List Hearing} (sound : s.Sound) (h : s.move? m = some t)
    (hs : s.engine.core.Accounted log) :
    t.engine.core.Accounted (log ++ (s.heard? m).toList) := by
  cases heard : s.heard? m with
  | some x =>
      obtain ⟨stage, core⟩ := core_of_heard h heard
      have given : x = ⟨s.engine.core.stage, x.signal⟩ := congrArg (Hearing.mk · x.signal) stage
      rw [core, given]
      exact hs.receive sound.core x.signal
  | none =>
      rw [Option.toList_none, List.append_nil]
      obtain core | ⟨_, core⟩ | ⟨e, unforced, core⟩ := core_of_unheard h heard
      · exact core ▸ hs
      · exact core ▸ hs.markReady
      · exact core ▸ hs.finish sound.core unforced

/-- The moves of a run, each with the scene in which it is made. -/
def history : Scene D → List (Move D) → List (Scene D × Move D)
  | _, [] => []
  | s, m :: ms => (s, m) :: (s.move? m).elim [] (history · ms)

/-- What every move keeps, if it is entered into the history, a whole run keeps. -/
theorem history_invariant {P : Scene D → List (Scene D × Move D) → Prop}
    (keep : ∀ {s t : Scene D} {m : Move D} {past}, s.move? m = some t → P s past →
      P t (past ++ [(s, m)]))
    {ms : List (Move D)} (h : s.run ms = some t) (past : List (Scene D × Move D))
    (start : P s past) : P t (past ++ s.history ms) := by
  induction ms generalizing s past with
  | nil =>
      cases h
      simpa [history] using start
  | cons m ms ih =>
      obtain ⟨u, moved, rest⟩ := Option.bind_eq_some_iff.mp h
      have step := ih rest _ (keep moved start)
      simpa [history, moved] using step

/-- What every move keeps that is as it should be, a run of such moves keeps. -/
theorem Sound.history_invariant {P : Scene D → List (Scene D × Move D) → Prop}
    {C : Scene D → Move D → Prop}
    (keep : ∀ {u v : Scene D} {m : Move D} {past}, u.move? m = some v → u.Sound → C u m →
      P u past → P v (past ++ [(u, m)]))
    (hs : s.Sound) {ms : List (Move D)} (h : s.run ms = some t)
    (each : ∀ p ∈ s.history ms, C p.1 p.2) (past : List (Scene D × Move D)) (start : P s past) :
    P t (past ++ s.history ms) := by
  have kept := Scene.history_invariant
    (P := fun u more => u.Sound ∧ ((∀ p ∈ more, C p.1 p.2) → P u (past ++ more))) ?_ h []
    ⟨hs, fun _ => by rwa [List.append_nil]⟩
  · exact kept.2 each
  · rintro u v m more moved ⟨sound, hu⟩
    refine ⟨sound_of_move? moved sound, ?_⟩
    intro all
    obtain ⟨before, last⟩ := List.forall_mem_append.mp all
    rw [← List.append_assoc]
    exact keep moved sound (last (u, m) List.mem_cons_self) (hu before)

theorem history_append {u : Scene D} {ms ns : List (Move D)} (hrun : s.run ms = some u) :
    s.history (ms ++ ns) = s.history ms ++ u.history ns := by
  induction ms generalizing s with
  | nil =>
      cases hrun
      rfl
  | cons m ms ih =>
      obtain ⟨v, moved, rest⟩ := Option.bind_eq_some_iff.mp hrun
      simp [history, moved, ih rest]

theorem mem_of_mem_history {ms : List (Move D)} {p : Scene D × Move D}
    (inside : p ∈ s.history ms) : p.2 ∈ ms := by
  induction ms generalizing s with
  | nil => cases inside
  | cons m ms ih =>
      rcases List.mem_cons.mp inside with rfl | later
      · exact List.mem_cons_self
      · cases moved : s.move? m with
        | none => simp [moved] at later
        | some u =>
            rw [moved] at later
            exact List.mem_cons_of_mem m (ih later)

/-- The signals that were given to the core, in the order in which they were answered. -/
def signalsIn (past : List (Scene D × Move D)) : List Hearing :=
  past.filterMap fun (s, m) => s.heard? m

theorem signalsIn_concat (past : List (Scene D × Move D)) (s : Scene D) (m : Move D) :
    signalsIn (past ++ [(s, m)]) = signalsIn past ++ (s.heard? m).toList := by
  cases heard : s.heard? m <;> simp [signalsIn, heard]

/-- Whether the handler of reload requests is called by this move. -/
def callsHandler (s : Scene D) (m : Move D) : Bool :=
  s.point ≠ .serving && (s.move? m).any (·.point = .serving)

def handlerCalls (past : List (Scene D × Move D)) : Nat :=
  past.countP fun (s, m) => s.callsHandler m

theorem handlerCalls_concat (past : List (Scene D × Move D)) (h : s.move? m = some t) :
    handlerCalls (past ++ [(s, m)]) =
      handlerCalls past + (decide (s.point ≠ .serving ∧ t.point = .serving)).toNat := by
  have calls : s.callsHandler m = decide (s.point ≠ .serving ∧ t.point = .serving) := by
    simp [callsHandler, h]
  cases called : s.callsHandler m <;> simp [handlerCalls, called, ← calls]

/-- Whether a signal that this move gives to the core comes through the channel that a run consumes,
or is too late to matter. -/
def isThroughRun (s : Scene D) : Move D → Bool
  | .signal _ | .discard => s.engine.stage = .stopped
  | .beginDrain => false
  | _ => true

/-- Whether a reload request was answered for which the handler is still to be called. -/
def owesCall (s : Scene D) : Bool :=
  match s.point with
  | .answered _ .reload => true
  | _ => false

theorem owesCall_iff (s : Scene D) : s.owesCall = true ↔ ∃ k, s.point = .answered k .reload := by
  unfold owesCall
  split
  · rename_i k owed
    simp [owed]
  · rename_i other
    simpa using other

/-- A run is alone with the channel. It has called the handler for every request to reload, but for
one that it is about to call it for. -/
structure Serving (s : Scene D) (past : List (Scene D × Move D)) : Prop where
  byRun : s.direct = false
  receiving : s.owesCall = true → s.engine.runner = .receiving
  calls : (signalsIn past).countP (·.response = .reload) = handlerCalls past + s.owesCall.toNat

variable {past : List (Scene D × Move D)}

theorem Serving.step (hs : s.Serving past) (h : s.move? m = some t) (byRun : t.direct = false)
    (receiving : t.owesCall = true → t.engine.runner = .receiving)
    (calls : (s.heard? m).toList.countP (·.response = .reload) + s.owesCall.toNat =
      (decide (s.point ≠ .serving ∧ t.point = .serving)).toNat + t.owesCall.toNat) :
    t.Serving (past ++ [(s, m)]) := by
  refine ⟨byRun, receiving, ?_⟩
  have before := hs.calls
  rw [signalsIn_concat, handlerCalls_concat past h, List.countP_append]
  omega

/-- Moves that leave the runner where it is give the core no signal before the stop. -/
theorem countP_heard_of_aside (through : s.isThroughRun m = true) (others : m.isRunners = false) :
    (s.heard? m).toList.countP (·.response = .reload) = 0 := by
  cases m with
  | signal k =>
      have stopped : s.engine.stage = .stopped := of_decide_eq_true through
      simp [heard?, stopped, Hearing.response, Response.of]
  | discard =>
      have stopped : s.engine.stage = .stopped := of_decide_eq_true through
      cases inbox : s.engine.inbox <;> simp [heard?, inbox, stopped, Hearing.response, Response.of]
  | _ => first | rfl | cases others

theorem Serving.aside (hs : s.Serving past) (h : s.move? m = some t)
    (through : s.isThroughRun m = true) (others : m.isRunners = false) (aside : Aside s t) :
    t.Serving (past ++ [(s, m)]) := by
  have same : t.owesCall = s.owesCall := by simp only [owesCall, aside.point]
  refine hs.step h (aside.direct.trans hs.byRun) ?_ ?_
  · intro owes
    rw [aside.runner]
    exact hs.receiving (same ▸ owes)
  · rw [countP_heard_of_aside through others, same, aside.point]
    simp

/-- A runner that comes to rest, or goes on from there, owes no call. -/
theorem Serving.free (hs : s.Serving past) (h : s.move? m = some t) (byRun : t.direct = false)
    (unheard : s.heard? m = none) (before : s.owesCall = false) (after : t.owesCall = false)
    (called : t.point ≠ .serving) : t.Serving (past ++ [(s, m)]) := by
  refine hs.step h byRun (fun owes => by simp [after] at owes) ?_
  simp [unheard, before, after, called]

/-- A drain that a run has begun finds the gate closed, where nobody is asked to reload. -/
theorem receiving_of_reload (aware : s.Aware) (byRun : s.direct = false) {k : Signal}
    (holding : s.point = .holding k) (reload : Response.of s.engine.stage k = .reload) :
    s.engine.runner = .receiving := by
  have pending := aware.pending (by simp [holding])
  cases runner : s.engine.runner with
  | idle | ended _ => simp [runner, Runner.isPending] at pending
  | receiving => rfl
  | draining deadline listening =>
      have closed := aware.drains byRun deadline listening runner
      rcases (Stage.isEnding_iff _).mp closed with stage | stage <;> rw [stage] at reload <;>
        cases k <;> cases reload

theorem Serving.answer (hs : s.Serving past) (aware : s.Aware) (h : s.answer? = some t) :
    t.Serving (past ++ [(s, .answer)]) := by
  have moved : s.move? .answer = some t := h
  obtain ⟨k, holding, rfl⟩ := answer?_eq_some h
  have response : (s.engine.signal k).1 = Response.of s.engine.stage k :=
    s.engine.core.receive_response k
  have free : s.owesCall = false := by simp [owesCall, holding]
  by_cases reload : Response.of s.engine.stage k = .reload
  · have receiving := receiving_of_reload aware hs.byRun holding reload
    refine hs.step moved hs.byRun (fun _ => receiving) ?_
    simp [heard?, holding, Hearing.response, owesCall, response, reload]
  · have owes : owesCall { s with
        engine := (s.engine.signal k).2, point := .answered k (s.engine.signal k).1 } = false := by
      cases other : Response.of s.engine.stage k <;> simp_all [owesCall]
    refine hs.step moved hs.byRun (fun owed => by simp [owes] at owed) ?_
    simp [heard?, holding, Hearing.response, owes, free, reload]

theorem Serving.act (hs : s.Serving past) (h : s.act? = some t) :
    t.Serving (past ++ [(s, .act)]) := by
  have moved : s.move? .act = some t := h
  cases owes : s.owesCall with
  | true =>
      obtain ⟨k, owed⟩ := s.owesCall_iff.mp owes
      have receiving := hs.receiving owes
      have called : t = { s with point := .serving } := by
        simp only [act?, owed, receiving] at h
        cases h
        rfl
      subst called
      refine hs.step moved hs.byRun (fun _ => receiving) ?_
      simp [heard?, owed, owesCall]
  | false =>
      obtain ⟨k, r, answered, ⟨_, _, rfl⟩ | ⟨rfl, _, rfl⟩ | ⟨_, rfl⟩ | rfl⟩ := act?_eq_some h
      · exact hs.free moved hs.byRun rfl owes rfl (by simp)
      · rw [s.owesCall_iff.mpr ⟨k, answered⟩] at owes
        cases owes
      · exact hs.free moved hs.byRun rfl owes rfl (by simp)
      · exact hs.free moved hs.byRun rfl owes rfl (by simp)

theorem serving_of_move? (h : s.move? m = some t) (aware : s.Aware)
    (through : s.isThroughRun m = true) (hs : s.Serving past) :
    t.Serving (past ++ [(s, m)]) := by
  have atPoint {p : Point} (here : s.point = p) (other : ∀ k, p ≠ .answered k .reload) :
      s.owesCall = false := by
    cases owes : s.owesCall with
    | false => rfl
    | true =>
        obtain ⟨k, owed⟩ := s.owesCall_iff.mp owes
        exact absurd (here.symm.trans owed) (other k)
  cases own : m.isRunners with
  | false => exact hs.aside h through own ((aside_of_move? h).resolve_right (by simp [own]))
  | true =>
    cases m with
    | markReady | signal _ | send _ | hangUp | discard | enter _ | takeIn _ | handIn _
    | proceed _ | apply _ | fire _ | pass _ | elsewhere _ => cases own
    | beginRun =>
        have moved := h
        obtain ⟨granted, rfl⟩ := begin?_eq_some h
        obtain ⟨free, _⟩ := Engine.beginRun_granted granted
        have rest := aware.waiting_of_free free
        have before := atPoint rest (by simp)
        exact hs.free moved rfl rfl before before (by simp [rest])
    | beginDrain => cases through
    | take =>
        have moved := h
        obtain ⟨rest, _, k, inbox, _, rfl⟩ := take?_eq_some h
        exact hs.free moved hs.byRun rfl (atPoint rest (by simp)) rfl (by simp)
    | answer => exact hs.answer aware h
    | act => exact hs.act h
    | served desk update =>
        have moved := h
        obtain ⟨serving, rfl⟩ := served_eq_some h
        exact hs.free moved hs.byRun rfl (atPoint serving (by simp)) rfl (by simp)
    | brokeOff cause =>
        have moved := h
        obtain ⟨serving, rfl⟩ := brokeOff_eq_some h
        exact hs.free moved hs.byRun rfl (atPoint serving (by simp)) rfl (by simp)
    | hearClosed =>
        have moved := h
        obtain ⟨rest, _, _, ⟨_, rfl⟩ | ⟨deadline, _, rfl⟩⟩ := hearClosed?_eq_some h
        all_goals
          have before := atPoint rest (by simp)
          exact hs.free moved hs.byRun rfl before before (by simp [rest])
    | seeIdle =>
        have moved := h
        obtain ⟨rest, _, _, rfl⟩ := seeIdle?_eq_some h
        exact hs.free moved hs.byRun rfl (atPoint rest (by simp)) rfl (by simp)
    | seeLate =>
        have moved := h
        obtain ⟨rest, _, rfl⟩ := seeLate?_eq_some h
        exact hs.free moved hs.byRun rfl (atPoint rest (by simp)) rfl (by simp)
    | finish =>
        have moved := h
        obtain ⟨seen, rfl⟩ | ⟨seen, rfl⟩ := finish?_eq_some h
        all_goals exact hs.free moved hs.byRun rfl (atPoint seen (by simp)) rfl (by simp)

theorem accounted_of_run {grace : Duration} {settings : WorkloadSettings} {desk : D}
    {ms : List (Move D)} (h : (fresh grace settings desk).run ms = some s) :
    s.engine.core.Accounted (signalsIn ((fresh grace settings desk).history ms)) := by
  have kept := history_invariant
    (P := fun u past => u.Sound ∧ u.engine.core.Accounted (signalsIn past)) ?_ h []
    ⟨sound_fresh grace settings desk, Core.accounted_fresh grace⟩
  · exact kept.2
  · rintro u v m past moved ⟨sound, hu⟩
    exact ⟨sound_of_move? moved sound,
      signalsIn_concat past u m ▸ accounted_of_move? sound moved hu⟩

theorem serving_of_run {grace : Duration} {settings : WorkloadSettings} {desk : D}
    {ms : List (Move D)} (h : (fresh grace settings desk).run ms = some s)
    (through : ∀ p ∈ (fresh grace settings desk).history ms, p.1.isThroughRun p.2 = true) :
    s.Serving ((fresh grace settings desk).history ms) := by
  have kept := history_invariant
    (P := fun u past => u.Sound ∧ u.Aware ∧
      ((∀ p ∈ past, p.1.isThroughRun p.2 = true) → u.Serving past)) ?_ h []
    ⟨sound_fresh grace settings desk, aware_fresh grace settings desk,
      fun _ => ⟨rfl, Bool.noConfusion, rfl⟩⟩
  · exact kept.2.2 through
  · rintro u v m past moved ⟨sound, aware, hu⟩
    refine ⟨sound_of_move? moved sound, aware_of_move? moved sound aware, ?_⟩
    intro all
    simp only [List.mem_append, List.mem_singleton] at all
    have before : u.Serving past := hu fun p member => all p (.inl member)
    exact serving_of_move? moved aware (all (u, m) (.inr rfl)) before

/-- The counts after any history of signals, in whatever order they were entered: all that were
dispatched are reloads, the stop that was forced and the first request to stop; all others are left
alone for one reason each. The handler was called as often as a reload is counted, where all signals
come through a run; and what a run has left behind is counted as come after the stop. -/
theorem signals_accounted {grace : Duration} {settings : WorkloadSettings} {desk : D}
    {ms : List (Move D)} (h : (fresh grace settings desk).run ms = some s) :
    let past := (fresh grace settings desk).history ms
    s.engine.core.tally = .of (signalsIn past) ∧
    (∀ entered : List Hearing, entered.Perm (signalsIn past) →
      let tally := Tally.of entered
      tally.dispatched = tally.reloads + tally.escalations +
        (if s.engine.stage = .draining ∨ s.engine.stage = .stopped then 1 else 0) ∧
      ((∃ k, s.engine.core.ending = some (.forced k)) → tally.escalations = 1) ∧
      ((∀ k, s.engine.core.ending ≠ some (.forced k)) → tally.escalations = 0) ∧
      (signalsIn past).length = tally.dispatched + tally.ignoredAfterStop +
        (signalsIn past).countP Hearing.isUnseen + (signalsIn past).countP Hearing.isUntimely ∧
      (tally.ignoredAfterStop ≠ 0 → s.engine.stage = .stopped) ∧
      tally.last = entered.getLast?.map (·.signal)) ∧
    ((∀ p ∈ past, p.1.isThroughRun p.2 = true) →
      ((∀ k, s.point ≠ .answered k .reload) → handlerCalls past = s.engine.core.tally.reloads) ∧
      ∀ k, s.point = .answered k .reload →
        handlerCalls past + 1 = s.engine.core.tally.reloads) ∧
    (s.direct = false → ∀ r, s.engine.runner = .ended (.stopped r) →
      s.engine.discard = (s.engine.inbox.length, { s.engine with
        inbox := []
        core := { s.engine.core with tally := { s.engine.core.tally with
          ignoredAfterStop := s.engine.core.tally.ignoredAfterStop + s.engine.inbox.length
          last := s.engine.inbox.getLast?.or s.engine.core.tally.last } } })) := by
  intro past
  have start := sound_fresh grace settings desk
  have accounted : s.engine.core.Accounted (signalsIn past) := accounted_of_run h
  refine ⟨accounted.tally, ?_, ?_, ?_⟩
  · intro entered same tally
    obtain ⟨_, escalations, dispatched, length, late, last⟩ := accounted.counts same
    refine ⟨?_, ?_, ?_, length, late, last⟩
    · have begun : s.engine.stage.isEnding.toNat =
          if s.engine.stage = .draining ∨ s.engine.stage = .stopped then 1 else 0 := by
        cases s.engine.stage <;> rfl
      exact begun ▸ dispatched
    · intro forced
      rw [escalations, s.engine.core.wasForced_iff.mpr forced]
      rfl
    · intro unforced
      have free : s.engine.core.wasForced = false := by
        rw [← Bool.not_eq_true, s.engine.core.wasForced_iff]
        rintro ⟨k, forced⟩
        exact unforced k forced
      rw [escalations, free]
      rfl
  · intro through
    have calls := (serving_of_run h through).calls
    obtain ⟨reloads, _⟩ := accounted.counts (.refl _)
    rw [accounted.tally, reloads, calls]
    constructor
    · intro idle
      have settled : s.owesCall = false := by
        rw [← Bool.not_eq_true, s.owesCall_iff]
        rintro ⟨k, owed⟩
        exact idle k owed
      rw [settled]
      rfl
    · intro k owed
      rw [s.owesCall_iff.mpr ⟨k, owed⟩]
      rfl
  · intro byRun r returned
    have recorded : s.engine.core.ending = some r :=
      (Reachable.aware ⟨grace, settings, desk, ms, h⟩).ended byRun r returned
    have stopped : s.engine.core.stage = .stopped :=
      (sound_of_run h start).core.ending.mp (by simp [recorded])
    simp only [Engine.discard, Core.receiveAll_of_stopped stopped]

/-- A reload that comes too early, one in time and one too late, a kill, and two requests to stop;
of what comes after the stop, one signal is counted by the others and one is left behind. -/
theorem signals_accounted_of_all : ∃ (ms : List (Move Unit)) (s : Scene Unit),
    (fresh (.ofMillis 5000) {} ()).run ms = some s ∧
    s.engine.core.tally = ⟨3, 1, 1, 1, some .terminate⟩ ∧
    (signalsIn ((fresh (.ofMillis 5000) {} ()).history ms)).length = 3 + 1 + 1 + 2 ∧
    handlerCalls ((fresh (.ofMillis 5000) {} ()).history ms) = 1 ∧
    s.engine.discard.1 = 1 ∧ s.engine.discard.2.core.tally = ⟨3, 1, 1, 2, some .kill⟩ := by
  let moves : List (Move Unit) :=
    [.send .hangup, .beginRun, .take, .answer, .act, .markReady,
      .send .hangup, .take, .answer, .act, .served () none,
      .send .kill, .take, .answer, .act, .send .terminate, .take, .answer, .act,
      .send .hangup, .take, .answer, .act, .send .interrupt, .send .terminate, .send .kill,
      .take, .answer, .act, .discard]
  have reached : ∃ s, (fresh (.ofMillis 5000) {} ()).run moves = some s ∧
      s.point = .waiting ∧ s.direct = false ∧ s.engine.stage = .stopped ∧
      s.engine.inbox = [.kill] ∧
      s.engine.core.tally = ⟨3, 1, 1, 1, some .terminate⟩ ∧
      s.engine.runner = .ended (.stopped (.forced .interrupt)) :=
    ⟨_, rfl, rfl, rfl, rfl, rfl, rfl, rfl⟩
  obtain ⟨s, hrun, rest, byRun, stopped, inbox, tally, returned⟩ := reached
  obtain ⟨same, counts, calls, discards⟩ := signals_accounted hrun
  have through : ∀ p ∈ (fresh (.ofMillis 5000) {} ()).history moves,
      p.1.isThroughRun p.2 = true := List.all_eq_true.mp rfl
  obtain ⟨_, _, _, length, _, _⟩ := counts _ (.refl _)
  have called := (calls through).1 (by simp [rest])
  refine ⟨moves, s, hrun, tally, ?_, called.trans (congrArg Tally.reloads tally), ?_, ?_⟩
  · rw [length, ← same, tally]
    rfl
  · rw [discards byRun _ returned, inbox]
    rfl
  · rw [discards byRun _ returned, inbox, tally]
    rfl

end Scene

end Quiesce
