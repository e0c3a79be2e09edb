import Quiesce.Proofs.Engine.Hush

/-!
Two engines side by side, one of which gets the signals that do not ask to stop, and the other one
does not. Whatever else is asked of both, at every instant they are at the same stage with the same
work, and their runs end at the same instant with the same result; only the counts of the signals
tell them apart. That is so with handlers that take no time; while one is at work, nothing else is
heard.
-/
namespace Quiesce

/-- Whether a request is more than a signal that does not ask to stop. -/
def Request.isAudible : Request → Bool
  | .signal k | .send k => k.asksToStop
  | _ => true

/-- What is left of the rounds of a schedule without the signals that do not ask to stop. -/
def Request.audible (rounds : List (List Request)) : List (List Request) :=
  (rounds.map (·.filter isAudible)).filter (!·.isEmpty)

theorem Request.mem_audible {rounds : List (List Request)} {r : Request}
    (audible : r.isAudible = true) : r ∈ (Request.audible rounds).flatten ↔ r ∈ rounds.flatten := by
  simp only [Request.audible, List.mem_flatten, List.mem_filter, List.mem_map]
  constructor
  · rintro ⟨_, ⟨⟨round, member, rfl⟩, _⟩, here⟩
    exact ⟨round, member, (List.mem_filter.mp here).1⟩
  · rintro ⟨round, member, here⟩
    have left : r ∈ round.filter isAudible := List.mem_filter.mpr ⟨here, audible⟩
    exact ⟨_, ⟨⟨round, member, rfl⟩, by simpa using List.ne_nil_of_mem left⟩, left⟩

namespace Engine

variable {D E : Type} {e f : Engine D}

/-- At the same instant two engines are at the same stage, published as often, behind the same gate
and with the same ending on record; they have the same work in flight and have done and refused the
same, the same requests to stop wait for them, and their runs are at the same place or have ended in
the same way. The counts of signals may differ, and the desks. -/
structure Alike (e : Engine D) (g : Engine E) : Prop where
  now : g.now = e.now
  core : e.core.Still g.core
  pool : g.pool = e.pool
  tasks : g.tasks = e.tasks
  senderOpen : g.senderOpen = e.senderOpen
  runner : g.runner = e.runner
  requests : g.inbox.filter Signal.asksToStop = e.inbox.filter Signal.asksToStop

theorem alike_iff (e : Engine D) (g : Engine E) : e.Alike g ↔ e.hush = g.hush := by
  simp only [hush, mk.injEq, Core.hush_eq_iff, and_true]
  constructor
  · intro h
    exact ⟨h.now.symm, h.core, h.pool.symm, h.tasks.symm, h.requests.symm, h.senderOpen.symm,
      h.runner.symm⟩
  · rintro ⟨now, core, pool, tasks, requests, senderOpen, runner⟩
    exact ⟨now.symm, core, pool.symm, tasks.symm, senderOpen.symm, runner.symm, requests.symm⟩

/-- Two engines that differ in what cannot be seen only, with handlers that leave the settings
alone. -/
structure Twins (calm : D → WorkloadSettings → Prop) (quiet : E → WorkloadSettings → Prop)
    (e : Engine D) (g : Engine E) : Prop where
  same : e.hush = g.hush
  calm : calm e.desk e.pool.settings
  quiet : quiet g.desk g.pool.settings

section Twins

variable {handler : Handler D} {other : Handler E} {calm : D → WorkloadSettings → Prop}
  {quiet : E → WorkloadSettings → Prop} {g : Engine E}

/-- However many steps more the one runner takes than the other, at rest there is no difference. -/
theorem Twins.pollAll (leaves : handler.Leaves calm) (ignores : other.Leaves quiet)
    (h : Twins calm quiet e g) {n m : Nat} (enough : e.steps ≤ n) (plenty : g.steps ≤ m) :
    Twins calm quiet (e.pollAll handler n) (g.pollAll other m) := by
  induction n using Nat.strongRecOn generalizing e g m with
  | ind n ih =>
      obtain ⟨e', n', polled, le, enough, heeds, unseen, settled⟩ :=
        pollAll_heeding leaves h.calm enough
      obtain ⟨g', m', polled', _, plenty, heeds', unseen', settled'⟩ :=
        pollAll_heeding ignores h.quiet plenty
      have alike : e'.hush = g'.hush := unseen.trans (h.same.trans unseen'.symm)
      have polls : (e'.poll handler).map hush = (g'.poll other).map hush := by
        rw [hush_poll handler heeds, hush_poll other heeds', alike]
      rw [polled, polled']
      cases step : e'.poll handler with
      | none =>
          cases step' : g'.poll other with
          | none =>
              rw [pollAll_of_none step, pollAll_of_none step']
              exact ⟨alike, settled, settled'⟩
          | some g'' => simp [step, step'] at polls
      | some e'' =>
          cases step' : g'.poll other with
          | none => simp [step, step'] at polls
          | some g'' =>
              have less := steps_poll step
              have less' := steps_poll step'
              obtain ⟨left, rfl⟩ : ∃ left, n' = left + 1 := ⟨n' - 1, by omega⟩
              obtain ⟨left', rfl⟩ : ∃ left', m' = left' + 1 := ⟨m' - 1, by omega⟩
              rw [pollAll_of_some step, pollAll_of_some step']
              simp only [step, step', Option.map_some, Option.some.injEq] at polls
              exact ih left (by omega)
                ⟨polls, calm_poll leaves settled step, calm_poll ignores settled' step'⟩
                (by omega) (by omega)

theorem calm_fireDue (settled : calm e.desk e.pool.settings) :
    calm e.fireDue.desk e.fireDue.pool.settings := by
  have same : e.fireDue.pool.settings = e.pool.settings := Pool.recordAll_settings _ e.pool
  exact same ▸ settled

theorem Twins.settle (leaves : handler.Leaves calm) (ignores : other.Leaves quiet)
    (h : Twins calm quiet e g) : Twins calm quiet (e.settle handler) (g.settle other) := by
  have fired : Twins calm quiet e.fireDue g.fireDue := by
    refine ⟨?_, calm_fireDue h.calm, calm_fireDue h.quiet⟩
    rw [hush_fireDue, hush_fireDue, h.same]
  exact fired.pollAll leaves ignores e.fireDue.steps_le_turn g.fireDue.steps_le_turn

theorem Twins.wait (h : Twins calm quiet e g) (t : Instant) :
    Twins calm quiet { e with now := t } { g with now := t } :=
  ⟨congrArg (fun u : Engine Unit => { u with now := t }) h.same, h.calm, h.quiet⟩

theorem Twins.advanceTo (leaves : handler.Leaves calm) (ignores : other.Leaves quiet)
    (h : Twins calm quiet e g) (target : Instant) (fuel : Nat) :
    Twins calm quiet (e.advanceTo handler target fuel) (g.advanceTo other target fuel) := by
  induction fuel generalizing e g with
  | zero => exact h.wait target
  | succ fuel ih =>
      have now : e.now = g.now := congrArg Engine.now h.same
      have next : e.nextDue? = g.nextDue? := congrArg Engine.nextDue? h.same
      cases due : g.nextDue? with
      | none =>
          simp only [Engine.advanceTo, next, due]
          exact h.wait target
      | some t =>
          simp only [Engine.advanceTo, next, due]
          split
          · rw [now]
            exact ih ((h.wait _).settle leaves ignores)
          · exact h.wait target

theorem Twins.advance (leaves : handler.Leaves calm) (ignores : other.Leaves quiet)
    (h : Twins calm quiet e g) (time : Duration) :
    Twins calm quiet (e.advance handler time) (g.advance other time) := by
  have now : e.now = g.now := congrArg Engine.now h.same
  simp only [Engine.advance, passUntil, now]
  exact h.advanceTo leaves ignores _ _

theorem calm_enter (settled : calm e.desk e.pool.settings) (x : Entry) :
    calm (e.enter x).2.desk (e.enter x).2.pool.settings := by
  obtain ⟨tasks, pool, entered, same⟩ := e.enter_eq x
  rw [entered, same]
  exact settled

theorem calm_launchFrom (settled : calm e.desk e.pool.settings) (worker count : Nat) :
    calm (e.launchFrom worker count).2.desk (e.launchFrom worker count).2.pool.settings := by
  induction count generalizing e worker with
  | zero => exact settled
  | succ count ih =>
      have entered := calm_enter settled .worker
      rcases launched : e.launchWorker with ⟨granted, f⟩
      simp only [enter, launched] at entered
      simp only [launchFrom, launched]
      cases granted with
      | true => exact ih entered (worker + 1)
      | false => exact entered

/-- Nothing that is asked for puts the desk out of order, if new settings do not. -/
theorem calm_ask (leaves : handler.Leaves calm) (settled : calm e.desk e.pool.settings)
    (r : Request) (keeps : ∀ update, r = .apply update → ∀ desk settings,
      calm desk settings → calm desk (settings.retimed update)) :
    calm (e.ask handler r).desk (e.ask handler r).pool.settings := by
  cases r with
  | markReady | signal _ | hangUp => exact settled
  | send k =>
      obtain ⟨inbox, sent⟩ := e.send_eq k
      simp only [ask, sent]
      exact settled
  | beginRun =>
      simp only [ask, beginRun]
      split <;> exact settled
  | beginDrain =>
      obtain ⟨runner, entered, _⟩ := e.enterDrain_eq
      simp only [ask, beginDrain, entered]
      split <;> exact settled
  | discard =>
      simp only [ask]
      split <;> exact settled
  | enter x => exact calm_enter settled x
  | launch =>
      simp only [ask, launch_eq]
      exact calm_launchFrom settled 0 _
  | apply update =>
      have applied := congrArg Pool.settings (e.pool.apply_eq update)
      simp only [ask, apply, applied]
      exact keeps update rfl _ _ settled
  | advance time =>
      have itself : Twins calm calm e e := ⟨rfl, settled, settled⟩
      exact (itself.advance leaves leaves time).calm

/-- What both are asked for leaves no difference behind. -/
theorem Twins.ask (leaves : handler.Leaves calm) (ignores : other.Leaves quiet)
    (h : Twins calm quiet e g) {r : Request} (kept : r ≠ .discard) (audible : r.isAudible = true)
    (keeps : ∀ update, r = .apply update → ∀ desk settings,
      calm desk settings → calm desk (settings.retimed update))
    (keeps' : ∀ update, r = .apply update → ∀ desk settings,
      quiet desk settings → quiet desk (settings.retimed update)) :
    Twins calm quiet (e.ask handler r) (g.ask other r) := by
  refine ⟨?_, calm_ask leaves h.calm r keeps, calm_ask ignores h.quiet r keeps'⟩
  cases r with
  | markReady => exact congrArg (fun u : Engine Unit => u.markReady.2) h.same
  | signal k =>
      simp only [Engine.ask]
      rw [hush_signal e, hush_signal g, h.same]
  | send k =>
      simp only [Engine.ask]
      rw [hush_send e audible, hush_send g audible, h.same]
  | hangUp => exact congrArg Engine.hangUp h.same
  | beginRun =>
      simp only [Engine.ask]
      rw [hush_beginRun, hush_beginRun, h.same]
  | beginDrain =>
      simp only [Engine.ask]
      rw [hush_beginDrain, hush_beginDrain, h.same]
  | discard => exact absurd rfl kept
  | enter x =>
      simp only [Engine.ask]
      rw [hush_enter, hush_enter, h.same]
  | launch =>
      simp only [Engine.ask]
      rw [hush_launch, hush_launch, h.same]
  | apply update => exact congrArg (fun u : Engine Unit => (u.apply update).2) h.same
  | advance time => exact (h.advance leaves ignores time).same

/-- A signal that does not ask to stop makes no difference to begin with. -/
theorem hush_ask_of_inaudible (handler : Handler D) (e : Engine D) {r : Request}
    (inaudible : r.isAudible = false) : (e.ask handler r).hush = e.hush := by
  cases r with
  | signal k => exact e.hush_signal_calm inaudible
  | send k => exact e.hush_send_calm inaudible
  | _ => cases inaudible

end Twins

/-- Serves requests in rounds. Those of a round come at once, and at its end everything happens that
can happen at that instant. -/
def serve (handler : Handler D) : Engine D → List (List Request) → Engine D
  | e, [] => e
  | e, round :: rounds => ((round.foldl (ask handler) e).settle handler).serve handler rounds

section Serve

variable {handler : Handler D} {calm : D → WorkloadSettings → Prop} {u : Engine Unit}

/-- One round, of which the other engine hears what can be heard. -/
theorem Twins.round (leaves : handler.Leaves calm) (h : Twins calm (fun _ _ => True) e u)
    {round : List Request} (kept : .discard ∉ round)
    (keeps : ∀ update, .apply update ∈ round → ∀ desk settings,
      calm desk settings → calm desk (settings.retimed update)) :
    Twins calm (fun _ _ => True) (round.foldl (Engine.ask handler) e)
      ((round.filter Request.isAudible).foldl (Engine.ask .silent) u) := by
  induction round generalizing e u with
  | nil => exact h
  | cons r round ih =>
      have keepsOne : ∀ update, r = .apply update → ∀ desk settings,
          calm desk settings → calm desk (settings.retimed update) := by
        rintro update rfl
        exact keeps update List.mem_cons_self
      have rest := fun update member => keeps update (List.mem_cons_of_mem r member)
      have others : .discard ∉ round := fun member => kept (List.mem_cons_of_mem r member)
      cases audible : r.isAudible with
      | true =>
          rw [List.filter_cons_of_pos audible]
          have notDiscard : r ≠ .discard := by
            rintro rfl
            exact kept List.mem_cons_self
          exact ih (h.ask leaves Handler.silent_leaves notDiscard audible keepsOne
            (fun _ _ _ _ _ => trivial)) others rest
      | false =>
          rw [List.filter_cons_of_neg (by simp [audible])]
          exact ih ⟨(hush_ask_of_inaudible handler e audible).trans h.same,
            calm_ask leaves h.calm r keepsOne, trivial⟩ others rest

/-- A whole schedule. Where nothing of a round can be heard, nothing happens. -/
theorem Twins.serve (leaves : handler.Leaves calm) (h : Twins calm (fun _ _ => True) e u)
    (settled : (e.settle handler).hush = e.hush) {rounds : List (List Request)}
    (kept : .discard ∉ rounds.flatten)
    (keeps : ∀ update, .apply update ∈ rounds.flatten → ∀ desk settings,
      calm desk settings → calm desk (settings.retimed update)) :
    Twins calm (fun _ _ => True) (e.serve handler rounds)
      (u.serve .silent (Request.audible rounds)) := by
  induction rounds generalizing e u with
  | nil => exact h
  | cons round rounds ih =>
      simp only [List.flatten_cons, List.mem_append, not_or] at kept keeps
      have one := h.round leaves kept.1 (fun update member => keeps update (.inl member))
      have turned := one.settle leaves Handler.silent_leaves
      have again : (((round.foldl (Engine.ask handler) e).settle handler).settle handler).hush =
          ((round.foldl (Engine.ask handler) e).settle handler).hush := by rw [settle_settle]
      have others := fun update member => keeps update (.inr member)
      by_cases silence : round.filter Request.isAudible = []
      · have same : Request.audible (round :: rounds) = Request.audible rounds := by
          simp [Request.audible, silence]
        rw [silence] at turned
        have rested : (u.settle .silent).hush = u.hush :=
          (h.settle leaves Handler.silent_leaves).same.symm.trans (settled.trans h.same)
        rw [same]
        exact ih ⟨turned.same.trans rested, turned.calm, trivial⟩ again kept.2 others
      · have next : Request.audible (round :: rounds) =
            round.filter Request.isAudible :: Request.audible rounds := by
          simp [Request.audible, silence]
        rw [next]
        exact ih turned again kept.2 others

end Serve

/-- Two schedules that differ in nothing but signals that do not ask to stop make no difference to
be seen, neither at the end of them nor after any more time: stage and publication, gate and ending,
the work and its counts, and when and how a run or a drain ends, are the same in both. The handlers
of reload requests answer at once and every time, and as they like, as long as they leave the
settings alone. -/
theorem calm_signals_unseen {handler : Handler D} {other : Handler E}
    {calm : D → WorkloadSettings → Prop} {quiet : E → WorkloadSettings → Prop}
    (leaves : handler.Leaves calm) (ignores : other.Leaves quiet)
    {e : Engine D} {g : Engine E} (alike : e.Alike g)
    (inOrder : calm e.desk e.pool.settings) (inOrder' : quiet g.desk g.pool.settings)
    (settled : e.settle handler = e) (settled' : g.settle other = g)
    {xs ys : List (List Request)} (same : Request.audible xs = Request.audible ys)
    (kept : .discard ∉ xs.flatten)
    (keeps : ∀ update, .apply update ∈ xs.flatten →
      (∀ desk settings, calm desk settings → calm desk (settings.retimed update)) ∧
      ∀ desk settings, quiet desk settings → quiet desk (settings.retimed update)) :
    (e.serve handler xs).Alike (g.serve other ys) ∧
    ∀ time : Duration, ((e.serve handler xs).advance handler time).Alike
        ((g.serve other ys).advance other time) ∧
      ∀ result, ((e.serve handler xs).advance handler time).runner = .ended result ↔
        ((g.serve other ys).advance other time).runner = .ended result := by
  have here (r : Request) (audible : r.isAudible = true) (member : r ∈ ys.flatten) :
      r ∈ xs.flatten := by
    rw [← Request.mem_audible audible] at member ⊢
    exact same ▸ member
  have first := Twins.serve leaves (u := e.hush) ⟨e.hush_hush.symm, inOrder, trivial⟩
    (congrArg hush settled) kept fun update member => (keeps update member).1
  have second := Twins.serve ignores (u := e.hush)
    ⟨((alike_iff e g).mp alike).symm.trans e.hush_hush.symm, inOrder', trivial⟩
    (congrArg hush settled') (fun member => kept (here _ rfl member))
    fun update member => (keeps update (here _ rfl member)).2
  rw [← same] at second
  have twins : Twins calm quiet (e.serve handler xs) (g.serve other ys) :=
    ⟨first.same.trans second.same.symm, first.calm, second.calm⟩
  refine ⟨(alike_iff _ _).mpr twins.same, ?_⟩
  intro time
  have later := (alike_iff _ _).mpr (twins.advance leaves ignores time).same
  exact ⟨later, fun result => by rw [later.runner]⟩

/-- Reload requests and kills before the daemon is ready, behind one another, right before the
request to stop and in the midst of the drain; a handler that counts its calls and fails at every
other. -/
theorem calm_signals_unseen_of_seven : ∃ (e : Engine Nat) (g : Engine Unit)
    (handler : Handler Nat) (xs ys : List (List Request)),
    (e.serve handler xs).desk = 2 ∧
    (e.serve handler xs).core.tally ≠ (g.serve .silent ys).core.tally ∧
    (e.serve handler xs).Alike (g.serve .silent ys) ∧
    (g.serve .silent ys).stage = .draining ∧
    ∃ time, ((e.serve handler xs).advance handler time).runner = .ended (.stopped .drained) ∧
      ((g.serve .silent ys).advance .silent time).runner = .ended (.stopped .drained) := by
  let handler : Handler Nat := fun calls settings =>
    .ok (calls + 1, if calls % 2 = 0 then some settings else none)
  let e : Engine Nat := (Scene.fresh (.ofMillis 5000) {} 0).engine
  let g : Engine Unit := (Scene.fresh (.ofMillis 5000) {} ()).engine
  let xs : List (List Request) :=
    [[.send .hangup, .beginRun], [.markReady, .enter (.job (.ofMillis 90))],
      [.send .hangup, .send .hangup], [.advance (.ofMillis 20), .signal .kill],
      [.send .kill, .send .terminate, .send .hangup], [.advance (.ofMillis 30)], [.send .hangup]]
  let ys : List (List Request) :=
    [[.beginRun], [.markReady, .enter (.job (.ofMillis 90))], [.advance (.ofMillis 20)],
      [.send .terminate], [.advance (.ofMillis 30)]]
  have leaves : handler.Leaves fun _ _ => True := by
    intro calls settings _
    refine ⟨_, _, rfl, trivial, ?_⟩
    intro update given
    split at given <;> cases given
    simp [WorkloadSettings.differs]
  have alike : e.Alike g := ⟨rfl, rfl, rfl, rfl, rfl, rfl, rfl⟩
  have heard : Request.audible xs = Request.audible ys := rfl
  have unchanged : ∀ update, Request.apply update ∉ xs.flatten := by simp [xs]
  obtain ⟨same, later⟩ := calm_signals_unseen leaves Handler.silent_leaves alike trivial trivial
    rfl rfl heard (by simp [xs])
    fun update member => absurd member (unchanged update)
  have drained : ((g.serve .silent ys).advance .silent (.ofMillis 40)).runner =
      .ended (.stopped .drained) := by decide +kernel
  refine ⟨e, g, handler, xs, ys, by decide +kernel, by decide +kernel, same, by decide +kernel,
    .ofMillis 40, ?_, drained⟩
  exact ((later _).2 _).mpr drained

/-- A handler that takes its time makes a difference: while it serves a request to reload, the one
to stop that came after it is not even taken from the channel. So does one that breaks off. -/
theorem calm_signals_seen_in_service :
    (∃ s t : Scene Unit,
      (Scene.fresh (.ofMillis 5000) {} ()).run [.markReady, .beginRun, .send .hangup, .take,
        .answer, .act, .send .terminate, .pass 1000000] = some s ∧
      (Scene.fresh (.ofMillis 5000) {} ()).run [.markReady, .beginRun, .send .terminate, .take,
        .answer, .act, .pass 1000000] = some t ∧
      (∀ m : Move Unit, m.isRunners = true → (∀ desk update, m ≠ .served desk update) →
        (∀ cause, m ≠ .brokeOff cause) → s.move? m = none) ∧
      s.engine.now = t.engine.now ∧ s.engine.pool.settings = t.engine.pool.settings ∧
      s.engine.stage = .ready ∧ t.engine.stage = .draining) ∧
    ∃ (handler : Handler Unit) (e : Engine Unit), (∀ desk settings,
        handler desk settings = .error .position) ∧
      (e.serve handler [[.markReady, .beginRun], [.send .hangup]]).runner =
        .ended (.overflow .position) ∧
      (e.serve handler [[.markReady, .beginRun]]).runner = .receiving := by
  refine ⟨⟨_, _, rfl, rfl, ?_, rfl, rfl, rfl, rfl⟩, fun _ _ => .error .position,
    (Scene.fresh (.ofMillis 5000) {} ()).engine, fun _ _ => rfl, by decide +kernel,
    by decide +kernel⟩
  intro m runners served brokeOff
  cases m with
  | served desk update => exact absurd rfl (served desk update)
  | brokeOff cause => exact absurd rfl (brokeOff cause)
  | beginRun | beginDrain | take | answer | act | hearClosed | seeIdle | seeLate | finish => rfl
  | _ => cases runners

end Engine

end Quiesce
