import Quiesce.Proofs.Engine.Rounds

/-!
The engine as it is run is one of those that interleave. Where nobody comes in between, the pieces
into which the runner's steps are cut make up the steps again, and timers that go off at once are
timers that go off one after the other. What holds of every scene therefore holds of every engine
that is run.
-/
namespace Quiesce

theorem Pool.recordAll_settings (ts : List Task) (p : Pool) :
    (ts.foldl (fun p t => p.record t.work) p).settings = p.settings := by
  induction ts generalizing p with
  | nil => rfl
  | cons t ts ih => exact (ih (p.record t.work)).trans (p.record_settings t.work)

theorem Clock.le_wake (now : Instant) (d : Duration) : now ≤ wake now d := by
  have later : now ≤ (after? now d).getD (now + ages) := by
    unfold after?
    split
    · exact Nat.le_add_right now d.nanos
    · exact Nat.le_add_right now ages
  exact Nat.le_trans later (Nat.le_add_right _ _)

/-- What can be asked of an engine while its runner waits. -/
inductive Request where
  | markReady
  | signal (s : Signal)
  | send (s : Signal)
  | hangUp
  | beginRun
  | beginDrain
  | discard
  | enter (x : Entry)
  | launch
  | apply (update : WorkloadSettings)
  | advance (time : Duration)

namespace Engine

variable {D : Type} {handler : Handler D}

/-- Does what is asked; nothing is discarded from a channel that a run holds. -/
def ask (handler : Handler D) (e : Engine D) : Request → Engine D
  | .markReady => e.markReady.2
  | .signal k => (e.signal k).2
  | .send k => (e.send k).2
  | .hangUp => e.hangUp
  | .beginRun => e.beginRun.2
  | .beginDrain => e.beginDrain.2
  | .discard => if e.runner.holdsChannel then e else e.discard.2
  | .enter x => (e.enter x).2
  | .launch => e.launch.2
  | .apply update => (e.apply update).2
  | .advance time => e.advance handler time

theorem enterDrain_now (e : Engine D) : e.enterDrain.now = e.now := by
  obtain ⟨runner, entered, _⟩ := e.enterDrain_eq
  rw [entered]

theorem takeReceiving_now (e : Engine D) (k : Signal) :
    (e.takeReceiving handler k).now = e.now := by
  have same : (e.signal k).2.now = e.now := rfl
  rcases answered : e.signal k with ⟨response, f⟩
  rw [answered] at same
  change f.now = e.now at same
  simp only [takeReceiving, answered]
  cases response with
  | beginDrain => exact f.enterDrain_now.trans same
  | escalate | ignored _ => exact same
  | reload =>
      simp only [serveReload]
      cases handler f.desk f.pool.settings with
      | error cause => exact same
      | ok reply =>
          obtain ⟨pool, reloaded, _⟩ := f.reloaded_eq reply.1 reply.2
          simp only [reloaded]
          exact same

theorem takeDraining_now (e : Engine D) (k : Signal) : (e.takeDraining k).now = e.now := by
  have same : (e.signal k).2.now = e.now := rfl
  rcases answered : e.signal k with ⟨response, f⟩
  rw [answered] at same
  simp only [takeDraining, answered]
  cases response <;> exact same

/-- The runner takes no time. -/
theorem poll_now {e f : Engine D} (step : e.poll handler = some f) : f.now = e.now := by
  unfold poll at step
  split at step
  · cases step
    exact takeReceiving_now _ _
  · split at step <;> cases step
    rfl
  · cases step
    exact takeDraining_now _ _
  · split at step
    · cases step
      rfl
    · split at step
      · cases step
        rfl
      · split at step <;> cases step
        rfl
  · cases step

theorem settle_now (handler : Handler D) (e : Engine D) : (e.settle handler).now = e.now := by
  have kept (fuel : Nat) (f : Engine D) : (f.pollAll handler fuel).now = f.now := by
    induction fuel generalizing f with
    | zero => rfl
    | succ fuel ih =>
        cases step : f.poll handler with
        | none => rw [pollAll_of_none step]
        | some g => rw [pollAll_of_some step, ih, poll_now step]
  exact kept _ e.fireDue

/-- Goes through the tasks from a position on. The tasks before it have had their turn; one of them
that began its next unit is not due again. -/
private theorem fires_from (e : Engine D) (before rest : List Task)
    (tasks : e.tasks = before ++ rest) :
    ∃ positions : List Nat, (positions.map Happening.fire).foldl happen e = { e with
      pool := (rest.filter (·.due ≤ e.now)).foldl (fun pool t => pool.record t.work) e.pool
      tasks := before ++ rest.filterMap fun t =>
        if t.due ≤ e.now then t.next? e.now e.core.admissionClosed e.pool.settings
        else some t } := by
  induction rest generalizing e before with
  | nil => exact ⟨[], by simp [← tasks]⟩
  | cons t rest ih =>
      by_cases due : t.due ≤ e.now
      · have settings : (e.pool.record t.work).settings = e.pool.settings :=
          Pool.record_settings e.pool t.work
        cases next : t.next? e.now e.core.admissionClosed e.pool.settings with
        | none =>
            have fired : e.fire before.length =
                some { e with pool := e.pool.record t.work, tasks := before ++ rest } := by
              simp [fire, due, next, tasks, List.eraseIdx_append_of_length_le]
            obtain ⟨positions, fires⟩ :=
              ih { e with pool := e.pool.record t.work, tasks := before ++ rest } before rfl
            refine ⟨before.length :: positions, ?_⟩
            rw [List.map_cons, List.foldl_cons, happen, fired, Option.getD_some, fires]
            simp [due, next, settings]
        | some again =>
            have fired : e.fire before.length =
                some { e with pool := e.pool.record t.work, tasks := before ++ again :: rest } := by
              simp [fire, due, next, tasks]
            obtain ⟨positions, fires⟩ :=
              ih { e with pool := e.pool.record t.work, tasks := before ++ again :: rest }
                (before ++ [again]) (by simp)
            refine ⟨before.length :: positions, ?_⟩
            rw [List.map_cons, List.foldl_cons, happen, fired, Option.getD_some, fires]
            simp [due, next, settings]
      · obtain ⟨positions, fires⟩ := ih e (before ++ [t]) (by simp [tasks])
        refine ⟨positions, ?_⟩
        rw [fires]
        simp [due]

/-- The timers that are due may as well go off one by one. -/
theorem fireDue_eq_fires (e : Engine D) :
    ∃ positions : List Nat, e.fireDue = (positions.map Happening.fire).foldl happen e := by
  obtain ⟨positions, fires⟩ := fires_from e [] e.tasks rfl
  exact ⟨positions, fires.symm⟩

end Engine

namespace Scene

variable {D : Type} {s t : Scene D} {handler : Handler D}

/-- The runner waits, and all work in flight has had its first turn. -/
structure AtRest (s : Scene D) : Prop where
  point : s.point = .waiting
  newcomers : s.newcomers = []

/-- Some moves lead from one scene to the other, with the runner at the same point, and nobody's
first turn left for later. -/
structure Leads (s t : Scene D) : Prop where
  point : t.point = s.point
  direct : t.direct = s.direct
  newcomers : t.newcomers = s.newcomers
  moves : ∃ ms, s.run ms = some t

theorem Leads.refl (s : Scene D) : s.Leads s := ⟨rfl, rfl, rfl, [], rfl⟩

theorem Leads.trans {u : Scene D} (h : s.Leads t) (k : t.Leads u) : s.Leads u := by
  obtain ⟨ms, hrun⟩ := h.moves
  obtain ⟨ns, hruns⟩ := k.moves
  refine ⟨k.point.trans h.point, k.direct.trans h.direct, k.newcomers.trans h.newcomers,
    ms ++ ns, ?_⟩
  rw [run_append, hrun]
  exact hruns

theorem Leads.atRest (h : s.Leads t) (rest : s.AtRest) : t.AtRest :=
  ⟨h.point.trans rest.point, h.newcomers.trans rest.newcomers⟩

theorem Leads.of_move {m : Move D} (h : s.move? m = some t) (point : t.point = s.point)
    (direct : t.direct = s.direct) (newcomers : t.newcomers = s.newcomers) : s.Leads t := by
  refine ⟨point, direct, newcomers, [m], ?_⟩
  rw [run, h]
  rfl

theorem leads_happen (begun : s.newcomers = []) (h : Happening) :
    ∃ t, s.Leads t ∧ t.engine = s.engine.happen h := by
  cases h with
  | send k =>
      exact ⟨{ s with engine := (s.engine.send k).2 }, .of_move (m := .send k) rfl rfl rfl rfl, rfl⟩
  | hangUp =>
      exact ⟨{ s with engine := s.engine.hangUp }, .of_move (m := .hangUp) rfl rfl rfl rfl, rfl⟩
  | pass time =>
      exact ⟨{ s with engine := { s.engine with now := s.engine.now + time } },
        .of_move (m := .pass time) rfl rfl rfl rfl, rfl⟩
  | enter x => exact ⟨s.enter x, .of_move (m := .enter x) rfl rfl rfl rfl, rfl⟩
  | apply update =>
      exact ⟨{ s with engine := (s.engine.apply update).2 },
        .of_move (m := .apply update) rfl rfl rfl rfl, rfl⟩
  | fire i =>
      cases fired : s.engine.fire i with
      | none => exact ⟨s, .refl s, by simp [Engine.happen, fired]⟩
      | some e =>
          have nobody : s.newcomer? i = none := by simp [newcomer?, begun]
          have moved : ∃ register, s.move? (.fire i) =
              some { s with engine := e, register := register } :=
            ⟨_, by simp only [move?, fire?, nobody, fired, Option.map_some]; rfl⟩
          obtain ⟨register, moved⟩ := moved
          exact ⟨_, .of_move moved rfl rfl rfl, by simp [Engine.happen, fired]⟩

theorem leads_round (begun : s.newcomers = []) (round : List Happening) :
    ∃ t, s.Leads t ∧ t.engine = round.foldl Engine.happen s.engine := by
  induction round generalizing s with
  | nil => exact ⟨s, .refl s, rfl⟩
  | cons h round ih =>
      obtain ⟨t, leads, first⟩ := leads_happen begun h
      obtain ⟨u, leadsOn, rest⟩ := ih (leads.newcomers.trans begun)
      refine ⟨u, leads.trans leadsOn, ?_⟩
      rw [rest, first, List.foldl_cons]

theorem run_take (rest : s.point = .waiting) (listens : s.engine.runner.listens = true)
    {k : Signal} {left : List Signal} (inbox : s.engine.inbox = k :: left) :
    s.run [.take, .answer] = some { s with
      engine := ({ s.engine with inbox := left }.signal k).2
      point := .answered k ({ s.engine with inbox := left }.signal k).1 } := by
  simp [run, move?, take?, answer?, rest, listens, inbox]

/-- From a signal in the channel to the answer, and on by further moves. -/
theorem leads_of_answer (rest : s.point = .waiting) (listens : s.engine.runner.listens = true)
    {k : Signal} {left : List Signal} (inbox : s.engine.inbox = k :: left) {response : Response}
    {e : Engine D} (answered : { s.engine with inbox := left }.signal k = (response, e))
    (ms : List (Move D)) (point : t.point = .waiting) (direct : t.direct = s.direct)
    (newcomers : t.newcomers = s.newcomers)
    (hrun : run { s with engine := e, point := .answered k response } ms = some t) :
    s.Leads t := by
  have taken := run_take rest listens inbox
  rw [answered] at taken
  refine ⟨point.trans rest.symm, direct, newcomers, [.take, .answer] ++ ms, ?_⟩
  rw [run_append, taken]
  exact hrun

/-- What the runner does with a signal while it waits for one, in three moves or four. -/
theorem leads_takeReceiving (handler : Handler D) (rest : s.point = .waiting)
    (receiving : s.engine.runner = .receiving) {k : Signal} {left : List Signal}
    (inbox : s.engine.inbox = k :: left) :
    ∃ t, s.Leads t ∧ t.engine = { s.engine with inbox := left }.takeReceiving handler k := by
  have listens : s.engine.runner.listens = true := by rw [receiving]; rfl
  have waits : ({ s.engine with inbox := left }.signal k).2.runner = .receiving := receiving
  rcases answered : { s.engine with inbox := left }.signal k with ⟨response, e⟩
  rw [answered] at waits
  change e.runner = .receiving at waits
  simp only [Engine.takeReceiving, answered]
  cases response with
  | beginDrain =>
      refine ⟨{ s with engine := e.enterDrain }, ?_, rfl⟩
      refine leads_of_answer rest listens inbox answered [.act] rest rfl rfl ?_
      simp [run, move?, act?, waits, rest]
  | escalate =>
      refine ⟨{ s with engine := e.endForced k }, ?_, rfl⟩
      refine leads_of_answer rest listens inbox answered [.act] rest rfl rfl ?_
      simp [run, move?, act?, rest]
  | ignored why =>
      refine ⟨{ s with engine := e }, ?_, rfl⟩
      refine leads_of_answer rest listens inbox answered [.act] rest rfl rfl ?_
      simp [run, move?, act?, rest]
  | reload =>
      simp only [Engine.serveReload]
      cases handler e.desk e.pool.settings with
      | ok reply =>
          refine ⟨{ s with engine := e.reloaded reply.1 reply.2 }, ?_, rfl⟩
          refine leads_of_answer rest listens inbox answered [.act, .served reply.1 reply.2]
            rest rfl rfl ?_
          simp [run, move?, act?, waits, rest]
      | error cause =>
          refine ⟨{ s with engine := e.breakOff cause }, ?_, rfl⟩
          refine leads_of_answer rest listens inbox answered [.act, .brokeOff cause] rest rfl rfl ?_
          simp [run, move?, act?, waits, rest]

theorem leads_takeDraining (rest : s.point = .waiting) {deadline : Instant}
    (draining : s.engine.runner = .draining deadline true) {k : Signal} {left : List Signal}
    (inbox : s.engine.inbox = k :: left) :
    ∃ t, s.Leads t ∧ t.engine = { s.engine with inbox := left }.takeDraining k := by
  have listens : s.engine.runner.listens = true := by rw [draining]; rfl
  have drains : ({ s.engine with inbox := left }.signal k).2.runner = .draining deadline true :=
    draining
  rcases answered : { s.engine with inbox := left }.signal k with ⟨response, e⟩
  rw [answered] at drains
  change e.runner = .draining deadline true at drains
  simp only [Engine.takeDraining, answered]
  cases response with
  | escalate =>
      refine ⟨{ s with engine := e.endForced k }, ?_, rfl⟩
      refine leads_of_answer rest listens inbox answered [.act] rest rfl rfl ?_
      simp [run, move?, act?, rest]
  | beginDrain | reload | ignored _ =>
      refine ⟨{ s with engine := e }, ?_, rfl⟩
      refine leads_of_answer rest listens inbox answered [.act] rest rfl rfl ?_
      simp [run, move?, act?, drains, rest]

/-- A step of the runner is made up of moves that nobody comes between. -/
theorem leads_poll (rest : s.point = .waiting) {e : Engine D}
    (step : s.engine.poll handler = some e) : ∃ t, s.Leads t ∧ t.engine = e := by
  unfold Engine.poll at step
  split at step
  · rename_i k left receiving inbox
    cases step
    exact leads_takeReceiving handler rest receiving inbox
  · rename_i receiving inbox
    split at step
    · cases step
    · rename_i closed
      cases step
      refine ⟨{ s with engine := { s.engine with runner := .ended .channelClosed } },
        .of_move (m := .hearClosed) ?_ rfl rfl rfl, rfl⟩
      simp [move?, hearClosed?, rest, inbox, closed, receiving]
  · rename_i deadline k left draining inbox
    cases step
    exact leads_takeDraining rest draining inbox
  · rename_i deadline listening draining heard
    split at step
    · rename_i closed
      obtain ⟨rfl, off⟩ : listening = true ∧ s.engine.senderOpen = false := by simpa using closed
      have inbox : s.engine.inbox = [] := by
        cases waiting : s.engine.inbox with
        | nil => rfl
        | cons k left => exact (heard k left waiting rfl).elim
      cases step
      refine ⟨{ s with engine := { s.engine with runner := .draining deadline false } },
        .of_move (m := .hearClosed) ?_ rfl rfl rfl, rfl⟩
      simp [move?, hearClosed?, rest, inbox, off, draining]
    · split at step
      · rename_i idle
        cases step
        refine ⟨{ s with engine := s.engine.finish .drained },
          ⟨rfl, rfl, rfl, [.seeIdle, .finish], ?_⟩, rfl⟩
        simp [run, move?, seeIdle?, finish?, rest, draining, idle]
      · split at step
        · rename_i late
          cases step
          refine ⟨{ s with engine := s.engine.finish .graceExpired },
            ⟨rfl, rfl, rfl, [.seeLate, .finish], ?_⟩, rfl⟩
          simp [run, move?, seeLate?, finish?, rest, draining, late]
        · cases step
  · cases step

theorem leads_attend (handler : Handler D) (rest : s.point = .waiting) :
    ∃ t, s.Leads t ∧ t.engine = s.engine.attend handler := by
  unfold Engine.attend
  generalize s.engine.inbox.length + 3 = fuel
  induction fuel generalizing s with
  | zero => exact ⟨s, .refl s, rfl⟩
  | succ fuel ih =>
      cases step : s.engine.poll handler with
      | none => exact ⟨s, .refl s, (Engine.pollAll_of_none step _).symm⟩
      | some e =>
          obtain ⟨t, leads, rfl⟩ := leads_poll rest step
          obtain ⟨u, leadsOn, last⟩ := ih (leads.point.trans rest)
          exact ⟨u, leads.trans leadsOn, last.trans (Engine.pollAll_of_some step fuel).symm⟩

theorem leads_settle (handler : Handler D) (rest : s.AtRest) :
    ∃ t, s.Leads t ∧ t.engine = s.engine.settle handler := by
  obtain ⟨positions, fires⟩ := s.engine.fireDue_eq_fires
  obtain ⟨t, leads, fired⟩ := leads_round rest.newcomers (positions.map Happening.fire)
  obtain ⟨u, leadsOn, attended⟩ := leads_attend handler (leads.atRest rest).point
  refine ⟨u, leads.trans leadsOn, ?_⟩
  rw [attended, fired, ← fires]
  rfl

theorem leads_play (handler : Handler D) (rest : s.AtRest)
    (rounds : List (List Happening)) :
    ∃ t, s.Leads t ∧ t.engine = s.engine.play handler rounds := by
  induction rounds generalizing s with
  | nil => exact ⟨s, .refl s, rfl⟩
  | cons round rounds ih =>
      obtain ⟨t, leads, happened⟩ := leads_round rest.newcomers round
      obtain ⟨u, leadsOn, attended⟩ := leads_attend handler (leads.atRest rest).point
      obtain ⟨v, leadsFurther, played⟩ := ih (leadsOn.atRest (leads.atRest rest))
      refine ⟨v, (leads.trans leadsOn).trans leadsFurther, ?_⟩
      rw [played, attended, happened]
      rfl

private theorem run_launchFrom (s : Scene D) (worker count : Nat) : ∃ tried t,
    s.run (List.replicate tried (.enter .worker)) = some t ∧ s.Leads t ∧
      t.engine = (s.engine.launchFrom worker count).2 := by
  induction count generalizing s worker with
  | zero => exact ⟨0, s, rfl, .refl s, rfl⟩
  | succ count ih =>
      rcases launched : s.engine.launchWorker with ⟨granted, e⟩
      have engine : (s.enter .worker).engine = e := congrArg Prod.snd launched
      have entered : s.Leads (s.enter .worker) := .of_move (m := .enter .worker) rfl rfl rfl rfl
      simp only [Engine.launchFrom, launched]
      cases granted with
      | false => exact ⟨1, s.enter .worker, rfl, entered, engine⟩
      | true =>
          obtain ⟨tried, t, moves, leads, rest⟩ := ih (s.enter .worker) (worker + 1)
          rw [engine] at rest
          exact ⟨tried + 1, t, moves, entered.trans leads, rest⟩

/-- Launching workers is letting them in one after the other, up to the first that is refused. -/
theorem run_launch (s : Scene D) : ∃ tried t,
    s.run (List.replicate tried (.enter .worker)) = some t ∧ s.Leads t ∧
      t.engine = s.engine.launch.2 := by
  obtain ⟨tried, t, moves, leads, launched⟩ :=
    run_launchFrom s 0 s.engine.pool.settings.workers.toNat
  exact ⟨tried, t, moves, leads, launched.trans s.engine.launch_eq.symm⟩

theorem leads_launch (s : Scene D) : ∃ t, s.Leads t ∧ t.engine = s.engine.launch.2 := by
  obtain ⟨tried, t, _, leads, launched⟩ := s.run_launch
  exact ⟨t, leads, launched⟩

/-- What is left in the channel is discarded signal by signal. -/
theorem run_discard (s : Scene D) (free : s.engine.runner.holdsChannel = false) :
    s.run (List.replicate s.engine.inbox.length .discard) =
      some { s with engine := s.engine.discard.2 } := by
  obtain ⟨inbox, waiting⟩ : ∃ inbox, s.engine.inbox = inbox := ⟨_, rfl⟩
  induction inbox generalizing s with
  | nil =>
      simp only [Engine.discard, waiting, List.foldl_nil, List.length_nil, List.replicate_zero, run]
      rw [← waiting]
  | cons k rest ih =>
      have counted : s.move? .discard =
          some { s with engine := ({ s.engine with inbox := rest }.signal k).2 } := by
        simp [move?, discard?, free, waiting]
      have discarded :=
        ih { s with engine := ({ s.engine with inbox := rest }.signal k).2 } free rfl
      have length : ({ s.engine with inbox := rest }.signal k).2.inbox.length = rest.length := rfl
      rw [length] at discarded
      rw [waiting, List.length_cons, List.replicate_succ, run, counted, Option.bind_some, discarded]
      simp [Engine.discard, Engine.signal, waiting]

theorem leads_discard (s : Scene D) (free : s.engine.runner.holdsChannel = false) :
    ∃ t, s.Leads t ∧ t.engine = s.engine.discard.2 :=
  ⟨{ s with engine := s.engine.discard.2 }, ⟨rfl, rfl, rfl, _, run_discard s free⟩, rfl⟩

theorem leads_until (s : Scene D) {target : Instant} (ahead : s.engine.now ≤ target) :
    ∃ t, s.Leads t ∧ t.engine = { s.engine with now := target } := by
  obtain ⟨time, rfl⟩ := Nat.exists_eq_add_of_le ahead
  exact ⟨{ s with engine := { s.engine with now := s.engine.now + time } },
    .of_move (m := .pass time) rfl rfl rfl rfl, rfl⟩

/-- Time passes from one instant at which something happens to the next. -/
theorem leads_advanceTo (handler : Handler D) (rest : s.AtRest) {target : Instant}
    (fuel : Nat) (ahead : s.engine.now ≤ target) :
    ∃ t, s.Leads t ∧ t.engine = s.engine.advanceTo handler target fuel := by
  induction fuel generalizing s with
  | zero => exact leads_until s ahead
  | succ fuel ih =>
      cases next : s.engine.nextDue? with
      | none =>
          simp only [Engine.advanceTo, next]
          exact leads_until s ahead
      | some due =>
          by_cases soon : due ≤ target
          · simp only [Engine.advanceTo, next, if_pos soon]
            obtain ⟨t, leads, passed⟩ := leads_until s (Nat.le_max_left s.engine.now due)
            obtain ⟨u, leadsOn, settled⟩ := leads_settle handler (leads.atRest rest)
            have before : u.engine.now ≤ target := by
              rw [settled, Engine.settle_now, passed]
              exact Nat.max_le.mpr ⟨ahead, soon⟩
            obtain ⟨v, leadsFurther, last⟩ := ih (leadsOn.atRest (leads.atRest rest)) before
            refine ⟨v, (leads.trans leadsOn).trans leadsFurther, ?_⟩
            rw [last, settled, passed]
          · simp only [Engine.advanceTo, next, if_neg soon]
            exact leads_until s ahead

theorem leads_advance (handler : Handler D) (rest : s.AtRest) (d : Duration) :
    ∃ t, s.Leads t ∧ t.engine = s.engine.advance handler d :=
  leads_advanceTo handler rest _ (Clock.le_wake s.engine.now d)

/-- A run that is asked for begins, or the runner is busy and nothing happens. -/
theorem run_begin (rest : s.AtRest) {m : Move D} {direct : Bool} {answer : Bool × Engine D}
    (moved : s.move? m = s.begin? direct answer) (busy : answer.1 = false → answer.2 = s.engine) :
    ∃ t, (∃ ms, s.run ms = some t) ∧ t.AtRest ∧ t.engine = answer.2 := by
  obtain ⟨granted, e⟩ := answer
  cases granted with
  | false => exact ⟨s, ⟨[], rfl⟩, rest, (busy rfl).symm⟩
  | true =>
      have begun : s.run [m] = some { s with engine := e, direct := direct } := by
        rw [run, moved]
        rfl
      exact ⟨_, ⟨_, begun⟩, ⟨rest.point, rest.newcomers⟩, rfl⟩

/-- What is asked for is done in moves. -/
theorem run_ask (handler : Handler D) (rest : s.AtRest) (r : Request) :
    ∃ t, (∃ ms, s.run ms = some t) ∧ t.AtRest ∧ t.engine = s.engine.ask handler r := by
  have done {e : Engine D} (leads : ∃ t, s.Leads t ∧ t.engine = e) :
      ∃ t, (∃ ms, s.run ms = some t) ∧ t.AtRest ∧ t.engine = e := by
    obtain ⟨t, leads, engine⟩ := leads
    exact ⟨t, leads.moves, leads.atRest rest, engine⟩
  have happens (h : Happening) := done (leads_happen rest.newcomers h)
  cases r with
  | markReady =>
      exact done ⟨{ s with engine := s.engine.markReady.2 },
        .of_move (m := .markReady) rfl rfl rfl rfl, rfl⟩
  | signal k =>
      exact done ⟨{ s with engine := (s.engine.signal k).2 },
        .of_move (m := .signal k) rfl rfl rfl rfl, rfl⟩
  | send k => exact happens (.send k)
  | hangUp => exact happens .hangUp
  | enter x => exact happens (.enter x)
  | apply update => exact happens (.apply update)
  | launch => exact done (leads_launch s)
  | advance time => exact done (leads_advance handler rest time)
  | beginRun =>
      refine run_begin rest (m := .beginRun) rfl ?_
      intro busy
      unfold Engine.beginRun at busy ⊢
      split at busy <;> simp_all
  | beginDrain =>
      refine run_begin rest (m := .beginDrain) rfl ?_
      intro busy
      unfold Engine.beginDrain at busy ⊢
      split at busy <;> simp_all
  | discard =>
      simp only [Engine.ask]
      split
      · exact ⟨s, ⟨[], rfl⟩, rest, rfl⟩
      · rename_i free
        exact done (leads_discard s (by simpa using free))

end Scene

end Quiesce
