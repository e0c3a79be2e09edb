import Quiesce.Proofs.Engine.GracefulStop
import Quiesce.Proofs.Engine.RunOutcome
import Quiesce.Proofs.Engine.Timers
import Quiesce.Proofs.Engine.Turns

/-!
How a drain goes on. Behind the closed gate every timer that runs goes off once more and for the
last time, a worker's as well as a job's, so that the work in flight ebbs away; the drain is over
with the last of it or at the deadline. One step of time keeps to that, and so do all of them, with
whatever is asked of the daemon in between but to stop at once.
-/
namespace Quiesce

def Task.isWorker (t : Task) : Bool := t.work = .worker

theorem Task.next?_of_closed (now : Instant) (s : WorkloadSettings) (t : Task) :
    t.next? now true s = none := by
  unfold next?
  split <;> rfl

namespace Pool

theorem record_units (p : Pool) (t : Task) :
    (p.record t.work).units = p.units + t.isWorker.toNat := by
  cases hw : t.work <;> simp [record, Task.isWorker, hw]

/-- Each task that is done counts once, by its kind. -/
theorem record_all (ts : List Task) (p : Pool) :
    (ts.foldl (fun p t => p.record t.work) p).units = p.units + ts.countP Task.isWorker ∧
      (ts.foldl (fun p t => p.record t.work) p).completed =
        p.completed + ts.countP Task.isJob := by
  induction ts generalizing p with
  | nil => exact ⟨rfl, rfl⟩
  | cons t ts ih =>
      obtain ⟨units, completed⟩ := ih (p.record t.work)
      rw [List.foldl_cons, units, completed, record_units, record_completed, List.countP_cons,
        List.countP_cons]
      constructor
      · cases t.isWorker <;> simp
        omega
      · cases t.isJob <;> simp
        omega

end Pool

theorem Core.markReady_of_isEnding {c : Core} (h : c.stage.isEnding = true) :
    c.markReady.2 = c := by
  have late : c.cell.stage ≠ .starting := by
    intro starting
    rw [stage, starting] at h
    cases h
  simp [markReady, StageCell.transition, late]

namespace Engine

variable {D : Type} {e f g : Engine D}

/-- Behind the closed gate, whatever is due is done. -/
theorem fireDue_of_closed (closed : e.core.admissionClosed = true) :
    e.fireDue = { e with
      pool := (e.tasks.filter (·.due ≤ e.now)).foldl (fun p t => p.record t.work) e.pool
      tasks := e.tasks.filter (e.now < ·.due) } := by
  have left : (e.tasks.filterMap fun t =>
      if t.due ≤ e.now then t.next? e.now e.core.admissionClosed e.pool.settings else some t) =
      e.tasks.filter (e.now < ·.due) := by
    rw [closed, ← List.filterMap_eq_filter]
    congr 1
    funext t
    by_cases due : t.due ≤ e.now <;> simp [due, Task.next?_of_closed, Option.guard]
  simp only [fireDue, left]

/-- How a drain up to the deadline, begun with the work of `e`, has ended by an instant, if it has:
its work is done if all of that is done in time, and else it is given up at the deadline. -/
def ended? (e : Engine D) (deadline now : Instant) : Option Ending :=
  if ∀ t ∈ e.tasks, t.due < Clock.tick deadline then
    if ∀ t ∈ e.tasks, t.due ≤ now then some .drained else none
  else if Clock.tick deadline ≤ now then some .graceExpired else none

/-- The instant at which the last task in flight is done, if none goes on. -/
def lastDue (e : Engine D) : Instant := (e.tasks.map (·.due)).foldl max e.now

theorem lastDue_le_iff {t : Instant} :
    e.lastDue ≤ t ↔ e.now ≤ t ∧ ∀ u ∈ e.tasks, u.due ≤ t := by
  unfold lastDue
  generalize e.now = now
  induction e.tasks generalizing now with
  | nil => simp
  | cons u us ih =>
      rw [List.map_cons, List.foldl_cons, ih, List.forall_mem_cons, ← and_assoc]
      exact and_congr_left fun _ => Nat.max_le

/-- No timer goes off at the same millisecond as the deadline. -/
def Apart (e : Engine D) (deadline : Instant) : Prop :=
  ∀ t ∈ e.tasks, t.due ≠ Clock.tick deadline

/-- Until the deadline it is enough to see whether work is left. -/
theorem ended?_of_le {deadline now : Instant} (apart : e.Apart deadline)
    (soon : now ≤ Clock.tick deadline) :
    e.ended? deadline now =
      if e.tasks.filter (now < ·.due) = [] then some .drained
      else if Clock.tick deadline ≤ now then some .graceExpired else none := by
  have done : e.tasks.filter (now < ·.due) = [] ↔ ∀ t ∈ e.tasks, t.due ≤ now := by
    simp [List.filter_eq_nil_iff]
  unfold ended?
  by_cases past : ∀ t ∈ e.tasks, t.due ≤ now
  · have inTime : ∀ t ∈ e.tasks, t.due < Clock.tick deadline := fun t ht =>
      Nat.lt_of_le_of_ne (Nat.le_trans (past t ht) soon) (apart t ht)
    rw [if_pos inTime, if_pos past, if_pos (done.mpr past)]
  · rw [if_neg past, if_neg (past ∘ done.mp)]
    split
    · rename_i inTime
      obtain ⟨t, ht, later⟩ : ∃ t ∈ e.tasks, now < t.due := by simpa using past
      rw [if_neg (Nat.not_le.mpr (Nat.lt_trans later (inTime t ht)))]
    · rfl

/-- An ending stays. -/
theorem ended?_mono {deadline now later : Instant} {r : Ending} (h : e.ended? deadline now = some r)
    (le : now ≤ later) : e.ended? deadline later = some r := by
  unfold ended? at h ⊢
  split at h
  · rename_i inTime
    split at h
    · rename_i past
      cases h
      rw [if_pos inTime, if_pos fun t ht => Nat.le_trans (past t ht) le]
    · cases h
  · rename_i tooLate
    split at h
    · rename_i late
      cases h
      rw [if_neg tooLate, if_pos (Nat.le_trans late le)]
    · cases h

theorem lt_tick_of_ended?_eq_none {deadline now : Instant} (h : e.ended? deadline now = none) :
    now < Clock.tick deadline := by
  unfold ended? at h
  split at h
  · split at h
    · cases h
    · rename_i inTime some
      obtain ⟨t, ht, later⟩ : ∃ t ∈ e.tasks, now < t.due := by simpa using some
      exact Nat.lt_trans later (inTime t ht)
  · split at h
    · cases h
    · rename_i early
      exact Nat.lt_of_not_le early

/-- Of the work of `e`, just that is done whose timers have gone off by now, each once. -/
structure WorkedOff (e g : Engine D) : Prop where
  tasks : g.tasks = e.tasks.filter (g.now < ·.due)
  units : g.pool.units = e.pool.units + (e.tasks.filter (·.due ≤ g.now)).countP Task.isWorker
  completed :
    g.pool.completed = e.pool.completed + (e.tasks.filter (·.due ≤ g.now)).countP Task.isJob

theorem WorkedOff.undisturbed (h : e.WorkedOff f) (same : f.Undisturbed g) : e.WorkedOff g := by
  refine ⟨?_, ?_, ?_⟩
  · rw [same.tasks, same.now]
    exact h.tasks
  · rw [same.units, same.now]
    exact h.units
  · rw [same.completed, same.now]
    exact h.completed

/-- What is done by an instant is done by an earlier one or after it. -/
private theorem countP_done (ts : List Task) (p : Task → Bool) {now later : Instant}
    (le : now ≤ later) :
    (ts.filter (·.due ≤ now)).countP p +
        ((ts.filter (now < ·.due)).filter (·.due ≤ later)).countP p =
      (ts.filter (·.due ≤ later)).countP p := by
  induction ts with
  | nil => rfl
  | cons t ts ih =>
      by_cases done : t.due ≤ now
      · have later : t.due ≤ later := Nat.le_trans done le
        simp only [List.filter_cons, done, later, Nat.not_lt.mpr done, decide_true, decide_false,
          ite_true, Bool.false_eq_true, ite_false, List.countP_cons, ← ih]
        omega
      · have left : now < t.due := Nat.lt_of_not_le done
        by_cases soon : t.due ≤ later
        · simp only [List.filter_cons, done, left, soon, decide_true, decide_false,
            ite_true, Bool.false_eq_true, ite_false, List.countP_cons, ← ih]
          omega
        · simp only [List.filter_cons, done, left, soon, decide_true, decide_false,
            ite_true, Bool.false_eq_true, ite_false, ih]

theorem WorkedOff.fireDue (h : e.WorkedOff g) (closed : g.core.admissionClosed = true)
    {later : Instant} (le : g.now ≤ later) :
    e.WorkedOff (Engine.fireDue { g with now := later }) := by
  rw [fireDue_of_closed (e := { g with now := later }) closed]
  obtain ⟨units, completed⟩ := Pool.record_all (g.tasks.filter (·.due ≤ later)) g.pool
  refine ⟨?_, ?_, ?_⟩
  · simp only [h.tasks, List.filter_filter]
    congr 1
    funext t
    simp only [Bool.and_eq_left_iff_imp, decide_eq_true_eq]
    exact Nat.lt_of_le_of_lt le
  · exact units.trans (by rw [h.units, h.tasks, Nat.add_assoc, countP_done _ _ le])
  · exact completed.trans (by rw [h.completed, h.tasks, Nat.add_assoc, countP_done _ _ le])

theorem fireDue_of_early (early : ∀ t ∈ g.tasks, g.now < t.due) : g.fireDue = g := by
  have none : g.tasks.filter (·.due ≤ g.now) = [] := by
    simpa [List.filter_eq_nil_iff] using early
  have all : (g.tasks.filterMap fun t =>
      if t.due ≤ g.now then t.next? g.now g.core.admissionClosed g.pool.settings else some t) =
      g.tasks := by
    refine (List.filterMap_congr ?_).trans List.filterMap_some
    intro t ht
    exact if_neg (Nat.not_le.mpr (early t ht))
  simp only [fireDue, none, all, List.foldl_nil]

theorem Decided.keep {deadline : Instant} {verdict : Option Ending}
    (h : Decided deadline verdict f) (core : f.core.Still g.core) (runner : g.runner = f.runner)
    (exhausted : f.Exhausted → g.Exhausted) : Decided deadline verdict g := by
  cases verdict with
  | some r => exact ⟨runner.trans h.runner, core.ending.trans h.ending, core.stage.trans h.stage⟩
  | none =>
      obtain ⟨listening, drains, off⟩ := h.runner
      refine ⟨core.stage.trans h.stage, ?_, core.ending.trans h.unrecorded, listening,
        runner.trans drains, fun deaf => exhausted (off deaf)⟩
      rw [core]
      exact h.tracker

theorem Decided.isEnding {deadline : Instant} {verdict : Option Ending}
    (h : Decided deadline verdict f) : f.stage.isEnding = true := by
  cases verdict with
  | some r => rw [show f.stage = .stopped from h.stage]; rfl
  | none => rw [show f.stage = .draining from h.stage]; rfl

/-- How far a drain that began with `e` has come: its work is done up to now, and the run has ended
as that decides, or still drains. -/
structure Ebbs (e : Engine D) (deadline : Instant) (g : Engine D) : Prop where
  later : e.now ≤ g.now
  work : e.WorkedOff g
  closed : g.core.admissionClosed = true
  calm : g.Calm
  decided : Decided deadline (e.ended? deadline g.now) g

section Ebbing

variable {deadline : Instant}

/-- As long as the drain goes on, the deadline is among the timers. -/
theorem Ebbs.deadline_mem (h : Ebbs e deadline g) (on : e.ended? deadline g.now = none) :
    Clock.tick deadline ∈ g.dues := by
  have drains := h.decided
  rw [on] at drains
  obtain ⟨listening, runner, _⟩ := drains.runner
  simp [dues, deadline?, runner]

/-- All timers that are left are still to go off. -/
theorem Ebbs.lt_of_mem_dues (h : Ebbs e deadline g) {u : Instant} (hu : u ∈ g.dues) :
    g.now < u := by
  rcases List.mem_append.mp hu with last | task
  · cases verdict : e.ended? deadline g.now with
    | some r =>
        have stopped := h.decided
        rw [verdict] at stopped
        have past : g.runner = .ended (.stopped r) := stopped.runner
        simp [deadline?, past] at last
    | none =>
        have drains := h.decided
        rw [verdict] at drains
        obtain ⟨listening, runner, _⟩ := drains.runner
        have last : u = Clock.tick deadline := by simpa [deadline?, runner] using last
        rw [last]
        exact lt_tick_of_ended?_eq_none verdict
  · obtain ⟨t, ht, rfl⟩ := List.mem_map.mp task
    rw [h.work.tasks] at ht
    simpa using (List.mem_filter.mp ht).2

/-- A turn of a drain, whoever would serve reload requests. -/
theorem decided_attend (handler : Handler D) (h : f.Drains deadline) :
    Decided deadline (f.verdict? deadline) (f.attend handler) := by
  obtain ⟨listening, runner, _⟩ := h.runner
  have drains : f.runner ≠ .receiving := by
    rw [runner]
    exact nofun
  rw [attend, pollAll_of_ne_receiving handler (.answering fun desk _ => (desk, none)) drains]
  exact decided_of_drains _ h (Nat.le_succ _)

/-- The timers that go off at an instant, if none was to go off before, and the turn after them. -/
theorem Ebbs.settle (h : Ebbs e deadline g) (handler : Handler D) (apart : e.Apart deadline)
    {later : Instant} (le : g.now ≤ later) (next : ∀ u ∈ g.dues, later ≤ u) :
    Ebbs e deadline (Engine.settle handler { g with now := later }) := by
  obtain ⟨f, fired⟩ : ∃ f, f = Engine.fireDue { g with now := later } := ⟨_, rfl⟩
  have work : e.WorkedOff f := fired ▸ h.work.fireDue h.closed le
  have frame : f.now = later ∧ f.core = g.core ∧ f.runner = g.runner ∧ f.inbox = g.inbox ∧
      f.senderOpen = g.senderOpen := by
    rw [fired]
    exact ⟨rfl, rfl, rfl, rfl, rfl⟩
  obtain ⟨now, core, runner, inbox, senderOpen⟩ := frame
  have kept : Decided deadline (e.ended? deadline g.now) f :=
    h.decided.keep (core ▸ .refl _) runner fun out => ⟨inbox.trans out.1, senderOpen.trans out.2⟩
  have calm : f.Calm := by
    intro k hk
    exact h.calm k (inbox ▸ hk)
  have same : f.Undisturbed (f.attend handler) := pollAll_undisturbed _ f _
  have decided : Decided deadline (e.ended? deadline later) (f.attend handler) := by
    cases verdict : e.ended? deadline g.now with
    | some r =>
        rw [verdict] at kept
        rw [ended?_mono verdict le]
        exact StoppedWith.pollAll kept _ _
    | none =>
        rw [verdict] at kept
        have soon : later ≤ Clock.tick deadline := next _ (h.deadline_mem verdict)
        have found : f.verdict? deadline = e.ended? deadline later := by
          have none : f.inbox.find? Signal.asksToStop = none := by simpa [Calm] using calm
          rw [ended?_of_le apart soon, verdict?, none, ← now, ← work.tasks]
        rw [← found]
        exact decided_attend handler kept
  have attended : Engine.settle handler { g with now := later } = f.attend handler := by
    rw [fired]
    rfl
  rw [attended]
  refine ⟨?_, work.undisturbed same, same.closed (core ▸ h.closed),
    fun k hk => calm k (same.inbox hk), ?_⟩
  · rw [same.now, now]
    exact Nat.le_trans h.later le
  · rw [same.now, now]
    exact decided

/-- A drain does not end between two timers. -/
theorem Ebbs.ended?_wait (h : Ebbs e deadline g) (apart : e.Apart deadline) {later : Instant}
    (le : g.now ≤ later) (next : ∀ u ∈ g.dues, later < u) :
    e.ended? deadline later = e.ended? deadline g.now := by
  have early : ∀ t ∈ g.tasks, later < t.due := fun t ht =>
    next _ (List.mem_append_right _ (List.mem_map_of_mem ht))
  have work := h.work.fireDue h.closed le
  rw [fireDue_of_early (g := { g with now := later }) early] at work
  have left : g.tasks = e.tasks.filter (later < ·.due) := work.tasks
  cases verdict : e.ended? deadline g.now with
  | some r => exact ended?_mono verdict le
  | none =>
      have soon : later < Clock.tick deadline := next _ (h.deadline_mem verdict)
      have before := Nat.lt_of_le_of_lt le soon
      rw [← verdict, ended?_of_le apart (Nat.le_of_lt soon),
        ended?_of_le apart (Nat.le_of_lt before), ← left, ← h.work.tasks,
        if_neg (Nat.not_le.mpr soon), if_neg (Nat.not_le.mpr before)]

/-- Nothing comes of waiting for less than the next timer. -/
theorem Ebbs.wait (h : Ebbs e deadline g) (apart : e.Apart deadline) {later : Instant}
    (le : g.now ≤ later) (next : ∀ u ∈ g.dues, later < u) :
    Ebbs e deadline { g with now := later } := by
  have early : ∀ t ∈ g.tasks, later < t.due := fun t ht =>
    next _ (List.mem_append_right _ (List.mem_map_of_mem ht))
  have work := h.work.fireDue h.closed le
  rw [fireDue_of_early (g := { g with now := later }) early] at work
  refine ⟨Nat.le_trans h.later le, work, h.closed, h.calm, ?_⟩
  rw [show ({ g with now := later } : Engine D).now = later from rfl, h.ended?_wait apart le next]
  exact h.decided.keep (.refl _) rfl id

theorem Ebbs.dvd_of_mem_dues (h : Ebbs e deadline g) (timely : e.Timely) {u : Instant}
    (hu : u ∈ g.dues) : 1000000 ∣ u := by
  refine Timely.dvd_of_mem_dues ?_ hu
  intro t ht
  rw [h.work.tasks] at ht
  exact timely t (List.mem_filter.mp ht).1

/-- However much time passes, a drain goes on and ends as it has to. -/
theorem Ebbs.passUntil (h : Ebbs e deadline g) (handler : Handler D) (timely : e.Timely)
    (apart : e.Apart deadline) {target : Instant} (ahead : g.now ≤ target) :
    Ebbs e deadline (g.passUntil handler target) := by
  refine passUntil_induction ?_ (fun kept le next => kept.wait apart le next) h ahead
  intro f t kept next _
  obtain ⟨running, first⟩ := nextDue?_eq_some next
  have later := kept.lt_of_mem_dues running
  exact ⟨later, kept.dvd_of_mem_dues timely running,
    kept.settle handler apart (Nat.le_of_lt later) first⟩

end Ebbing

end Engine

/-- Whether a request neither asks to stop nor sets the runner to work. -/
def Request.Quiet : Request → Prop
  | .signal k | .send k => k.asksToStop = false
  | .beginRun | .beginDrain | .discard => False
  | _ => True

namespace Engine

variable {D : Type} {e g : Engine D} {deadline : Instant}

theorem Ebbs.ask (h : Ebbs e deadline g) (handler : Handler D) (timely : e.Timely)
    (apart : e.Apart deadline) {r : Request} (quiet : r.Quiet) :
    Ebbs e deadline (g.ask handler r) := by
  have ending : g.stage.isEnding = true := h.decided.isEnding
  cases r with
  | beginRun | beginDrain | discard => cases quiet
  | advance time => exact h.passUntil handler timely apart (Clock.le_wake g.now time)
  | hangUp =>
      exact ⟨h.later, ⟨h.work.tasks, h.work.units, h.work.completed⟩, h.closed, h.calm,
        h.decided.keep (.refl _) rfl fun out => ⟨out.1, rfl⟩⟩
  | launch =>
      simp only [Engine.ask, (launch_of_isEnding ending).1]
      exact h
  | markReady =>
      have same : g.markReady.2 = { g with core := g.core } :=
        congrArg (fun core => { g with core := core }) (Core.markReady_of_isEnding ending)
      simp only [Engine.ask, same]
      exact h
  | signal k =>
      obtain ⟨tally, response, counted, _⟩ := signal_calm g quiet
      simp only [Engine.ask, counted]
      exact ⟨h.later, ⟨h.work.tasks, h.work.units, h.work.completed⟩, h.closed, h.calm,
        h.decided.keep rfl rfl id⟩
  | send k =>
      simp only [Engine.ask, send]
      split
      · rename_i isOpen
        refine ⟨h.later, ⟨h.work.tasks, h.work.units, h.work.completed⟩, h.closed, ?_,
          h.decided.keep (.refl _) rfl ?_⟩
        · intro j hj
          rcases List.mem_append.mp hj with old | new
          · exact h.calm j old
          · rw [List.mem_singleton.mp new]
            exact quiet
        · rintro ⟨_, closed⟩
          simp [closed] at isOpen
      · exact h
  | enter x =>
      obtain ⟨n, refused⟩ := enter_refused (enter_of_isEnding ending x).1
      simp only [Engine.ask, refused]
      exact ⟨h.later, ⟨h.work.tasks, h.work.units, h.work.completed⟩, h.closed, h.calm,
        h.decided.keep (.refl _) rfl id⟩
  | apply update =>
      have units : (g.pool.apply update).2.units = g.pool.units := g.pool.apply_units update
      have completed := (g.pool.apply_counts update).2
      exact ⟨h.later,
        ⟨h.work.tasks, units.trans h.work.units, completed.trans h.work.completed⟩,
        h.closed, h.calm, h.decided.keep (.refl _) rfl id⟩

/-- Whatever is asked of a drain but to stop at once, one request after the other. -/
theorem Ebbs.requests (h : Ebbs e deadline g) (handler : Handler D) (timely : e.Timely)
    (apart : e.Apart deadline) {requests : List Request} (quiet : ∀ r ∈ requests, r.Quiet) :
    Ebbs e deadline (requests.foldl (fun e r => (e.ask handler r).settle handler) g) := by
  induction requests generalizing g with
  | nil => exact h
  | cons r requests ih =>
      have asked := h.ask handler timely apart (quiet r List.mem_cons_self)
      have settled := asked.settle handler apart (Nat.le_refl _)
        fun u hu => Nat.le_of_lt (asked.lt_of_mem_dues hu)
      exact ih settled fun r hr => quiet r (List.mem_cons_of_mem _ hr)

section Request

variable (reply : D → WorkloadSettings → D × Option WorkloadSettings)

/-- The turn that takes the first request to stop closes the gate, and leaves at most what came
after that request. -/
theorem request_taken {before after : List Signal} {k : Signal} {start : Core}
    (h : e.Receives start) (early : start.stage.isEnding = false)
    (inbox : e.inbox = before ++ k :: after) (calm : ∀ j ∈ before, j.asksToStop = false)
    (asks : k.asksToStop = true) :
    (e.attend (.answering reply)).inbox ⊆ after ∧
      (e.attend (.answering reply)).core.admissionClosed = true := by
  have listens : e.runner.listens = true := by rw [h.runner]; rfl
  obtain ⟨f, passes, left, passed⟩ := pollAll_calm reply listens inbox calm
  have polled : f.poll (.answering reply) =
      some ({ f with inbox := after }.takeReceiving (.answering reply) k) := by
    simp only [poll, passed.runner, h.runner, left]
  have length : e.inbox.length + 3 = before.length + (after.length + 3 + 1) := by
    rw [inbox, List.length_append, List.length_cons]
    omega
  have opened : Engine.stage { f with inbox := after } = start.stage :=
    (h.core.trans passed.core).stage
  have taken := takeReceiving_undisturbed (.answering reply) { f with inbox := after } k
  have closed := takeReceiving_closed (e := { f with inbox := after }) (.answering reply)
    (by rw [opened]; exact early) asks
  rw [attend, length, passes, pollAll_of_some polled]
  have rest := pollAll_undisturbed (.answering reply)
    ({ f with inbox := after }.takeReceiving (.answering reply) k) (after.length + 3)
  exact ⟨(taken.trans rest).inbox, rest.closed closed⟩

/-- The turn that takes the first request to stop begins the drain. -/
theorem ebbs_of_request {start : Core} (h : e.Receives start)
    (early : start.stage.isEnding = false) (unrecorded : start.ending = none)
    {before after : List Signal} {k : Signal} (inbox : e.inbox = before ++ k :: after)
    (calm : ∀ j ∈ before ++ after, j.asksToStop = false) (asks : k.asksToStop = true)
    (running : ∀ t ∈ e.tasks, e.now < t.due)
    (inTime : e.now + start.grace.nanos < Clock.horizon)
    (apart : e.Apart (e.now + start.grace.nanos)) :
    Ebbs e (e.now + start.grace.nanos) (e.attend (.answering reply)) := by
  have first : ∀ j ∈ before, j.asksToStop = false := fun j hj =>
    calm j (List.mem_append_left _ hj)
  have same : e.Undisturbed (e.attend (.answering reply)) := pollAll_undisturbed _ e _
  have all : e.tasks.filter (e.now < ·.due) = e.tasks := by
    simpa [List.filter_eq_self] using running
  have nothing : e.tasks.filter (·.due ≤ e.now) = [] := by
    simpa [List.filter_eq_nil_iff] using running
  have work : e.WorkedOff e := ⟨all.symm, by rw [nothing]; rfl, by rw [nothing]; rfl⟩
  have decided := attend_request reply h early unrecorded inbox first asks
  obtain ⟨left, closed⟩ := request_taken reply h early inbox first asks
  have reach : Clock.after? e.now start.grace = some (e.now + start.grace.nanos) := if_pos inTime
  simp only [reach] at decided
  refine ⟨Nat.le_of_eq same.now.symm, work.undisturbed same, closed, ?_, ?_⟩
  · exact fun j hj => calm j (List.mem_append_right _ (left hj))
  · have soon : e.now ≤ Clock.tick (e.now + start.grace.nanos) :=
      Nat.le_trans (Nat.le_add_right _ _) (Clock.le_tick _)
    have quiet : after.find? Signal.asksToStop = none := by
      rw [List.find?_eq_none]
      intro j hj asks
      rw [calm j (List.mem_append_right _ hj)] at asks
      cases asks
    rw [same.now, ended?_of_le apart soon, all]
    simpa only [verdict?, quiet] using decided

end Request

end Engine

end Quiesce
