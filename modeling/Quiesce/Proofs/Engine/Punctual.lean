import Quiesce.Proofs.Engine.Rest
import Quiesce.Proofs.Engine.SignalAccounts
import Quiesce.Proofs.Engine.Workforce

/-!
Time that does not pass over timers. An engine is let pass from one timer to the next, and each goes
off when it is due; of all the ways in which moves can interleave, those that it takes are punctual
ones, whatever is asked of it.
-/
namespace Quiesce

theorem Task.le_nextUnit (now : Instant) (settings : WorkloadSettings) :
    now ≤ (nextUnit now settings).due :=
  Nat.le_trans (Clock.le_wake now settings.unit) (Nat.le_max_left _ _)

namespace Scene

variable {D : Type} {s t : Scene D} {m : Move D}

/-- A move by which time does not pass over a timer. -/
def Punctual (s : Scene D) (m : Move D) : Prop :=
  ∀ time, m = .pass time → ∀ task ∈ s.engine.tasks, s.engine.now + time ≤ task.due

theorem punctual_pass_iff {time : Nat} :
    s.Punctual (.pass time) ↔ ∀ task ∈ s.engine.tasks, s.engine.now + time ≤ task.due :=
  ⟨fun punctual => punctual time rfl, fun early _ same => by cases same; exact early⟩

instance (s : Scene D) : DecidablePred s.Punctual
  | .pass _ => decidable_of_iff _ punctual_pass_iff.symm
  | .markReady | .signal _ | .send _ | .hangUp | .beginRun | .beginDrain | .discard | .enter _
  | .takeIn _ | .handIn _ | .proceed _ | .apply _ | .fire _ | .elsewhere _ | .take | .answer | .act
  | .served _ _ | .brokeOff _ | .hearClosed | .seeIdle | .seeLate | .finish => isTrue nofun

/-- No timer is overdue. -/
def Ahead (s : Scene D) : Prop := ∀ task ∈ s.engine.tasks, s.engine.now ≤ task.due

theorem ahead_of_move? (h : s.move? m = some t) (sound : s.Sound) (punctual : s.Punctual m)
    (ahead : s.Ahead) : t.Ahead := by
  cases sound.labour h with
  | keep unasked others tasks register newcomers units now =>
      rw [Ahead, tasks]
      rcases now with now | ⟨time, rfl, now⟩
      · rwa [now]
      · rw [now]
        exact punctual time rfl
  | letIn x due lets isOpen turn tasks register units now =>
      rw [Ahead, tasks, now]
      refine List.forall_mem_append.mpr ⟨ahead, ?_⟩
      rw [List.forall_mem_singleton]
      rcases turn with ⟨_, rfl, _⟩ | ⟨_, rfl, _⟩
      · exact Clock.le_wake _ _
      · exact Nat.le_refl _
  | start i n x task number here newcomer tasks register newcomers units now =>
      rw [Ahead, tasks, now]
      intro u inside
      rcases List.mem_or_eq_of_mem_set inside with before | rfl
      · exact ahead u before
      · exact Clock.le_wake _ _
  | goOn i n task number here begun due worker isOpen tasks register newcomers units now =>
      rw [Ahead, tasks, now]
      intro u inside
      rcases List.mem_or_eq_of_mem_set inside with before | rfl
      · exact ahead u before
      · exact Task.le_nextUnit _ _
  | leave i n task number here begun due last tasks register newcomers units now =>
      rw [Ahead, tasks, now]
      exact fun u inside => ahead u (List.mem_of_mem_eraseIdx inside)

theorem ahead_of_run {ms : List (Move D)} (hrun : s.run ms = some t) (sound : s.Sound)
    (punctual : ∀ p ∈ s.history ms, p.1.Punctual p.2) (ahead : s.Ahead) : t.Ahead :=
  sound.history_invariant (P := fun u _ => u.Ahead) ahead_of_move? hrun punctual [] ahead

/-- What happens at one instant passes over no timer. -/
theorem punctual_of_instant {ms : List (Move D)} (hrun : s.run ms = some t) (sound : s.Sound)
    (ahead : s.Ahead) (instant : t.engine.now = s.engine.now) :
    ∀ p ∈ s.history ms, p.1.Punctual p.2 := by
  -- Time never goes back, so that it did not pass in between either.
  have kept := sound.history_invariant (C := fun _ _ => True) (P := fun u past =>
    s.engine.now ≤ u.engine.now ∧ (u.engine.now = s.engine.now →
      u.Ahead ∧ ∀ p ∈ past, p.1.Punctual p.2)) ?_ hrun (fun _ _ => trivial) []
    ⟨Nat.le_refl _, fun _ => ⟨ahead, List.forall_mem_nil _⟩⟩
  · exact (kept.2 instant).2
  · rintro u v m past moved soundOf - ⟨later, before⟩
    have goesOn := now_le_of_move? moved soundOf
    refine ⟨Nat.le_trans later goesOn, ?_⟩
    intro same
    have stays : u.engine.now = s.engine.now := Nat.le_antisymm (same ▸ goesOn) later
    obtain ⟨aheadOf, punctual⟩ := before stays
    have own : u.Punctual m := by
      rintro time rfl task inside
      have passed : v.engine.now = u.engine.now + time := by cases moved; rfl
      rw [← passed, same, ← stays]
      exact aheadOf task inside
    exact ⟨ahead_of_move? moved soundOf own aheadOf,
      List.forall_mem_append.mpr ⟨punctual, List.forall_mem_singleton.mpr own⟩⟩

/-- The scene comes of a new one by punctual moves, and is at rest. -/
structure OnTime (start s : Scene D) : Prop where
  moves : ∃ ms, start.run ms = some s ∧ ∀ p ∈ start.history ms, p.1.Punctual p.2
  rest : s.AtRest
  sound : s.Sound
  ahead : s.Ahead
  timely : s.Timely

variable {start : Scene D}

theorem onTime_fresh (grace : Duration) (settings : WorkloadSettings) (desk : D) :
    OnTime (fresh grace settings desk) (fresh grace settings desk) where
  moves := ⟨[], rfl, fun _ none => nomatch none⟩
  rest := ⟨rfl, rfl⟩
  sound := sound_fresh grace settings desk
  ahead _ none := nomatch none
  timely _ none := nomatch none

theorem OnTime.refl (h : OnTime start s) : OnTime s s where
  moves := ⟨[], rfl, fun _ none => nomatch none⟩
  rest := h.rest
  sound := h.sound
  ahead := h.ahead
  timely := h.timely

theorem OnTime.run (h : OnTime start s) {ms : List (Move D)} (hrun : s.run ms = some t)
    (punctual : ∀ p ∈ s.history ms, p.1.Punctual p.2) (rest : t.AtRest) : OnTime start t := by
  obtain ⟨⟨before, begun, early⟩, _, sound, ahead, timely⟩ := h
  refine ⟨⟨before ++ ms, ?_, ?_⟩, rest, sound_of_run hrun sound,
    ahead_of_run hrun sound punctual ahead, sound.run_invariant timely_of_move? hrun timely⟩
  · rw [run_append, begun, Option.bind_some, hrun]
  · rw [history_append begun]
    exact List.forall_mem_append.mpr ⟨early, punctual⟩

/-- What happens at one instant is punctual. -/
theorem OnTime.atOnce (h : OnTime start s) (hrun : ∃ ms, s.run ms = some t)
    (rest : t.AtRest) (instant : t.engine.now = s.engine.now) : OnTime start t := by
  obtain ⟨ms, moves⟩ := hrun
  exact h.run moves (punctual_of_instant moves h.sound h.ahead instant) rest

theorem OnTime.until (h : OnTime start s) {target : Instant} (later : s.engine.now ≤ target)
    (early : ∀ task ∈ s.engine.tasks, target ≤ task.due) :
    OnTime start { s with engine := { s.engine with now := target } } := by
  obtain ⟨time, rfl⟩ := Nat.exists_eq_add_of_le later
  have passes : s.run [.pass time] =
      some { s with engine := { s.engine with now := s.engine.now + time } } := rfl
  refine h.run passes ?_ ⟨h.rest.point, h.rest.newcomers⟩
  intro p only
  rw [List.mem_singleton.mp only]
  exact punctual_pass_iff.mpr early

end Scene

namespace Engine

variable {D : Type} {handler : Handler D} {e : Engine D}

/-- Serves one request after the other, each until nothing is left to do at that instant. -/
def serveEach (handler : Handler D) (e : Engine D) (requests : List Request) : Engine D :=
  requests.foldl (fun e r => (e.ask handler r).settle handler) e

/-- A runner that drains and is at rest still has time. -/
theorem lt_tick_of_rest {deadline : Instant} {listening : Bool} (rest : e.poll handler = none)
    (draining : e.runner = .draining deadline listening) : e.now < Clock.tick deadline := by
  unfold poll at rest
  split at rest
  · cases rest
  · rename_i receiving _
    cases receiving.symm.trans draining
  · cases rest
  · rename_i drains _
    cases drains.symm.trans draining
    split_ifs at rest with _ _ late
    exact Nat.lt_of_not_le late
  · rename_i others _ _ _
    exact (others deadline listening draining).elim

/-- Once everything has happened, the next timer lies ahead, that of the deadline included. -/
theorem lt_dues_of_settle (handler : Handler D) (e : Engine D) :
    ∀ u ∈ (e.settle handler).dues, (e.settle handler).now < u := by
  have rest : (e.settle handler).poll handler = none := poll_attend handler e.fireDue
  have same := pollAll_undisturbed handler e.fireDue (e.fireDue.inbox.length + 3)
  intro u running
  rcases List.mem_append.mp running with deadline | task
  · unfold deadline? at deadline
    split at deadline
    · rename_i limit listening draining
      cases Option.mem_toList.mp deadline
      exact lt_tick_of_rest rest draining
    · cases deadline
  · obtain ⟨t, inside, rfl⟩ := List.mem_map.mp task
    rw [settle_now]
    exact lt_due_of_fireDue (same.tasks ▸ inside)

theorem launch_now (e : Engine D) : e.launch.2.now = e.now := by
  cases ending : e.stage.isEnding with
  | true => rw [(launch_of_isEnding ending).1]
  | false =>
      have admits : e.core.admitsLasting = true := (admitsLasting_iff e.core).mpr ending
      rw [launch_eq, launchFrom_of_admits admits]

/-- Only the passing of time takes time. -/
theorem ask_now (handler : Handler D) (e : Engine D) {r : Request}
    (still : ∀ time, r ≠ .advance time) : (e.ask handler r).now = e.now := by
  cases r with
  | markReady | signal k | hangUp | apply update => rfl
  | send k =>
      obtain ⟨inbox, sent⟩ := e.send_eq k
      simp only [ask, sent]
  | beginRun =>
      simp only [ask, beginRun]
      split <;> rfl
  | beginDrain =>
      simp only [ask, beginDrain]
      split
      · rfl
      · exact e.enterDrain_now
  | discard =>
      simp only [ask]
      split <;> rfl
  | enter x =>
      obtain ⟨tasks, pool, entered, _⟩ := e.enter_eq x
      simp only [ask, entered]
  | launch => exact e.launch_now
  | advance time => exact absurd rfl (still time)

end Engine

namespace Scene

variable {D : Type} {start s : Scene D} {handler : Handler D}

/-- An engine at rest to which punctual moves lead. -/
def Rests (start : Scene D) (e : Engine D) : Prop :=
  (∃ s, OnTime start s ∧ s.engine = e) ∧ ∀ u ∈ e.dues, e.now < u

theorem OnTime.settle (h : OnTime start s) (handler : Handler D) :
    Rests start (s.engine.settle handler) := by
  obtain ⟨t, leads, settled⟩ := leads_settle handler h.rest
  have instant : t.engine.now = s.engine.now := by rw [settled, Engine.settle_now]
  exact ⟨⟨t, h.atOnce leads.moves (leads.atRest h.rest) instant, settled⟩,
    s.engine.lt_dues_of_settle handler⟩

theorem Rests.until {e : Engine D} (h : Rests start e) {target : Instant}
    (later : e.now ≤ target) (early : ∀ u ∈ e.dues, target ≤ u) :
    ∃ s, OnTime start s ∧ s.engine = { e with now := target } := by
  obtain ⟨⟨s, onTime, rfl⟩, _⟩ := h
  exact ⟨_, onTime.until later fun task inside =>
    early _ (List.mem_append_right _ (List.mem_map_of_mem inside)), rfl⟩

/-- Time passes to the next timer, and each timer has its turn when it is due. -/
theorem Rests.passUntil {e : Engine D} (h : Rests start e) (handler : Handler D)
    {target : Instant} (ahead : e.now ≤ target) : Rests start (e.passUntil handler target) := by
  refine Engine.passUntil_induction ?_ ?_ h ahead
  · intro f t rests next soon
    obtain ⟨running, first⟩ := Engine.nextDue?_eq_some next
    have later : f.now < t := rests.2 t running
    obtain ⟨s, onTime, passed⟩ := rests.until (Nat.le_of_lt later) first
    obtain ⟨⟨u, before, rfl⟩, waits⟩ := rests
    have timely : u.engine.Timely := before.timely.engine fun task inside =>
      waits _ (List.mem_append_right _ (List.mem_map_of_mem inside))
    exact ⟨later, timely.dvd_of_mem_dues running, passed ▸ onTime.settle handler⟩
  · intro f rests before none
    exact ⟨rests.until before fun u running => Nat.le_of_lt (none u running), none⟩

theorem Rests.ask {e : Engine D} (h : Rests start e) (handler : Handler D) (r : Request) :
    Rests start ((e.ask handler r).settle handler) := by
  have asked : ∃ s, OnTime start s ∧ s.engine = e.ask handler r := by
    by_cases passes : ∃ time, r = .advance time
    · obtain ⟨time, rfl⟩ := passes
      exact (h.passUntil handler (Clock.le_wake e.now time)).1
    · obtain ⟨⟨s, onTime, rfl⟩, _⟩ := h
      obtain ⟨t, moves, rest, engine⟩ := run_ask handler onTime.rest r
      have instant : t.engine.now = s.engine.now := by
        rw [engine]
        exact s.engine.ask_now handler fun time is => passes ⟨time, is⟩
      exact ⟨t, onTime.atOnce moves rest instant, engine⟩
  obtain ⟨s, onTime, engine⟩ := asked
  exact engine ▸ onTime.settle handler

/-- Whatever is asked of it, an engine stays one of those that interleave, with all of its timers
gone off when they were due. -/
theorem Rests.serveEach {e : Engine D} (h : Rests start e) (handler : Handler D)
    (requests : List Request) : Rests start (e.serveEach handler requests) := by
  induction requests generalizing e with
  | nil => exact h
  | cons r requests ih => exact ih (h.ask handler r)

/-- Whatever a new engine is asked, punctual moves lead to where it comes to rest. -/
theorem rests_served (handler : Handler D) (grace : Duration) (settings : WorkloadSettings)
    (desk : D) (requests : List Request) :
    Rests (fresh grace settings desk)
      ((fresh grace settings desk).engine.serveEach handler requests) :=
  Rests.serveEach ⟨⟨_, onTime_fresh grace settings desk, rfl⟩, fun _ none => nomatch none⟩
    handler requests

end Scene

end Quiesce
