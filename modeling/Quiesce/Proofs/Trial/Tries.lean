import Quiesce.Proofs.Trial.Deliveries

/-!
What becomes of a script of signals. They are planned an interval apart, and are tried in that order
up to the first one that finds nobody in the group of the child. The child hears those that come
while it lives, and a kill ends it. What it does next is decided by what it has heard so far, so the
two go on by turns.
-/
namespace Quiesce.Trial

/-- What has come to a child. -/
structure Heard where
  told : List (Instant × Signal) := []
  killed : Option Instant := none

namespace Heard

/-- What a child does that has heard this. -/
def life (h : Heard) (b : Behaviour) : Life :=
  match h.killed with
  | some t => (b h.told).cutAt t
  | none => b h.told

theorem refuses_life (h : Heard) (b : Behaviour) : (h.life b).refuses = (b h.told).refuses :=
  Session.refuses_life { behaviour := b, delivered := h.told, killed := h.killed }

/-- A child hears what is let through to it while it lives. -/
def hear (b : Behaviour) (h : Heard) (attempt : Instant × Signal) : Heard :=
  if ((h.life b).refuses attempt.1 attempt.2).isSome || (h.life b).exitedBy attempt.1 then h
  else if attempt.2 = .kill then { h with killed := some attempt.1 }
  else { h with told := h.told ++ [attempt] }

end Heard

namespace Behaviour

/-- What a child has heard after some tries. -/
def heard (b : Behaviour) (attempts : List (Instant × Signal)) : Heard :=
  attempts.foldl (Heard.hear b) {}

/-- What a child does after some tries. -/
def after (b : Behaviour) (attempts : List (Instant × Signal)) : Life := (b.heard attempts).life b

theorem heard_append_singleton (b : Behaviour) (attempts : List (Instant × Signal))
    (attempt : Instant × Signal) :
    b.heard (attempts ++ [attempt]) = (b.heard attempts).hear b attempt := by
  simp only [heard, List.foldl_append, List.foldl_cons, List.foldl_nil]

end Behaviour

/-- The signals of a script, an interval apart. -/
def plan (start : Instant) (interval : Duration) (signals : List Signal) :
    List (Instant × Signal) :=
  signals.mapIdx fun i k => (start + i * interval.nanos, k)

theorem plan_cons (start : Instant) (interval : Duration) (k : Signal) (signals : List Signal) :
    plan start interval (k :: signals) =
      (start, k) :: plan (start + interval.nanos) interval signals := by
  have later (i : Nat) : start + (i + 1) * interval.nanos =
      start + interval.nanos + i * interval.nanos := by
    rw [Nat.add_mul, Nat.one_mul, Nat.add_comm (i * _), Nat.add_assoc]
  simp only [plan, List.mapIdx_cons, Nat.zero_mul, Nat.add_zero, later]

theorem length_plan (start : Instant) (interval : Duration) (signals : List Signal) :
    (plan start interval signals).length = signals.length :=
  List.length_mapIdx

/-- Which of planned tries are made after earlier ones: all, up to one that finds nobody. -/
inductive Tried (b : Behaviour) : (earlier planned made : List (Instant × Signal)) → Prop where
  | nil {earlier} : Tried b earlier [] []
  | last {earlier attempt planned}
    (nobody : (b.after earlier).refuses attempt.1 attempt.2 = some .noSuchProcess) :
    Tried b earlier (attempt :: planned) [attempt]
  | next {earlier attempt planned made}
    (through : (b.after earlier).refuses attempt.1 attempt.2 = none)
    (rest : Tried b (earlier ++ [attempt]) planned made) :
    Tried b earlier (attempt :: planned) (attempt :: made)

namespace Tried

variable {b : Behaviour} {earlier planned made : List (Instant × Signal)}

theorem length_le (h : Tried b earlier planned made) : made.length ≤ planned.length := by
  induction h with
  | nil => exact Nat.le_refl _
  | last _ => exact Nat.succ_le_succ (Nat.zero_le _)
  | next _ _ ih => exact Nat.succ_le_succ ih

/-- A child that stays in its group is spared no signal. -/
theorem all (h : Tried b earlier planned made) (stays : b.Grouped) : made = planned := by
  induction h with
  | nil => rfl
  | last nobody =>
      rw [Behaviour.after, Heard.refuses_life] at nobody
      exact absurd nobody (stays _ _ _)
  | next _ _ ih => rw [ih]

end Tried

/-- How a session is left by a script of signals from a start on: these were tried at these
instants, the last one just now, and the child has heard what they come to. -/
structure Scripted (b : Behaviour) (start : Instant) (interval : Duration) (signals : List Signal)
    (t : Session) : Prop where
  behaviour : t.behaviour = b
  collected : t.collected = none
  tried : Tried b [] (plan start interval signals) t.attempts
  now : t.now = start + (t.attempts.length - 1) * interval.nanos
  told : t.delivered = (b.heard t.attempts).told
  killed : t.killed = (b.heard t.attempts).killed

namespace Session

variable {s t : Session}

def heard (s : Session) : Heard := ⟨s.delivered, s.killed⟩

theorem life_eq_after (h : s.heard = s.behaviour.heard s.attempts) :
    s.life = s.behaviour.after s.attempts := by
  rw [Behaviour.after, ← h]
  rfl

theorem heard_signal (h : s.collected = none) {k : Signal}
    (through : s.life.refuses s.now k = none) :
    (s.signal k).2.heard = s.heard.hear s.behaviour (s.now, k) := by
  have same : s.heard.life s.behaviour = s.life := rfl
  simp only [Heard.hear, same, through, Option.isSome_none, Bool.false_or]
  cases alive : s.life.exitedBy s.now with
  | true =>
      rw [signal_of_gone h alive]
      rfl
  | false =>
      by_cases kill : k = .kill
      · rw [kill, signal_kill h alive]
        rfl
      · rw [signal_of_alive h alive kill]
        simp only [Bool.false_eq_true, ite_false, if_neg kill]
        rfl

end Session

/-- The first of the signals that are sent to a child nobody has given up, after an interval unless
it is the first of all: it finds nobody and is the last one, or is sent before the others. -/
theorem deliverAll_cons_of_open {s t : Session} (h : s.collected = none) {interval : Duration}
    {first : Bool} {k : Signal} {signals : List Signal}
    (sent : deliverAll interval first (k :: signals) s = (.ok (), t)) :
    ∃ r : Session, r.collected = none ∧ r.behaviour = s.behaviour ∧ r.attempts = s.attempts ∧
      r.heard = s.heard ∧ r.now = s.now + (1 - first.toNat) * interval.nanos ∧
      (r.life.refuses r.now k = some .noSuchProcess ∧
          t = { r with attempts := r.attempts ++ [(r.now, k)] } ∨
        r.life.refuses r.now k = none ∧
          deliverAll interval false signals (r.signal k).2 = (.ok (), t)) := by
  obtain ⟨r, hr⟩ : ∃ r, r = if first then s else s.sleep interval := ⟨_, rfl⟩
  have kept : r.collected = none ∧ r.behaviour = s.behaviour ∧ r.attempts = s.attempts ∧
      r.heard = s.heard ∧ r.now = s.now + (1 - first.toNat) * interval.nanos := by
    cases first <;> simp [hr, Session.sleep, Session.heard, h]
  obtain ⟨collected, behaviour, attempts, heard, now⟩ := kept
  refine ⟨r, collected, behaviour, attempts, heard, now, ?_⟩
  rw [deliverAll, ← hr, Session.deliver_of_open collected] at sent
  cases refused : r.life.refuses r.now k with
  | none =>
      rw [refused] at sent
      exact .inr ⟨rfl, sent⟩
  | some cause =>
      rw [refused] at sent
      by_cases nobody : cause = .noSuchProcess
      · simp only [if_pos nobody] at sent
        cases sent
        exact .inl ⟨by rw [nobody], rfl⟩
      · simp only [if_neg nobody] at sent
        cases sent

theorem tried_deliverAll {s t : Session} (h : s.collected = none)
    (known : s.heard = s.behaviour.heard s.attempts) {interval : Duration} {first : Bool}
    {signals : List Signal} (sent : deliverAll interval first signals s = (.ok (), t)) :
    ∃ made, Tried s.behaviour s.attempts
        (plan (s.now + (1 - first.toNat) * interval.nanos) interval signals) made ∧
      t.behaviour = s.behaviour ∧ t.collected = none ∧ t.attempts = s.attempts ++ made ∧
      t.now = s.now + (made.length - first.toNat) * interval.nanos ∧
      t.heard = s.behaviour.heard t.attempts := by
  induction signals generalizing s first with
  | nil =>
      cases sent
      exact ⟨[], .nil, rfl, h, (List.append_nil _).symm, by simp, known⟩
  | cons k signals ih =>
      obtain ⟨r, opens, behaviour, attempts, heard, now, rest⟩ := deliverAll_cons_of_open h sent
      have life : r.life = s.behaviour.after s.attempts := by
        rw [← behaviour, ← attempts]
        exact Session.life_eq_after (by rw [heard, known, behaviour, attempts])
      have hears : s.behaviour.heard (s.attempts ++ [(r.now, k)]) =
          r.heard.hear r.behaviour (r.now, k) := by
        rw [Behaviour.heard_append_singleton, ← known, heard, behaviour]
      rw [plan_cons, ← now]
      rcases rest with ⟨nobody, rfl⟩ | ⟨through, rest⟩
      · refine ⟨[(r.now, k)], .last (life ▸ nobody), behaviour, opens, by rw [attempts], now, ?_⟩
        have deaf : r.heard.hear r.behaviour (r.now, k) = r.heard := by
          have same : (r.heard.life r.behaviour).refuses r.now k = some .noSuchProcess := nobody
          simp only [Heard.hear, same, Option.isSome_some, Bool.true_or, ite_true]
        rw [attempts, hears, deaf]
        rfl
      · obtain ⟨_, nows, collected, behaviours⟩ := Session.signal_of_open opens k
        have tries := Session.attempts_signal r k
        have hearing := Session.heard_signal opens through
        obtain ⟨made, tried, same, opened, more, later, last⟩ := ih collected
          (by rw [hearing, behaviours, tries, attempts, behaviour, hears, behaviour]) rest
        rw [tries, attempts, behaviours, behaviour, nows] at *
        refine ⟨(r.now, k) :: made, .next (life ▸ through) ?_, same, opened, ?_, ?_, last⟩
        · simpa using tried
        · rw [more, List.append_assoc, List.singleton_append]
        · rw [later, now, Nat.add_assoc, ← Nat.add_mul, List.length_cons]
          cases first with
          | true => simp
          | false => simp [Nat.add_comm 1]

theorem scripted_deliverAll {b : Behaviour} {start : Instant} {interval : Duration}
    {signals : List Signal} {t : Session}
    (sent : deliverAll interval true signals { behaviour := b, now := start } = (.ok (), t)) :
    Scripted b start interval signals t := by
  obtain ⟨made, tried, behaviour, collected, attempts, now, heard⟩ := tried_deliverAll rfl rfl sent
  have all : t.attempts = made := attempts
  refine ⟨behaviour, collected, ?_, ?_, congrArg Heard.told heard, congrArg Heard.killed heard⟩
  · rw [all]
    simpa using tried
  · rw [all, now]
    rfl

namespace Scripted

variable {b : Behaviour} {start : Instant} {interval : Duration} {signals : List Signal}
  {t : Session}

/-- A script takes no longer than all of its intervals. -/
theorem now_le (h : Scripted b start interval signals t) :
    t.now ≤ start + (signals.length - 1) * interval.nanos := by
  have fewer := h.tried.length_le
  rw [length_plan] at fewer
  rw [h.now]
  exact Nat.add_le_add_left (Nat.mul_le_mul_right _ (Nat.sub_le_sub_right fewer 1)) _

theorem now_of_grouped (h : Scripted b start interval signals t) (stays : b.Grouped) :
    t.now = start + (signals.length - 1) * interval.nanos := by
  rw [h.now, h.tried.all stays, length_plan]

theorem life_eq_after (h : Scripted b start interval signals t) :
    t.life = b.after t.attempts := by
  rw [← h.behaviour]
  refine Session.life_eq_after ?_
  rw [Session.heard, h.behaviour, h.told, h.killed]

end Scripted

/-- A script comes to its end with a child that no signal is refused to. -/
theorem deliverAll_of_deliverable {s : Session} (lets : s.behaviour.Deliverable)
    (h : s.collected = none) (interval : Duration) (first : Bool) (signals : List Signal) :
    ∃ t, deliverAll interval first signals s = (.ok (), t) := by
  induction signals generalizing s first with
  | nil => exact ⟨s, rfl⟩
  | cons k signals ih =>
      obtain ⟨r, hr⟩ : ∃ r, r = if first then s else s.sleep interval := ⟨_, rfl⟩
      have kept : r.collected = none ∧ r.behaviour = s.behaviour := by
        cases first <;> simp [hr, Session.sleep, h]
      obtain ⟨_, _, opens, behaviours⟩ := Session.signal_of_open kept.1 k
      rw [deliverAll, ← hr, Session.deliver_of_open kept.1, Session.refuses_life, kept.2]
      cases refused : (s.behaviour r.delivered).refuses r.now k with
      | some cause =>
          simp only [lets _ _ _ _ refused, ite_true]
          exact ⟨_, rfl⟩
      | none => exact ih (behaviours.trans kept.2 ▸ lets) opens false

end Quiesce.Trial
