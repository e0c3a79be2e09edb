import Quiesce.Proofs.Trial.Supervision

/-!
Which signals a run hands to the system, and which faults it ends with. All signals come from those
that the scenario requires, but for the kill that ends a child whose exit did not come in time; and
no fault that a launched child leads to is one for which a scenario would be skipped.
-/
namespace Quiesce.Trial

/-! ### What is required -/

namespace Scenario

variable {scenario : Scenario} {k : Signal}

theorem mem_required_of_mem (h : k ∈ scenario.signals) : k ∈ scenario.required := by
  unfold required
  split
  · split
    · exact h
    · exact List.mem_append_left _ h
  · exact h

/-- The signal after a window of survival is required although it need not be listed. -/
theorem terminate_mem_required {window : Duration} (h : scenario.expect = .survives window) :
    .terminate ∈ scenario.required := by
  simp only [required, h]
  split
  · rename_i listed
    exact List.contains_iff_mem.mp listed
  · exact List.mem_append_right _ List.mem_cons_self

end Scenario

namespace Capability

variable {c : Capability} {signals : List Signal}

theorem supports_of_check (h : c.check signals = .ok ()) : ∀ k ∈ signals, c.supports k = true := by
  unfold check at h
  split at h
  · cases h
  · rename_i none
    intro k hk
    simpa using List.find?_eq_none.mp none k hk

/-- What is refused is refused for the first signal that cannot be sent. -/
theorem check_eq_error_iff {fault : Fault} :
    c.check signals = .error fault ↔ ∃ k before after, fault = .unsupported k c.os ∧
      signals = before ++ k :: after ∧ c.supports k = false ∧
        ∀ j ∈ before, c.supports j = true := by
  have found (k : Signal) : c.firstUnsupported? signals = some k ↔ ∃ before after,
      signals = before ++ k :: after ∧ c.supports k = false ∧
        ∀ j ∈ before, c.supports j = true := by
    unfold firstUnsupported?
    rw [List.find?_eq_some_iff_append]
    simp only [Bool.not_eq_true', Bool.not_not]
    exact ⟨fun ⟨no, before, after, split, rest⟩ => ⟨before, after, split, no, rest⟩,
      fun ⟨before, after, split, no, rest⟩ => ⟨no, before, after, split, rest⟩⟩
  unfold check
  cases first : c.firstUnsupported? signals with
  | none =>
      simp only [reduceCtorEq, false_iff]
      rintro ⟨k, before, after, _, rest⟩
      rw [(found k).mpr ⟨before, after, rest⟩] at first
      cases first
  | some k =>
      constructor
      · intro h
        cases h
        obtain ⟨before, after, rest⟩ := (found k).mp first
        exact ⟨k, before, after, rfl, rest⟩
      · rintro ⟨j, before, after, rfl, rest⟩
        rw [(found j).mpr ⟨before, after, rest⟩] at first
        cases first
        rfl

end Capability

/-! ### What is tried -/

namespace Session

variable {s : Session}

theorem attempts_signal (s : Session) (k : Signal) :
    (s.signal k).2.attempts = s.attempts ++ [(s.now, k)] := by
  simp only [signal]
  split
  · rfl
  · split
    · rfl
    · split <;> rfl

theorem attempts_deliver (s : Session) (k : Signal) :
    (s.deliver k).2.attempts = s.attempts ++ [(s.now, k)] := by
  unfold deliver
  split
  · simp only
    split <;> rfl
  · exact attempts_signal s k

theorem deliver_eq_error {k : Signal} {fault : Fault} {t : Session}
    (refused : s.deliver k = (.error fault, t)) : ∃ cause, fault = .delivery k cause := by
  unfold deliver at refused
  split at refused
  · simp only at refused
    split at refused <;> cases refused
    exact ⟨_, rfl⟩
  · cases refused

theorem attempts_waitWithin (s : Session) (d : Duration) :
    (s.waitWithin d).2.attempts = s.attempts := by
  unfold waitWithin
  split
  · rfl
  · split <;> rfl
  · rfl

theorem attempts_strike (s : Session) : s.strike.attempts = s.attempts := by
  unfold strike
  split <;> rfl

theorem attempts_kill (s : Session) : s.kill.attempts = s.attempts ++ [(s.now, .kill)] := by
  have tried := attempts_deliver s .kill
  unfold kill
  split
  · rename_i sent
    rw [attempts_waitWithin, attempts_strike, ← tried, sent]
  · rename_i refused
    rw [← tried, refused]

theorem attempts_waitReady (program : String) (within : Duration) (s : Session) :
    (s.waitReady program within).2.attempts = s.attempts := by
  have waited := attempts_waitWithin s within
  simp only [waitReady]
  split
  · rfl
  · split
    · rename_i gone
      rw [← waited, gone]
    · rename_i late
      rw [← waited, late]

/-- A child that does not get ready could not be launched, or took too long. -/
theorem waitReady_tells {program : String} {within : Duration} {fault : Fault} {t : Session}
    (late : s.waitReady program within = (.error fault, t)) : fault.isSkip = false := by
  simp only [waitReady] at late
  split at late
  · cases late
  · split at late <;> cases late <;> rfl

end Session

/-- What holds of a session and stays true when time passes or a signal is tried holds after all
of them. -/
theorem deliverAll_induction {P : Session → Prop} {interval : Duration} {signals : List Signal}
    (slept : ∀ s, P s → P (s.sleep interval))
    (tried : ∀ s, ∀ k ∈ signals, P s → P (s.deliver k).2) {first : Bool} {s : Session} (h : P s) :
    P (deliverAll interval first signals s).2 := by
  induction signals generalizing s first with
  | nil => exact h
  | cons k signals ih =>
      have rested : P (if first then s else s.sleep interval) := by
        cases first
        · exact slept s h
        · exact h
      have next := tried _ k List.mem_cons_self rested
      rw [deliverAll]
      split
      · rename_i refused
        rwa [refused] at next
      · rename_i gone
        rwa [gone] at next
      · rename_i sent
        rw [sent] at next
        exact ih (fun s j hj => tried s j (List.mem_cons_of_mem k hj)) next

theorem deliverAll_eq_error {interval : Duration} {first : Bool} {signals : List Signal}
    {s t : Session} {fault : Fault}
    (refused : deliverAll interval first signals s = (.error fault, t)) :
    ∃ k cause, fault = .delivery k cause := by
  induction signals generalizing s first with
  | nil => cases refused
  | cons k signals ih =>
      rw [deliverAll] at refused
      split at refused
      · rename_i told
        cases refused
        obtain ⟨cause, same⟩ := Session.deliver_eq_error told
        exact ⟨k, cause, same⟩
      · cases refused
      · exact ih refused

/-! ### What a run sends -/

/-- All tries are of these signals, except that a child whose exit is not waited for any more is
killed. -/
def Sends (kinds : List Signal) (result : Except Fault Outcome) (s : Session) : Prop :=
  ∃ script cleanup, s.attempts = script ++ cleanup ∧ (∀ attempt ∈ script, attempt.2 ∈ kinds) ∧
    (cleanup = [] ∨ ∃ now elapsed stage,
      cleanup = [(now, .kill)] ∧ result = .error (.timeout .exit elapsed stage))

/-- Nothing that came of a child is a reason to skip its scenario. -/
def Tells (result : Except Fault Outcome) : Prop :=
  ∀ fault, result = .error fault → fault.isSkip = false

section Sends

variable {kinds : List Signal} {result : Except Fault Outcome} {s : Session}

theorem Sends.of_forall (h : ∀ attempt ∈ s.attempts, attempt.2 ∈ kinds) :
    Sends kinds result s :=
  ⟨s.attempts, [], (List.append_nil _).symm, h, .inl rfl⟩

theorem forall_attempts_deliver {k : Signal} (mem : k ∈ kinds)
    (h : ∀ attempt ∈ s.attempts, attempt.2 ∈ kinds) :
    ∀ attempt ∈ (s.deliver k).2.attempts, attempt.2 ∈ kinds := by
  intro attempt inside
  rw [Session.attempts_deliver] at inside
  rcases List.mem_append.mp inside with before | last
  · exact h attempt before
  · rw [List.mem_singleton.mp last]
    exact mem

theorem awaitExit_sends (within : Duration) (started : Instant) (bound : Duration)
    (expect : Expectation) (h : ∀ attempt ∈ s.attempts, attempt.2 ∈ kinds) :
    Sends kinds ((s.awaitExit within started bound).1.bind expect.verify)
        (s.awaitExit within started bound).2 ∧
      Tells ((s.awaitExit within started bound).1.bind expect.verify) := by
  have waited := Session.attempts_waitWithin s within
  unfold Session.awaitExit
  split
  · rename_i t ended
    rw [ended] at waited
    refine ⟨.of_forall (waited ▸ h), ?_⟩
    simp only [Except.bind, Expectation.verify]
    split
    · exact fun fault got => nomatch got
    · intro fault got
      cases got
      rfl
  · rename_i t late
    rw [late] at waited
    refine ⟨⟨t.attempts, [(t.now, .kill)], Session.attempts_kill t, waited ▸ h,
      .inr ⟨_, _, _, rfl, rfl⟩⟩, ?_⟩
    intro fault got
    cases got
    rfl

theorem conclude_sends {scenario : Scenario} (bound : Duration) (started : Instant)
    (h : ∀ attempt ∈ s.attempts, attempt.2 ∈ scenario.required) :
    Sends scenario.required (conclude bound scenario started s).1
        (conclude bound scenario started s).2 ∧
      Tells (conclude bound scenario started s).1 := by
  unfold conclude
  split
  · rename_i window expects
    have waited := Session.attempts_waitWithin s window
    split
    · rename_i t ended
      rw [ended] at waited
      refine ⟨.of_forall (waited ▸ h), ?_⟩
      intro fault got
      cases got
      rfl
    · rename_i t stays
      rw [stays] at waited
      have told : ∀ attempt ∈ (t.deliver .terminate).2.attempts, attempt.2 ∈ scenario.required :=
        forall_attempts_deliver (Scenario.terminate_mem_required expects) (waited ▸ h)
      split
      · rename_i fault u refused
        rw [refused] at told
        obtain ⟨cause, rfl⟩ := Session.deliver_eq_error refused
        refine ⟨.of_forall told, ?_⟩
        intro fault got
        cases got
        rfl
      · rename_i u sent
        rw [sent] at told
        exact awaitExit_sends _ _ _ _ told
  · exact awaitExit_sends _ _ _ _ h

end Sends

namespace Controller

variable {c : Controller} {scenario : Scenario}

theorem exercise_sends (c : Controller) (scenario : Scenario) {s : Session}
    (fresh : s.attempts = []) :
    ∃ t, (c.exercise scenario s).session = some t ∧
      Sends scenario.required (c.exercise scenario s).result t ∧
      Tells (c.exercise scenario s).result := by
  have listed : ∀ attempt ∈ (deliverAll scenario.interval true scenario.signals s).2.attempts,
      attempt.2 ∈ scenario.required :=
    deliverAll_induction (P := fun t => ∀ attempt ∈ t.attempts, attempt.2 ∈ scenario.required)
      (fun _ h => h) (fun _ _ hk h => forall_attempts_deliver (Scenario.mem_required_of_mem hk) h)
      (by simp [fresh])
  unfold exercise
  split
  · rename_i fault t refused
    rw [refused] at listed
    obtain ⟨k, cause, rfl⟩ := deliverAll_eq_error refused
    refine ⟨t, rfl, .of_forall listed, ?_⟩
    intro fault got
    cases got
    rfl
  · rename_i t sent
    rw [sent] at listed
    exact ⟨_, rfl, conclude_sends _ _ listed⟩

/-- A child that does not get ready is sent nothing. -/
theorem drive_sends (c : Controller) (scenario : Scenario) {s : Session}
    (fresh : s.attempts = []) :
    ∃ t, (c.drive scenario s).session = some t ∧
      Sends scenario.required (c.drive scenario s).result t ∧
      Tells (c.drive scenario s).result := by
  rcases c.drive_cases scenario s with ⟨fault, t, ready, driven⟩ | ⟨now, driven⟩
  · have none : t.attempts = [] := by
      have waited := Session.attempts_waitReady c.program c.readyTimeout s
      rw [ready] at waited
      exact waited.trans fresh
    rw [driven]
    refine ⟨t, rfl, .of_forall (by simp [none]), ?_⟩
    intro other got
    cases got
    exact Session.waitReady_tells ready
  · rw [driven]
    exact c.exercise_sends scenario fresh

theorem run_of_refused {fault : Fault}
    (refused : c.capability.check scenario.required = .error fault) :
    c.run scenario = ⟨.error fault, none⟩ := by
  simp only [run, refused]

/-- A run is refused, has a child that could not be launched, or drives one that was. -/
theorem run_cases (c : Controller) (scenario : Scenario) :
    (∃ fault, c.capability.check scenario.required = .error fault ∧
      c.run scenario = ⟨.error fault, none⟩) ∨
    c.capability.check scenario.required = .ok () ∧
      ((∃ cause, c.run scenario = ⟨.error (.launch c.program cause), none⟩) ∨
        ∃ b, c.run scenario = c.drive scenario { behaviour := b }) := by
  cases able : c.capability.check scenario.required with
  | error fault => exact .inl ⟨fault, rfl, run_of_refused able⟩
  | ok _ =>
      refine .inr ⟨rfl, ?_⟩
      cases launched : c.launch (c.arguments ++ scenario.arguments) with
      | error cause => exact .inl ⟨.host cause, by simp only [run, able, spawn, launched]⟩
      | ok b => exact .inr ⟨b, run_of_spawn able launched⟩

/-- What a run keeps to: it sends what its scenario requires, all of which can be sent, and a kill
only to a child whose exit did not come in time; and a scenario that requires a signal that cannot
be sent is refused for the first such signal, whatever a launch would have given. -/
structure Keeps (c : Controller) (scenario : Scenario) (run : Run) : Prop where
  sends : ∀ s, run.session = some s → Sends scenario.required run.result s
  supported : ∀ s, run.session = some s →
    ∀ k ∈ scenario.required, c.capability.supports k = true
  refused : ∀ fault, c.capability.check scenario.required = .error fault →
    run = ⟨.error fault, none⟩ ∧ (∀ launch, run = { c with launch := launch }.run scenario) ∧
      ∃ k before after, fault = .unsupported k c.capability.os ∧
        scenario.required = before ++ k :: after ∧ c.capability.supports k = false ∧
          ∀ j ∈ before, c.capability.supports j = true

theorem run_keeps (c : Controller) (scenario : Scenario) :
    c.Keeps scenario (c.run scenario) := by
  refine ⟨?_, ?_, ?_⟩
  · intro s spawned
    rcases c.run_cases scenario with ⟨_, _, ran⟩ | ⟨_, ⟨_, ran⟩ | ⟨b, ran⟩⟩
    · rw [ran] at spawned
      cases spawned
    · rw [ran] at spawned
      cases spawned
    · obtain ⟨t, left, sends, _⟩ := c.drive_sends scenario (s := { behaviour := b }) rfl
      rw [ran] at spawned ⊢
      cases left.symm.trans spawned
      exact sends
  · intro s spawned
    rcases c.run_cases scenario with ⟨_, _, ran⟩ | ⟨able, _⟩
    · rw [ran] at spawned
      cases spawned
    · exact Capability.supports_of_check able
  · intro fault refused
    refine ⟨run_of_refused refused, fun launch => ?_, Capability.check_eq_error_iff.mp refused⟩
    have other : { c with launch := launch }.run scenario = ⟨.error fault, none⟩ :=
      run_of_refused refused
    rw [run_of_refused refused, other]

/-- A run is skipped for nothing but the signals that it requires. -/
theorem run_tells (able : c.capability.check scenario.required = .ok ()) :
    Tells (c.run scenario).result := by
  rcases c.run_cases scenario with ⟨fault, refused, _⟩ | ⟨_, ⟨cause, ran⟩ | ⟨b, ran⟩⟩
  · rw [refused] at able
    cases able
  · rw [ran]
    intro fault got
    cases got
    rfl
  · obtain ⟨_, _, _, tells⟩ := c.drive_sends scenario (s := { behaviour := b }) rfl
    rwa [ran]

end Controller

end Quiesce.Trial
