import Quiesce.Proofs.Cli.Child

/-!
The check of a daemon that has its program in a directory without settings: every standard scenario
passes, whatever the two durations, as long as a unit is shorter than the grace period.
-/
namespace Quiesce.Cli.Check

open Trial

variable {host : Host} {environment : List (String × String)} {r : Request} {k : Signal}
  {scenario : Scenario} {budget : Duration}

/-! ### The scenarios -/

/-- One request to stop ends the daemon with its units. -/
theorem result_of_stop (h : Neutral environment) (sound : Sensible r) (host : Host)
    (asks : k.asksToStop = true) (one : scenario.signals = [k]) (bare : scenario.arguments = [])
    (expects : scenario.expect = .graceful ∨ scenario.expect = .terminates)
    (enough : (Duration.ofMillis r.graceMs).nanos ≤ scenario.timeout.nanos) :
    ((controller (home host environment) r).run scenario).result =
      .ok ⟨some 0, none, .ofMillis r.unitMs, true⟩ := by
  obtain ⟨d, b, begun, launches, same⟩ := h.short_child sound host scenario bare
  have short := sound.nanos_unit_lt
  have ends : (deliverAll scenario.interval true scenario.signals
      { behaviour := b }).2.life.exit = some ((Duration.ofMillis r.unitMs).nanos, .code 0) := by
    rw [one, deliverAll_one launches.free launches.alive (Daemon.ne_kill_of_asksToStop asks)]
    exact same.ends (begun.exit?_of_request asks (by simp [Dvm.settingsOf]) short)
  have outcome : Outcome.classify (.code 0) (.between 0 (Duration.ofMillis r.unitMs).nanos)
      (controller (home host environment) r).graceBound =
        ⟨some 0, none, .ofMillis r.unitMs, true⟩ := by
    rw [Duration.between_ofMillis]
    simp only [Outcome.classify, controller, short]
    rfl
  rw [← outcome]
  refine launches.run_of_exit ?_ ends ?_ ?_ ?_
  · rcases expects with expects | expects <;> simp [expects]
  · rw [one]
    simp
  · exact Nat.le_trans (Nat.le_of_lt short) enough
  · rw [outcome]
    rcases expects with expects | expects <;> rw [expects] <;> rfl

/-- Work that outlasts the grace period is not waited for. -/
theorem result_of_expiry (h : Neutral environment) (sound : Sensible r) (host : Host)
    (enough : (Duration.ofMillis r.graceMs).nanos ≤ budget.nanos) :
    ((controller (home host environment) r).run
      (.expiry (.ofMillis r.graceMs) budget)).result =
        .ok ⟨some 3, none, .ofMillis r.graceMs, false⟩ := by
  obtain ⟨d, b, begun, launches, same⟩ := h.long_child sound host
    (.expiry (.ofMillis r.graceMs) budget) rfl
  have ends : (deliverAll (.ofMillis 50) true [.terminate] { behaviour := b }).2.life.exit =
      some ((Duration.ofMillis r.graceMs).nanos, .code 3) := by
    rw [deliverAll_one launches.free launches.alive (by decide)]
    exact same.ends (begun.exit?_of_expiry rfl (by simp [Dvm.settingsOf]) sound.nanos_grace_lt)
  have last : max ((1 - 1) * (Duration.ofMillis 50).nanos) (Duration.ofMillis r.graceMs).nanos =
      (Duration.ofMillis r.graceMs).nanos := by
    simp
  have passed := launches.run_of_exit (by simp [Scenario.expiry, Scenario.single]) ends last enough
    rfl
  rw [Duration.between_ofMillis] at passed
  exact passed

theorem result_of_kill (h : Neutral environment) (sound : Sensible r) (host : Host) :
    ((controller (home host environment) r).run (.killed budget)).result =
      .ok ⟨none, some 9, .zero, false⟩ := by
  obtain ⟨d, b, begun, launches, same⟩ := h.short_child sound host
    (.killed budget) rfl
  have ends : (deliverAll (.ofMillis 50) true [.kill] { behaviour := b }).2.life.exit =
      some (0, .signal 9) := by
    rw [life_deliverAll_kill launches.free launches.alive]
    simp only [Life.cutAt, launches.alive]
    rfl
  have outcome : Outcome.classify (.signal 9) (.between 0 0)
      (controller (home host environment) r).graceBound = ⟨none, some 9, .zero, false⟩ := rfl
  rw [← outcome]
  exact launches.run_of_exit (by simp [Scenario.killed, Scenario.single]) ends
    (by simp [Scenario.killed, Scenario.single]) (Nat.zero_le _) rfl

/-- A second request ends the daemon at once, unless its grace period is over by then. -/
theorem result_of_second (h : Neutral environment) (sound : Sensible r) (host : Host)
    (asks : k.asksToStop = true) (name : String) :
    ((controller (home host environment) r).run
      (.escalation (.ofMillis r.graceMs) name k)).result =
        .ok ⟨some (if 50 < r.graceMs then (Ending.forced k).exitCode else 3), none, .ofMillis 50,
          false⟩ := by
  obtain ⟨d, b, begun, launches, same⟩ := h.long_child sound host
    (.escalation (.ofMillis r.graceMs) name k) rfl
  have some : (Dvm.settingsOf r.graceMs (longUnit r)).workload.workers ≠ 0 := by
    simp [Dvm.settingsOf]
  have first : (b [(0, k)]).exit = .some ((Duration.ofMillis r.graceMs).nanos, .code 3) :=
    same.ends (begun.exit?_of_expiry asks some sound.nanos_grace_lt)
  have sent := life_deliverAll_two (.ofMillis 50) launches.free launches.alive
    (Daemon.ne_kill_of_asksToStop asks) first
  by_cases late : 50 < r.graceMs
  · have before : (Duration.ofMillis 50).nanos < (Duration.ofMillis r.graceMs).nanos :=
      Nat.mul_lt_mul_of_pos_left (UInt64.lt_iff_toNat_lt.mp late) (by decide)
    have second : (b [(0, k), ((Duration.ofMillis 50).nanos, k)]).exit =
        .some ((Duration.ofMillis 50).nanos, .code (128 + k.number)) :=
      (same.ends (begun.exit?_of_second asks some sound.nanos_grace_lt before)).trans
        (by cases k <;> rfl)
    rw [if_neg (Nat.not_le.mpr before)] at sent
    have code : Int32.ofNat (128 + k.number) = (Ending.forced k).exitCode := by cases k <;> rfl
    rw [if_pos late, ← code]
    exact launches.run_of_noticed (Nat.le_refl _) (Nat.le_of_lt before) (by cases k <;> decide)
      ((congrArg Life.exit sent).trans second)
  · have past : (Duration.ofMillis r.graceMs).nanos ≤ (Duration.ofMillis 50).nanos :=
      Nat.mul_le_mul_left _ (UInt64.le_iff_toNat_le.mp (UInt64.not_lt.mp late))
    rw [if_pos past] at sent
    rw [if_neg late]
    exact launches.run_of_noticed past (Nat.le_refl _) (by decide)
      ((congrArg Life.exit sent).trans first)

/-- After its window, the daemon ends within a unit of the request to stop. -/
theorem result_of_hangup (h : Neutral environment) (sound : Sensible r) (host : Host)
    (enough : (Duration.ofMillis r.unitMs).nanos ≤ budget.nanos) :
    ∃ lag : Duration, lag.nanos ≤ (Duration.ofMillis r.unitMs).nanos ∧
      ((controller (home host environment) r).run
        (.hangup (.ofMillis r.graceMs) budget)).result = .ok ⟨some 0, none, lag, true⟩ := by
  obtain ⟨d, b, begun, launches, same⟩ := h.short_child sound host
    (.hangup (.ofMillis r.graceMs) budget) rfl
  have answer := Dvm.handler_deskOf (h.silent host) sound.grace_ne_zero sound.unit_ne_zero
  have goesOn : (b [(0, .hangup)]).exit = none := same.goesOn (begun.exit?_of_hangup answer)
  obtain ⟨t, stopped, after, soon⟩ := begun.exit?_after_hangup (k := .terminate) rfl answer
    (Nat.mul_pos (by decide) sound.some) sound.nanos_unit_lt r.graceMs
  have soon : t ≤ (Duration.ofMillis r.graceMs).nanos + (Duration.ofMillis r.unitMs).nanos := soon
  have ends : (b [(0, .hangup), ((Duration.ofMillis r.graceMs).nanos, .terminate)]).exit =
      some (t, .code 0) :=
    same.ends stopped
  have within : t - (Duration.ofMillis r.graceMs).nanos ≤ (Duration.ofMillis r.unitMs).nanos :=
    Nat.sub_le_iff_le_add'.mpr soon
  have elapsed : (Duration.between (Duration.ofMillis r.graceMs).nanos t).nanos =
      t - (Duration.ofMillis r.graceMs).nanos :=
    Duration.nanos_between (Nat.lt_of_le_of_lt within (Duration.ofMillis r.unitMs).bounded)
  have prompt : (Duration.between (Duration.ofMillis r.graceMs).nanos t).nanos <
      (Duration.ofMillis r.graceMs).nanos :=
    elapsed ▸ Nat.lt_of_le_of_lt within sound.nanos_unit_lt
  have outcome : Outcome.classify (.code 0) (.between (Duration.ofMillis r.graceMs).nanos t)
      (controller (home host environment) r).graceBound =
        ⟨some 0, none, .between (Duration.ofMillis r.graceMs).nanos t, true⟩ := by
    simp only [Outcome.classify, controller, prompt]
    rfl
  refine ⟨_, elapsed ▸ within, ?_⟩
  rw [← outcome]
  refine launches.run_of_survivor rfl rfl (by decide) goesOn ends after ?_ ?_
  · exact Nat.le_trans soon (Nat.add_le_add_left enough _)
  · rw [outcome]
    rfl

/-! ### The suite -/

/-- The report on a suite that passes, where the daemon took a while to end after the window. -/
def passingReport (unit grace : UInt64) (lag : Duration) : Report where
  os := "linux"
  entries := [
    ⟨"terminate-graceful", .passed ⟨some 0, none, .ofMillis unit, true⟩⟩,
    ⟨"interrupt-graceful", .passed ⟨some 0, none, .ofMillis unit, true⟩⟩,
    ⟨"terminate-escalation",
      .passed ⟨some (if 50 < grace then 143 else 3), none, .ofMillis 50, false⟩⟩,
    ⟨"interrupt-escalation",
      .passed ⟨some (if 50 < grace then 130 else 3), none, .ofMillis 50, false⟩⟩,
    ⟨"hangup-survives", .passed ⟨some 0, none, lag, true⟩⟩,
    ⟨"terminate-before-ready", .passed ⟨some 0, none, .ofMillis unit, true⟩⟩,
    ⟨"kill-forced", .passed ⟨none, some 9, .zero, false⟩⟩,
    ⟨"grace-expiry", .passed ⟨some 3, none, .ofMillis grace, false⟩⟩]

theorem standard_of_sensible (sound : Sensible r) :
    ∃ budget : Duration, budget.nanos = (Duration.ofMillis r.graceMs).nanos * 2 ∧
      Scenario.standard (.ofMillis r.graceMs) =
        .ok (Scenario.matrix (.ofMillis r.graceMs) budget) := by
  have small := Duration.nanos_ofMillis_lt r.graceMs
  have fits : (Duration.ofMillis r.graceMs).nanos * 2 < 18446744073709551616000000000 := by omega
  refine ⟨⟨_, fits⟩, rfl, Scenario.standard_of_lt (dif_pos fits) ?_⟩
  have word := sound.fits
  rw [Duration.millisWord_ofMillis]
  omega

theorem runSuite_matrix (h : Neutral environment) (sound : Sensible r) (host : Host)
    (twice : budget.nanos = (Duration.ofMillis r.graceMs).nanos * 2) :
    ∃ lag : Duration, lag.nanos ≤ (Duration.ofMillis r.unitMs).nanos ∧
      (controller (home host environment) r).runSuite
          (Scenario.matrix (.ofMillis r.graceMs) budget) =
        passingReport r.unitMs r.graceMs lag := by
  have enough : (Duration.ofMillis r.graceMs).nanos ≤ budget.nanos := by omega
  have short := sound.nanos_unit_lt
  have brief : (Duration.ofMillis r.unitMs).nanos ≤ budget.nanos := by omega
  obtain ⟨lag, soon, hangup⟩ := result_of_hangup h sound host brief
  have stop (k : Signal) (asks : k.asksToStop = true) (name : String) :
      ((controller (home host environment) r).run (.single budget name k)).result =
        .ok ⟨some 0, none, .ofMillis r.unitMs, true⟩ :=
    result_of_stop h sound host asks rfl rfl (.inl rfl) enough
  have early : ((controller (home host environment) r).run (.beforeReady budget)).result =
      .ok ⟨some 0, none, .ofMillis r.unitMs, true⟩ :=
    result_of_stop h sound host (k := .terminate) rfl rfl rfl (.inr rfl) enough
  have second (k : Signal) (asks : k.asksToStop = true) (name : String) :=
    result_of_second h sound host asks name
  refine ⟨lag, soon, ?_⟩
  simp only [Controller.runSuite, Controller.report, Controller.runAll, Scenario.matrix,
    List.map_cons, List.map_nil, NamedRun.entry, stop .terminate rfl, stop .interrupt rfl,
    second .terminate rfl, second .interrupt rfl, hangup, early, result_of_kill h sound host,
    result_of_expiry h sound host enough, Verdict.ofResult]
  rfl

/-- Whatever the durations, as long as a unit is shorter than the grace period and four of these
periods are a word, every standard scenario passes for the daemon of a directory without settings,
and the check exits with code `0`. After a single request the daemon ends with its units, or with
its grace period where these outlast it; after two it ends when the second one comes, unless that
period is over by then; and after a request to reload it goes on through the window, and then ends
within a unit of the request to stop. -/
theorem standard_suite_passes (host : Host) {environment : List (String × String)}
    (printable : ∀ p ∈ environment, '\x00' ∉ p.1.toList ∧ '\x00' ∉ p.2.toList)
    (unset : ∀ p ∈ environment, Settings.Environment.key? p.1 = none)
    {args : List String} {given : Given} (read : grammar.read args = .ok given)
    (named : (Request.ofGiven given).daemon = Directory.daemonPath)
    (all : (Request.ofGiven given).only = none)
    {u g : UInt64} (unit : (Request.ofGiven given).unitMs = u)
    (grace : (Request.ofGiven given).graceMs = g)
    (some : 1 ≤ u.toNat) (short : u.toNat < g.toNat) (fits : 4 * g.toNat < 18446744073709551616) :
    ∃ (scenarios : List Scenario) (lag : Duration),
      Scenario.standard (.ofMillis g) = .ok scenarios ∧
      lag.nanos ≤ (Duration.ofMillis u).nanos ∧
      (controller (.new host { environment := environment } none)
        (Request.ofGiven given)).runSuite scenarios = passingReport u g lag ∧
      (run (.new host { environment := environment } none) args).code = 0 := by
  subst unit grace
  have neutral : Neutral environment := ⟨printable, unset⟩
  have sound : Sensible (Request.ofGiven given) := ⟨named, some, short, fits⟩
  obtain ⟨budget, twice, standard⟩ := standard_of_sensible sound
  obtain ⟨lag, soon, report⟩ := runSuite_matrix neutral sound host twice
  refine ⟨_, lag, standard, soon, report, ?_⟩
  have longer : ¬ (Request.ofGiven given).graceMs ≤ (Request.ofGiven given).unitMs := fun le =>
    Nat.not_le.mpr short (UInt64.le_iff_toNat_le.mp le)
  have wanted : wanted (Request.ofGiven given)
      (Scenario.matrix (.ofMillis (Request.ofGiven given).graceMs) budget) =
        Scenario.matrix (.ofMillis (Request.ofGiven given).graceMs) budget := by
    simp only [Check.wanted, all]
  simp only [run, read, perform, if_neg longer, standard, wanted]
  exact congrArg (fun report : Report => report.exitCode.toUInt32.toUInt8) report

/-- A check of units of ten milliseconds within a grace period of forty, which is over before a
second request comes. -/
theorem standard_suite_passes_briefly : ∃ (scenarios : List Scenario) (lag : Duration),
    Scenario.standard (.ofMillis 40) = .ok scenarios ∧
    lag.nanos ≤ (Duration.ofMillis 10).nanos ∧
    (controller (.new ⟨5, 0, [], []⟩ { environment := [("PATH", "/bin")] } none)
      { daemon := "./dvm", graceMs := 40, unitMs := 10 }).runSuite scenarios =
        passingReport 10 40 lag ∧
    (run (.new ⟨5, 0, [], []⟩ { environment := [("PATH", "/bin")] } none)
      ["--daemon=./dvm", "--grace-ms=40", "--unit-ms=10"]).code = 0 :=
  have read : grammar.read ["--daemon=./dvm", "--grace-ms=40", "--unit-ms=10"] =
      .ok [("daemon", some "./dvm"), ("grace-ms", some "40"), ("unit-ms", some "10")] := rfl
  standard_suite_passes ⟨5, 0, [], []⟩ (by decide) (by decide +kernel) read rfl rfl rfl rfl
    (by decide) (by decide) (by decide)

end Quiesce.Cli.Check
