import Mathlib.Data.List.Forall2
import Quiesce.Cli.Check
import Quiesce.Proofs.Trial.Deliveries
import Quiesce.Proofs.Trial.Matrix

/-!
The report on a suite. It has one entry for each scenario, in their order, and each tells what came
of a run of that scenario with a child of its own, which need not behave as another one did that was
launched in the same way. The check fails by an entry that failed, and by no skipped one.
-/
namespace Quiesce

namespace Trial

/-! ### Entries -/

/-- How the entry for a scenario follows from what its run came to. -/
structure Reports (c : Controller) (scenario : Scenario) (result : Except Fault Outcome)
    (entry : Entry) : Prop where
  name : entry.name = scenario.name
  skipped : (∃ reason, entry.verdict = .skipped reason) ↔
    ∃ fault, c.capability.check scenario.required = .error fault
  passed : ∀ outcome, entry.verdict = .passed outcome ↔ result = .ok outcome
  failed : (∃ error, entry.verdict = .failed error) ↔
    c.capability.check scenario.required = .ok () ∧ ∃ fault, result = .error fault

variable {c : Controller} {scenario : Scenario}

theorem reports_run (c : Controller) (scenario : Scenario) :
    Reports c scenario (c.run scenario).result
      ⟨scenario.name, .ofResult (c.run scenario).result⟩ := by
  cases able : c.capability.check scenario.required with
  | error fault =>
      obtain ⟨k, _, _, rfl, _⟩ := Capability.check_eq_error_iff.mp able
      have refused := Controller.run_of_refused able
      refine ⟨rfl, ?_, ?_, ?_⟩ <;>
        simp [refused, able, Verdict.ofResult, Fault.isSkip]
  | ok _ =>
      have tells := Controller.run_tells able
      cases result : (c.run scenario).result with
      | ok outcome => refine ⟨rfl, ?_, ?_, ?_⟩ <;> simp [able, Verdict.ofResult]
      | error fault =>
          have failed := tells fault result
          refine ⟨rfl, ?_, ?_, ?_⟩ <;> simp [able, Verdict.ofResult, failed]

/-! ### Suites -/

namespace Controller

/-- Runs of these scenarios, each with a child that may behave in any way. -/
def Held (c : Controller) : List Scenario → List NamedRun → Prop :=
  List.Forall₂ fun scenario named => named.name = scenario.name ∧
    ∃ launch, named.run = { c with launch := launch }.run scenario

/-- What a report tells of runs of these scenarios. -/
structure Accounts (c : Controller) (scenarios : List Scenario) (runs : List NamedRun)
    (report : Report) : Prop where
  entries : report.entries = runs.map NamedRun.entry
  each : List.Forall₂ (fun scenario named => Reports c scenario named.run.result named.entry)
    scenarios runs
  sum : report.passed + report.skipped + report.failed = scenarios.length
  fails : report.exitCode = 1 ↔ ∃ entry ∈ report.entries, ∃ error, entry.verdict = .failed error
  succeeds : report.exitCode = 0 ↔
    ∀ entry ∈ report.entries, ∀ error, entry.verdict ≠ .failed error

end Controller

theorem Verdict.isFailed_iff {verdict : Verdict} :
    verdict.isFailed = true ↔ ∃ error, verdict = .failed error := by
  cases verdict <;> simp [isFailed]

namespace Report

theorem sum_verdicts (report : Report) :
    report.passed + report.skipped + report.failed = report.entries.length := by
  unfold passed skipped failed
  induction report.entries with
  | nil => rfl
  | cons entry entries ih =>
      simp only [List.countP_cons, List.length_cons, ← ih]
      cases entry.verdict <;> simp [Verdict.isPassed, Verdict.isSkipped, Verdict.isFailed] <;> omega

theorem failed_pos_iff {report : Report} :
    0 < report.failed ↔ ∃ entry ∈ report.entries, ∃ error, entry.verdict = .failed error := by
  simp only [failed, List.countP_pos_iff, Verdict.isFailed_iff]

theorem exitCode_eq_one_iff {report : Report} : report.exitCode = 1 ↔ 0 < report.failed := by
  unfold exitCode
  split <;> simp [*]

theorem exitCode_eq_zero_iff {report : Report} : report.exitCode = 0 ↔ ¬ 0 < report.failed := by
  unfold exitCode
  split <;> simp [*]

end Report

namespace Controller

theorem Held.each {scenarios : List Scenario} {runs : List NamedRun} (h : c.Held scenarios runs) :
    List.Forall₂ (fun scenario named => Reports c scenario named.run.result named.entry)
      scenarios runs := by
  refine List.Forall₂.imp ?_ h
  rintro scenario ⟨name, run⟩ ⟨rfl, launch, rfl⟩
  have told := reports_run { c with launch := launch } scenario
  exact ⟨told.name, told.skipped, told.passed, told.failed⟩

theorem Held.accounts {scenarios : List Scenario} {runs : List NamedRun}
    (h : c.Held scenarios runs) : c.Accounts scenarios runs (c.report runs) := by
  refine ⟨rfl, h.each, ?_, ?_, ?_⟩
  · rw [Report.sum_verdicts, report, List.length_map, h.length_eq]
  · rw [Report.exitCode_eq_one_iff, Report.failed_pos_iff]
  · rw [Report.exitCode_eq_zero_iff, Report.failed_pos_iff]
    simp only [not_exists, not_and]

theorem held_runAll (c : Controller) (scenarios : List Scenario) :
    c.Held scenarios (c.runAll scenarios) := by
  unfold Held runAll
  rw [List.forall₂_map_right_iff, List.forall₂_same]
  exact fun scenario _ => ⟨rfl, c.launch, rfl⟩

end Controller

end Trial

namespace Cli.Check

open Trial

/-! ### The check -/

variable {d : Directory} {r : Request} {scenarios : List Scenario}

theorem code_perform (longer : r.unitMs < r.graceMs)
    (standard : Scenario.standard (.ofMillis r.graceMs) = .ok scenarios) :
    (perform d r).code =
      ((controller d r).runSuite (wanted r scenarios)).exitCode.toUInt32.toUInt8 := by
  unfold perform
  rw [if_neg (UInt64.not_le.mpr longer), standard]
  rfl

/-- The system keeps the last byte of an exit code, by which `0` and `1` can be told apart. -/
theorem code_perform_iff (longer : r.unitMs < r.graceMs)
    (standard : Scenario.standard (.ofMillis r.graceMs) = .ok scenarios) :
    ((perform d r).code = 1 ↔
      ((controller d r).runSuite (wanted r scenarios)).exitCode = 1) ∧
    ((perform d r).code = 0 ↔
      ((controller d r).runSuite (wanted r scenarios)).exitCode = 0) := by
  rw [code_perform longer standard]
  unfold Report.exitCode
  split <;> decide

/-- Whatever signals can be sent and however children behave, a run sends no signal that its
scenario does not require, and none that cannot be sent, but for the kill of a child whose exit did
not come in time; and a scenario that requires one is refused for the first of them before anything
is launched. The report on a suite has an entry for each scenario, which is skipped if the scenario
was refused, passed with the outcome that its run gave, and failed otherwise. Where the check comes
to run its suite, it exits with code `1` if some entry failed, and with code `0` if none did. -/
theorem suite_accounted :
    (∀ (c : Controller) (scenario : Scenario), c.Keeps scenario (c.run scenario)) ∧
    (∀ (c : Controller) (scenarios : List Scenario),
      c.Accounts scenarios (c.runAll scenarios) (c.runSuite scenarios)) ∧
    (∀ (c : Controller) (scenarios : List Scenario) (runs : List NamedRun),
      c.Held scenarios runs → c.Accounts scenarios runs (c.report runs)) ∧
    ∀ (d : Directory) (r : Request) (scenarios : List Scenario), r.unitMs < r.graceMs →
      Scenario.standard (.ofMillis r.graceMs) = .ok scenarios →
      ((perform d r).code = 1 ↔
        ∃ entry ∈ ((controller d r).runSuite (wanted r scenarios)).entries,
          ∃ error, entry.verdict = .failed error) ∧
      ((perform d r).code = 0 ↔
        ∀ entry ∈ ((controller d r).runSuite (wanted r scenarios)).entries,
          ∀ error, entry.verdict ≠ .failed error) := by
  have accounts (c : Controller) (scenarios : List Scenario) :
      c.Accounts scenarios (c.runAll scenarios) (c.runSuite scenarios) :=
    (c.held_runAll scenarios).accounts
  refine ⟨Controller.run_keeps, accounts, fun _ _ _ held => held.accounts, ?_⟩
  intro d r scenarios longer standard
  obtain ⟨one, zero⟩ := code_perform_iff (d := d) longer standard
  have account := accounts (controller d r) (wanted r scenarios)
  exact ⟨one.trans account.fails, zero.trans account.succeeds⟩

/-- A daemon that stops when it is asked to, by a request to reload as by any other. -/
def politeChild : Script where
  output := "dvm: ready pid=5 control=none\n".toUTF8.toList
  answers := [(.terminate, [{ sleep := .ofMillis 20, ending := some (.code 0) }]),
    (.hangup, [{ sleep := .ofMillis 20, ending := some (.code 0) }])]

def politeDirectory : Directory := .new ⟨5, 0, [], []⟩ {} (some politeChild)

def politeRequest : Request :=
  { daemon := Directory.scriptPath, graceMs := 40, unitMs := 10 }

/-- The controller of such a check where no process can be interrupted or killed. -/
def politeController : Controller :=
  { controller politeDirectory politeRequest with
    capability := ⟨"plan9", [.terminate, .hangup]⟩ }

/-- On such a system what needs those signals is skipped, and nothing is launched for it. All other
scenarios have a daemon of their own, which fails those that expect it to go on. -/
theorem suite_accounted_of_polite : ∃ scenarios,
    Scenario.standard (.ofMillis politeRequest.graceMs) = .ok scenarios ∧
    politeController.Accounts scenarios (politeController.runAll scenarios)
      (politeController.runSuite scenarios) ∧
    (politeController.runSuite scenarios).passed = 3 ∧
    (politeController.runSuite scenarios).skipped = 3 ∧
    (politeController.runSuite scenarios).failed = 2 ∧
    (politeController.run (.escalation (.ofMillis 40) "escalation" .terminate)).session.map
      Session.attempts = some [(0, .terminate), (50000000, .terminate)] ∧
    politeController.run (.escalation (.ofMillis 40) "escalation" .interrupt) =
      ⟨.error (.unsupported .interrupt "plan9"), none⟩ ∧
    politeRequest.unitMs < politeRequest.graceMs ∧
    (perform politeDirectory politeRequest).code = 1 ∧
    ∃ entry ∈ ((controller politeDirectory politeRequest).runSuite
        (wanted politeRequest scenarios)).entries,
      ∃ error, entry.verdict = .failed error := by
  obtain ⟨keeps, accounts, _, check⟩ := suite_accounted
  have standard : Scenario.standard (.ofMillis politeRequest.graceMs) = .ok _ :=
    Scenario.standard_of_lt rfl (by decide +kernel)
  have longer : politeRequest.unitMs < politeRequest.graceMs := by decide
  have code : (perform politeDirectory politeRequest).code = 1 := by decide +kernel
  have refused := ((keeps politeController
    (.escalation (.ofMillis 40) "escalation" .interrupt)).refused _ rfl).1
  exact ⟨_, standard, accounts _ _, by decide +kernel, by decide +kernel, by decide +kernel,
    by decide +kernel, refused, longer, code, (check _ _ _ longer standard).1.mp code⟩

end Cli.Check

end Quiesce
