import Quiesce.Trial.Scenario

/-!
The standard set of scenarios, written out. It exists exactly if twice the grace period is a
duration and four times its milliseconds are a word.
-/
namespace Quiesce.Trial.Scenario

/-- Arguments that make a unit of work four times as long as the grace period. -/
def longUnits (grace : Duration) : List String :=
  ["--unit-duration-ms", toString (grace.millisWord.toNat * 4)]

/-- One request to stop, and a clean end expected within the budget. -/
def single (budget : Duration) (name : String) (signal : Signal) : Scenario where
  name := name
  signals := [signal]
  timeout := budget

/-- The same request twice, with work in flight that outlasts the grace period. -/
def escalation (grace : Duration) (name : String) (signal : Signal) : Scenario where
  name := name
  signals := [signal, signal]
  expect := .forced
  timeout := grace
  arguments := longUnits grace

def hangup (grace budget : Duration) : Scenario where
  name := "hangup-survives"
  signals := [.hangup]
  expect := .survives grace
  timeout := budget

def beforeReady (budget : Duration) : Scenario :=
  { single budget "terminate-before-ready" .terminate with
    waitForReady := false, expect := .terminates }

def killed (budget : Duration) : Scenario :=
  { single budget "kill-forced" .kill with expect := .forced }

def expiry (grace budget : Duration) : Scenario :=
  { single budget "grace-expiry" .terminate with expect := .forced, arguments := longUnits grace }

def matrix (grace budget : Duration) : List Scenario :=
  [single budget "terminate-graceful" .terminate,
    single budget "interrupt-graceful" .interrupt,
    escalation grace "terminate-escalation" .terminate,
    escalation grace "interrupt-escalation" .interrupt,
    hangup grace budget, beforeReady budget, killed budget, expiry grace budget]

theorem outlasting_of_lt {grace : Duration} (s : Scenario)
    (h : grace.millisWord.toNat * 4 < 18446744073709551616) :
    s.outlasting grace = .ok { s with arguments := s.arguments ++ longUnits grace } :=
  if_pos h

theorem outlasting_of_not_lt {grace : Duration} (s : Scenario)
    (h : ¬ grace.millisWord.toNat * 4 < 18446744073709551616) :
    s.outlasting grace = .error .product :=
  if_neg h

theorem standard_of_lt {grace budget : Duration} (twice : grace.twice? = some budget)
    (h : grace.millisWord.toNat * 4 < 18446744073709551616) :
    standard grace = .ok (matrix grace budget) := by
  simp only [standard, twice, outlasting_of_lt _ h]
  rfl

theorem standard_eq_ok {grace : Duration} {scenarios : List Scenario}
    (h : standard grace = .ok scenarios) :
    ∃ budget, grace.twice? = some budget ∧ scenarios = matrix grace budget := by
  cases twice : grace.twice? with
  | none =>
      simp only [standard, twice] at h
      cases h
  | some budget =>
      by_cases small : grace.millisWord.toNat * 4 < 18446744073709551616
      · rw [standard_of_lt twice small] at h
        exact ⟨budget, rfl, (Except.ok.inj h).symm⟩
      · simp only [standard, twice, outlasting_of_not_lt _ small] at h
        cases h

end Quiesce.Trial.Scenario
