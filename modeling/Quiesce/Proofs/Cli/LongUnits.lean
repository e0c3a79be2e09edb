import Quiesce.Proofs.Cli.Child
import Quiesce.Proofs.Cli.SuiteReport
import Quiesce.Proofs.Trial.Matrix

/-!
Units of work that are meant to outlast a grace period. What is passed on the command line is four
times the whole milliseconds of that period, which first have to fit into a word, and then do so
four times. That makes a unit longer than the period exactly if the period holds a whole millisecond
and less than a quarter of the milliseconds that a word can count. A shorter period gives a unit
that takes no time; of a longer one either the product overflows or the higher bits are lost.
-/
namespace Quiesce

theorem Duration.twice?_eq_none_iff {d : Duration} :
    d.twice? = none ↔ 9223372036854775808000000000 ≤ d.nanos := by
  unfold twice? ofNanos?
  split <;> simp <;> omega

namespace Trial.Scenario

open Cli.Dvm (longer)

/-- Arguments that set a unit of work longer than a grace period. -/
def Exceeds (arguments : List String) (grace : Duration) : Prop :=
  ∃ unit : UInt64, arguments = longer unit ∧ grace.nanos < (Duration.ofMillis unit).nanos

/-- A grace period of a whole millisecond at least, whose milliseconds can be counted four times. -/
def Quadruples (grace : Duration) : Prop :=
  1 ≤ grace.millis ∧ grace.millis < 4611686018427387904

theorem longer_injective {a b : UInt64} (h : longer a = longer b) : a = b := by
  have texts : toString a = toString b := by simpa [longer] using h
  have read := Numeral.readUInt64_toString a
  rw [texts, Numeral.readUInt64_toString b] at read
  exact (Except.ok.inj read).symm

variable {grace : Duration}

/-- The unit that is passed, if it can be. -/
def fourfold (grace : Duration) : UInt64 := UInt64.ofNat (grace.millisWord.toNat * 4)

theorem longUnits_eq (fits : grace.millisWord.toNat * 4 < 18446744073709551616) :
    longUnits grace = longer (fourfold grace) := by
  have same : (fourfold grace).toNat = grace.millisWord.toNat * 4 :=
    UInt64.toNat_ofNat_of_lt' fits
  have written : toString (fourfold grace) = toString (grace.millisWord.toNat * 4) := by
    rw [← same]
    rfl
  rw [longUnits, longer, written]

theorem nanos_fourfold (fits : grace.millisWord.toNat * 4 < 18446744073709551616) :
    (Duration.ofMillis (fourfold grace)).nanos =
      1000000 * (grace.millis % 18446744073709551616 * 4) := by
  rw [← Duration.toNat_millisWord, ← UInt64.toNat_ofNat_of_lt' fits]
  rfl

/-- Lost bits make the unit shorter than the grace period, not longer. -/
theorem exceeds_longUnits_iff (fits : grace.millisWord.toNat * 4 < 18446744073709551616) :
    Exceeds (longUnits grace) grace ↔ Quadruples grace := by
  have nanos := nanos_fourfold fits
  have whole : grace.millis = grace.nanos / 1000000 := rfl
  rw [Duration.toNat_millisWord] at fits
  constructor
  · -- A product of what is left of the bits is below the period whenever some were lost.
    rintro ⟨unit, same, longer⟩
    rw [longUnits_eq (by rwa [Duration.toNat_millisWord])] at same
    rw [← longer_injective same, nanos] at longer
    constructor <;> omega
  · rintro ⟨some, few⟩
    refine ⟨fourfold grace, longUnits_eq (by rwa [Duration.toNat_millisWord]), ?_⟩
    rw [nanos]
    omega

theorem fits_of_quadruples (h : Quadruples grace) :
    grace.millisWord.toNat * 4 < 18446744073709551616 := by
  obtain ⟨_, few⟩ := h
  rw [Duration.toNat_millisWord]
  omega

theorem twice?_of_quadruples (h : Quadruples grace) : ∃ budget, grace.twice? = some budget := by
  refine Option.ne_none_iff_exists'.mp ?_
  rw [Ne, Duration.twice?_eq_none_iff]
  obtain ⟨_, few⟩ := h
  have whole : grace.millis = grace.nanos / 1000000 := rfl
  omega

/-- The scenarios of the matrix either leave the unit alone or all set the same one. -/
theorem exceeds_of_mem_matrix {budget : Duration} (h : Exceeds (longUnits grace) grace) :
    ∀ s ∈ matrix grace budget, s.arguments = [] ∨ Exceeds s.arguments grace := by
  simp only [matrix, List.forall_mem_cons]
  exact ⟨.inl rfl, .inl rfl, .inr h, .inr h, .inl rfl, .inl rfl, .inl rfl, .inr h,
    List.forall_mem_nil _⟩

theorem outlasting_eq_error_iff {s : Scenario} : s.outlasting grace = .error .product ↔
    4611686018427387904 ≤ grace.millis % 18446744073709551616 := by
  rw [← Duration.toNat_millisWord]
  by_cases fits : grace.millisWord.toNat * 4 < 18446744073709551616
  · rw [outlasting_of_lt s fits]
    simp only [reduceCtorEq, false_iff]
    omega
  · rw [outlasting_of_not_lt s fits]
    simp only [true_iff]
    omega

theorem outlasting_exceeds_iff {s : Scenario} :
    (∃ more, s.outlasting grace = .ok { s with arguments := s.arguments ++ more } ∧
      Exceeds more grace) ↔ Quadruples grace := by
  constructor
  · rintro ⟨more, made, exceeds⟩
    by_cases fits : grace.millisWord.toNat * 4 < 18446744073709551616
    · rw [outlasting_of_lt s fits] at made
      have same : s.arguments ++ longUnits grace = s.arguments ++ more :=
        congrArg Scenario.arguments (Except.ok.inj made)
      exact (exceeds_longUnits_iff fits).mp (List.append_cancel_left same ▸ exceeds)
    · rw [outlasting_of_not_lt s fits] at made
      cases made
  · intro quadruples
    have fits := fits_of_quadruples quadruples
    exact ⟨longUnits grace, outlasting_of_lt s fits, (exceeds_longUnits_iff fits).mpr quadruples⟩

theorem standard_eq (grace : Duration) : standard grace =
    match grace.twice? with
    | none => .error .scaledDuration
    | some budget =>
      if grace.millisWord.toNat * 4 < 18446744073709551616 then .ok (matrix grace budget)
      else .error .product := by
  cases twice : grace.twice? with
  | none => simp only [standard, twice]
  | some budget =>
      by_cases fits : grace.millisWord.toNat * 4 < 18446744073709551616
      · simp only [if_pos fits, standard_of_lt twice fits]
      · simp only [if_neg fits, standard, twice, outlasting_of_not_lt _ fits]
        rfl

theorem standard_eq_scaledDuration_iff :
    standard grace = .error .scaledDuration ↔ 9223372036854775808000000000 ≤ grace.nanos := by
  rw [standard_eq, ← Duration.twice?_eq_none_iff]
  cases grace.twice? with
  | none => simp
  | some budget =>
      refine iff_of_false ?_ (Option.some_ne_none budget)
      dsimp only
      split <;> simp

theorem standard_eq_product_iff : standard grace = .error .product ↔
    grace.nanos < 9223372036854775808000000000 ∧
      4611686018427387904 ≤ grace.millis % 18446744073709551616 := by
  rw [standard_eq, ← Nat.not_le (b := grace.nanos), ← Duration.twice?_eq_none_iff,
    ← Duration.toNat_millisWord]
  cases grace.twice? with
  | none => simp
  | some budget =>
      by_cases fits : grace.millisWord.toNat * 4 < 18446744073709551616
      · refine iff_of_false (by simp [fits]) ?_
        omega
      · refine iff_of_true (by simp [fits]) ⟨by simp, ?_⟩
        omega

theorem standard_exceeds_iff :
    (∃ scenarios, standard grace = .ok scenarios ∧
      ∀ s ∈ scenarios, s.arguments = [] ∨ Exceeds s.arguments grace) ↔ Quadruples grace := by
  constructor
  · rintro ⟨scenarios, made, exceed⟩
    by_cases fits : grace.millisWord.toNat * 4 < 18446744073709551616
    · obtain ⟨budget, _, rfl⟩ := standard_eq_ok made
      have last := exceed (expiry grace budget) (by simp [matrix])
      exact (exceeds_longUnits_iff fits).mp (last.resolve_left (List.cons_ne_nil _ _))
    · simp only [standard_eq, if_neg fits] at made
      split at made <;> cases made
  · intro quadruples
    have fits := fits_of_quadruples quadruples
    obtain ⟨budget, twice⟩ := twice?_of_quadruples quadruples
    exact ⟨_, standard_of_lt twice fits,
      exceeds_of_mem_matrix ((exceeds_longUnits_iff fits).mpr quadruples)⟩

/-- Work that begins with the clock outlasts a grace period that begins while the first one would
last. -/
theorem tick_lt_fourfold (h : Quadruples grace) {request : Nat}
    (soon : request ≤ 1000000 * grace.millis) :
    Clock.tick (request + grace.nanos) < (Duration.ofMillis (fourfold grace)).nanos := by
  rw [nanos_fourfold (fits_of_quadruples h)]
  obtain ⟨some, few⟩ := h
  have whole : grace.millis = grace.nanos / 1000000 := rfl
  change request + grace.nanos +
    (1000000 - (request + grace.nanos) % 1000000) % 1000000 < _
  omega

end Trial.Scenario

namespace Cli.Check

open Trial Trial.Scenario

/-- The check breaks off over a grace period that is too long to be taken four times, and never
otherwise. -/
theorem code_perform_eq_iff {d : Directory} {r : Request} (longer : r.unitMs < r.graceMs) :
    (perform d r).code = 101 ↔ 4611686018427387904 ≤ r.graceMs.toNat := by
  have some : 0 < r.graceMs.toNat := Nat.zero_lt_of_lt (UInt64.lt_iff_toNat_lt.mp longer)
  have word : r.graceMs.toNat < 18446744073709551616 := r.graceMs.toNat_lt
  by_cases few : r.graceMs.toNat < 4611686018427387904
  · have quadruples : Quadruples (.ofMillis r.graceMs) := by
      rw [Quadruples, Duration.millis_ofMillis]
      exact ⟨some, few⟩
    obtain ⟨scenarios, made, _⟩ := standard_exceeds_iff.mpr quadruples
    refine iff_of_false ?_ (Nat.not_le.mpr few)
    rw [code_perform longer made, Report.exitCode]
    split <;> decide
  · have overflows : standard (.ofMillis r.graceMs) = .error .product := by
      rw [standard_eq_product_iff, Duration.millis_ofMillis]
      have nanos : (Duration.ofMillis r.graceMs).nanos = 1000000 * r.graceMs.toNat := rfl
      omega
    refine iff_of_true ?_ (Nat.le_of_not_lt few)
    rw [perform, if_neg (UInt64.not_le.mpr longer), overflows]

/-- Of a daemon that is launched with four times the grace period, every worker is still at its
first unit when the period is over, if it began within the time that the whole period takes. -/
theorem outlasts_launch {grace : Duration} (quadruples : Quadruples grace) {host : Host}
    {sources : Settings.Sources} (silent : Dvm.Silent sources) {g u : UInt64} (some : g ≠ 0) :
    ∃ d, Dvm.launch host sources (Dvm.arguments g u ++ longUnits grace) = .ok d ∧
      d.engine.tasks ≠ [] ∧ ∀ t ∈ d.engine.tasks, t.work = .worker ∧
        ∀ request : Nat, request ≤ 1000000 * grace.millis →
          Clock.tick (request + grace.nanos) < t.due := by
  have lasts {request : Nat} (soon : request ≤ 1000000 * grace.millis) :=
    tick_lt_fourfold quadruples soon
  have busy : fourfold grace ≠ 0 := by
    intro none
    have first := lasts (Nat.zero_le _)
    rw [none] at first
    exact Nat.not_lt_zero _ first
  have workers : (Dvm.settingsOf g (fourfold grace)).workload.workers ≠ 0 := by
    change (2 : UInt64) ≠ 0
    decide
  obtain ⟨d, launched, begun⟩ : ∃ d, Dvm.launch host sources
      (Dvm.arguments g u ++ Dvm.longer (fourfold grace)) = .ok d ∧
        d.Begun host (Dvm.settingsOf g (fourfold grace))
          (Dvm.deskOf sources g (fourfold grace)) :=
    Dvm.launch_of_durations silent (Dvm.read_arguments_longer g u (fourfold grace))
      (Dvm.ofGiven_longer _ _ _) some busy
  rw [longUnits_eq (fits_of_quadruples quadruples)]
  refine ⟨d, launched, List.ne_nil_of_mem (begun.mem_tasks workers), ?_⟩
  · intro t listed
    rw [begun.tasks] at listed
    obtain ⟨_, rfl⟩ := List.mem_replicate.mp listed
    exact ⟨rfl, fun request soon => lasts soon⟩

/-- In a build that checks for overflow, a scenario whose work is to outlast the grace period
overflows exactly if the milliseconds of that period, as far as they fit into a word, do not fit
into it four times; and it can be set up and sets a unit longer than the period exactly if the
period holds a whole millisecond and less than a quarter of those that a word can count. The
standard scenarios overflow over a period that cannot be doubled, too, and otherwise are as sound as
that. Of the periods that the check can be asked for it is those beyond the quarter that it breaks
off over. Where the unit is longer than the period, all work launched with it is still in flight
when a period is over that begins during the first one. -/
theorem standard_outlasts_iff (grace : Duration) (s : Scenario) :
    (s.outlasting grace = .error .product ↔
      4611686018427387904 ≤ grace.millis % 18446744073709551616) ∧
    ((∃ more, s.outlasting grace = .ok { s with arguments := s.arguments ++ more } ∧
      Exceeds more grace) ↔ Quadruples grace) ∧
    (standard grace = .error .scaledDuration ↔ 9223372036854775808000000000 ≤ grace.nanos) ∧
    (standard grace = .error .product ↔ grace.nanos < 9223372036854775808000000000 ∧
      4611686018427387904 ≤ grace.millis % 18446744073709551616) ∧
    ((∃ scenarios, standard grace = .ok scenarios ∧
      ∀ s ∈ scenarios, s.arguments = [] ∨ Exceeds s.arguments grace) ↔ Quadruples grace) ∧
    (∀ (d : Directory) (r : Request), r.unitMs < r.graceMs →
      ((perform d r).code = 101 ↔ 4611686018427387904 ≤ r.graceMs.toNat)) ∧
    (Quadruples grace → ∀ (host : Host) (sources : Settings.Sources), Dvm.Silent sources →
      ∀ g u : UInt64, g ≠ 0 →
        ∃ d, Dvm.launch host sources (Dvm.arguments g u ++ longUnits grace) = .ok d ∧
          d.engine.tasks ≠ [] ∧ ∀ t ∈ d.engine.tasks, t.work = .worker ∧
            ∀ request : Nat, request ≤ 1000000 * grace.millis →
              Clock.tick (request + grace.nanos) < t.due) :=
  ⟨outlasting_eq_error_iff, outlasting_exceeds_iff,
    standard_eq_scaledDuration_iff, standard_eq_product_iff, standard_exceeds_iff,
    fun _ _ longer => code_perform_eq_iff longer,
    fun quadruples _ _ silent _ _ some => outlasts_launch quadruples silent some⟩

/-- The grace period that the check takes if it is not told of another one. -/
theorem standard_outlasts_iff_of_default :
    let grace : Duration := .ofMillis 2000
    let s : Scenario := { name := "grace-expiry", signals := [.terminate] }
    let host : Host := ⟨5, 0, [], []⟩
    (∃ more, s.outlasting grace = .ok { s with arguments := s.arguments ++ more } ∧
      Exceeds more grace) ∧
    (∃ scenarios, standard grace = .ok scenarios ∧
      ∀ s ∈ scenarios, s.arguments = [] ∨ Exceeds s.arguments grace) ∧
    (perform (.new host {} none) {}).code ≠ 101 ∧
    ∃ d, Dvm.launch host {} (Dvm.arguments 2000 500 ++ longUnits grace) = .ok d ∧
      d.engine.tasks ≠ [] ∧
        ∀ t ∈ d.engine.tasks, Clock.tick (2000000000 + grace.nanos) < t.due := by
  intro grace s host
  have quadruples : Quadruples grace := by
    rw [Quadruples, Duration.millis_ofMillis]
    decide
  have silent : Dvm.Silent {} := ⟨by decide +kernel, rfl⟩
  obtain ⟨_, sets, _, _, allSet, checks, launches⟩ := standard_outlasts_iff grace s
  obtain ⟨d, launched, busy, outlasts⟩ :=
    launches quadruples host {} silent 2000 500 (by decide)
  refine ⟨sets.mpr quadruples, allSet.mpr quadruples, ?_, d, launched, busy, ?_⟩
  · rw [Ne, checks (.new host {} none) {} (by decide)]
    decide
  · intro t listed
    refine (outlasts t listed).2 2000000000 ?_
    rw [Duration.millis_ofMillis]
    decide

/-- Half a millisecond gives a unit that takes no time, and so does a period of which no bit is left
in a word. Over a period in between the check breaks off. -/
theorem outlasting_falls_short :
    let s : Scenario := { name := "grace-expiry", signals := [.terminate] }
    let short : Duration := ⟨500000, by decide⟩
    let long : Duration := ⟨18446744073709551616000000, by decide⟩
    0 < short.nanos ∧ s.outlasting short = .ok { s with arguments := Dvm.longer 0 } ∧
    s.outlasting long = .ok { s with arguments := Dvm.longer 0 } ∧
    ¬ short.nanos < (Duration.ofMillis 0).nanos ∧ ¬ long.nanos < (Duration.ofMillis 0).nanos ∧
    s.outlasting (.ofMillis 4611686018427387904) = .error .product ∧
    standard (.ofMillis 4611686018427387904) = .error .product ∧
    (perform (.new ⟨5, 0, [], []⟩ {} none) { graceMs := 4611686018427387904 }).code = 101 := by
  intro s short long
  have few : short.millisWord.toNat * 4 = 0 := by decide
  have none : long.millisWord.toNat * 4 = 0 := by decide
  refine ⟨by decide, ?_, ?_, by decide, by decide, ?_, ?_, ?_⟩
  · rw [outlasting_of_lt s (by omega), longUnits, few]
    rfl
  · rw [outlasting_of_lt s (by omega), longUnits, none]
    rfl
  · rw [outlasting_eq_error_iff, Duration.millis_ofMillis]
    decide
  · rw [standard_eq_product_iff, Duration.millis_ofMillis]
    decide
  · rw [code_perform_eq_iff (by decide)]
    decide

end Cli.Check

end Quiesce
