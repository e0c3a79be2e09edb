import Quiesce.Proofs.Cli.Options
import Quiesce.Proofs.Daemon.Start
import Quiesce.Proofs.Settings.Reload

/-!
A daemon that is launched by its command line alone. Without a file of settings and without
variables the defaults hold, over which the command line lays its durations, the last of each kind.
The daemon begins to run, and a later request to reload finds the settings that are in force.
-/
namespace Quiesce

/-! ### Settings that come from nowhere else -/

/-- Which file is read does not depend on the environment. -/
theorem Settings.locate?_environment (sources : Sources) (environment : List (String × String))
    (path : String) : locate? { sources with environment } path = locate? sources path := rfl

/-- Where there is neither a file nor a variable, the defaults hold. -/
theorem Settings.load_of_nothing {sources : Sources} {path : String}
    (nowhere : locate? sources path = none)
    (unset : Environment.entries sources.environment = []) : load sources path = .ok {} := by
  have file : fileEntries sources path = .ok [] := by rw [fileEntries, nowhere]
  have defaults : (layers [] []).toOption.bind (·.toSettings.toOption) = some {} := by
    decide +kernel
  obtain ⟨table, laid, read⟩ := Option.bind_eq_some_iff.mp defaults
  have laid : layers [] [] = .ok table := eq_ok_of_toOption laid
  simp only [load, file, unset, bind, Except.bind, laid, Except.mapError]
  exact eq_ok_of_toOption read

/-- To reload the settings that are in force changes nothing. -/
theorem Desk.handler_of_plan {desk : Desk} {updated : Settings} {inForce : WorkloadSettings}
    (planned : desk.reloader.plan desk.sources = .ok updated)
    (same : updated.workload = inForce) :
    desk.handler inForce = .ok (desk, some inForce) := by
  obtain rfl := same
  have unchanged : updated.workload.differs updated.workload = false := by
    simp [WorkloadSettings.differs]
  have served : desk.reloader.serve desk.sources updated.workload =
      (.ok updated.workload, desk.reloader) := by
    simp only [Reloader.serve, planned, unchanged, Bool.false_eq_true, ite_false]
  simp only [handler, served]

namespace Cli.Dvm

open Settings (Sources)

/-! ### The command line -/

/-- The arguments of a daemon without its network part that is given two durations. -/
def arguments (grace unit : UInt64) : List String :=
  ["--no-control", "--grace-period-ms", toString grace, "--unit-duration-ms", toString unit]

/-- One more length of a unit, which takes the place of the first one. -/
def longer (unit : UInt64) : List String := ["--unit-duration-ms", toString unit]

theorem isWord64_toString (n : UInt64) : isWord64 (toString n) = true := by
  rw [isWord64, Numeral.readUInt64_toString]
  rfl

theorem startsWith_dash (n : UInt64) : (toString n).startsWith "-" = false :=
  Numeral.startsWith_toString n.toNat (by decide) []

theorem readFrom_number {fuel : Nat} {given : Given} {name : String} {rest : List String}
    (known : name = "grace-period-ms" ∨ name = "unit-duration-ms") (n : UInt64) :
    grammar.readFrom (fuel + 1) given (("--" ++ name) :: toString n :: rest) =
      grammar.readFrom fuel (given ++ [(name, some (toString n))]) rest := by
  rcases known with rfl | rfl
  · exact Grammar.readFrom_value (by decide) (by decide) rfl rfl rfl (isWord64_toString n)
      (startsWith_dash n)
  · exact Grammar.readFrom_value (by decide) (by decide) rfl rfl rfl (isWord64_toString n)
      (startsWith_dash n)

theorem printable_toString (n : UInt64) : '\x00' ∉ (toString n).toList := fun inside =>
  absurd (Numeral.isDigit_of_mem_toString (n := n.toNat) inside) (by decide)

theorem printable_longer (unit : UInt64) : ∀ arg ∈ longer unit, '\x00' ∉ arg.toList := by
  simp only [longer, List.mem_cons, List.not_mem_nil, or_false, forall_eq_or_imp, forall_eq]
  exact ⟨by decide, printable_toString unit⟩

theorem printable_arguments (grace unit : UInt64) :
    ∀ arg ∈ arguments grace unit, '\x00' ∉ arg.toList := by
  simp only [arguments, List.mem_cons, List.not_mem_nil, or_false, forall_eq_or_imp, forall_eq]
  exact ⟨by decide, by decide, printable_toString grace, by decide, printable_toString unit⟩

/-- What is given by the arguments with two durations. -/
def given (grace unit : UInt64) : Given :=
  [("no-control", none), ("grace-period-ms", some (toString grace)),
    ("unit-duration-ms", some (toString unit))]

theorem readFrom_arguments (fuel : Nat) (grace unit : UInt64) (rest : List String) :
    grammar.readFrom (fuel + 3) [] (arguments grace unit ++ rest) =
      grammar.readFrom fuel (given grace unit) rest := by
  have flag : grammar.readFrom (fuel + 3) [] (("--" ++ "no-control") ::
      ("--" ++ "grace-period-ms") :: toString grace :: ("--" ++ "unit-duration-ms") ::
        toString unit :: rest) = _ :=
    Grammar.readFrom_flag (by decide) (by decide) rfl rfl rfl
  rw [readFrom_number (.inl rfl), readFrom_number (.inr rfl)] at flag
  exact flag

theorem read_arguments (grace unit : UInt64) :
    grammar.read (arguments grace unit) = .ok (given grace unit) :=
  readFrom_arguments 2 grace unit []

theorem read_arguments_longer (grace unit more : UInt64) :
    grammar.read (arguments grace unit ++ longer more) =
      .ok (given grace unit ++ [("unit-duration-ms", some (toString more))]) := by
  have base := readFrom_arguments 4 grace unit (longer more)
  have last : grammar.readFrom 4 (given grace unit)
      (("--" ++ "unit-duration-ms") :: toString more :: []) = _ := readFrom_number (.inr rfl) more
  exact base.trans last

/-- The request for a daemon without its network part. -/
def durations (grace unit : UInt64) : Request where
  overrides := { graceMs := some grace, unitMs := some unit, disableControl := true }

theorem word64?_of_value? {given : Given} {name : String} {n : UInt64}
    (h : given.value? name = some (toString n)) : word64? given name = some n := by
  rw [word64?, h, Option.bind_some, Numeral.readUInt64_toString]
  rfl

theorem ofGiven_given (grace unit : UInt64) :
    Request.ofGiven (given grace unit) = durations grace unit := by
  have graceMs : word64? (given grace unit) "grace-period-ms" = some grace :=
    word64?_of_value? rfl
  have unitMs : word64? (given grace unit) "unit-duration-ms" = some unit :=
    word64?_of_value? rfl
  simp only [Request.ofGiven, graceMs, unitMs]
  rfl

/-- The last length of a unit is the one that counts. -/
theorem ofGiven_longer (grace unit more : UInt64) :
    Request.ofGiven (given grace unit ++ [("unit-duration-ms", some (toString more))]) =
      durations grace more := by
  have graceMs : word64? (given grace unit ++ [("unit-duration-ms", some (toString more))])
      "grace-period-ms" = some grace :=
    word64?_of_value? rfl
  have unitMs : word64? (given grace unit ++ [("unit-duration-ms", some (toString more))])
      "unit-duration-ms" = some more :=
    word64?_of_value? (Given.value?_append_same _ _ _)
  simp only [Request.ofGiven, graceMs, unitMs]
  rfl

/-! ### The daemon -/

/-- The settings of a daemon without its network part that is given two durations. -/
def settingsOf (grace unit : UInt64) : Settings where
  lifecycle := { graceMs := grace }
  workload := { unitMs := unit }
  control := { enabled := false }

variable {host : Host} {sources : Sources} {args : List String} {given : Given}
  {grace unit : UInt64}

theorem validate_settingsOf (hg : grace ≠ 0) (hu : unit ≠ 0) :
    (settingsOf grace unit).validate = .ok () := by
  simp [Settings.validate, Settings.objection?, settingsOf, hg, hu]

/-- The desk of a daemon that was launched with two durations. -/
def deskOf (sources : Sources) (grace unit : UInt64) : Desk where
  sources := sources
  reloader :=
    { overrides := (durations grace unit).overrides, current := settingsOf grace unit }

/-- Sources that say nothing of the settings. -/
structure Silent (sources : Sources) : Prop where
  nowhere : Settings.locate? sources Settings.defaultPath = none
  unset : Settings.Environment.entries sources.environment = []

theorem Silent.load (h : Silent sources) :
    Settings.load sources Settings.defaultPath = .ok {} :=
  Settings.load_of_nothing h.nowhere h.unset

/-- A daemon that is launched with two durations begins to run. -/
theorem launch_of_durations (silent : Silent sources) (read : grammar.read args = .ok given)
    (request : Request.ofGiven given = durations grace unit) (hg : grace ≠ 0) (hu : unit ≠ 0) :
    ∃ d, launch host sources args = .ok d ∧
      d.Begun host (settingsOf grace unit) (deskOf sources grace unit) := by
  have valid : ((durations grace unit).overrides.apply {}).validate = .ok () :=
    validate_settingsOf hg hu
  have loaded : Settings.load sources (durations grace unit).config = .ok {} := silent.load
  have settled : settle sources (durations grace unit) [] = .ok (settingsOf grace unit) := by
    simp only [settle, loaded, valid]
    rfl
  have some : 0 < (settingsOf grace unit).workload.unit.nanos :=
    Nat.mul_pos (by decide) (Nat.pos_of_ne_zero fun none => hu (UInt64.toNat_inj.mp none))
  have started : ((Daemon.new (settingsOf grace unit) (durations grace unit).config
      (durations grace unit).overrides sources).start host) = _ :=
    Daemon.start_of_offline rfl _ _ _
  have opened : openLog sources (durations grace unit) = .ok ([], sources) := rfl
  refine ⟨_, ?_, Daemon.begun_of_ready some _ _ _⟩
  simp only [launch, read, request, perform, opened, bind, Except.bind, settled, serve, started]
  rfl

/-- A request to reload is answered with the settings in force. -/
theorem handler_deskOf (silent : Silent sources) (hg : grace ≠ 0) (hu : unit ≠ 0) :
    Desk.handler (deskOf sources grace unit) (settingsOf grace unit).workload =
      .ok (deskOf sources grace unit, some (settingsOf grace unit).workload) := by
  have valid : ((durations grace unit).overrides.apply {}).validate = .ok () :=
    validate_settingsOf hg hu
  have planned : (deskOf sources grace unit).reloader.plan sources =
      .ok (settingsOf grace unit) := by
    have loaded : Settings.load sources (deskOf sources grace unit).reloader.path = .ok {} :=
      silent.load
    simp only [Reloader.plan, loaded, bind, Except.bind]
    simp only [deskOf, valid]
    rfl
  exact Desk.handler_of_plan planned rfl

end Cli.Dvm

end Quiesce
