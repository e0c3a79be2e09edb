import Quiesce.Control.Route
import Quiesce.Main
import Quiesce.Proofs.Engine.Interleaving
import Quiesce.Proofs.Lifecycle.CoreChange
import Quiesce.Proofs.Engine.Operations
import Quiesce.Proofs.Engine.Life
import Quiesce.Proofs.Engine.GracefulStop
import Quiesce.Proofs.Daemon.StopReport
import Quiesce.Proofs.Engine.Rounds
import Quiesce.Proofs.Engine.RunOutcome
import Quiesce.Proofs.Engine.Executor
import Quiesce.Proofs.Text.Numerals
import Quiesce.Proofs.StatusLine.RoundTrip
import Quiesce.Proofs.Trial.Matrix
import Quiesce.Proofs.Trial.Supervision
import Quiesce.Proofs.Trial.Tries
import Quiesce.Proofs.Trial.Escalation
import Quiesce.Proofs.Engine.DrainTiming
import Quiesce.Proofs.Cli.Launch
import Quiesce.Proofs.Engine.SignalAccounts
import Quiesce.Proofs.Cli.StandardSuite
import Quiesce.Proofs.Engine.Hush
import Quiesce.Proofs.Engine.Twins
import Quiesce.Proofs.Daemon.Course
import Quiesce.Proofs.Daemon.Lines
import Quiesce.Proofs.Daemon.LateLines
import Quiesce.Proofs.Engine.DrainReturn
import Quiesce.Proofs.StatusLine.Grammar
import Quiesce.Proofs.Trial.Deliveries
import Quiesce.Proofs.Cli.SuiteReport
import Quiesce.Proofs.Trial.Timeline
import Quiesce.Proofs.Control.Jobs
import Quiesce.Proofs.Settings.Layers
import Quiesce.Proofs.Settings.Present
import Quiesce.Proofs.Toml.Strings
import Quiesce.Proofs.Toml.Values
import Quiesce.Proofs.Toml.Documents
import Quiesce.Proofs.Settings.RoundTrip
import Quiesce.Proofs.Settings.Record
import Quiesce.Proofs.Cli.LongUnits
import Quiesce.Proofs.Lifecycle.Watchers
import Quiesce.Proofs.Control.DefaultJobs
import Quiesce.Proofs.Trial.ForeignLines
import Quiesce.Proofs.Settings.Variables
import Quiesce.Proofs.Engine.Punctual
import Quiesce.Proofs.Engine.Shifts
import Quiesce.Proofs.Engine.UnitBoundaries
import Quiesce.Proofs.Daemon.Manned
