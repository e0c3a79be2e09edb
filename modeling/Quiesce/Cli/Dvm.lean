import Quiesce.Cli.Arguments
import Quiesce.Daemon.Basic
import Quiesce.Settings.Toml

/-!
The command line of the daemon. It prints or checks settings, or loads them and starts a daemon,
which then runs until it is told to stop.
-/
namespace Quiesce.Cli.Dvm

open Settings (Sources)

def isWord64 (text : String) : Bool := (Numeral.readUInt64 text.toList).isOk

def port? (text : String) : Option UInt16 :=
  match Numeral.readInt64 text.toList with
  | .ok n => if 0 ≤ n ∧ n ≤ 65535 then some (UInt16.ofNat n.toNat) else none
  | .error _ => none

def grammar : Grammar where
  choices := [
    { long := "config", short := some 'c', accepts := some (· ≠ "") },
    { long := "debug", short := some 'd' },
    { long := "verbose", short := some 'v' },
    { long := "quiet", short := some 'q' },
    { long := "validate-config" },
    { long := "print-config" },
    { long := "log-format", accepts := some fun _ => true },
    { long := "log-file", accepts := some (· ≠ "") },
    { long := "grace-period-ms", accepts := some isWord64 },
    { long := "workers", accepts := some isWord64 },
    { long := "unit-duration-ms", accepts := some isWord64 },
    { long := "control-port", accepts := some fun v => (port? v).isSome },
    { long := "no-control" }]
  repeatable := true
  hasVersion := true

structure Request where
  config : String := Settings.defaultPath
  validateOnly : Bool := false
  printConfig : Bool := false
  logFormat : Option String := none
  logFile : Option String := none
  overrides : Overrides := {}

def word64? (given : Given) (name : String) : Option UInt64 :=
  (given.value? name).bind fun text => (Numeral.readUInt64 text.toList).toOption

def Request.ofGiven (given : Given) : Request where
  config := (given.value? "config").getD Settings.defaultPath
  validateOnly := given.has "validate-config"
  printConfig := given.has "print-config"
  logFormat := given.value? "log-format"
  logFile := given.value? "log-file"
  overrides := {
    graceMs := word64? given "grace-period-ms"
    workers := word64? given "workers"
    unitMs := word64? given "unit-duration-ms"
    controlPort := (given.value? "control-port").bind port?
    disableControl := given.has "no-control" }

def printedConfig : List String :=
  ["# dvm configuration file",
   "# Every key is optional; environment variables override the file,",
   "# e.g. DVM_LIFECYCLE__GRACE_PERIOD_MS=2000",
   ""] ++
    ((Text.splitWhen (· = '\n') ((Settings.toToml? {}).getD "").toList).map String.ofList)

def openLog (sources : Sources) (r : Request) : Except Printed (List String × Sources) :=
  let warning := match r.logFormat with
    | none | some "json" | some "compact" | some "pretty" => []
    | some format => [s!"Warning: Unknown log format '{format}', using compact"]
  match r.logFile with
  | none => .ok (warning, sources)
  | some path =>
    if (Path.fileName? path).isNone then
      .error { code := 1, stderr := [s!"Error: Log file path {path} has no file name"] }
    else
      match sources.folder.openForWriting path with
      | .ok folder => .ok (warning, { sources with folder := folder })
      | .error _ => .error { code := 101 }

def failed (earlier : List String) (text : String) : Printed :=
  { code := 1, stderr := earlier ++ [s!"dvm: {text}"] }

def settle (sources : Sources) (r : Request) (said : List String) : Except Printed Settings :=
  match Settings.load sources r.config with
  | .error fault =>
    .error (failed said s!"Failed to load configuration from {r.config}: {fault.message}")
  | .ok loaded =>
    let settings := r.overrides.apply loaded
    match settings.validate with
    | .error fault =>
      let mark :=
        if r.validateOnly then [s!"✗ Configuration validation failed: {fault.message}"] else []
      .error (failed (said ++ mark) s!"Invalid configuration: {fault.message}")
    | .ok _ =>
      if r.validateOnly then
        .error { code := 0, stdout := ["✓ Configuration is valid"], stderr := said }
      else .ok settings

def startFailure (fault : Fault) : String :=
  match fault.source? with
  | some source => s!"Failed to start daemon: {fault.message}: {source}"
  | none => s!"Failed to start daemon: {fault.message}"

def serve (host : Host) (sources : Sources) (r : Request) (said : List String)
    (settings : Settings) : Except Printed Daemon :=
  match (Daemon.new settings r.config r.overrides sources).start host with
  | (.ok _, d) => .ok d.beginRun.settle
  | (.error fault, d) =>
    .error { failed said (startFailure fault) with stdout := d.lines.map (·.2.render) }

def perform (host : Host) (sources : Sources) (r : Request) : Except Printed Daemon := do
  if r.printConfig then .error { code := 0, stdout := printedConfig }
  else
    let (said, sources) ← openLog sources r
    let settings ← settle sources r said
    serve host sources r said settings

def stopped : Stop → Printed
  | .usage => { code := 2 }
  | .help => { code := 0, stdout := ["Usage: dvm [OPTIONS]"] }
  | .version => { code := 0, stdout := ["dvm 0.1.0"] }

def launch (host : Host) (sources : Sources) (args : List String) : Except Printed Daemon :=
  match grammar.read args with
  | .error stop => .error (stopped stop)
  | .ok given => perform host sources (Request.ofGiven given)

def configPath (args : List String) : String :=
  match grammar.read args with
  | .ok given => (Request.ofGiven given).config
  | .error _ => Settings.defaultPath

/-- What a daemon takes from a line that is typed to it: a signal by its name, or a number of
milliseconds that pass. -/
def hear (d : Daemon) (line : String) : Daemon :=
  match Signal.ofName? line, Numeral.readUInt64 line.toList with
  | some s, _ => (d.raise [s]).settle
  | none, .ok ms => d.advance (.ofMillis ms)
  | none, .error _ => d

/-- How a daemon ends that nobody speaks to any more: one that drains goes on, any other one is
left without its channel. -/
def farewell (d : Daemon) : Printed :=
  let d := d.play []
  match d.exit? with
  | some (_, code) => { code := code.toUInt32.toUInt8 }
  | none => failed [] s!"Daemon stopped abnormally: {Fault.channelClosed.message}"

end Quiesce.Cli.Dvm
