import Quiesce.Json.Reader
import Quiesce.Toml.Settled
import Quiesce.Settings.Sources
import Quiesce.Settings.Coerce
import Quiesce.Settings.Environment

/-!
Loading settings: over the defaults lies a file, and over both the environment. The file need not
be there. One of exactly the given path is read if its name has an ending that is known; where there
is none, these endings are tried, those of TOML and JSON first. What cannot be read, or is no text,
is passed over.

The rules for finding a file, for laying one source over another and for guessing what a variable
holds are those of the `config` library. It is known to let later sources win, to merge tables name
by name, and to try a variable as a switch, as a whole number and as a binary number before it is a
text. How it spells paths, folds letters and puts up with values of another kind is as it was seen
to behave. Of two variables that spell one key the later one counts. Where one names a place and
another one a part of it, or names in a file differ by their letters only, the library takes them in
the order of a hash map, and here it is the order in which they come; so it is with the endings that
are tried.
-/
namespace Quiesce.Settings

def defaultPath : String := "dvm.toml"

/-- What a path may stand for whose name lacks the ending, each with its format. -/
def completions (s : Sources) (path : String) : List (String × Format) :=
  s.endings.map fun (ending, format) => (Path.plain path ++ "." ++ ending, format)

/-- The file of a path, whose name may lack the ending: the path to it and its format. -/
def find? (s : Sources) (path : String) : Option (String × Format) :=
  if s.folder.hasFile path then (s.format? path).map fun format => (path, format)
  else if (Path.fileName? path).isNone then none
  else (completions s path).find? fun file => s.folder.hasFile file.1

/-- The file that a path stands for: its plain path, its format and its content. -/
def locate? (s : Sources) (path : String) : Option (String × Format × ByteArray) := do
  let (path, format) ← find? s path
  let bytes ← s.folder.file? path
  return (Path.plain path, format, bytes)

def noTable (name : String) (value : Sourced) : Fault :=
  .malformed name s!"invalid type: {value.found}, expected a map in {name}"

def readEntries (name : String) (format : Format) (text : String) :
    Except Fault (List (String × Sourced)) :=
  match format with
  | .toml =>
    match Toml.readSettled? text with
    | some (.table entries) => .ok (Sourced.entriesOfToml name entries)
    | some value => .error (noTable name (Sourced.ofToml name value))
    | none => .error (.malformed name "TOML parse error")
  | .json =>
    match (Json.read? text).map Json.sorted with
    | some (.obj members) => .ok (Sourced.entriesOfJson name members)
    | some value => .error (noTable name (Sourced.ofJson name value))
    | none => .error (.malformed name "JSON parse error")
  | .other format => format.read name text

def fileEntries (s : Sources) (path : String) : Except Fault (List (String × Sourced)) :=
  match locate? s path with
  | none => .ok []
  | some (name, format, bytes) =>
    match String.fromUTF8? bytes with
    | none => .ok []
    | some text => readEntries name format text

/-- The settings that hold where no source says otherwise. -/
def defaultEntries : List (String × Sourced) :=
  let d : Settings := {}
  let int (n : Nat) : Sourced := .scalar none (.int n)
  [("lifecycle.grace_period_ms", int d.lifecycle.graceMs.toNat),
   ("workload.workers", int d.workload.workers.toNat),
   ("workload.unit_duration_ms", int d.workload.unitMs.toNat),
   ("workload.max_job_duration_ms", int d.workload.jobLimitMs.toNat),
   ("control.enabled", .scalar none (.bool d.control.enabled)),
   ("control.ip", .scalar none (.text d.control.ip)),
   ("control.port", int d.control.port.toNat)]

def layers (file environment : List (String × Sourced)) : Except Overflow Sourced := do
  let defaults ← layOver .empty defaultEntries
  layOver (← layOver defaults file) environment

def load (sources : Sources) (path : String) : Except Fault Settings := do
  let file ← fileEntries sources path
  let table ← (layers file (Environment.entries sources.environment)).mapError .overflow
  table.toSettings

end Quiesce.Settings
