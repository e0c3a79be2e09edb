import Quiesce.Cli.Dvm
import Quiesce.Trial.Script
import Quiesce.Trial.Session

/-!
The programs of a directory that can be launched: the daemon itself, and a stand-in that follows a
script. Any other file of the directory is none that can be run.
-/
namespace Quiesce.Trial

open Settings (Sources)

def lineBytes (text : String) : List UInt8 := (text ++ "\n").toUTF8.toList

def daemonLife (host : Host) (sources : Sources) (args : List String) : Behaviour := fun signals =>
  match Cli.Dvm.launch host sources args with
  | .error printed =>
    { output := printed.stdout.map fun line => (0, lineBytes line)
      remarks := printed.stderr
      exit := some (0, .code printed.code.toNat) }
  | .ok daemon =>
    let d := daemon.play signals
    { output := d.lines.map fun (t, line) => (t, lineBytes line.render)
      exit := d.exit?.map fun (t, code) => (t, .code code.toUInt32.toNat) }

structure Directory where
  host : Host
  sources : Sources
  script : Option Script := none

namespace Directory

def daemonPath : String := "./dvm"

def scriptPath : String := "./fake-daemon"

def systemFiles : List String := ["/dev/null"]

def systemDirectories : List (List String) :=
  [["bin"], ["etc"], ["proc"], ["root"], ["tmp"], ["usr"], ["usr", "bin"], ["var"]]

def install (sources : Sources) (script : Option Script) : Sources :=
  let programs := daemonPath :: (if script.isSome then [scriptPath] else [])
  let folder := (programs ++ systemFiles).foldl (fun folder path => folder.put path .empty)
    sources.folder
  { sources with folder := { folder with
      directories := folder.directories ++ systemDirectories.map fun names => ⟨.top, names⟩
      running := programs.map fun path => ⟨.here, Path.names path⟩ } }

def new (host : Host) (sources : Sources) (script : Option Script) : Directory :=
  ⟨host, install sources script, script⟩

def nulByte : HostFault := .other "nul byte found in provided data"

def hasNulByte (d : Directory) (path : String) (args : List String) : Bool :=
  (path :: args ++ d.sources.environment.flatMap fun (name, value) => [name, value]).any
    (·.toList.contains '\x00')

/-- Launches the program at a path. Any other file, and any directory, cannot be run. -/
def launchAt (d : Directory) (args : List String) (path : String) :
    Except HostFault Behaviour := do
  let place ← d.sources.folder.resolve path
  if place = ⟨.here, Path.names daemonPath⟩ then .ok (daemonLife d.host d.sources args)
  else
    match d.script with
    | some script =>
      if place = ⟨.here, Path.names scriptPath⟩ then .ok script.life else .error .accessDenied
    | none => .error .accessDenied

def searchPath (d : Directory) : List String :=
  let text := ((d.sources.environment.find? (·.1 == "PATH")).map (·.2)).getD "/usr/bin:/bin"
  (Text.splitWhen (· = ':') text.toList).map String.ofList

/-- Launches the first program of that name. One that cannot be run is passed over, but not
forgotten where no other one is found. -/
def search (d : Directory) (args : List String) (name : String) (last : HostFault) :
    List String → Except HostFault Behaviour
  | [] => .error last
  | directory :: rest =>
    match d.launchAt args (if directory = "" then name else directory ++ "/" ++ name) with
    | .ok behaviour => .ok behaviour
    | .error cause =>
      if cause = .noSuchFile ∨ cause = .notADirectory then
        search d args name (if last = .accessDenied then last else cause) rest
      else if cause = .accessDenied then search d args name cause rest
      else .error cause

def launch (d : Directory) (program : String) (args : List String) :
    Except HostFault Behaviour :=
  if d.hasNulByte program args then .error nulByte
  else if program = "" then .error .noSuchFile
  else if program.toList.contains '/' then d.launchAt args program
  else if program.utf8ByteSize > Path.maxName then .error .nameTooLong
  else d.search args program .noSuchFile d.searchPath

end Directory

end Quiesce.Trial
