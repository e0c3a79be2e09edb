import Quiesce.Folder
import Quiesce.Settings.Fault
import Quiesce.Settings.Sourced

/-!
Where settings come from besides the command line: the files of a directory and the variables of
an environment, which keep the order in which they were set. Files are written in TOML, in JSON or
in another format that the build happens to know.
-/
namespace Quiesce.Settings

/-- A format of files besides TOML and JSON: how the names of its files end, and what a text of it
says, of which the first argument tells where it comes from. -/
structure OtherFormat where
  endings : List String
  read : String → String → Except Fault (List (String × Sourced))

inductive Format where
  | toml
  | json
  | other (format : OtherFormat)

structure Sources where
  folder : Folder := {}
  environment : List (String × String) := []
  others : List OtherFormat := []

namespace Sources

/-- The endings that are known, each with its format. -/
def endings (s : Sources) : List (String × Format) :=
  ("toml", .toml) :: ("json", .json) ::
    s.others.flatMap fun other => other.endings.map fun ending => (ending, .other other)

/-- The format that the name of a file tells. -/
def format? (s : Sources) (path : String) : Option Format := do
  let ending ← Path.ending? path
  (s.endings.find? (·.1 == ending)).map (·.2)

def setFile (s : Sources) (path : String) : Option ByteArray → Sources
  | some content => { s with folder := s.folder.put path content }
  | none => { s with folder := s.folder.remove path }

/-- Gives a variable a value. One that is there keeps its position. -/
def assign (name value : String) : List (String × String) → List (String × String)
  | [] => [(name, value)]
  | (n, v) :: rest => if n = name then (n, value) :: rest else (n, v) :: assign name value rest

def setVariable (s : Sources) (name : String) : Option String → Sources
  | some value => { s with environment := assign name value s.environment }
  | none => { s with environment := s.environment.filter (·.1 != name) }

end Sources

end Quiesce.Settings
