import Quiesce.Text.Split
import Quiesce.Text.Numeral
import Quiesce.Lifecycle.Stage
import Quiesce.Lifecycle.Ending

/-!
The lines by which a daemon tells its supervisor how far it is. Each starts with `dvm: ` and a
verb; the facts after it are words `key=value`, of which the last one with a key counts and
unknown ones are skipped. Anything else on the same stream belongs to somebody else and is
refused by the reader.
-/
namespace Quiesce

inductive StatusLine where
  | ready (pid : UInt32) (control : Option String)
  | stage (stage : Stage)
  | stopped (reason : String) (code : Int32)
  deriving DecidableEq

namespace StatusLine

inductive Fault where
  | foreign (line : String)
  | empty
  | noPid
  | noStage
  | unknownStage (name : String)
  | noReason
  | noCode
  | unknownVerb (verb : String)
  deriving DecidableEq

def Fault.message : Fault → String
  | foreign line => s!"not a status line: '{line}'"
  | empty => "empty status line"
  | noPid => "ready line without pid"
  | noStage => "state line without state"
  | unknownStage name => Stage.unknownText name
  | noReason => "stopped line without reason"
  | noCode => "stopped line without code"
  | unknownVerb verb => s!"unknown status verb '{verb}'"

/-- The report of a daemon that stopped in this way. -/
def ofEnding (ending : Ending) : StatusLine := stopped ending.label ending.exitCode

def impliedStage : StatusLine → Stage
  | ready _ _ => .ready
  | stage s => s
  | stopped _ _ => .stopped

def render : StatusLine → String
  | ready pid control => "dvm: ready pid=" ++ toString pid ++ " control=" ++ control.getD "none"
  | stage s => s!"dvm: state {s.name}"
  | stopped reason code => s!"dvm: stopped reason={reason} code={code}"

abbrev Fact := List Char × List Char

def facts (words : List (List Char)) : List Fact := words.filterMap (Text.cutAt '=')

/-- The value of the last fact with this key that `keep` accepts. -/
def lastValue? (key : String) (keep : List Char → Bool) (facts : List Fact) :
    Option (List Char) :=
  (facts.reverse.find? fun fact => fact.1 == key.toList && keep fact.2).map (·.2)

def readReady (words : List (List Char)) : Except Fault StatusLine :=
  let facts := facts words
  let pid := (lastValue? "pid" (fun _ => true) facts).bind fun v => (Numeral.readUInt32 v).toOption
  let control := lastValue? "control" (· != "none".toList) facts
  match pid with
  | none => .error .noPid
  | some pid => .ok (.ready pid (control.map String.ofList))

/-- Reads the words after the verb of a stage line; only the first of them counts. -/
def readStage : List (List Char) → Except Fault StatusLine
  | [] => .error .noStage
  | word :: _ =>
    match Stage.ofName? (String.ofList word) with
    | none => .error (.unknownStage (String.ofList word))
    | some s => .ok (.stage s)

def readStopped (words : List (List Char)) : Except Fault StatusLine :=
  let facts := facts words
  let reason := lastValue? "reason" (fun _ => true) facts
  let code := (lastValue? "code" (fun _ => true) facts).bind fun v => (Numeral.readInt32 v).toOption
  match reason, code with
  | none, _ => .error .noReason
  | some _, none => .error .noCode
  | some reason, some code => .ok (.stopped (String.ofList reason) code)

/-- Reads the words of a line after its first five characters. -/
def readWords : List (List Char) → Except Fault StatusLine
  | [] => .error .empty
  | verb :: words =>
    if verb = "ready".toList then readReady words
    else if verb = "state".toList then readStage words
    else if verb = "stopped".toList then readStopped words
    else .error (.unknownVerb (String.ofList verb))

/-- Reads a line; white space at its end does not matter. -/
def read (line : String) : Except Fault StatusLine :=
  match Text.stripStart? "dvm: ".toList (Text.trimEnd line.toList) with
  | none => .error (.foreign line)
  | some body => readWords (Text.words body)

end StatusLine

end Quiesce
