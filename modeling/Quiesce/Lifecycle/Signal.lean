/-!
The requests that a process can be sent from outside, by what they ask for rather than by the
number that a system gives them.
-/
namespace Quiesce

inductive Signal where
  | interrupt
  | terminate
  | hangup
  | kill
  deriving DecidableEq

namespace Signal

def all : List Signal := [interrupt, terminate, hangup, kill]

/-- The conventional number, on which exit codes are based. -/
def number : Signal → Nat
  | hangup => 1
  | interrupt => 2
  | kill => 9
  | terminate => 15

/-- The signals other than a kill that are among those sent, in the order of their numbers. A
process that was busy takes them in this order, each once. -/
def inOrder (sent : List Signal) : List Signal :=
  [hangup, interrupt, terminate].filter sent.contains

/-- Interrupt and terminate ask the daemon to stop, and it can answer them. -/
def asksToStop : Signal → Bool
  | interrupt | terminate => true
  | hangup | kill => false

def name : Signal → String
  | interrupt => "interrupt"
  | terminate => "terminate"
  | hangup => "hangup-reload"
  | kill => "kill"

def ofName? : String → Option Signal
  | "interrupt" => some interrupt
  | "terminate" => some terminate
  | "hangup-reload" => some hangup
  | "kill" => some kill
  | _ => none

def systemName : Signal → String
  | hangup => "SIGHUP"
  | interrupt => "SIGINT"
  | kill => "SIGKILL"
  | terminate => "SIGTERM"

/-- The signal that a name in lower case or one of its short forms stands for. -/
def ofAlias? : String → Option Signal
  | "interrupt" | "int" | "sigint" => some interrupt
  | "terminate" | "term" | "sigterm" => some terminate
  | "hangup-reload" | "hangup" | "hup" | "sighup" => some hangup
  | "kill" | "sigkill" => some kill
  | _ => none

/-- Reads a signal's name or short form; the case of ASCII letters does not matter. A text
that stands for none comes back in lower case. -/
def read (text : String) : Except String Signal :=
  let lowered := text.map Char.toLower
  match ofAlias? lowered with
  | some signal => .ok signal
  | none => .error lowered

def unknownText (text : String) : String := s!"unknown signal kind '{text}'"

theorem ofName?_name (s : Signal) : ofName? s.name = some s := by cases s <;> rfl

end Signal

end Quiesce
