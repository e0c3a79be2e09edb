import Quiesce.Duration
import Quiesce.Json.Basic

/-!
How a watched process ended, and whether that counts as graceful: it does when the process
exited with code `0` in less than the bound.
-/
namespace Quiesce.Trial

/-- The end of a process as the system reports it. -/
inductive Exit where
  | code (code : Nat)
  | signal (number : Nat)
  | other (status : Nat)
  deriving DecidableEq

namespace Exit

/-- Reads a status word: the low seven bits are `0` for a process that exited, with its code in
the next byte, and otherwise the number of the signal that ended it, `127` excepted. -/
def ofStatusWord (word : Int32) : Exit :=
  let n := word.toUInt32.toNat
  if n % 128 = 0 then code (n / 256 % 256)
  else if n % 128 = 127 then other n
  else signal (n % 128)

def code? : Exit → Option Int32
  | code n => some (Int32.ofNat n)
  | _ => none

def signal? : Exit → Option Int32
  | signal n => some (Int32.ofNat n)
  | _ => none

def signalTitle : Nat → String
  | 1 => " (SIGHUP)"
  | 2 => " (SIGINT)"
  | 9 => " (SIGKILL)"
  | 15 => " (SIGTERM)"
  | _ => ""

def text : Exit → String
  | code n => s!"exit status: {n}"
  | signal n => s!"signal: {n}{signalTitle n}"
  | other n => s!"wait status: {n}"

end Exit

structure Outcome where
  exitCode : Option Int32
  endingSignal : Option Int32
  elapsed : Duration
  graceful : Bool
  deriving DecidableEq

namespace Outcome

def classify (exit : Exit) (elapsed graceBound : Duration) : Outcome where
  exitCode := exit.code?
  endingSignal := exit.signal?
  elapsed := elapsed
  graceful := exit.code? = some 0 && elapsed.nanos < graceBound.nanos

def text (o : Outcome) : String :=
  let manner := if o.graceful then "graceful" else "forced"
  match o.exitCode, o.endingSignal with
  | some code, _ => s!"{manner} exit code {code} after {o.elapsed.text}"
  | none, some signal => s!"{manner} death by signal {signal} after {o.elapsed.text}"
  | none, none => s!"{manner} exit without code after {o.elapsed.text}"

private def codeJson : Option Int32 → Json
  | none => .null
  | some code => .int code.toInt

def toJson (o : Outcome) : Json :=
  .obj [("exit_code", codeJson o.exitCode), ("terminating_signal", codeJson o.endingSignal),
    ("elapsed_ms", .nat o.elapsed.millisWord.toNat), ("graceful", .bool o.graceful)]

end Outcome

end Quiesce.Trial
