import Quiesce.StatusLine

/-!
What a supervisor learns from a daemon's output. The output is read line by line; lines that are no
status lines belong to somebody else. Reading ends at the end of the output, or for good at a line
that is not text.
-/
namespace Quiesce.Trial

/-- What has been learned from status lines so far. -/
structure Observation where
  ready : Option (UInt32 × Option String) := none
  lastStage : Option Stage := none
  stopped : Option (String × Int32) := none
  deriving DecidableEq

namespace Observation

def record (o : Observation) (line : StatusLine) : Observation :=
  let o := { o with lastStage := some line.impliedStage }
  match line with
  | .ready pid control => { o with ready := some (pid, control) }
  | .stopped reason code => { o with stopped := some (reason, code) }
  | .stage _ => o

/-- The lines of an output. An unterminated last one counts once the output has ended. -/
def splitLines (ended : Bool) (bytes : List UInt8) : List (List UInt8) :=
  let pieces := Text.splitWhen (· = 10) bytes
  let complete := pieces.dropLast.map (Text.dropLastIf 13)
  match pieces.getLast? with
  | some last => if ended && !last.isEmpty then complete ++ [last] else complete
  | none => complete

def lineText? (bytes : List UInt8) : Option String := String.fromUTF8? ⟨bytes.toArray⟩

/-- Learns from lines, up to one that is not text. -/
def readLines (o : Observation) : List (List UInt8) → Observation
  | [] => o
  | bytes :: rest =>
    match lineText? bytes with
    | none => o
    | some text =>
      match StatusLine.read text with
      | .ok line => (o.record line).readLines rest
      | .error _ => o.readLines rest

def ofOutput (ended : Bool) (bytes : List UInt8) : Observation :=
  readLines {} (splitLines ended bytes)

end Observation

end Quiesce.Trial
