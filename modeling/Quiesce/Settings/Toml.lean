import Quiesce.Toml.Settled
import Quiesce.Toml.Printer
import Quiesce.Settings.Decode

/-!
Settings as TOML text. A number is written only if it fits into 64 bits with sign, the range of
TOML's whole numbers.
-/
namespace Quiesce.Settings

def outOfRangeText : String := "out-of-range value for u64 type"

def writeNat? (n : UInt64) : Option (List Char) :=
  if n.toNat ≤ 9223372036854775807 then some (Nat.toDigits 10 n.toNat) else none

def writeBool (b : Bool) : List Char := if b then "true".toList else "false".toList

def writeLine (key : String) (value : List Char) : List Char :=
  key.toList ++ " = ".toList ++ value ++ ['\n']

def toToml? (s : Settings) : Option String := do
  let grace ← writeNat? s.lifecycle.graceMs
  let workers ← writeNat? s.workload.workers
  let unit ← writeNat? s.workload.unitMs
  let limit ← writeNat? s.workload.jobLimitMs
  some <| String.ofList <|
    "[lifecycle]\n".toList ++ writeLine "grace_period_ms" grace ++
    "\n[workload]\n".toList ++ writeLine "workers" workers ++
    writeLine "unit_duration_ms" unit ++ writeLine "max_job_duration_ms" limit ++
    "\n[control]\n".toList ++ writeLine "enabled" (writeBool s.control.enabled) ++
    writeLine "ip" (Toml.writeString s.control.ip.toList) ++
    writeLine "port" (Nat.toDigits 10 s.control.port.toNat)

inductive TomlFault where
  | malformed
  | mismatch (cause : Json.Mismatch)
  deriving DecidableEq

/-- Takes the settings from a text that holds all three sections, without any other source. -/
def ofToml (text : String) : Except TomlFault Settings :=
  match Toml.read? text, Toml.readSettled? text with
  | some entries, some _ =>
    match decode .toml (Toml.toJson (.table entries)) with
    | .ok s => .ok s
    | .error cause => .error (.mismatch cause)
  | _, _ => .error .malformed

end Quiesce.Settings
