import Quiesce.Json.Printer
import Quiesce.Trial.Fault

/-!
The report on a suite of trials, for people and for programs.
-/
namespace Quiesce.Trial

inductive Verdict where
  | passed (outcome : Outcome)
  | skipped (reason : String)
  | failed (error : String)

namespace Verdict

def ofResult : Except Fault Outcome → Verdict
  | .ok outcome => passed outcome
  | .error fault => if fault.isSkip then skipped fault.message else failed fault.message

def isPassed : Verdict → Bool
  | passed _ => true
  | _ => false

def isSkipped : Verdict → Bool
  | skipped _ => true
  | _ => false

def isFailed : Verdict → Bool
  | failed _ => true
  | _ => false

end Verdict

structure Entry where
  name : String
  verdict : Verdict

structure Report where
  os : String
  entries : List Entry

namespace Entry

def toJson (e : Entry) : Json :=
  .obj <| ("name", .str e.name) :: match e.verdict with
    | .passed outcome => [("status", .str "passed"), ("outcome", outcome.toJson)]
    | .skipped reason => [("status", .str "skipped"), ("reason", .str reason)]
    | .failed error => [("status", .str "failed"), ("error", .str error)]

def column (name : String) : String :=
  name ++ String.ofList (List.replicate (24 - name.length) ' ')

def line (e : Entry) : String :=
  match e.verdict with
  | .passed outcome => s!"✓ {column e.name} {outcome.text}"
  | .skipped reason => s!"- {column e.name} skipped: {reason}"
  | .failed error => s!"✗ {column e.name} {error}"

end Entry

namespace Report

def passed (r : Report) : Nat := r.entries.countP (·.verdict.isPassed)

def skipped (r : Report) : Nat := r.entries.countP (·.verdict.isSkipped)

def failed (r : Report) : Nat := r.entries.countP (·.verdict.isFailed)

def toJson (r : Report) : Json :=
  .obj [("os", .str r.os), ("scenarios", .arr (r.entries.map Entry.toJson))]

def lines (r : Report) : List String :=
  r.entries.map Entry.line ++
    ["", s!"{r.passed} passed, {r.skipped} skipped, {r.failed} failed on {r.os}"]

/-- A suite fails when one of its trials does; skipped ones do no harm. -/
def exitCode (r : Report) : Int32 := if r.failed > 0 then 1 else 0

end Report

end Quiesce.Trial
