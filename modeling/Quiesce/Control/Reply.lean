import Quiesce.Json.Decode
import Quiesce.Json.Printer
import Quiesce.Settings.Decode
import Quiesce.Engine.Basic
import Quiesce.Control.Query

/-!
What a daemon answers to requests over the network: whether it is ready, what it has done, and
whether it takes on a job.
-/
namespace Quiesce.Control

inductive Body where
  | none
  | json (value : Json)
  | text (text : String)

structure Reply where
  status : Nat
  body : Body := .none
  allow : Option String := none

namespace Reply

def contentType? (r : Reply) : Option String :=
  match r.body with
  | .none => .none
  | .json _ => some "application/json"
  | .text _ => some "text/plain; charset=utf-8"

def content (r : Reply) : String :=
  match r.body with
  | .none => ""
  | .json value => value.compress
  | .text text => text

def refusal (status : Nat) (message : String) : Reply :=
  { status := status, body := .json (.obj [("error", .str message)]) }

end Reply

/-- What tells a job from others: its name and the moment at which it was taken on. -/
structure Ticket where
  id : String
  submittedAt : String

variable {D : Type}

def health (pid : UInt32) (e : Engine D) : Reply where
  status := if e.stage.acceptsWork then 200 else 503
  body := .json (.obj [("in_flight", .nat e.inFlight), ("pid", .nat pid.toNat),
    ("status", .str e.stage.name)])

def stats (e : Engine D) : Reply where
  status := 200
  body := .json (.obj [
    ("settings", e.pool.settings.toJson),
    ("state", .str e.stage.name),
    ("workload", .obj [
      ("in_flight", .nat e.inFlight),
      ("jobs_accepted", .nat e.pool.accepted),
      ("jobs_completed", .nat e.pool.completed),
      ("jobs_rejected", .nat e.pool.rejected),
      ("settings_applied", .nat e.pool.applied),
      ("units_completed", .nat e.pool.units)])])

def refusalStatus : JobFault → Nat
  | .notAccepting _ => 503
  | .tooLong _ _ => 400

/-- The answer to a request for a job, by what became of the job. -/
def jobReply (ticket : Ticket) : Except JobFault Duration → Reply
  | .ok d => {
      status := 202
      body := .json (.obj [("duration", .nat d.millisWord.toNat), ("id", .str ticket.id),
        ("submitted_at", .str ticket.submittedAt)]) }
  | .error fault => .refusal (refusalStatus fault) fault.message

/-- Takes on a job, as long as a unit of work if its length is not given, with nobody in between
what is read of the settings and the job that is handed in. -/
def submitJob (ticket : Ticket) (length : Option UInt64) (e : Engine D) :
    Reply × Engine D :=
  let d := (length.map Duration.ofMillis).getD e.pool.settings.unit
  let (outcome, e) := e.submit d
  (jobReply ticket outcome, e)

end Quiesce.Control
