import Quiesce.Control.Reply
import Quiesce.Control.Target

/-!
Which request gets which answer. Each path answers to one method; where that is to read, it also
answers a request for the head alone, without a body.
-/
namespace Quiesce.Control

structure Request where
  method : String
  target : String

variable {D : Type}

def read (method : String) (reply : Reply) : Reply :=
  if method = "GET" ∨ method = "HEAD" then reply
  else { status := 405, allow := some "GET,HEAD" }

def postJob (ticket : Ticket) (method : String) (query : List Char) (e : Engine D) :
    Reply × Engine D :=
  if method = "POST" then
    match duration? query with
    | .ok length => submitJob ticket length e
    | .error fault => ({ status := 400, body := .text fault.message }, e)
  else ({ status := 405, allow := some "POST" }, e)

def answer (pid : UInt32) (ticket : Ticket) (request : Request) (e : Engine D) :
    Reply × Engine D :=
  let target := Target.read request.target
  match String.ofList target.path with
  | "/health" => (read request.method (health pid e), e)
  | "/stats" => (read request.method (stats e), e)
  | "/jobs" => postJob ticket request.method target.query e
  | _ => ({ status := 404 }, e)

/-- The body that goes out: none where only the head was asked for. -/
def sent (request : Request) (reply : Reply) : String :=
  if request.method = "HEAD" then "" else reply.content

end Quiesce.Control
