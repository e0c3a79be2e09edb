import Quiesce.Trial.Fault

/-!
Which signals a supervisor can send on a system.
-/
namespace Quiesce.Trial

structure Capability where
  os : String
  supported : List Signal

namespace Capability

def current : Capability := ⟨"linux", Signal.all⟩

def supports (c : Capability) (signal : Signal) : Bool := c.supported.contains signal

def firstUnsupported? (c : Capability) (signals : List Signal) : Option Signal :=
  signals.find? fun signal => !c.supports signal

def check (c : Capability) (signals : List Signal) : Except Fault Unit :=
  match c.firstUnsupported? signals with
  | some signal => .error (.unsupported signal c.os)
  | none => .ok ()

end Capability

end Quiesce.Trial
