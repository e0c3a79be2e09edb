import Quiesce.Address
import Quiesce.HostFault
import Quiesce.Settings.Basic

/-!
What a daemon asks of the system that it runs on: its own number, and an address to listen at.
-/
namespace Quiesce

structure Host where
  pid : UInt32
  /-- The port given to those that leave the choice to the system. -/
  freePort : UInt16
  /-- Addresses that are not this host's own. -/
  foreign : List Address := []
  names : List (String × Address) := [("localhost", .v4 [127, 0, 0, 1])]

namespace Host

def resolve? (h : Host) (text : String) : Option Address :=
  match Address.locate? text with
  | some address => some address
  | none => (h.names.find? (·.1 == text.map Char.toLower)).map (·.2)

def listen (h : Host) (c : ControlSettings) : Except HostFault (Address × UInt16) :=
  match h.resolve? c.ip with
  | none => .error (.other "failed to lookup address information: Name or service not known")
  | some address =>
    if h.foreign.contains address then .error .addressUnavailable
    else .ok (address, if c.port = 0 then h.freePort else c.port)

end Host

end Quiesce
