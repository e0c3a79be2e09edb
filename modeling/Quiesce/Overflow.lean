/-!
Arithmetic that leaves its range. The program stops at it rather than go on with a wrong number.
-/
namespace Quiesce

inductive Overflow where
  | product
  | scaledDuration
  | instant
  /-- A position before the start of a list. -/
  | position
  /-- A list that no memory has room for. -/
  | capacity
  deriving DecidableEq

def Overflow.message : Overflow → String
  | product => "attempt to multiply with overflow"
  | scaledDuration => "overflow when multiplying duration by scalar"
  | instant => "overflow when adding duration to instant"
  | position => "attempt to subtract with overflow"
  | capacity => "capacity overflow"

end Quiesce
