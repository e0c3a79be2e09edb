import Quiesce.Duration

/-!
The clock. An instant is a number of nanoseconds since the clock was started. Timers have a
resolution of a millisecond: one that is set for an instant goes off at the first whole
millisecond that is not before it.
-/
namespace Quiesce

abbrev Instant := Nat

namespace Clock

/-- The instant at which a timer set for `t` goes off: what is missing to a whole millisecond is
added. -/
def tick (t : Instant) : Instant := t + (1000000 - t % 1000000) % 1000000

/-- Instants lie within this many nanoseconds. The system's own clock, which stops short of
`2 ^ 63` seconds, had been running for a while when this one was started. -/
def horizon : Nat := 9223372036854700000000000000

def after? (now : Instant) (d : Duration) : Option Instant :=
  if now + d.nanos < horizon then some (now + d.nanos) else none

/-- Thirty years, which stand for a wait without end. -/
def ages : Nat := 946080000000000000

def wake (now : Instant) (d : Duration) : Instant :=
  tick ((after? now d).getD (now + ages))

end Clock

def Duration.between (start stop : Instant) : Duration :=
  (Duration.ofNanos? (stop - start)).getD ⟨18446744073709551615999999999, by decide⟩

end Quiesce
