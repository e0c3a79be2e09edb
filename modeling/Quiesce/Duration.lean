/-!
Lengths of time in whole nanoseconds. A duration counts seconds in 64 bits, so it stays
below `2 ^ 64` seconds; instants on the clock are plain natural numbers of nanoseconds.
-/
namespace Quiesce

/-- A length of time, in nanoseconds, of fewer than `2 ^ 64` seconds. -/
structure Duration where
  nanos : Nat
  bounded : nanos < 18446744073709551616000000000
  deriving DecidableEq

namespace Duration

def ofNanos? (n : Nat) : Option Duration :=
  if h : n < 18446744073709551616000000000 then some ⟨n, h⟩ else none

def zero : Duration := ⟨0, by decide⟩

instance : Inhabited Duration := ⟨zero⟩

def ofMillis (ms : UInt64) : Duration :=
  ⟨1000000 * ms.toNat, by have := ms.toNat_lt; omega⟩

def ofParts? (seconds nanos : Nat) : Option Duration :=
  ofNanos? (seconds * 1000000000 + nanos)

def seconds (d : Duration) : Nat := d.nanos / 1000000000

def subsecNanos (d : Duration) : Nat := d.nanos % 1000000000

def millis (d : Duration) : Nat := d.nanos / 1000000

/-- Whole milliseconds in a 64-bit word: higher bits are lost. -/
def millisWord (d : Duration) : UInt64 := UInt64.ofNat d.millis

theorem millis_ofMillis (ms : UInt64) : (ofMillis ms).millis = ms.toNat :=
  Nat.mul_div_cancel_left _ (by decide)

theorem toNat_millisWord (d : Duration) :
    d.millisWord.toNat = d.millis % 18446744073709551616 :=
  UInt64.toNat_ofNat'

theorem millisWord_ofMillis (ms : UInt64) : (ofMillis ms).millisWord = ms := by
  rw [millisWord, millis_ofMillis, UInt64.ofNat_toNat]

theorem nanos_ofMillis_lt_iff {a b : UInt64} : (ofMillis a).nanos < (ofMillis b).nanos ↔ a < b :=
  (Nat.mul_lt_mul_left (by decide)).trans UInt64.lt_iff_toNat_lt.symm

def isZero (d : Duration) : Bool := d.nanos == 0

def twice? (d : Duration) : Option Duration := ofNanos? (d.nanos * 2)

def padded (width n : Nat) : List Char :=
  let digits := Nat.toDigits 10 n
  List.replicate (width - digits.length) '0' ++ digits

def amount (whole part places : Nat) (unit : String) : String :=
  let digits := (padded places part).reverse.dropWhile (· == '0')
  if digits.isEmpty then s!"{whole}{unit}"
  else s!"{whole}.{String.ofList digits.reverse}{unit}"

/-- The duration in its largest unit of which it holds a whole one, nanoseconds at least. -/
def text (d : Duration) : String :=
  if d.nanos ≥ 1000000000 then amount d.seconds d.subsecNanos 9 "s"
  else if d.nanos ≥ 1000000 then amount (d.nanos / 1000000) (d.nanos % 1000000) 6 "ms"
  else if d.nanos ≥ 1000 then amount (d.nanos / 1000) (d.nanos % 1000) 3 "µs"
  else s!"{d.nanos}ns"

end Duration

end Quiesce
