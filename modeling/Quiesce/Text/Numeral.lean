/-!
Whole numbers written in decimal. A numeral has at least one digit and may carry a sign,
a minus only where negative numbers are wanted. Reading goes from left to right and stops at
the first fault, be it a character that is no digit or a value outside the range.
-/
namespace Quiesce.Numeral

inductive Fault where
  | empty
  | invalidDigit
  | tooLarge
  | tooSmall
  deriving DecidableEq

def Fault.message : Fault → String
  | .empty => "cannot parse integer from empty string"
  | .invalidDigit => "invalid digit found in string"
  | .tooLarge => "number too large to fit in target type"
  | .tooSmall => "number too small to fit in target type"

def digit? (c : Char) : Option Nat :=
  if c.isDigit then some (c.toNat - 48) else none

/-- Reads on from the value `acc` of the digits before, up to `limit`. -/
def readDigits (limit : Nat) (beyond : Fault) : Nat → List Char → Except Fault Nat
  | acc, [] => .ok acc
  | acc, c :: cs =>
    match digit? c with
    | none => .error .invalidDigit
    | some d =>
      if acc * 10 + d > limit then .error beyond
      else readDigits limit beyond (acc * 10 + d) cs

/-- Reads a number from `0` to `limit`; a plus sign may precede it. -/
def readNat (limit : Nat) : List Char → Except Fault Nat
  | [] => .error .empty
  | [c] => readDigits limit .tooLarge 0 [c]
  | '+' :: cs => readDigits limit .tooLarge 0 cs
  | cs => readDigits limit .tooLarge 0 cs

/-- Reads a number from `-(limit + 1)` to `limit`. -/
def readInt (limit : Nat) : List Char → Except Fault Int
  | [] => .error .empty
  | [c] => (readDigits limit .tooLarge 0 [c]).map Int.ofNat
  | '+' :: cs => (readDigits limit .tooLarge 0 cs).map Int.ofNat
  | '-' :: cs => (readDigits (limit + 1) .tooSmall 0 cs).map fun n => -Int.ofNat n
  | cs => (readDigits limit .tooLarge 0 cs).map Int.ofNat

def readUInt64 (cs : List Char) : Except Fault UInt64 :=
  (readNat 18446744073709551615 cs).map UInt64.ofNat

def readUInt32 (cs : List Char) : Except Fault UInt32 :=
  (readNat 4294967295 cs).map UInt32.ofNat

def readUInt16 (cs : List Char) : Except Fault UInt16 :=
  (readNat 65535 cs).map UInt16.ofNat

def readInt64 (cs : List Char) : Except Fault Int := readInt 9223372036854775807 cs

def readInt32 (cs : List Char) : Except Fault Int32 :=
  (readInt 2147483647 cs).map Int32.ofInt

end Quiesce.Numeral
