import Quiesce.Json.Basic
import Quiesce.Decimal.Scaling
import Quiesce.Text.Digits

/-!
What number a numeral stands for. One without fraction and exponent has its exact value if that
fits into 64 bits. Of any other as many digits are taken as fit into 64 bits, and their number is
scaled by the power of ten, which need not give the number nearest to the numeral.
-/
namespace Quiesce.Json

open Decimal (Binary64)
open Text (digitsValue)

/-- Adds digits behind a number as long as it fits into 64 bits, and counts those that remain. -/
def takeDigits (n : Nat) : List Char → Nat × Nat
  | [] => (n, 0)
  | c :: cs =>
    let next := n * 10 + digitsValue 10 [c]
    if next < 18446744073709551616 then takeDigits next cs else (n, cs.length + 1)

/-- The whole number of digits, if it fits into 64 bits, with sign if it is negative. There is no
negative zero among whole numbers. -/
def wholeNumber? (negative : Bool) (digits : List Char) : Option Int :=
  let n := digitsValue 10 digits
  if negative then if 0 < n ∧ n ≤ 9223372036854775808 then some (-(n : Int)) else none
  else if n < 18446744073709551616 then some n else none

/-- The binary number of a numeral's parts; one that is too large is refused. A digit before the
point that is not taken still counts by its place. -/
def binaryNumber? (negative : Bool) (whole fraction : List Char) (exponent : Int) :
    Option Binary64 :=
  let (n, left) := takeDigits 0 whole
  let (n, ignored) := takeDigits n fraction
  Binary64.scale? (exponent + left - (fraction.length - ignored)) (.ofRatio negative n 1)

def numberOf? (negative : Bool) (whole fraction : List Char) (exponent : Option Int) :
    Option Json :=
  let plain := if fraction.isEmpty && exponent.isNone then wholeNumber? negative whole else none
  match plain with
  | some n => some (int n)
  | none => (binaryNumber? negative whole fraction (exponent.getD 0)).map real

end Quiesce.Json
