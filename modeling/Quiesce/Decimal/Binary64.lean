/-!
Numbers in the binary format of 64 bits, as exact values: a finite one is a signed whole
mantissa below `2 ^ 53` times a power of two. Reading a decimal numeral takes the nearest such
number, of two equally near ones the one with the even mantissa.
-/
namespace Quiesce.Decimal

def twoPow (n : Nat) : Nat := Nat.pow 2 n

def tenPow (n : Nat) : Nat := Nat.pow 10 n

inductive Binary64 where
  | finite (negative : Bool) (mantissa : Nat) (exponent : Int)
  | infinite (negative : Bool)
  | nan
  deriving DecidableEq

namespace Binary64

/-- The quotient of `num` and `den` to the nearest whole number, a tie to the even one. -/
def roundQuotient (num den : Nat) : Nat :=
  let whole := num / den
  let rest := num % den
  if 2 * rest > den || (2 * rest == den && whole % 2 == 1) then whole + 1 else whole

def roundScaled (num den : Nat) (e : Int) : Nat :=
  if e ≥ 0 then roundQuotient num (den * twoPow e.toNat)
  else roundQuotient (num * twoPow (-e).toNat) den

def ofRatio (negative : Bool) (num den : Nat) : Binary64 :=
  if num = 0 then finite negative 0 0
  else
    let guess : Int := (Nat.log2 num : Int) - (Nat.log2 den : Int) - 53
    let wide : Bool :=
      if guess ≥ 0 then num / (den * twoPow guess.toNat) ≥ twoPow 53
      else num * twoPow (-guess).toNat / den ≥ twoPow 53
    let e := max (if wide then guess + 1 else guess) (-1074)
    let m := roundScaled num den e
    let (m, e) := if m = twoPow 53 then (twoPow 52, e + 1) else (m, e)
    if m = 0 then finite negative 0 0
    else if e > 971 then infinite negative
    else finite negative m e

/-- The number nearest to `digits * 10 ^ exponent`. Exponents so large or so small that the
answer is settled without the division are settled without it. -/
def ofDecimal (negative : Bool) (digits : Nat) (exponent : Int) : Binary64 :=
  if digits = 0 then finite negative 0 0
  else
    let size : Int := (Nat.toDigits 10 digits).length + exponent
    if size > 310 then infinite negative
    else if size < -400 then finite negative 0 0
    else if exponent ≥ 0 then ofRatio negative (digits * tenPow exponent.toNat) 1
    else ofRatio negative digits (tenPow (-exponent).toNat)

def ofInt (n : Int) : Binary64 := ofRatio (n < 0) n.natAbs 1

def isZero : Binary64 → Bool
  | finite _ m _ => m == 0
  | _ => false

/-- The number to the nearest whole one, a half away from zero, and then to the range from `0`
to `limit`; what is no number counts as zero. -/
def toNatSaturating (limit : Nat) : Binary64 → Nat
  | finite true _ _ => 0
  | finite false m e =>
    if e ≥ 0 then min limit (m * twoPow e.toNat)
    else
      let half := twoPow ((-e).toNat - 1)
      min limit ((m + half) / (2 * half))
  | infinite true => 0
  | infinite false => limit
  | nan => 0

/-- The same for a range on both sides of zero, from `-(limit + 1)` to `limit`. -/
def toIntSaturating (limit : Nat) : Binary64 → Int
  | finite true m e => -(Int.ofNat (toNatSaturating (limit + 1) (finite false m e)))
  | infinite true => -(Int.ofNat (limit + 1))
  | x => Int.ofNat (toNatSaturating limit x)

end Binary64

end Quiesce.Decimal
