import Quiesce.Decimal.Binary64

/-!
Arithmetic on binary numbers: the product and the quotient are the numbers nearest to the exact
ones. Scaling by a power of ten multiplies or divides by the binary number nearest to that power,
so a result may be off by more than the scaled number itself was.
-/
namespace Quiesce.Decimal.Binary64

def ofScaled (negative : Bool) (m n : Nat) (e : Int) : Binary64 :=
  if e ≥ 0 then ofRatio negative (m * twoPow e.toNat) n
  else ofRatio negative m (n * twoPow (-e).toNat)

def product : Binary64 → Binary64 → Binary64
  | finite s m e, finite t n f => ofScaled (s != t) (m * n) 1 (e + f)
  | finite s _ _, infinite t | infinite s, finite t _ _ | infinite s, infinite t =>
    infinite (s != t)
  | _, _ => nan

def quotient : Binary64 → Binary64 → Binary64
  | finite s m e, finite t n f => ofScaled (s != t) m n (e - f)
  | finite s _ _, infinite t => finite (s != t) 0 0
  | infinite s, finite t _ _ => infinite (s != t)
  | _, _ => nan

def ofTenPow (n : Nat) : Binary64 := ofDecimal false 1 n

def maxTenPow : Nat := 308

/-- A number divided by a power of ten, by the largest one as often as that is needed. Nothing is
left of a number by the third time. -/
def shrink : Nat → Nat → Binary64 → Binary64
  | 0, _, x => x
  | fuel + 1, power, x =>
    if power ≤ maxTenPow then x.quotient (ofTenPow power)
    else if x.isZero then x
    else shrink fuel (power - maxTenPow) (x.quotient (ofTenPow maxTenPow))

def grow? (power : Nat) (x : Binary64) : Option Binary64 :=
  if power ≤ maxTenPow then
    match x.product (ofTenPow power) with
    | infinite _ => none
    | y => some y
  else if x.isZero then some x
  else none

def scale? (power : Int) (x : Binary64) : Option Binary64 :=
  if power ≥ 0 then grow? power.toNat x else some (shrink 4 (-power).toNat x)

end Quiesce.Decimal.Binary64
