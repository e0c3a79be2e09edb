import Quiesce.Decimal.Binary64

/-!
The shortest decimal numeral that reads back as a given number. The reals that round to a
number form an interval around it, whose ends belong to it when the mantissa is even. For one
digit, two digits and so on the two neighbours of the number on that decimal grid are tried, and
the first grid with a hit wins, of two hits the nearer.
-/
namespace Quiesce.Decimal

structure Digits where
  value : Nat
  exponent : Int

def tenScaled (n : Nat) (k : Int) : Nat × Nat :=
  if k ≥ 0 then (n * tenPow k.toNat, 1) else (n, tenPow (-k).toNat)

def twoScaled (n : Nat) (e : Int) : Nat × Nat :=
  if e ≥ 0 then (n * twoPow e.toNat, 1) else (n, twoPow (-e).toNat)

def ratioLt (a b : Nat × Nat) : Bool := a.1 * b.2 < b.1 * a.2

def ratioLe (a b : Nat × Nat) : Bool := a.1 * b.2 ≤ b.1 * a.2

def roundsTo (m : Nat) (e : Int) (x : Nat × Nat) : Bool :=
  let narrow := m = twoPow 52 && e > -1074
  let low := twoScaled (if narrow then 4 * m - 1 else 4 * m - 2) (e - 2)
  let high := twoScaled (4 * m + 2) (e - 2)
  if m % 2 = 0 then ratioLe low x && ratioLe x high else ratioLt low x && ratioLt x high

/-- The largest `k` with `10 ^ k ≤ x`, found from a guess that is at most one off. -/
def tenLog (x : Nat × Nat) : Int :=
  let guess : Int := (Nat.toDigits 10 x.1).length - (Nat.toDigits 10 x.2).length
  if ratioLe (tenScaled 1 guess) x then guess else guess - 1

def searchDigits (m : Nat) (e : Int) (top : Int) : Nat → Nat → Digits
  | 0, count =>
    let x := twoScaled m e
    let k := top - count + 1
    let (unit, den) := tenScaled 1 k
    ⟨x.1 * den / (x.2 * unit), k⟩
  | fuel + 1, count =>
    let x := twoScaled m e
    let k := top - count + 1
    let (unit, den) := tenScaled 1 k
    let down := x.1 * den / (x.2 * unit)
    let rest := x.1 * den % (x.2 * unit)
    let lowHit := down > 0 && roundsTo m e (tenScaled down k)
    let highHit := roundsTo m e (tenScaled (down + 1) k)
    if lowHit && (!highHit || 2 * rest ≤ x.2 * unit) then ⟨down, k⟩
    else if highHit then ⟨down + 1, k⟩
    else searchDigits m e top fuel (count + 1)

def dropZeros : Nat → Digits → Digits
  | 0, d => d
  | fuel + 1, d =>
    if d.value ≠ 0 ∧ d.value % 10 = 0 then dropZeros fuel ⟨d.value / 10, d.exponent + 1⟩ else d

def shortest (m : Nat) (e : Int) : Digits :=
  if m = 0 then ⟨0, 0⟩
  else dropZeros 20 (searchDigits m e (tenLog (twoScaled m e)) 17 1)

def Digits.positional (d : Digits) : String :=
  let digits := Nat.toDigits 10 d.value
  if d.exponent ≥ 0 then
    String.ofList (if d.value = 0 then digits else digits ++ List.replicate d.exponent.toNat '0')
  else
    let places := (-d.exponent).toNat
    let filled := List.replicate (places + 1 - digits.length) '0' ++ digits
    let whole := filled.take (filled.length - places)
    String.ofList (whole ++ '.' :: filled.drop (filled.length - places))

def powerText (power : Int) : String := if power < 0 then s!"e{power}" else s!"e+{power}"

def Digits.scientific (d : Digits) : String :=
  let digits := Nat.toDigits 10 d.value
  let power := powerText (d.exponent + digits.length - 1)
  match digits with
  | [] => "0"
  | [c] => s!"{c}{power}"
  | c :: cs => s!"{c}.{String.ofList cs}{power}"

namespace Binary64

def signText (negative : Bool) : String := if negative then "-" else ""

def plain : Binary64 → String
  | finite s m e => signText s ++ (shortest m e).positional
  | infinite s => signText s ++ "inf"
  | nan => "NaN"

def pointed : Binary64 → String
  | finite s m e =>
    let text := (shortest m e).positional
    signText s ++ if text.contains '.' then text else text ++ ".0"
  | x => x.plain

/-- The number with a point, or with an exponent where its first digit stands more than sixteen
places before the point or more than five behind it. -/
def compact : Binary64 → String
  | finite s m e =>
    let d := shortest m e
    let top := d.exponent + (Nat.toDigits 10 d.value).length
    if m = 0 ∨ (-5 < top ∧ top ≤ 16) then (finite s m e).pointed
    else signText s ++ d.scientific
  | x => x.plain

end Binary64

end Quiesce.Decimal
