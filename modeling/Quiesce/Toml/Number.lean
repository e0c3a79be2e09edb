import Quiesce.Toml.Basic
import Quiesce.Toml.Text

/-!
Numbers in TOML. Digits may be set apart by single underscores; a whole number fits into 64 bits
with sign, in base ten without zeros in front.
-/
namespace Quiesce.Toml

open Decimal (Binary64)
open Text (isHexDigit digitsValue)

/-- Reads digits with single underscores between them. At an underscore and at the start a digit
is `needed` next. -/
def readRun (isDigit : Char → Bool) (needed : Bool) :
    List Char → Option (List Char × List Char)
  | [] => if needed then none else some ([], [])
  | c :: cs =>
    if isDigit c then push c (readRun isDigit false cs)
    else if needed then none
    else if c = '_' then readRun isDigit true cs
    else some ([], c :: cs)

/-- Reads the digits before a point: a single zero, or digits that start with another. -/
def readWhole : List Char → Option (List Char × List Char)
  | '0' :: cs => some (['0'], cs)
  | cs => readRun Char.isDigit true cs

def intOf? (negative : Bool) (n : Nat) : Option Toml :=
  if negative then if n ≤ 9223372036854775808 then some (int (-(n : Int))) else none
  else if n ≤ 9223372036854775807 then some (int n) else none

def readBased (base : Nat) (isDigit : Char → Bool) (cs : List Char) :
    Option (Toml × List Char) := do
  let (digits, rest) ← readRun isDigit true cs
  return (← intOf? false (digitsValue base digits), rest)

def readExponent : List Char → Option (Option Int × List Char)
  | c :: cs =>
    if c = 'e' ∨ c = 'E' then do
      let (negative, cs) := match cs with
        | '+' :: cs => (false, cs)
        | '-' :: cs => (true, cs)
        | cs => (false, cs)
      let (digits, rest) ← readRun Char.isDigit true cs
      let n : Int := digitsValue 10 digits
      some (some (if negative then -n else n), rest)
    else some (none, c :: cs)
  | [] => some (none, [])

def realOf? (negative : Bool) (digits : List Char) (exponent : Int) : Option Toml :=
  match Binary64.ofDecimal negative (digitsValue 10 digits) exponent with
  | .infinite false => none
  | x => some (real x)

def readDecimal (negative : Bool) (cs : List Char) : Option (Toml × List Char) := do
  let (whole, rest) ← readWhole cs
  match rest with
  | '.' :: rest =>
    let (fraction, rest) ← readRun Char.isDigit true rest
    let (exponent, rest) ← readExponent rest
    return (← realOf? negative (whole ++ fraction) (exponent.getD 0 - fraction.length), rest)
  | _ =>
    let (exponent, rest) ← readExponent rest
    match exponent with
    | some e => return (← realOf? negative whole e, rest)
    | none => return (← intOf? negative (digitsValue 10 whole), rest)

def readNumber : List Char → Option (Toml × List Char)
  | '+' :: cs => signed false cs
  | '-' :: cs => signed true cs
  | '0' :: 'x' :: cs => readBased 16 isHexDigit cs
  | '0' :: 'o' :: cs => readBased 8 (fun c => '0' ≤ c && c ≤ '7') cs
  | '0' :: 'b' :: cs => readBased 2 (fun c => c = '0' || c = '1') cs
  | cs => signed false cs
where
  signed (negative : Bool) : List Char → Option (Toml × List Char)
    | 'i' :: 'n' :: 'f' :: cs => some (real (.infinite negative), cs)
    | 'n' :: 'a' :: 'n' :: cs => some (real .nan, cs)
    | cs => readDecimal negative cs

end Quiesce.Toml
