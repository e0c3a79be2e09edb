import Quiesce.Decimal.Binary64
import Quiesce.Text.Digits

/-!
Reading a text as a binary number: a sign, digits with or without a point among them, and a power
of ten after an `e`; or one of the names of infinity and of what is no number, in any case.
-/
namespace Quiesce.Decimal

def splitSign : List Char → Bool × List Char
  | '+' :: cs => (false, cs)
  | '-' :: cs => (true, cs)
  | cs => (false, cs)

def readPower? : List Char → Option Int
  | [] => some 0
  | c :: cs =>
    if c = 'e' ∨ c = 'E' then
      let (negative, digits) := splitSign cs
      if digits.isEmpty || !digits.all Char.isDigit then none
      else
        let n : Int := Text.digitsValue 10 digits
        some (if negative then -n else n)
    else none

def readPlain? (negative : Bool) (cs : List Char) : Option Binary64 := do
  let (whole, rest) := cs.span Char.isDigit
  let (fraction, rest) := match rest with
    | '.' :: rest => rest.span Char.isDigit
    | rest => ([], rest)
  if whole.isEmpty && fraction.isEmpty then none
  else
    let power ← readPower? rest
    some (.ofDecimal negative (Text.digitsValue 10 (whole ++ fraction)) (power - fraction.length))

def read? (cs : List Char) : Option Binary64 :=
  let (negative, rest) := splitSign cs
  let word := String.ofList (rest.map Char.toLower)
  if word = "inf" ∨ word = "infinity" then some (.infinite negative)
  else if word = "nan" then some .nan
  else readPlain? negative rest

end Quiesce.Decimal
