import Quiesce.Toml.Basic
import Quiesce.Text.Digits

/-!
Dates and times in TOML: a day that there is, a time of day with its seconds, or both, and then
perhaps the distance from universal time. They are kept as their usual text.
-/
namespace Quiesce.Toml

open Text (digitsValue)

structure MomentLimits where
  lastHour : Nat
  isDistance : Nat → Nat → Bool

/-- A moment among other values keeps to the hours and minutes of a day. -/
def MomentLimits.literal : MomentLimits where
  lastHour := 23
  isDistance hour minute := hour ≤ 23 && minute ≤ 59

/-- A moment in a text of its own may reach the end of the day. -/
def MomentLimits.text : MomentLimits where
  lastHour := 24
  isDistance hour minute := hour * 60 + minute ≤ 1440

def readFixed (n : Nat) (cs : List Char) : Option (Nat × List Char) :=
  let digits := cs.take n
  if digits.length = n && digits.all Char.isDigit then some (digitsValue 10 digits, cs.drop n)
  else none

def isLeapYear (year : Nat) : Bool :=
  year % 4 = 0 && (year % 100 ≠ 0 || year % 400 = 0)

def daysInMonth (year month : Nat) : Nat :=
  if month = 2 then if isLeapYear year then 29 else 28
  else if month = 4 ∨ month = 6 ∨ month = 9 ∨ month = 11 then 30
  else 31

def filled (width n : Nat) : String :=
  let digits := Nat.toDigits 10 n
  String.ofList (List.replicate (width - digits.length) '0' ++ digits)

def readDate (cs : List Char) : Option (String × List Char) := do
  let (year, cs) ← readFixed 4 cs
  let cs ← dash cs
  let (month, cs) ← readFixed 2 cs
  let cs ← dash cs
  let (day, cs) ← readFixed 2 cs
  if 1 ≤ month ∧ month ≤ 12 ∧ 1 ≤ day ∧ day ≤ daysInMonth year month then
    some (s!"{filled 4 year}-{filled 2 month}-{filled 2 day}", cs)
  else none
where
  dash : List Char → Option (List Char)
    | '-' :: cs => some cs
    | _ => none

/-- The text of a fraction of a second: nine digits at most, no zeros at its end. -/
def fractionText (digits : List Char) : String :=
  let kept := ((digits.take 9).reverse.dropWhile (· = '0')).reverse
  if kept.isEmpty then "" else "." ++ String.ofList kept

def readTime (limits : MomentLimits) (cs : List Char) : Option (String × List Char) := do
  let (hour, cs) ← readFixed 2 cs
  let cs ← colon cs
  let (minute, cs) ← readFixed 2 cs
  let cs ← colon cs
  let (second, cs) ← readFixed 2 cs
  if hour ≤ limits.lastHour ∧ minute ≤ 59 ∧ second ≤ 60 then
    let whole := s!"{filled 2 hour}:{filled 2 minute}:{filled 2 second}"
    match cs with
    | '.' :: rest =>
      let digits := rest.takeWhile Char.isDigit
      if digits.isEmpty then none
      else some (whole ++ fractionText digits, rest.dropWhile Char.isDigit)
    | cs => some (whole, cs)
  else none
where
  colon : List Char → Option (List Char)
    | ':' :: cs => some cs
    | _ => none

def distanceText (negative : Bool) (minutes : Nat) : String :=
  let sign := if negative && minutes ≠ 0 then "-" else "+"
  s!"{sign}{filled 2 (minutes / 60)}:{filled 2 (minutes % 60)}"

def readOffset (limits : MomentLimits) : List Char → Option (String × List Char)
  | 'Z' :: cs => some ("Z", cs)
  | 'z' :: cs => some ("Z", cs)
  | '+' :: cs => distance false cs
  | '-' :: cs => distance true cs
  | cs => some ("", cs)
where
  distance (negative : Bool) (cs : List Char) : Option (String × List Char) := do
    let (hour, cs) ← readFixed 2 cs
    match cs with
    | ':' :: cs =>
      let (minute, cs) ← readFixed 2 cs
      if limits.isDistance hour minute then
        some (distanceText negative (hour * 60 + minute), cs)
      else none
    | _ => none

def startsMoment (cs : List Char) : Bool :=
  match readFixed 4 cs, readFixed 2 cs with
  | some (_, '-' :: _), _ => true
  | _, some (_, ':' :: _) => true
  | _, _ => false

def readMoment (limits : MomentLimits) (cs : List Char) : Option (Toml × List Char) :=
  match readFixed 4 cs with
  | some (_, '-' :: _) => do
    let (date, rest) ← readDate cs
    match rest with
    | c :: after =>
      if c = 'T' ∨ c = 't' ∨ (c = ' ' ∧ (readFixed 2 after).isSome) then
        let (time, rest) ← readTime limits after
        let (offset, rest) ← readOffset limits rest
        some (moment (date ++ "T" ++ time ++ offset), rest)
      else some (moment date, rest)
    | [] => some (moment date, [])
  | _ => do
    let (time, rest) ← readTime limits cs
    some (moment time, rest)

def momentOf? (text : String) : Option Toml :=
  match readMoment .text text.toList with
  | some (value, []) => some value
  | _ => none

end Quiesce.Toml
