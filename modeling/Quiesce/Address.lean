import Quiesce.Text.Split
import Quiesce.Text.Numeral
import Quiesce.Text.Digits

/-!
Internet addresses, of four octets or of eight groups of sixteen bits. An octet has no
superfluous zeros in front, a group at most four hexadecimal digits; a run of zero groups may be
left out once, and the last two groups may be written as four octets. A host also knows shorter
forms of the first kind.
-/
namespace Quiesce

inductive Address where
  | v4 (octets : List Nat)
  | v6 (groups : List Nat)
  deriving DecidableEq

namespace Address

def readOctet? (cs : List Char) : Option Nat :=
  if cs.length ≤ 3 ∧ (cs.length ≤ 1 ∨ cs.head? ≠ some '0') then
    if cs.isEmpty then none else (Numeral.readDigits 255 .tooLarge 0 cs).toOption
  else none

def readV4? (cs : List Char) : Option (List Nat) := do
  let octets ← (Text.splitWhen (· = '.') cs).mapM readOctet?
  if octets.length = 4 then some octets else none

def readGroup? (cs : List Char) : Option Nat := do
  if cs.isEmpty ∨ cs.length > 4 then none
  else
    let digits ← cs.mapM Text.hexDigit?
    some (digits.foldl (fun acc d => acc * 16 + d) 0)

/-- Reads the pieces between colons; where `octets` allows it, the last one may stand for two
groups. -/
def readGroups? (octets : Bool) : List (List Char) → Option (List Nat)
  | [] => some []
  | [piece] =>
    match readGroup? piece with
    | some group => some [group]
    | none =>
      match octets, readV4? piece with
      | true, some [a, b, c, d] => some [a * 256 + b, c * 256 + d]
      | _, _ => none
  | piece :: pieces => do return (← readGroup? piece) :: (← readGroups? octets pieces)

def readSide? (octets : Bool) (cs : List Char) : Option (List Nat) :=
  if cs.isEmpty then some [] else readGroups? octets (Text.splitWhen (· = ':') cs)

def cutGap : List Char → Option (List Char × List Char)
  | [] => none
  | c :: cs =>
    if c = ':' ∧ cs.head? = some ':' then some ([], cs.tail)
    else (cutGap cs).map fun (before, after) => (c :: before, after)

/-- Reads eight groups; a double colon stands for as many zero groups as are missing, one at
least. -/
def readV6? (cs : List Char) : Option (List Nat) :=
  match cutGap cs with
  | none => do
    let groups ← readGroups? true (Text.splitWhen (· = ':') cs)
    if groups.length = 8 then some groups else none
  | some (before, after) => do
    let front ← readSide? false before
    let back ← readSide? true after
    if front.length + back.length ≤ 7 then
      some (front ++ List.replicate (8 - front.length - back.length) 0 ++ back)
    else none

def read? (text : String) : Option Address :=
  match readV4? text.toList with
  | some octets => some (v4 octets)
  | none => (readV6? text.toList).map v6

/-! ### Short forms -/

/-- Reads a number in base sixteen after `0x`, in base eight after another zero, else in base
ten. -/
def readNumber? (cs : List Char) : Option Nat :=
  match cs with
  | '0' :: x :: rest =>
    if x = 'x' ∨ x = 'X' then inBase 16 rest else inBase 8 (x :: rest)
  | cs => inBase 10 cs
where
  inBase (base : Nat) (digits : List Char) : Option Nat :=
    if digits.isEmpty then none
    else if digits.all fun c => (Text.hexDigit? c).any (· < base) then
      some (Text.digitsValue base digits)
    else none

/-- The four octets of one to four numbers: all but the last one are octets, and the last one
fills what is left. -/
def fillOctets? : Nat → List Nat → Option (List Nat)
  | _, [] => none
  | room, [n] =>
    if n < Nat.pow 256 room then
      some ((List.range room).map fun i => n / Nat.pow 256 (room - 1 - i) % 256)
    else none
  | room, n :: rest =>
    if n < 256 ∧ 1 < room then do return n :: (← fillOctets? (room - 1) rest) else none

def readShort? (cs : List Char) : Option (List Nat) :=
  ((Text.splitWhen (· = '.') cs).mapM readNumber?).bind (fillOctets? 4)

def unbracket? : List Char → Option (List Char)
  | '[' :: cs => if cs.getLast? = some ']' then some cs.dropLast else none
  | _ => none

/-- Reads an address as one is given to a host to listen at: in full, of four octets in a short
form, or of eight groups between brackets. -/
def locate? (text : String) : Option Address :=
  match read? text with
  | some address => some address
  | none =>
    match unbracket? text.toList with
    | some cs => (readV6? cs).map v6
    | none => (readShort? text.toList).map v4

/-! ### Texts -/

def octetsText (octets : List Nat) : String := ".".intercalate (octets.map toString)

def zeroRun : List Nat → Nat
  | 0 :: rest => zeroRun rest + 1
  | _ => 0

def longestZeros (start : Nat) : List Nat → Nat × Nat
  | [] => (start, 0)
  | g :: rest =>
    let here := zeroRun (g :: rest)
    let later := longestZeros (start + 1) rest
    if later.2 > here then later else (start, here)

def groupsText (groups : List Nat) : String :=
  ":".intercalate (groups.map fun g => String.ofList (Nat.toDigits 16 g))

/-- The address in its usual form: the first longest run of two or more zero groups is left out,
and an address of four octets among those of eight groups keeps its points. -/
def text : Address → String
  | v4 octets => octetsText octets
  | v6 [0, 0, 0, 0, 0, 0xFFFF, a, b] =>
    "::ffff:" ++ octetsText [a / 256, a % 256, b / 256, b % 256]
  | v6 groups =>
    let (start, count) := longestZeros 0 groups
    if count > 1 then
      groupsText (groups.take start) ++ "::" ++ groupsText (groups.drop (start + count))
    else groupsText groups

def withPort (a : Address) (port : String) : String :=
  match a with
  | v4 _ => s!"{a.text}:{port}"
  | v6 _ => s!"[{a.text}]:{port}"

end Address

end Quiesce
