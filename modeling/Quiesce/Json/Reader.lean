import Quiesce.Json.Numeral

/-!
Reading JSON text. The reader takes exactly the standard's grammar, to a nesting depth below
128. Every step returns what is left of the text, and the text's length bounds the steps.
-/
namespace Quiesce.Json

open Text (hexDigit? digitsValue)

def skipBlanks (cs : List Char) : List Char :=
  cs.dropWhile fun c => c = ' ' || c = '\n' || c = '\t' || c = '\r'

def hexQuad? (a b c d : Char) : Option Nat := do
  return (((← hexDigit? a) * 16 + (← hexDigit? b)) * 16 + (← hexDigit? c)) * 16 + (← hexDigit? d)

def shortEscape? : Char → Option Char
  | '"' => some '"'
  | '\\' => some '\\'
  | '/' => some '/'
  | 'b' => some '\x08'
  | 'f' => some '\x0c'
  | 'n' => some '\n'
  | 'r' => some '\r'
  | 't' => some '\t'
  | _ => none

def readString : List Char → Option (List Char × List Char)
  | [] => none
  | '"' :: cs => some ([], cs)
  | '\\' :: 'u' :: a :: b :: c :: d :: '\\' :: 'u' :: e :: f :: g :: h :: cs => do
    let high ← hexQuad? a b c d
    if 0xD800 ≤ high ∧ high < 0xDC00 then
      let low ← hexQuad? e f g h
      if 0xDC00 ≤ low ∧ low < 0xE000 then
        let (text, rest) ← readString cs
        some (Char.ofNat (0x10000 + (high - 0xD800) * 0x400 + (low - 0xDC00)) :: text, rest)
      else none
    else if 0xDC00 ≤ high ∧ high < 0xE000 then none
    else
      let (text, rest) ← readString ('\\' :: 'u' :: e :: f :: g :: h :: cs)
      some (Char.ofNat high :: text, rest)
  | '\\' :: 'u' :: a :: b :: c :: d :: cs => do
    let code ← hexQuad? a b c d
    if 0xD800 ≤ code ∧ code < 0xE000 then none
    else
      let (text, rest) ← readString cs
      some (Char.ofNat code :: text, rest)
  | '\\' :: letter :: cs => do
    let c ← shortEscape? letter
    let (text, rest) ← readString cs
    some (c :: text, rest)
  | c :: cs =>
    if c.toNat < 0x20 then none
    else do
      let (text, rest) ← readString cs
      some (c :: text, rest)

def readFraction : List Char → Option (List Char × List Char)
  | '.' :: cs =>
    let (digits, rest) := cs.span Char.isDigit
    if digits.isEmpty then none else some (digits, rest)
  | cs => some ([], cs)

def readExponent : List Char → Option (Option Int × List Char)
  | c :: cs =>
    if c = 'e' ∨ c = 'E' then
      let (negative, cs) := match cs with
        | '+' :: cs => (false, cs)
        | '-' :: cs => (true, cs)
        | cs => (false, cs)
      let (digits, rest) := cs.span Char.isDigit
      if digits.isEmpty then none
      else
        let n : Int := digitsValue 10 digits
        some (some (if negative then -n else n), rest)
    else some (none, c :: cs)
  | [] => some (none, [])

def readNumber (cs : List Char) : Option (Json × List Char) := do
  let (negative, cs) := match cs with
    | '-' :: cs => (true, cs)
    | cs => (false, cs)
  let (whole, cs) := cs.span Char.isDigit
  if whole.isEmpty ∨ (whole.length > 1 ∧ whole.head? = some '0') then none
  else
    let (fraction, cs) ← readFraction cs
    let (exponent, cs) ← readExponent cs
    return (← numberOf? negative whole fraction exponent, cs)

mutual

def readValue (depth : Nat) : Nat → List Char → Option (Json × List Char)
  | 0, _ => none
  | fuel + 1, cs =>
    match skipBlanks cs with
    | 'n' :: 'u' :: 'l' :: 'l' :: rest => some (null, rest)
    | 't' :: 'r' :: 'u' :: 'e' :: rest => some (bool true, rest)
    | 'f' :: 'a' :: 'l' :: 's' :: 'e' :: rest => some (bool false, rest)
    | '"' :: rest => do
      let (text, rest) ← readString rest
      some (str (String.ofList text), rest)
    | '[' :: rest =>
      if depth ≤ 1 then none
      else match skipBlanks rest with
        | ']' :: rest => some (arr [], rest)
        | rest => do
          let (items, rest) ← readItems (depth - 1) fuel rest
          some (arr items, rest)
    | '\x7b' :: rest =>
      if depth ≤ 1 then none
      else match skipBlanks rest with
        | '\x7d' :: rest => some (obj [], rest)
        | rest => do
          let (members, rest) ← readMembers (depth - 1) fuel rest
          some (obj members, rest)
    | rest => readNumber rest

def readItems (depth : Nat) : Nat → List Char → Option (List Json × List Char)
  | 0, _ => none
  | fuel + 1, cs => do
    let (item, rest) ← readValue depth fuel cs
    match skipBlanks rest with
    | ',' :: rest =>
      let (items, rest) ← readItems depth fuel rest
      some (item :: items, rest)
    | ']' :: rest => some ([item], rest)
    | _ => none

def readMembers (depth : Nat) : Nat → List Char → Option (List (String × Json) × List Char)
  | 0, _ => none
  | fuel + 1, cs =>
    match skipBlanks cs with
    | '"' :: rest => do
      let (name, rest) ← readString rest
      match skipBlanks rest with
      | ':' :: rest =>
        let (value, rest) ← readValue depth fuel rest
        match skipBlanks rest with
        | ',' :: rest =>
          let (members, rest) ← readMembers depth fuel rest
          some ((String.ofList name, value) :: members, rest)
        | '\x7d' :: rest => some ([(String.ofList name, value)], rest)
        | _ => none
      | _ => none
    | _ => none

end

def read? (text : String) : Option Json := do
  let cs := text.toList
  let (value, rest) ← readValue 128 (2 * cs.length + 2) cs
  if (skipBlanks rest).isEmpty then some value else none

end Quiesce.Json
