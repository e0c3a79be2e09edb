import Quiesce.Text.Digits

/-!
Strings in TOML, of the four kinds: between double quotes with escapes or between single quotes
as they are, on one line or over several. Each reader starts behind the opening quotes and returns
what follows the closing ones. It takes one character at a time, and its mode says what the
characters before have begun.
-/
namespace Quiesce.Toml

def push (c : Char) : Option (List Char × List Char) → Option (List Char × List Char)
  | none => none
  | some (text, rest) => some (c :: text, rest)

def pushMany (n : Nat) (c : Char) (result : Option (List Char × List Char)) :
    Option (List Char × List Char) :=
  result.map fun (text, rest) => (List.replicate n c ++ text, rest)

def isBlank (c : Char) : Bool := c = ' ' || c = '\t'

/-- Characters that may stand for themselves: tabs, and all that are no control characters. -/
def isPlain (c : Char) : Bool := c = '\t' || (0x20 ≤ c.toNat && c.toNat ≠ 0x7F)

def dropLineEnd : List Char → List Char
  | '\n' :: cs => cs
  | '\r' :: '\n' :: cs => cs
  | cs => cs

def startsLine : List Char → Bool
  | '\n' :: _ => true
  | '\r' :: '\n' :: _ => true
  | _ => false

def escape? (c : Char) : Option Char :=
  if c = '"' then some '"'
  else if c = '\\' then some '\\'
  else if c = 'b' then some '\x08'
  else if c = 'f' then some '\x0c'
  else if c = 'n' then some '\n'
  else if c = 'r' then some '\r'
  else if c = 't' then some '\t'
  else none

def codeLength? (c : Char) : Option Nat :=
  if c = 'u' then some 4 else if c = 'U' then some 8 else none

/-- The character of a code point; surrogates and numbers beyond the last one are none. -/
def scalar? (n : Nat) : Option Char :=
  if n.isValidChar then some (Char.ofNat n) else none

inductive Mode where
  | text
  | escape
  | code (left value : Nat)

def readBasic : Mode → List Char → Option (List Char × List Char)
  | _, [] => none
  | .text, c :: cs =>
    if c = '"' then some ([], cs)
    else if c = '\\' then readBasic .escape cs
    else if isPlain c then push c (readBasic .text cs)
    else none
  | .escape, c :: cs =>
    match codeLength? c with
    | some n => readBasic (.code n 0) cs
    | none =>
      match escape? c with
      | some e => push e (readBasic .text cs)
      | none => none
  | .code left value, c :: cs =>
    match Text.hexDigit? c with
    | none => none
    | some d =>
      if left ≤ 1 then
        match scalar? (value * 16 + d) with
        | some e => push e (readBasic .text cs)
        | none => none
      else readBasic (.code (left - 1) (value * 16 + d)) cs

def readLiteral : List Char → Option (List Char × List Char)
  | [] => none
  | c :: cs =>
    if c = '\'' then some ([], cs)
    else if isPlain c then push c (readLiteral cs)
    else none

/-- What follows three closing quotes: up to two more of them still belong to the text. -/
def closeQuotes (quote : Char) (cs : List Char) : List Char × List Char :=
  match cs with
  | a :: b :: rest =>
    if a = quote then if b = quote then ([quote, quote], rest) else ([quote], b :: rest)
    else ([], cs)
  | [a] => if a = quote then ([quote], []) else ([], cs)
  | [] => ([], [])

/-- Where a reader stands between three double quotes. In the text it counts the quotes just
passed, and whether white space is being left out after a backslash at the end of a line. -/
inductive LongMode where
  | text (quotes : Nat) (folding : Bool)
  | escape
  | code (left value : Nat)

def readLongBasic : LongMode → List Char → Option (List Char × List Char)
  | _, [] => none
  | .text quotes folding, c :: cs =>
    if c = '"' then
      if quotes = 2 then some (closeQuotes '"' cs) else readLongBasic (.text (quotes + 1) false) cs
    else if folding && (isBlank c || c = '\n') then readLongBasic (.text 0 true) cs
    else if c = '\r' then
      if cs.head? = some '\n' then
        if folding then readLongBasic (.text 0 true) cs
        else pushMany quotes '"' (readLongBasic (.text 0 false) cs)
      else none
    else if c = '\\' then pushMany quotes '"' (readLongBasic .escape cs)
    else if c = '\n' || isPlain c then
      pushMany quotes '"' (push c (readLongBasic (.text 0 false) cs))
    else none
  | .escape, c :: cs =>
    match codeLength? c with
    | some n => readLongBasic (.code n 0) cs
    | none =>
      match escape? c with
      | some e => push e (readLongBasic (.text 0 false) cs)
      | none =>
        if c = '\n' then readLongBasic (.text 0 true) cs
        else if startsLine ((c :: cs).dropWhile isBlank) then readLongBasic (.text 0 true) cs
        else none
  | .code left value, c :: cs =>
    match Text.hexDigit? c with
    | none => none
    | some d =>
      if left ≤ 1 then
        match scalar? (value * 16 + d) with
        | some e => push e (readLongBasic (.text 0 false) cs)
        | none => none
      else readLongBasic (.code (left - 1) (value * 16 + d)) cs

/-- Reads a string over several lines up to its three closing single quotes, after `quotes`
single quotes in a row. -/
def readLongLiteral (quotes : Nat) : List Char → Option (List Char × List Char)
  | [] => none
  | c :: cs =>
    if c = '\'' then
      if quotes = 2 then some (closeQuotes '\'' cs) else readLongLiteral (quotes + 1) cs
    else if c = '\r' then
      if cs.head? = some '\n' then pushMany quotes '\'' (readLongLiteral 0 cs) else none
    else if c = '\n' || isPlain c then pushMany quotes '\'' (push c (readLongLiteral 0 cs))
    else none

def readString : List Char → Option (List Char × List Char)
  | '"' :: '"' :: '"' :: cs => readLongBasic (.text 0 false) (dropLineEnd cs)
  | '"' :: cs => readBasic .text cs
  | '\'' :: '\'' :: '\'' :: cs => readLongLiteral 0 (dropLineEnd cs)
  | '\'' :: cs => readLiteral cs
  | _ => none

end Quiesce.Toml
