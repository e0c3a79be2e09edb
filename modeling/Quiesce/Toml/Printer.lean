/-!
Writing strings in TOML. A string without quotes, backslashes, line ends and control characters
stands between double quotes. Others take the first kind that shows them as they are, or, where
none does, are escaped between double quotes; a string with line ends starts on a line of its own.
-/
namespace Quiesce.Toml

def needsCode (c : Char) : Bool :=
  (c.toNat < 0x20 && c ≠ '\t' && c ≠ '\n') || c.toNat = 0x7F

/-- The length of the longest run of `c`, given the length of the run just before. -/
def longestRun (c : Char) : Nat → List Char → Nat
  | run, [] => run
  | run, a :: as => if a = c then longestRun c (run + 1) as else max run (longestRun c 0 as)

inductive StringKind where
  | basic
  | literal
  | longBasic
  | longLiteral
  deriving DecidableEq

def kindOf (text : List Char) : StringKind :=
  let codes := text.any needsCode
  let backslash := text.contains '\\'
  let double := longestRun '"' 0 text
  let single := longestRun '\'' 0 text
  let lines := text.contains '\n'
  if !codes && !backslash && double = 0 && !lines then .basic
  else if !codes && single = 0 && !lines then .literal
  else if !codes && !backslash && double ≤ 2 then .longBasic
  else if !codes && single ≤ 2 then .longLiteral
  else if lines then .longBasic
  else .basic

def escapeCode? (c : Char) : Option (List Char) :=
  if c = '\x08' then some ['\\', 'b']
  else if c = '\t' then some ['\\', 't']
  else if c = '\x0c' then some ['\\', 'f']
  else if c = '\r' then some ['\\', 'r']
  else if c = '\\' then some ['\\', '\\']
  else if c = '\n' then some ['\\', 'n']
  else if needsCode c then
    some ['\\', 'u', '0', '0', upperHex (c.toNat / 16), upperHex (c.toNat % 16)]
  else none
where
  upperHex (n : Nat) : Char := (Nat.digitChar n).toUpper

def escapeBasic : List Char → List Char
  | [] => []
  | c :: cs =>
    if c = '"' then '\\' :: '"' :: escapeBasic cs
    else (escapeCode? c).getD [c] ++ escapeBasic cs

/-- The inside of a string over several lines, after `quotes` quotes in a row: line ends stand for
themselves, and so do quotes except each third of a run. -/
def escapeLong : Nat → List Char → List Char
  | _, [] => []
  | quotes, c :: cs =>
    if c = '"' then
      if quotes = 2 then '\\' :: '"' :: escapeLong 0 cs else '"' :: escapeLong (quotes + 1) cs
    else if c = '\n' then '\n' :: escapeLong 0 cs
    else (escapeCode? c).getD [c] ++ escapeLong 0 cs

def leadingLine (text : List Char) : List Char := if text.contains '\n' then ['\n'] else []

def double : List Char := ['"', '"', '"']

def single : List Char := ['\'', '\'', '\'']

def writeString (text : List Char) : List Char :=
  match kindOf text with
  | .basic => '"' :: escapeBasic text ++ ['"']
  | .literal => '\'' :: text ++ ['\'']
  | .longBasic => double ++ leadingLine text ++ escapeLong 0 text ++ double
  | .longLiteral => single ++ leadingLine text ++ text ++ single

end Quiesce.Toml
