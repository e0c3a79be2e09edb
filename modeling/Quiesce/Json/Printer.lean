import Quiesce.Json.Basic

/-!
Writing JSON, on one line without spaces or spread over lines with two spaces a level.
-/
namespace Quiesce.Json

/-- A character as it stands in a string: quotes, backslashes and control characters are
escaped, all others stand for themselves. -/
def escapeChar (c : Char) : List Char :=
  if c = '"' then ['\\', '"']
  else if c = '\\' then ['\\', '\\']
  else if c = '\x08' then ['\\', 'b']
  else if c = '\x0c' then ['\\', 'f']
  else if c = '\n' then ['\\', 'n']
  else if c = '\r' then ['\\', 'r']
  else if c = '\t' then ['\\', 't']
  else if c.toNat < 0x20 then
    ['\\', 'u', '0', '0', Nat.digitChar (c.toNat / 16), Nat.digitChar (c.toNat % 16)]
  else [c]

def quote (text : String) : String :=
  String.ofList ('"' :: text.toList.flatMap escapeChar ++ ['"'])

mutual

def compress : Json → String
  | null => "null"
  | bool b => if b then "true" else "false"
  | int n => toString n
  | real x => x.compact
  | str s => quote s
  | arr items => "[" ++ compressItems items ++ "]"
  | obj members => "\x7b" ++ compressMembers members ++ "\x7d"

def compressItems : List Json → String
  | [] => ""
  | [item] => compress item
  | item :: rest => compress item ++ "," ++ compressItems rest

def compressMembers : List (String × Json) → String
  | [] => ""
  | [(name, value)] => quote name ++ ":" ++ compress value
  | (name, value) :: rest => quote name ++ ":" ++ compress value ++ "," ++ compressMembers rest

end

def indent (level : Nat) : String := String.ofList (List.replicate (2 * level) ' ')

mutual

def prettyAt (level : Nat) : Json → String
  | arr [] => "[]"
  | arr items => "[\n" ++ prettyItems (level + 1) items ++ "\n" ++ indent level ++ "]"
  | obj [] => "\x7b\x7d"
  | obj members => "\x7b\n" ++ prettyMembers (level + 1) members ++ "\n" ++ indent level ++ "\x7d"
  | value => compress value

def prettyItems (level : Nat) : List Json → String
  | [] => ""
  | [item] => indent level ++ prettyAt level item
  | item :: rest => indent level ++ prettyAt level item ++ ",\n" ++ prettyItems level rest

def prettyMembers (level : Nat) : List (String × Json) → String
  | [] => ""
  | [(name, value)] => indent level ++ quote name ++ ": " ++ prettyAt level value
  | (name, value) :: rest =>
    indent level ++ quote name ++ ": " ++ prettyAt level value ++ ",\n" ++
      prettyMembers level rest

end

def pretty (value : Json) : String := prettyAt 0 value

end Quiesce.Json
