import Quiesce.Toml.Reader

/-!
Moments that are written as tables. A table whose first key is reserved for that stands for the
date or time that the text under the key spells, whatever else it holds; if there is no such text,
the document is none.
-/
namespace Quiesce.Toml

def momentKey : String := "$__toml_private_datetime"

def momentIn? : Toml → Option Toml
  | str text => momentOf? text
  | _ => none

mutual

def settled? : Toml → Option Toml
  | arr items => (settledItems? items).map arr
  | table [] => some (table [])
  | table ((name, value) :: rest) =>
    if name = momentKey then momentIn? value
    else do return table ((name, ← settled? value) :: (← settledEntries? rest))
  | value => some value

def settledItems? : List Toml → Option (List Toml)
  | [] => some []
  | item :: rest => do return (← settled? item) :: (← settledItems? rest)

def settledEntries? : List (String × Toml) → Option (List (String × Toml))
  | [] => some []
  | (name, value) :: rest => do return (name, ← settled? value) :: (← settledEntries? rest)

end

def readSettled? (text : String) : Option Toml := (read? text).bind fun entries =>
  settled? (table entries)

end Quiesce.Toml
