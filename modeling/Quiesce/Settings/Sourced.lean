import Quiesce.Json.Basic
import Quiesce.Toml.Basic
import Quiesce.Text.Lower

/-!
Values that know where they come from, and how one source is laid over another: tables are merged
name by name, and anything else takes the place of what was there. Names are kept in lower case.
A table or list that comes about only on the way to a value has no source of its own.
-/
namespace Quiesce.Settings

open Decimal (Binary64)

inductive Scalar where
  | nothing
  | bool (value : Bool)
  | int (value : Int)
  | real (value : Binary64)
  | text (value : String)
  deriving DecidableEq

inductive Sourced where
  | scalar (source : Option String) (value : Scalar)
  | list (source : Option String) (items : List Sourced)
  | table (source : Option String) (entries : List (String × Sourced))

namespace Sourced

abbrev Entries := List (String × Sourced)

def empty : Sourced := table none []

def nothing : Sourced := scalar none .nothing

def valueOf? (name : String) (entries : Entries) : Option Sourced :=
  (entries.find? (·.1 == name)).map (·.2)

def setEntry (name : String) (value : Sourced) : Entries → Entries
  | [] => [(name, value)]
  | (n, v) :: rest => if n = name then (n, value) :: rest else (n, v) :: setEntry name value rest

/-- The source and the entries of a table; what is no table gives way to an empty one. -/
def asTable : Sourced → Option String × Entries
  | table source entries => (source, entries)
  | _ => (none, [])

def asList : Sourced → Option String × List Sourced
  | list source items => (source, items)
  | _ => (none, [])

mutual

def put (root : Sourced) (name : String) : Sourced → Sourced
  | table _ incoming =>
    let (source, entries) := root.asTable
    let lowered := Text.lower name
    let target := (valueOf? lowered entries).getD empty
    table source (setEntry lowered (putAll target incoming) entries)
  | list s items => putLeaf root name (list s items)
  | scalar s value => putLeaf root name (scalar s value)
where
  /-- Replaces the entry of exactly that name, or else the one of its lower case. -/
  putLeaf (root : Sourced) (name : String) (value : Sourced) : Sourced :=
    let (source, entries) := root.asTable
    let name := if (valueOf? name entries).isSome then name else Text.lower name
    table source (setEntry name value entries)

def putAll (root : Sourced) : List (String × Sourced) → Sourced
  | [] => root
  | (name, value) :: rest => putAll (put root name value) rest

end

mutual

/-- A JSON value from that source. Whole numbers beyond 63 bits are binary ones here. -/
def ofJson (source : String) : Json → Sourced
  | .null => scalar source .nothing
  | .bool b => scalar source (.bool b)
  | .int n =>
    if n ≤ 9223372036854775807 then scalar source (.int n)
    else scalar source (.real (.ofInt n))
  | .real x => scalar source (.real x)
  | .str s => scalar source (.text s)
  | .arr items => list source (listOfJson source items)
  | .obj members => table source (entriesOfJson source members)

def listOfJson (source : String) : List Json → List Sourced
  | [] => []
  | item :: rest => ofJson source item :: listOfJson source rest

def entriesOfJson (source : String) : List (String × Json) → Entries
  | [] => []
  | (name, value) :: rest => (name, ofJson source value) :: entriesOfJson source rest

end

mutual

/-- A TOML value from that source; dates and times are texts here. -/
def ofToml (source : String) : Toml → Sourced
  | .bool b => scalar source (.bool b)
  | .int n => scalar source (.int n)
  | .real x => scalar source (.real x)
  | .str s => scalar source (.text s)
  | .moment text => scalar source (.text text)
  | .arr items => list source (listOfToml source items)
  | .table entries => table source (entriesOfToml source entries)

def listOfToml (source : String) : List Toml → List Sourced
  | [] => []
  | item :: rest => ofToml source item :: listOfToml source rest

def entriesOfToml (source : String) : List (String × Toml) → Entries
  | [] => []
  | (name, value) :: rest => (name, ofToml source value) :: entriesOfToml source rest

end

end Sourced

end Quiesce.Settings
