import Quiesce.Json.Basic

/-!
TOML values. Tables keep their entries in the order in which they were written.
-/
namespace Quiesce

open Decimal (Binary64)

inductive Toml where
  | bool (value : Bool)
  | int (value : Int)
  | real (value : Binary64)
  | str (value : String)
  /-- A date, a time or both, in its usual form. -/
  | moment (text : String)
  | arr (items : List Toml)
  | table (entries : List (String × Toml))

namespace Toml

instance : Inhabited Toml := ⟨table []⟩

mutual

/-- The value with JSON's means; a date or time becomes an object with one member. -/
def toJson : Toml → Json
  | bool b => .bool b
  | int n => .int n
  | real x => .real x
  | str s => .str s
  | moment text => .obj [("moment", .str text)]
  | arr items => .arr (listToJson items)
  | table entries => .obj (entriesToJson entries)

def listToJson : List Toml → List Json
  | [] => []
  | item :: rest => toJson item :: listToJson rest

def entriesToJson : List (String × Toml) → List (String × Json)
  | [] => []
  | (name, value) :: rest => (name, toJson value) :: entriesToJson rest

end

end Toml

end Quiesce
