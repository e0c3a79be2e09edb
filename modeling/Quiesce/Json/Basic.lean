import Quiesce.Decimal.Shortest

/-!
JSON values. Whole numbers of up to 64 bits, signed or not, are kept apart from all other
numbers, which are binary ones.
-/
namespace Quiesce

open Decimal (Binary64)

inductive Json where
  | null
  | bool (value : Bool)
  | int (value : Int)
  | real (value : Binary64)
  | str (value : String)
  | arr (items : List Json)
  | obj (members : List (String × Json))

namespace Json

instance : Inhabited Json := ⟨null⟩

/-- The member of that name; of several the last one. -/
def get? (name : String) : Json → Option Json
  | obj members => (members.reverse.find? (·.1 == name)).map (·.2)
  | _ => none

def nat (n : Nat) : Json := int (Int.ofNat n)

def insertMember (name : String) (value : Json) : List (String × Json) → List (String × Json)
  | [] => [(name, value)]
  | (n, v) :: rest =>
    if name = n then (name, value) :: rest
    else if name < n then (name, value) :: (n, v) :: rest
    else (n, v) :: insertMember name value rest

/-- The members sorted by name; of several of one name the last one is kept. -/
def sortMembers (members : List (String × Json)) : List (String × Json) :=
  members.foldl (fun sorted (n, v) => insertMember n v sorted) []

mutual

def sorted : Json → Json
  | arr items => arr (sortedItems items)
  | obj members => obj (sortMembers (sortedMembers members))
  | value => value

def sortedItems : List Json → List Json
  | [] => []
  | item :: rest => sorted item :: sortedItems rest

def sortedMembers : List (String × Json) → List (String × Json)
  | [] => []
  | (name, value) :: rest => (name, sorted value) :: sortedMembers rest

end

end Json

end Quiesce
