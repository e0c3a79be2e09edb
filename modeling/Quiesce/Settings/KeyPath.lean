import Quiesce.Overflow
import Quiesce.Text.Numeral
import Quiesce.Settings.Sourced

/-!
Paths to values: a name, then further names after points and positions between brackets. Laying a
value down at a path makes the tables and lists that are missing on the way, and replaces other
values that stand there. A position may count from the end of a list, but not beyond its start.
These are the paths of the `config` library, in its spelling, for names in a file and for variables.
-/
namespace Quiesce.Settings

inductive KeyStep where
  | child (name : String)
  | item (index : Int)
  deriving DecidableEq

structure KeyPath where
  head : String
  steps : List KeyStep
  deriving DecidableEq

namespace KeyPath

def isNameChar (c : Char) : Bool := c.isAlphanum || c = ' ' || c = '_' || c = '-'

def readIndex? (cs : List Char) : Option (Int × List Char) := do
  let isSpace (c : Char) : Bool := c = ' ' || c = '\t'
  let cs := cs.dropWhile isSpace
  let (sign, cs) := match cs with
    | '-' :: cs => (['-'], cs)
    | cs => ([], cs)
  let digits := cs.takeWhile Char.isDigit
  let n ← if digits.isEmpty then none else (Numeral.readInt64 (sign ++ digits)).toOption
  match (cs.dropWhile Char.isDigit).dropWhile isSpace with
  | ']' :: rest => some (n, rest)
  | _ => none

def readSteps? : Nat → List Char → Option (List KeyStep)
  | _, [] => some []
  | 0, _ => none
  | fuel + 1, '.' :: cs =>
    let name := cs.takeWhile isNameChar
    if name.isEmpty then none
    else do return .child (String.ofList name) :: (← readSteps? fuel (cs.dropWhile isNameChar))
  | fuel + 1, '[' :: cs => do
    let (n, rest) ← readIndex? cs
    return .item n :: (← readSteps? fuel rest)
  | _, _ => none

def read? (text : String) : Option KeyPath := do
  let cs := text.toList
  let name := cs.takeWhile isNameChar
  if name.isEmpty then none
  else return ⟨String.ofList name, ← readSteps? cs.length (cs.dropWhile isNameChar)⟩

def maxItems : Nat := 96076792050570581

/-- A position in a list of that length, from its end if negative. -/
def position (index : Int) (length : Nat) : Except Overflow Nat :=
  if index ≥ 0 then if index < maxItems then .ok index.toNat else .error .capacity
  else if (-index).toNat ≤ length then .ok (length - (-index).toNat)
  else .error .position

/-- Changes the item at a position; the list grows as far as need be. -/
def alterItem (change : Sourced → Except Overflow Sourced) (index : Int)
    (items : List Sourced) : Except Overflow (List Sourced) := do
  let n ← position index items.length
  let items := items ++ List.replicate (n + 1 - items.length) Sourced.nothing
  let item ← change ((items[n]?).getD .nothing)
  return items.set n item

def putAt (value : Sourced) : List KeyStep → Sourced → Except Overflow Sourced
  | [], _ => .ok value
  | [.child name], here =>
    .ok ((Sourced.table here.asTable.1 here.asTable.2).put name value)
  | .child name :: rest, here => do
    let (source, entries) := here.asTable
    let name := Text.lower name
    let next ← putAt value rest ((Sourced.valueOf? name entries).getD .nothing)
    return .table source (Sourced.setEntry name next entries)
  | .item index :: rest, here => do
    let (source, items) := here.asList
    return .list source (← alterItem (putAt value rest) index items)

def put (path : KeyPath) (value root : Sourced) : Except Overflow Sourced :=
  match path.steps with
  | [] => .ok (root.put path.head value)
  | steps => do
    let (source, entries) := root.asTable
    let name := Text.lower path.head
    let next ← putAt value steps ((Sourced.valueOf? name entries).getD .nothing)
    return .table source (Sourced.setEntry name next entries)

end KeyPath

/-- Lays the entries of a source over a table; a name that is a path is followed as one. -/
def layOver (root : Sourced) (entries : List (String × Sourced)) : Except Overflow Sourced :=
  entries.foldlM
    (fun root (name, value) =>
      match KeyPath.read? name with
      | some path => path.put value root
      | none => .ok (root.put name value))
    root

end Quiesce.Settings
