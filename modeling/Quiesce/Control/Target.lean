import Quiesce.Text.Split

/-!
Targets of requests: a path with a query, or a whole address with a scheme and a host in front of
them. What follows a number sign belongs to neither, and a host alone has no path.
-/
namespace Quiesce.Control

structure Target where
  path : List Char
  query : List Char
  deriving DecidableEq

namespace Target

def ofPath (cs : List Char) : Target :=
  let cs := cs.takeWhile (· ≠ '#')
  let (path, query) := (Text.cutAt '?' cs).getD (cs, [])
  ⟨path, query⟩

def isSchemeChar (c : Char) : Bool := c.isAlphanum || c = '+' || c = '-' || c = '.'

def afterScheme? (cs : List Char) : Option (List Char) :=
  Text.stripStart? "://".toList (cs.dropWhile isSchemeChar)

def endsHost (c : Char) : Bool := c = '/' || c = '?' || c = '#'

/-- Reads a target. An address without a path asks for the top. -/
def read (text : String) : Target :=
  let cs := text.toList
  if cs.head? = some '/' then ofPath cs
  else
    match afterScheme? cs with
    | some rest =>
      let target := ofPath (rest.dropWhile (!endsHost ·))
      if target.path.isEmpty then { target with path := ['/'] } else target
    | none => ⟨[], []⟩

end Target

end Quiesce.Control
