import Quiesce.Toml.Basic

/-!
How the lines of a document build up its table. A table is opened by a header, or comes about on
the way to one, or by a key with points in it; which of these it was decides who may still add to
it. Nothing is ever defined twice, and values of other kinds are closed.
-/
namespace Quiesce.Toml

inductive Origin where
  | header
  | passage
  | key
  deriving DecidableEq

inductive Node where
  | leaf (value : Toml)
  | table (origin : Origin) (entries : List (String × Node))
  | tables (reversed : List (List (String × Node)))

abbrev Entries := List (String × Node)

def alter (name : String) (change : Option Node → Option Node) : Entries → Option Entries
  | [] => do return [(name, ← change none)]
  | (n, node) :: rest =>
    if n = name then do return (n, ← change (some node)) :: rest
    else do return (n, node) :: (← alter name change rest)

/-- Changes the table at the end of a path, and makes the tables that are missing on the way.
A path from a key with points must not lead through a table that has a header of its own. -/
def descend (dotted : Bool) (act : Origin → Entries → Option Entries) :
    List String → Origin → Entries → Option Entries
  | [], origin, entries => act origin entries
  | name :: path, _, entries =>
    alter name
      (fun
        | none => do
          let origin := if dotted then Origin.key else Origin.passage
          return .table origin (← descend dotted act path origin [])
        | some (.table origin inner) =>
          if dotted && origin = .header then none
          else do return .table origin (← descend dotted act path origin inner)
        | some (.tables (latest :: earlier)) => do
          return .tables ((← descend dotted act path .header latest) :: earlier)
        | some _ => none)
      entries

def addValue (path : List String) (name : String) (value : Toml) (origin : Origin)
    (entries : Entries) : Option Entries :=
  descend true
    (fun origin entries =>
      if decide (origin = .key) = path.isEmpty then none
      else alter name
        (fun
          | none => some (.leaf value)
          | some _ => none)
        entries)
    path origin entries

/-- Opens the table of a header. One that came about on the way to another table keeps what it has
and takes its place anew, behind the entries so far. -/
def openTable (path : List String) (name : String) (entries : Entries) : Option Entries :=
  descend false
    (fun _ entries =>
      match entries.find? (·.1 == name) with
      | none => some (entries ++ [(name, .table .header [])])
      | some (_, .table .passage inner) =>
        some (entries.filter (·.1 != name) ++ [(name, .table .header inner)])
      | some _ => none)
    path .header entries

def openNext (path : List String) (name : String) (entries : Entries) : Option Entries :=
  descend false
    (fun _ entries => alter name
      (fun
        | none => some (.tables [[]])
        | some (.tables reversed) => some (.tables ([] :: reversed))
        | some _ => none)
      entries)
    path .header entries

mutual

def Node.toToml : Node → Toml
  | .leaf value => value
  | .table _ entries => .table (entriesToToml entries)
  | .tables reversed => .arr (tablesToToml reversed).reverse

def entriesToToml : List (String × Node) → List (String × Toml)
  | [] => []
  | (name, node) :: rest => (name, node.toToml) :: entriesToToml rest

def tablesToToml : List (List (String × Node)) → List Toml
  | [] => []
  | entries :: rest => .table (entriesToToml entries) :: tablesToToml rest

end

end Quiesce.Toml
