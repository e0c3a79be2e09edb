import Quiesce.HostFault
import Quiesce.Text.Split

/-!
Directories with files, as they are seen from a working directory. A path leads from the working
directory, or from the top if it starts with a slash, name by name to a place; on the way every
name has to be that of a directory. What lies above the working directory is not known by name.
-/
namespace Quiesce

inductive Anchor where
  | here
  | top
  | above
  deriving DecidableEq

structure Place where
  anchor : Anchor
  names : List String
  deriving DecidableEq

namespace Place

def child (p : Place) (name : String) : Place := ⟨p.anchor, p.names ++ [name]⟩

/-- The directory that a place lies in. There is nothing above the top. -/
def parent (p : Place) : Place :=
  match p.anchor, p.names with
  | .here, [] => ⟨.above, []⟩
  | _, _ => ⟨p.anchor, p.names.dropLast⟩

end Place

/-! ### Paths -/

namespace Path

def pieces (path : String) : List String :=
  (Text.splitWhen (· = '/') path.toList).map String.ofList

/-- The names in a path; empty ones and points, which lead nowhere, are left out. -/
def names (path : String) : List String :=
  (pieces path).filter fun name => name ≠ "" ∧ name ≠ "."

def isAbsolute (path : String) : Bool := path.toList.head? = some '/'

def start (path : String) : Place := ⟨if isAbsolute path then .top else .here, []⟩

def plain (path : String) : String :=
  (if isAbsolute path then "/" else "") ++ "/".intercalate (names path)

def fileName? (path : String) : Option String :=
  (names path).getLast?.filter (· ≠ "..")

/-- What follows the last point in the name of a file, unless the name starts with that point. -/
def ending? (path : String) : Option String :=
  match fileName? path with
  | none => none
  | some name =>
    let (ending, rest) := name.toList.reverse.span (· ≠ '.')
    if rest.length ≤ 1 then none else some (String.ofList ending.reverse)

def maxName : Nat := 255

def maxLength : Nat := 4095

end Path

/-! ### Places -/

structure Folder where
  files : List (Place × ByteArray) := []
  directories : List Place := []
  /-- Files that are being run, which cannot be written to meanwhile. -/
  running : List Place := []
  /-- Files whose content cannot be had, as when others own them. -/
  locked : List Place := []

namespace Folder

def contentAt? (f : Folder) (p : Place) : Option ByteArray :=
  (f.files.find? fun (place, _) => place == p).map (·.2)

def isFile (f : Folder) (p : Place) : Bool := (f.contentAt? p).isSome

def isDirectory (f : Folder) (p : Place) : Bool :=
  p.names.isEmpty || f.directories.contains p

def step (f : Folder) (p : Place) (name : String) : Except HostFault Place :=
  if f.isFile p then .error .notADirectory
  else if !f.isDirectory p then .error .noSuchFile
  else if name = "" ∨ name = "." then .ok p
  else if name = ".." then .ok p.parent
  else if name.utf8ByteSize > Path.maxName then .error .nameTooLong
  else if f.isFile (p.child name) || f.isDirectory (p.child name) then .ok (p.child name)
  else .error .noSuchFile

def resolve (f : Folder) (path : String) : Except HostFault Place :=
  if path = "" then .error .noSuchFile
  else if path.utf8ByteSize > Path.maxLength then .error .nameTooLong
  else (Path.pieces path).foldlM f.step (Path.start path)

def hasFile (f : Folder) (path : String) : Bool :=
  match f.resolve path with
  | .ok p => f.isFile p
  | .error _ => false

/-- The content of a file that is there and can be read. -/
def file? (f : Folder) (path : String) : Option ByteArray :=
  match f.resolve path with
  | .ok p => if f.locked.contains p then none else f.contentAt? p
  | .error _ => none

/-! ### Changes -/

def makeDirectories (f : Folder) (p : Place) : List String → Except HostFault (Folder × Place)
  | [] => .ok (f, p)
  | name :: rest =>
    match f.step p name with
    | .ok next =>
      if f.isFile next then .error .notADirectory else f.makeDirectories next rest
    | .error cause =>
      if cause = .noSuchFile then
        { f with directories := f.directories ++ [p.child name] }.makeDirectories
          (p.child name) rest
      else .error cause

def write (f : Folder) (p : Place) (content : Option ByteArray) : Folder :=
  let others := f.files.filter fun (place, _) => place != p
  { f with files := others ++ (content.map fun bytes => (p, bytes)).toList }

def enter (f : Folder) (path : String) : Except HostFault (Folder × Place) :=
  f.makeDirectories (Path.start path) (Path.names path).dropLast

/-- Puts a file at a path; a path at which no file can be is passed over. -/
def put (f : Folder) (path : String) (content : ByteArray) : Folder :=
  match f.enter path, Path.fileName? path with
  | .ok (f, p), some name => f.write (p.child name) (some content)
  | _, _ => f

def remove (f : Folder) (path : String) : Folder :=
  match f.resolve path with
  | .ok p => f.write p none
  | .error _ => f

def openForWriting (f : Folder) (path : String) : Except HostFault Folder := do
  if path.utf8ByteSize > Path.maxLength then .error .nameTooLong
  else
    let (f, p) ← f.enter path
    match Path.fileName? path with
    | none => .error .isADirectory
    | some name =>
      match f.step p name with
      | .ok place =>
        if !f.isFile place then .error .isADirectory
        else if f.running.contains place then .error .fileBusy
        else .ok f
      | .error cause =>
        if cause = .noSuchFile then .ok (f.write (p.child name) (some .empty)) else .error cause

end Folder

end Quiesce
