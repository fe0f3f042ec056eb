/-
**The host's files by path.**

The host has directories and files. A path is followed from the root if it starts with a slash, and
from the working directory otherwise. Its last name is what it asks for, and every name before that
must lead to a directory, also if one or two dots come next. A path that ends in a slash asks for a
directory, so it neither finds nor creates a file.

* `Host.find` is the file that a path leads to, and `Host.placeFor` the place where a path puts one;
* `Host.create` empties or creates a file, and `Host.resizeFile` gives it another length.
-/

import FlatVolume.Focus
import FlatVolume.Host.Error
import FlatVolume.Host.File

namespace FlatVolume

/-- The names that lead from the root to a file or a directory. -/
abbrev Place := List String

/-- The directories and the files that paths lead to. -/
structure Host where
  files : Std.TreeMap Place HostFile
  /-- The directories other than the root. -/
  directories : List Place
  /-- Where paths start that do not start at the root. -/
  working : Place

/-- What a path leads to. -/
inductive Target where
  | directory (place : Place)
  | file (place : Place) (file : HostFile)
  | absent (place : Place)

/-- The longest name that the host accepts, in bytes. -/
def maxNameBytes : Nat := 255

/-- The longest path that the host accepts, in bytes. -/
def maxPathBytes : Nat := 4095

/-- The longest file that the host accepts, in bytes. -/
def maxFileBytes : Nat := 9223372036854775807

/-- The names on a path. Several slashes in a row count as one. -/
def namesOn (path : String) : List String := (path.splitOn "/").filter (· ≠ "")

/-- Where a name leads from a directory: one dot stays there, and two dots go back. -/
def Place.step (directory : Place) (name : String) : Place :=
  if name = "." then directory
  else if name = ".." then directory.dropLast
  else directory ++ [name]

/-- Whether a path asks for a directory. -/
def EndsInSlash (path : String) : Prop := path.toList.getLast? = some '/'

instance (path : String) : Decidable (EndsInSlash path) := inferInstanceAs (Decidable (_ = _))

namespace Host

/-- A host whose only directory is its root, with no file in it. -/
def empty : Host := ⟨∅, [], []⟩

/-! ### Following a path -/

/-- What is at a place. -/
def target (host : Host) (place : Place) : Target :=
  if place = [] ∨ place ∈ host.directories then .directory place
  else
    match host.files[place]? with
    | some file => .file place file
    | none => .absent place

/-- What a name in a directory leads to. -/
def look (host : Host) (directory : Place) (name : String) : Except HostError Target :=
  if maxNameBytes < name.utf8ByteSize then .error .nameTooLong
  else .ok (host.target (directory.step name))

/-- The directory that a name in a directory leads to. -/
def enter (host : Host) (directory : Place) (name : String) : Except HostError Place := do
  match ← host.look directory name with
  | .directory place => .ok place
  | .file _ _ => .error .notADirectory
  | .absent _ => .error .notFound

/-- Where a path starts. -/
def start (host : Host) (path : String) : Place :=
  if path.toList.head? = some '/' then [] else host.working

/-- The places that a path comes by, if all of them are there. -/
def placesOn (host : Host) (path : String) : List Place :=
  let go := fun (places : List Place) (name : String) =>
    (places.headD (host.start path)).step name :: places
  ((namesOn path).foldl go []).reverse

/-- The directory that holds what a path asks for, and the name of it there. -/
def approach (host : Host) (path : String) : Except HostError (Place × String) := do
  if path = "" then .error .notFound
  else if '\x00' ∈ path.toList then .error .zeroInPath
  else if maxPathBytes < path.utf8ByteSize then .error .nameTooLong
  else
    let names := namesOn path
    return (← names.dropLast.foldlM host.enter (host.start path), names.getLastD ".")

/-- The file that a path leads to. -/
def find (host : Host) (path : String) : Except HostError (Place × HostFile) := do
  let (directory, name) ← host.approach path
  match ← host.look directory name with
  | .file place file => if EndsInSlash path then .error .notADirectory else .ok (place, file)
  | .directory _ => .error .isADirectory
  | .absent _ => .error .notFound

/-- The place of a file that is there or can be created. A final slash is refused unseen. -/
def placeFor (host : Host) (path : String) : Except HostError Place := do
  let (directory, name) ← host.approach path
  if EndsInSlash path then .error .isADirectory
  else
    match ← host.look directory name with
    | .directory _ => .error .isADirectory
    | .file place _ => .ok place
    | .absent place => .ok place

/-! ### Changing files -/

/-- Puts a file at a place. -/
def setFile (host : Host) (place : Place) (file : HostFile) : Host :=
  { host with files := host.files.insert place file }

/-- Creates a file or replaces the one that is there. -/
def create (path : String) (file : HostFile) : EStateM HostError Host Place := do
  let place ← settle ((← get).placeFor path)
  modify fun host => host.setFile place file
  return place

/-- Cuts off a file at a place, or lengthens it with zeros. -/
def resizeFile (place : Place) (file : HostFile) (size : Nat) : EStateM HostError Host Unit :=
  if maxFileBytes < size then throw .lengthTooLarge
  else modify fun host => host.setFile place (file.resize size)

end Host

end FlatVolume
