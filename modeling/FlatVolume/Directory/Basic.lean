/-
**The root directory.**

The directory has 128 slots, each with one entry. A new file takes the lowest free slot, and files
are listed in the order of their slots.
-/

import FlatVolume.Directory.Entry

namespace FlatVolume

/-- How many files a volume can have. -/
def slotCount : Nat := 128

theorem slotCount_pos : 0 < slotCount := by decide

/-- The position of an entry. -/
abbrev Slot := Fin slotCount

/-- The entries of all slots. -/
structure Directory where
  entries : Vector DirEntry slotCount
deriving DecidableEq

namespace Directory

/-- A directory without files. -/
def empty : Directory := ⟨Vector.replicate slotCount .empty⟩

/-- The entry in a slot. -/
def get (directory : Directory) (slot : Slot) : DirEntry := directory.entries[slot]

/-- Puts an entry into a slot. -/
def set (directory : Directory) (slot : Slot) (entry : DirEntry) : Directory :=
  ⟨directory.entries.set slot entry⟩

/-- An entry reads back as it was set, and setting it changes no other entry. -/
theorem get_set (directory : Directory) (slot other : Slot) (entry : DirEntry) :
    (directory.set slot entry).get other = if slot = other then entry else directory.get other := by
  simp [get, set, Vector.getElem_set, Fin.ext_iff]

/-- The slots of all files with their entries, in ascending order. -/
def files (directory : Directory) : List (Slot × DirEntry) :=
  (List.finRange slotCount).filterMap fun slot =>
    let entry := directory.get slot
    if entry.IsFree then none else some (slot, entry)

/-- How many slots are free. -/
def freeCount (directory : Directory) : Nat :=
  directory.entries.countP fun entry => decide entry.IsFree

/-- The lowest slot of a file that has the name. -/
def find? (directory : Directory) (name : String) : Option Slot :=
  (List.finRange slotCount).find? fun slot =>
    decide (¬ (directory.get slot).IsFree ∧ (directory.get slot).name = name)

/-- The slot of the file that a caller names. -/
def lookup (directory : Directory) (name : String) : Except VolumeError Slot := do
  checkName name
  match directory.find? name with
  | some slot => .ok slot
  | none => .error .notFound

/-- The lowest free slot. -/
def freeSlot? (directory : Directory) : Option Slot :=
  (List.finRange slotCount).find? fun slot => decide (directory.get slot).IsFree

/-- Puts an empty file of the given name into the lowest free slot. -/
def insert (directory : Directory) (name : String) : Except VolumeError (Slot × Directory) := do
  checkName name
  if (directory.find? name).isSome then .error .alreadyExists
  else
    match directory.freeSlot? with
    | some slot => .ok (slot, directory.set slot (.new name))
    | none => .error .directoryFull

/-- Empties a slot. -/
def remove (directory : Directory) (slot : Slot) : Directory := directory.set slot .empty

end Directory

end FlatVolume
