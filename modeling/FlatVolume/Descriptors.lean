/-
**File descriptors.**

A volume has 32 descriptors. Each one in use names a slot of the directory and a position in the
file, and one file can have several. A file that is opened gets the lowest unused descriptor.
-/

import FlatVolume.Directory.Basic

namespace FlatVolume

/-- How many files can be open at a time. -/
def descriptorCount : Nat := 32

/-- What a descriptor in use stands for. -/
structure OpenFile where
  slot : Slot
  /-- Where the next read or write starts. -/
  offset : Nat
deriving DecidableEq

/-- All descriptors; an unused one stands for nothing. -/
structure Descriptors where
  table : Vector (Option OpenFile) descriptorCount
deriving DecidableEq

namespace Descriptors

/-- No file is open. -/
def empty : Descriptors := ⟨Vector.replicate descriptorCount none⟩

/-- The file that a descriptor stands for. -/
def get (descriptors : Descriptors) (descriptor : Nat) : Except VolumeError OpenFile :=
  match descriptors.table[descriptor]? with
  | some (some file) => .ok file
  | _ => .error .invalidDescriptor

theorem get_eq_ok_iff {descriptors : Descriptors} {descriptor : Nat} {file : OpenFile} :
    descriptors.get descriptor = .ok file ↔
      descriptors.table[descriptor]? = some (some file) := by
  unfold get
  split <;> simp_all

/-- Sets a descriptor; a number that is no descriptor is ignored. -/
def set (descriptors : Descriptors) (descriptor : Nat) (file : Option OpenFile) : Descriptors :=
  ⟨descriptors.table.setIfInBounds descriptor file⟩

/-- The lowest unused descriptor. -/
def unused? (descriptors : Descriptors) : Option (Fin descriptorCount) :=
  (List.finRange descriptorCount).find? fun descriptor =>
    decide (descriptors.table[descriptor] = none)

/-- Opens a file at its start. -/
def insert (descriptors : Descriptors) (slot : Slot) : Except VolumeError (Nat × Descriptors) :=
  match descriptors.unused? with
  | some descriptor => .ok (descriptor, descriptors.set descriptor (some ⟨slot, 0⟩))
  | none => .error .openTableFull

/-- Gives a descriptor back. -/
def erase (descriptors : Descriptors) (descriptor : Nat) : Except VolumeError Descriptors := do
  let _ ← descriptors.get descriptor
  return descriptors.set descriptor none

/-- The files that are open, in the order of their descriptors. -/
def openFiles (descriptors : Descriptors) : List OpenFile :=
  descriptors.table.toList.filterMap id

/-- Whether some descriptor stands for the file in a slot. -/
def IsOpen (descriptors : Descriptors) (slot : Slot) : Prop :=
  slot ∈ descriptors.openFiles.map OpenFile.slot

instance (descriptors : Descriptors) (slot : Slot) : Decidable (descriptors.IsOpen slot) :=
  inferInstanceAs (Decidable (_ ∈ _))

end Descriptors

end FlatVolume
