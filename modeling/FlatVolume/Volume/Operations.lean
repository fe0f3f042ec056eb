/-
**Operations on a mounted volume.**

Files are created, deleted and opened by name, and an open file is read and written through its
descriptor, which keeps its own position. Only `read`, `write` and `Volume.sync` touch the device;
the others change the volume in memory, and nothing at all when they fail.
-/

import FlatVolume.File.Read
import FlatVolume.File.Write
import FlatVolume.Volume.Basic

namespace FlatVolume

namespace Volume

/-! ### Files by name -/

/-- Creates an empty file. -/
def create (name : String) : EStateM VolumeError Volume Unit := do
  let (_, directory) ← settle ((← get).directory.insert name)
  modify fun volume => { volume with directory }

/-- Deletes a file that is not open and whose chain is intact, and frees its blocks. -/
def delete (name : String) : EStateM VolumeError Volume Unit := do
  let volume ← get
  let slot ← settle (volume.directory.lookup name)
  if volume.descriptors.IsOpen slot then throw .fileInUse
  let entry := volume.directory.get slot
  settle (volume.table.check [(entry.first, entry.size.toNat)])
  focus Volume.table (fun table volume => { volume with table }) (Table.release entry.first)
  modify fun volume => { volume with directory := volume.directory.remove slot }

/-- Opens a file at its start and returns its descriptor. -/
def openFile (name : String) : EStateM VolumeError Volume Nat := do
  let volume ← get
  let slot ← settle (volume.directory.lookup name)
  let (descriptor, descriptors) ← settle (volume.descriptors.insert slot)
  set { volume with descriptors }
  return descriptor

/-- The blocks of a file in order. -/
def chain (volume : Volume) (name : String) : Except VolumeError (List BlockId) := do
  let slot ← volume.directory.lookup name
  return volume.table.chain (volume.directory.get slot).first

/-- Every file has a chain that fits its size, and no two of them share a block. -/
def check (volume : Volume) : Except VolumeError Unit :=
  volume.table.check
    (volume.directory.files.map fun (_, entry) => (entry.first, entry.size.toNat))

/-! ### Open files -/

/-- Gives the descriptor of an open file back. -/
def close (descriptor : Nat) : EStateM VolumeError Volume Unit := do
  let descriptors ← settle ((← get).descriptors.erase descriptor)
  modify fun volume => { volume with descriptors }

/-- The size of an open file. -/
def fileSize (volume : Volume) (descriptor : Nat) : Except VolumeError Nat := do
  let file ← volume.descriptors.get descriptor
  return (volume.directory.get file.slot).size.toNat

/-- Sets the position of a descriptor. -/
def setOffset (descriptor : Nat) (file : OpenFile) (offset : Nat) :
    EStateM VolumeError Volume Unit :=
  modify fun volume =>
    { volume with
      descriptors := volume.descriptors.set descriptor (some { file with offset }) }

/-- Moves a descriptor, at most to the end of its file. -/
def seek (descriptor offset : Nat) : EStateM VolumeError Volume Unit := do
  let volume ← get
  let file ← settle (volume.descriptors.get descriptor)
  if (volume.directory.get file.slot).size.toNat < offset then throw .offsetOutOfRange
  setOffset descriptor file offset

end Volume

namespace Mounted

variable {D : Type} [BlockDevice D]

/-- Reads from an open file and moves its descriptor behind what was read. -/
def read (descriptor length : Nat) : EStateM VolumeError (Mounted D) Bytes := do
  let volume := (← get).volume
  let file ← settle (volume.descriptors.get descriptor)
  let entry := volume.directory.get file.slot
  let data ← onDevice (readFile volume.layout volume.table entry file.offset length)
  onVolume (Volume.setOffset descriptor file (file.offset + data.length))
  return data

/-- The part of a mounted volume that a write to the file in a slot changes. -/
def fileStore (slot : Slot) (mounted : Mounted D) : FileStore D where
  table := mounted.volume.table
  entry := mounted.volume.directory.get slot
  device := mounted.device

/-- Puts back what a write to the file in a slot left behind. -/
def putFileStore (slot : Slot) (store : FileStore D) (mounted : Mounted D) : Mounted D where
  volume :=
    { mounted.volume with
      table := store.table
      directory := mounted.volume.directory.set slot store.entry }
  device := store.device

/-- Writes to an open file, moves its descriptor behind what was written, and returns the number of
bytes that found space. -/
def write (descriptor : Nat) (data : Bytes) : EStateM VolumeError (Mounted D) Nat := do
  let volume := (← get).volume
  let file ← settle (volume.descriptors.get descriptor)
  let count ← focus (fileStore file.slot) (putFileStore file.slot)
    (writeFile volume.layout file.offset data)
  onVolume (Volume.setOffset descriptor file (file.offset + count))
  return count

/-- Writes the volume back to its device. -/
def sync : EStateM VolumeError (Mounted D) Unit := do
  let volume := (← get).volume
  onDevice volume.sync

end Mounted

end FlatVolume
