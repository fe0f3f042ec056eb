/-
**Volumes.**

A volume is what is kept in memory of a formatted device: the division of the disk, the allocation
table, the root directory, and the open files. The content of files is not part of it. `format`
makes a device hold an empty volume, `mount` reads a volume from a device, and `sync` writes it
back.
-/

import FlatVolume.Descriptors
import FlatVolume.Directory.Storage
import FlatVolume.Table.Check
import FlatVolume.Table.Storage

namespace FlatVolume

/-- What is kept in memory of a mounted device. -/
structure Volume where
  layout : SuperBlock
  table : Table
  directory : Directory
  descriptors : Descriptors
deriving DecidableEq

namespace Volume

section Storage

variable {D : Type} [BlockDevice D]

/-- Makes the device hold an empty volume that uses all its blocks. -/
def format : EStateM VolumeError D Unit := do
  let layout ← settle (SuperBlock.forDisk (BlockDevice.numBlocks (← get)))
  storeBlock superBlockIndex layout.encode
  (Table.empty layout.dataBlocks.toNat).store layout
  Directory.empty.store layout
  flushDevice

/-- Reads the volume that the device holds. No file is open in it. -/
def mount : EStateM VolumeError D Volume := do
  let layout ← settle (SuperBlock.decode (← fetchBlock superBlockIndex))
  settle (layout.validate (BlockDevice.numBlocks (← get)))
  let table ← Table.load layout
  let directory ← Directory.load layout
  return { layout, table, directory, descriptors := .empty }

/-- Writes the table and the directory to the device. -/
def sync (volume : Volume) : EStateM VolumeError D Unit := do
  volume.table.store volume.layout
  volume.directory.store volume.layout
  flushDevice

/-- Writes the volume back for the last time. Nothing is done while a file is open. -/
def unmount (volume : Volume) : EStateM VolumeError D Unit := do
  if volume.descriptors.openFiles ≠ [] then throw .fileInUse
  volume.sync

end Storage

end Volume

/-- A volume and the device that it was read from. -/
structure Mounted (D : Type) where
  volume : Volume
  device : D

namespace Mounted

variable {D : Type} {α : Type}

/-- An action on the volume alone. -/
def onVolume (action : EStateM VolumeError Volume α) : EStateM VolumeError (Mounted D) α :=
  focus Mounted.volume (fun volume mounted => { mounted with volume }) action

/-- An action on the device alone. -/
def onDevice (action : EStateM VolumeError D α) : EStateM VolumeError (Mounted D) α :=
  focus Mounted.device (fun device mounted => { mounted with device }) action

end Mounted

end FlatVolume
