/-
**What a volume tells about itself.**

`Volume.info` counts the blocks and what is free, `Volume.list` names the files in the order of
their slots, and each has a text form of one line for each fact.
-/

import FlatVolume.Volume.Basic

namespace FlatVolume

/-- The division of the disk and what is free on it. -/
structure VolumeInfo where
  totalBlocks : Nat
  tableBlocks : Nat
  rootBlock : Nat
  dataStart : Nat
  dataBlocks : Nat
  freeBlocks : Nat
  freeSlots : Nat
deriving DecidableEq

/-- The text lines, each with a line break after it. -/
def joinLines (lines : List String) : String := String.join (lines.map (· ++ "\n"))

/-- The text form of the division and of what is free. -/
def VolumeInfo.report (info : VolumeInfo) : String :=
  joinLines
    [ "FS Info:"
    , s!"total_blk_count={info.totalBlocks}"
    , s!"fat_blk_count={info.tableBlocks}"
    , s!"rdir_blk={info.rootBlock}"
    , s!"data_blk={info.dataStart}"
    , s!"data_blk_count={info.dataBlocks}"
    , s!"fat_free_ratio={info.freeBlocks}/{info.dataBlocks}"
    , s!"rdir_free_ratio={info.freeSlots}/{slotCount}" ]

/-- A file as it is listed. -/
structure FileInfo where
  name : String
  size : Nat
  first : BlockId
deriving DecidableEq

/-- The line of a listed file. -/
def FileInfo.report (file : FileInfo) : String :=
  s!"file: {file.name}, size: {file.size}, data_blk: {file.first.toNat}"

/-- The text form of a list of files. -/
def listReport (files : List FileInfo) : String :=
  joinLines ("FS Ls:" :: files.map FileInfo.report)

namespace Volume

/-- The division of the disk and what is free on it. -/
def info (volume : Volume) : VolumeInfo where
  totalBlocks := volume.layout.totalBlocks.toNat
  tableBlocks := volume.layout.tableBlocks.toNat
  rootBlock := volume.layout.rootBlock.toNat
  dataStart := volume.layout.dataStart.toNat
  dataBlocks := volume.layout.dataBlocks.toNat
  freeBlocks := volume.table.freeCount
  freeSlots := volume.directory.freeCount

/-- The files in the order of their slots. -/
def list (volume : Volume) : List FileInfo :=
  volume.directory.files.map fun (_, entry) => ⟨entry.name, entry.size.toNat, entry.first⟩

/-- The sizes of all files together. -/
def totalSize (volume : Volume) : Nat :=
  volume.list.foldl (fun total file => total + file.size) 0

end Volume

end FlatVolume
