/-
**The superblock.**

Block `0` of a volume states how the disk is divided:

| block | holds |
|-------|-------|
| `0` | the superblock |
| `1` to `tableBlocks` | the allocation table, 2048 entries in a block |
| `rootBlock` | the root directory |
| `dataStart` and on | the data area |

* `SuperBlock.forDisk` divides a disk so that every block is used; some sizes, such as 2052, cannot
  be divided;
* `SuperBlock.forDataBlocks` starts from the size of the data area;
* `SuperBlock.Valid` says when a superblock divides a disk of a given size.
-/

import FlatVolume.BlockId
import FlatVolume.Bytes.LittleEndian
import FlatVolume.Span

namespace FlatVolume

/-- How many table entries a block holds. -/
def entriesPerBlock : Nat := 2048

/-- How many blocks the table of a data area needs. -/
def tableBlocksFor (dataBlocks : Nat) : Nat :=
  (dataBlocks + (entriesPerBlock - 1)) / entriesPerBlock

/-- The largest disk whose size a superblock can state. -/
def maxTotalBlocks : Nat := 65535

/-- The block that holds the superblock. -/
def superBlockIndex : Nat := 0

/-- How a disk is divided, in the widths in which it is stored. -/
structure SuperBlock where
  totalBlocks : UInt16
  rootBlock : UInt16
  dataStart : UInt16
  dataBlocks : UInt16
  tableBlocks : UInt8
deriving DecidableEq

namespace SuperBlock

/-- The blocks of the allocation table. -/
def tableArea (layout : SuperBlock) : List Nat := List.range' 1 layout.tableBlocks.toNat

/-- The disk block of a data block. -/
def dataBlock (layout : SuperBlock) (id : BlockId) : Nat := layout.dataStart.toNat + id.toNat

/-! ### Dividing a disk -/

/-- The division whose data area has the given size, each field cut to its width. -/
def forDataBlocks (dataBlocks : Nat) : SuperBlock :=
  let tableBlocks := tableBlocksFor dataBlocks
  let rootBlock := tableBlocks + 1
  let dataStart := rootBlock + 1
  { totalBlocks := .ofNat (dataStart + dataBlocks)
    rootBlock := .ofNat rootBlock
    dataStart := .ofNat dataStart
    dataBlocks := .ofNat dataBlocks
    tableBlocks := .ofNat tableBlocks }

/-- The size of the disk that has a data area of the given size, if a superblock can state it. The
sum is taken without bound. It fits in 64 bits for data areas below `2 ^ 63` blocks, which are the
ones meant. -/
def totalBlocksFor? (dataBlocks : Nat) : Option Nat :=
  let total := 2 + tableBlocksFor dataBlocks + dataBlocks
  if 1 ≤ dataBlocks ∧ total ≤ maxTotalBlocks then some total else none

/-- The least table that covers exactly the blocks it leaves for data. -/
def tableBlocksOf? (totalBlocks : Nat) : Option Nat :=
  (List.range' 1 (tableBlocksFor (totalBlocks - 2))).find? fun tableBlocks =>
    decide (tableBlocksFor (totalBlocks - 2 - tableBlocks) = tableBlocks)

/-- The division of a disk of the given size, with no block left over. -/
def forDisk (totalBlocks : Nat) : Except VolumeError SuperBlock :=
  if totalBlocks < 4 ∨ maxTotalBlocks < totalBlocks then .error .invalidArgument
  else
    match tableBlocksOf? totalBlocks with
    | some tableBlocks => .ok (forDataBlocks (totalBlocks - 2 - tableBlocks))
    | none => .error .invalidArgument

/-! ### The block on disk -/

/-- The eight bytes that a volume starts with. -/
def signature : Bytes := [0x45, 0x43, 0x53, 0x31, 0x35, 0x30, 0x46, 0x53]

/-- The superblock as a block of the disk, with zeros after the fields. -/
def encode (layout : SuperBlock) : Block :=
  ByteField.ofBytes blockSize
    (signature
      ++ littleEndian 2 layout.totalBlocks.toNat
      ++ littleEndian 2 layout.rootBlock.toNat
      ++ littleEndian 2 layout.dataStart.toNat
      ++ littleEndian 2 layout.dataBlocks.toNat
      ++ littleEndian 1 layout.tableBlocks.toNat)

/-- The number in the `width` bytes that start at `offset`. -/
def fieldAt (block : Block) (offset width : Nat) : Nat := ofLittleEndian (block.slice offset width)

/-- Reads a superblock, of which only the signature is checked. -/
def decode (block : Block) : Except VolumeError SuperBlock :=
  if block.slice 0 8 = signature then
    .ok
      { totalBlocks := .ofNat (fieldAt block 8 2)
        rootBlock := .ofNat (fieldAt block 10 2)
        dataStart := .ofNat (fieldAt block 12 2)
        dataBlocks := .ofNat (fieldAt block 14 2)
        tableBlocks := .ofNat (fieldAt block 16 1) }
  else .error .invalidFormat

/-- The fields divide a disk of `deviceBlocks` blocks, with no block left over. -/
structure Valid (layout : SuperBlock) (deviceBlocks : Nat) : Prop where
  total : layout.totalBlocks.toNat = deviceBlocks
  data_pos : 1 ≤ layout.dataBlocks.toNat
  data_lt : layout.dataBlocks.toNat < BlockId.endOfChain.toNat
  table : layout.tableBlocks.toNat = tableBlocksFor layout.dataBlocks.toNat
  root : layout.rootBlock.toNat = layout.tableBlocks.toNat + 1
  start : layout.dataStart.toNat = layout.rootBlock.toNat + 1
  whole : layout.totalBlocks.toNat = layout.dataStart.toNat + layout.dataBlocks.toNat

/-- The conditions in a row. -/
theorem valid_iff (layout : SuperBlock) (deviceBlocks : Nat) :
    layout.Valid deviceBlocks ↔
      layout.totalBlocks.toNat = deviceBlocks ∧ 1 ≤ layout.dataBlocks.toNat ∧
      layout.dataBlocks.toNat < BlockId.endOfChain.toNat ∧
      layout.tableBlocks.toNat = tableBlocksFor layout.dataBlocks.toNat ∧
      layout.rootBlock.toNat = layout.tableBlocks.toNat + 1 ∧
      layout.dataStart.toNat = layout.rootBlock.toNat + 1 ∧
      layout.totalBlocks.toNat = layout.dataStart.toNat + layout.dataBlocks.toNat :=
  ⟨fun ⟨total, positive, bound, table, root, start, whole⟩ =>
    ⟨total, positive, bound, table, root, start, whole⟩,
   fun ⟨total, positive, bound, table, root, start, whole⟩ =>
    ⟨total, positive, bound, table, root, start, whole⟩⟩

instance (layout : SuperBlock) (deviceBlocks : Nat) : Decidable (layout.Valid deviceBlocks) :=
  decidable_of_iff _ (valid_iff layout deviceBlocks).symm

/-- Rejects a superblock that does not divide the disk. -/
def validate (layout : SuperBlock) (deviceBlocks : Nat) : Except VolumeError Unit :=
  if layout.Valid deviceBlocks then .ok () else .error .invalidFormat

end SuperBlock

end FlatVolume
