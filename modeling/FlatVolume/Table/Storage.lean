/-
**The allocation table on disk.**

The entries are stored as pairs of bytes in little-endian order, 2048 of them in each block of the
table's area. `load` reads as many as the data area has blocks and ignores the others, which
`store` sets to zero. A table is acceptable when block `0` is the end of a chain and every other
entry is unused, the end of a chain, or the number of a block of the data area.
-/

import FlatVolume.Device.Basic
import FlatVolume.SuperBlock
import FlatVolume.Table.Basic

namespace FlatVolume.Table

/-! ### Entries as bytes -/

/-- The entries in a row of bytes; a single byte at the end is no entry. -/
def entriesOf : Bytes → List BlockId
  | low :: high :: rest => .ofNat (ofLittleEndian [low, high]) :: entriesOf rest
  | _ => []

/-- The bytes of a row of entries. -/
def bytesOf (entries : List BlockId) : Bytes :=
  entries.flatMap fun value => littleEndian 2 value.toNat

/-- The block of the table's area at a position, with entries of zero after the last one. -/
def encodeBlock (table : Table) (position : Nat) : Block :=
  let start := position * entriesPerBlock
  ByteField.ofBytes blockSize
    (bytesOf (table.entries.extract start (start + entriesPerBlock)).toList)

/-- The table's area, block by block. -/
def encode (table : Table) (tableBlocks : Nat) : List Block :=
  (List.range tableBlocks).map table.encodeBlock

/-- The first `dataBlocks` entries of the table's area. -/
def decode (blocks : List Block) (dataBlocks : Nat) : Table :=
  ⟨((blocks.flatMap fun block => entriesOf block.bytes).take dataBlocks).toArray⟩

/-! ### Which tables are accepted -/

/-- A value that an entry of a data area of `dataBlocks` blocks can have. -/
def IsEntryValue (dataBlocks : Nat) (value : BlockId) : Prop :=
  value = .unused ∨ value = .endOfChain ∨ value.toNat < dataBlocks

instance (dataBlocks : Nat) (value : BlockId) : Decidable (IsEntryValue dataBlocks value) :=
  inferInstanceAs (Decidable (_ ∨ _ ∨ _))

/-- Block `0` is never given away, and every entry has a possible value. -/
def Acceptable (table : Table) : Prop :=
  table.entries[0]? = some .endOfChain ∧ ∀ value ∈ table.entries, IsEntryValue table.size value

instance (table : Table) : Decidable table.Acceptable :=
  inferInstanceAs (Decidable (_ ∧ _))

/-! ### Reading and writing -/

section Storage

variable {D : Type} [BlockDevice D]

/-- Reads the table, and rejects one that no volume can have. -/
def load (layout : SuperBlock) : EStateM VolumeError D Table := do
  let blocks ← layout.tableArea.mapM fetchBlock
  let table := decode blocks layout.dataBlocks.toNat
  if table.Acceptable then return table else throw .invalidFormat

/-- Writes the table over its whole area. -/
def store (table : Table) (layout : SuperBlock) : EStateM VolumeError D Unit :=
  (List.range layout.tableBlocks.toNat).forM fun position =>
    storeBlock (1 + position) (table.encodeBlock position)

end Storage

end FlatVolume.Table
