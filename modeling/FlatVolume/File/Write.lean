/-
**Writing a file.**

A write first lengthens the chain as far as the data needs or the space allows, then writes the
data piece by piece, and last sets the size. When space runs out, the data that still fits is
written. When a piece cannot be written, the chain is cut back to the blocks that the old size
needs, and the size stays.

A piece that covers its block replaces it without a read. Any other piece is written over the old
content of a block that the file had before, and over zeros in a block that is new.
-/

import FlatVolume.Device.Basic
import FlatVolume.Directory.Entry
import FlatVolume.SuperBlock
import FlatVolume.Table.Allocation

namespace FlatVolume

/-- The largest size of a file in bytes. -/
def maxFileSize : Nat := 4294967295

/-- What a write to one file changes: the table, the entry of the file, and the device. -/
structure FileStore (D : Type) where
  table : Table
  entry : DirEntry
  device : D

namespace FileStore

variable {D : Type} {α : Type}

/-- An action on the table. -/
def onTable (action : EStateM VolumeError Table α) : EStateM VolumeError (FileStore D) α :=
  focus FileStore.table (fun table store => { store with table }) action

/-- An action on the device. -/
def onDevice (action : EStateM VolumeError D α) : EStateM VolumeError (FileStore D) α :=
  focus FileStore.device (fun device store => { store with device }) action

/-- Sets the first block of the file. -/
def setFirst (first : BlockId) : EStateM VolumeError (FileStore D) Unit :=
  modify fun store => { store with entry := store.entry.setFirst first }

/-- Sets the size of the file. -/
def resize (size : Nat) : EStateM VolumeError (FileStore D) Unit :=
  modify fun store => { store with entry := store.entry.resize size }

end FileStore

section Write

variable {D : Type} [BlockDevice D]

/-- Writes one piece of data into `block`. The blocks of the chain from position `fresh` on are
new. -/
def writeSpan (layout : SuperBlock) (fresh : Nat) (span : Span) (part : Bytes) (block : BlockId) :
    EStateM VolumeError D Unit := do
  let target := layout.dataBlock block
  let old ←
    if span.IsWhole ∨ fresh ≤ span.index then pure (.zero blockSize) else fetchBlock target
  storeBlock target (old.overlay span.skip part)

/-- Writes the pieces in order, the first of them into `block`. -/
def writeSpans (layout : SuperBlock) (table : Table) (fresh : Nat) :
    List Span → (data : Bytes) → (block : BlockId) → EStateM VolumeError D Unit
  | [], _, _ => return ()
  | [span], data, block => writeSpan layout fresh span (data.take span.length) block
  | span :: next :: rest, data, block => do
    writeSpan layout fresh span (data.take span.length) block
    let block ← settle (table.following block)
    writeSpans layout table fresh (next :: rest) (data.drop span.length) block

/-- Writes data over the bytes from `offset` on of a chain that is long enough. -/
def writeChain (layout : SuperBlock) (table : Table) (first : BlockId) (fresh offset : Nat)
    (data : Bytes) : EStateM VolumeError D Unit := do
  let block ← settle (table.blockAt first offset)
  writeSpans layout table fresh (spans offset data.length) data block

/-- Writes data into a file from `offset` on and returns how many bytes of it found space. -/
def writeFile (layout : SuperBlock) (offset : Nat) (data : Bytes) :
    EStateM VolumeError (FileStore D) Nat := do
  if data = [] then return 0
  if maxFileSize < offset + data.length then throw .invalidArgument
  let entry := (← get).entry
  let oldBlocks := blocksFor entry.size.toNat
  let chain ← FileStore.onTable
    (Table.grow ⟨entry.first, oldBlocks⟩ (blocksFor (offset + data.length)))
  FileStore.setFirst chain.head
  let stop := min (offset + data.length) (chain.length * blockSize)
  if stop ≤ offset then return 0
  try
    let table := (← get).table
    FileStore.onDevice
      (writeChain layout table chain.head oldBlocks offset (data.take (stop - offset)))
  catch cause =>
    let head ← FileStore.onTable (Table.truncate chain.head oldBlocks)
    FileStore.setFirst head
    throw cause
  FileStore.resize (max entry.size.toNat stop)
  return stop - offset

end Write

end FlatVolume
