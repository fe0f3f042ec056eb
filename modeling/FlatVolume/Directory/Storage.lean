/-
**The root directory on disk.**

The directory is one block of 128 entries. Free slots are written as zeros, whatever they were read
as. A directory is acceptable when every file has a readable name of its own and a first block that
can be the head of a chain.
-/

import FlatVolume.Device.Basic
import FlatVolume.Directory.Basic
import FlatVolume.SuperBlock

namespace FlatVolume

/-- What is written for an entry. -/
def DirEntry.stored (entry : DirEntry) : ByteField entryWidth :=
  if entry.IsFree then .zero entryWidth else entry.encode

/-- The file has no block, or its first block is a link. -/
def DirEntry.HasHead (entry : DirEntry) (dataBlocks : Nat) : Prop :=
  entry.first = .endOfChain ∨ entry.first.IsLink dataBlocks

instance (entry : DirEntry) (dataBlocks : Nat) : Decidable (entry.HasHead dataBlocks) :=
  inferInstanceAs (Decidable (_ ∨ _))

namespace Directory

/-- The directory as a block of the disk. -/
def encode (directory : Directory) : Block :=
  ByteField.ofBytes blockSize
    (directory.entries.toList.flatMap fun entry => entry.stored.bytes)

/-- The directory in a block. -/
def decode (block : Block) : Directory :=
  ⟨Vector.ofFn fun slot =>
    DirEntry.decode (ByteField.ofBytes entryWidth (block.slice (slot * entryWidth) entryWidth))⟩

/-- Every file has a readable name that no other file has, and a possible first block. -/
def Acceptable (directory : Directory) (dataBlocks : Nat) : Prop :=
  ∀ slot, ¬ (directory.get slot).IsFree →
    (directory.get slot).name ≠ "" ∧
    directory.find? (directory.get slot).name = some slot ∧
    (directory.get slot).HasHead dataBlocks

instance (directory : Directory) (dataBlocks : Nat) : Decidable (directory.Acceptable dataBlocks) :=
  inferInstanceAs (Decidable (∀ _, _))

section Storage

variable {D : Type} [BlockDevice D]

/-- Reads the directory, and rejects one that no volume can have. -/
def load (layout : SuperBlock) : EStateM VolumeError D Directory := do
  let block ← fetchBlock layout.rootBlock.toNat
  let directory := decode block
  if directory.Acceptable layout.dataBlocks.toNat then return directory else throw .invalidFormat

/-- Writes the directory over its block. -/
def store (directory : Directory) (layout : SuperBlock) : EStateM VolumeError D Unit :=
  storeBlock layout.rootBlock.toNat directory.encode

end Storage

end Directory

end FlatVolume
