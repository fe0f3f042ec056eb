/-
**The medium behind a device.**

A medium is an endless row of blocks of which only finitely many were ever written, and all others
are zero. It can be read and written in blocks or in byte ranges that ignore block boundaries.
-/

import Std.Data.TreeMap.Basic
import Std.Data.TreeMap.Lemmas
import FlatVolume.Span

namespace FlatVolume

/-- The blocks that were written, by their numbers. -/
structure Medium where
  blocks : Std.TreeMap Nat Block

namespace Medium

/-- A medium of zeros. -/
def blank : Medium := ⟨∅⟩

instance : Inhabited Medium := ⟨blank⟩

/-- The content of a block; one that was never written is zero. -/
def block (medium : Medium) (index : Nat) : Block :=
  medium.blocks.getD index (ByteField.zero blockSize)

/-- Writes a block. -/
def setBlock (medium : Medium) (index : Nat) (content : Block) : Medium :=
  ⟨medium.blocks.insert index content⟩

@[simp] theorem block_blank (index : Nat) : blank.block index = ByteField.zero blockSize := by
  simp [block, blank]

/-- A block reads back as it was written, and writing it changes no other block. -/
theorem block_setBlock (medium : Medium) (index other : Nat) (content : Block) :
    (medium.setBlock index content).block other =
      if index = other then content else medium.block other := by
  simp only [block, setBlock, Std.TreeMap.getD_insert, Std.LawfulEqCmp.compare_eq_iff_eq]

/-- The `length` bytes that start at `offset`. -/
def read (medium : Medium) (offset length : Nat) : Bytes :=
  (spans offset length).flatMap fun span =>
    (medium.block span.index).slice span.skip span.length

/-- Writes the pieces of a byte string over the blocks they belong to. -/
def writeSpans : List Span → Bytes → Medium → Medium
  | [], _, medium => medium
  | span :: rest, data, medium =>
    let content := (medium.block span.index).overlay span.skip (data.take span.length)
    writeSpans rest (data.drop span.length) (medium.setBlock span.index content)

/-- Writes a byte string over the bytes that start at `offset`. -/
def write (medium : Medium) (offset : Nat) (data : Bytes) : Medium :=
  writeSpans (spans offset data.length) data medium

/-- The blocks that are not all zero, in ascending order. -/
def used (medium : Medium) : List (Nat × Block) :=
  medium.blocks.toList.filter fun entry => entry.2.bytes.any (· ≠ 0)

/-- The medium with all bytes from `stop` on set to zero. -/
def truncate (medium : Medium) (stop : Nat) : Medium :=
  let kept := medium.blocks.filter fun index _ => decide (index < blocksFor stop)
  let edge := stop / blockSize
  if stop % blockSize = 0 then ⟨kept⟩
  else
    let rest := (medium.block edge).slice 0 (stop % blockSize)
    Medium.setBlock ⟨kept⟩ edge (ByteField.ofBytes blockSize rest)

end Medium

end FlatVolume
