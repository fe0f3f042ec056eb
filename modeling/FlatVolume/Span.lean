/-
**Byte ranges cut at block boundaries.**

A range of bytes that starts at `offset` and is `length` long touches the blocks from `offset /
blockSize` to `(offset + length - 1) / blockSize`. `spans` lists its piece in each of these blocks,
in ascending order; an empty range has none.
-/

import FlatVolume.Bytes.Field

namespace FlatVolume

/-- The `length` bytes of the block `index` that start `skip` bytes into it. -/
structure Span where
  index : Nat
  skip : Nat
  length : Nat
deriving DecidableEq

namespace Span

/-- The piece that covers all of its block. -/
def IsWhole (span : Span) : Prop := span.length = blockSize

instance (span : Span) : Decidable span.IsWhole :=
  inferInstanceAs (Decidable (span.length = blockSize))

/-- The piece of the range from `offset` to `stop` that lies in the block `index`. -/
def cut (offset stop index : Nat) : Span where
  index := index
  skip := offset - index * blockSize
  length := min (stop - index * blockSize) blockSize - (offset - index * blockSize)

end Span

/-- How many blocks the given number of bytes needs. -/
def blocksFor (length : Nat) : Nat := (length + (blockSize - 1)) / blockSize

/-- A number of blocks is enough if it has room for the bytes. -/
theorem blocksFor_le_iff {length blocks : Nat} :
    blocksFor length ≤ blocks ↔ length ≤ blocks * blockSize := by
  simp only [blocksFor, blockSize]
  omega

/-- A block is needed if some of the bytes lie in it or after it. -/
theorem lt_blocksFor_iff {length index : Nat} :
    index < blocksFor length ↔ index * blockSize < length := by
  rw [← Nat.not_le, ← Nat.not_le, blocksFor_le_iff]

@[simp] theorem blocksFor_eq_zero_iff {length : Nat} : blocksFor length = 0 ↔ length = 0 := by
  simp only [blocksFor, blockSize]
  omega

/-- The pieces of a byte range, one for each block that it touches. -/
def spans (offset length : Nat) : List Span :=
  if length = 0 then []
  else
    let first := offset / blockSize
    (List.range' first (blocksFor (offset + length) - first)).map
      (Span.cut offset (offset + length))

end FlatVolume
