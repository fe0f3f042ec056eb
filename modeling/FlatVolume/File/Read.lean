/-
**Reading a file.**

A byte range of a file is read piece by piece, one block of the chain at a time. The link to the
next block is followed only when there is more to read, so a chain that is broken behind the range
does no harm, and the calls made before a broken link is found have been made.
-/

import FlatVolume.Device.Basic
import FlatVolume.Directory.Entry
import FlatVolume.SuperBlock
import FlatVolume.Table.Basic

namespace FlatVolume

/-- Positions in a byte range are below this number. -/
def positionLimit : Nat := UInt64.size

section Read

variable {D : Type} [BlockDevice D]

/-- Reads the pieces in order, the first of them in `block`. -/
def readSpans (layout : SuperBlock) (table : Table) :
    List Span → (block : BlockId) → EStateM VolumeError D Bytes
  | [], _ => return []
  | [span], block => do
    let content ← fetchBlock (layout.dataBlock block)
    return content.slice span.skip span.length
  | span :: next :: rest, block => do
    let content ← fetchBlock (layout.dataBlock block)
    let block ← settle (table.following block)
    return content.slice span.skip span.length ++ (← readSpans layout table (next :: rest) block)

/-- Reads up to `length` bytes of a file from `offset` on, as far as the file goes. -/
def readFile (layout : SuperBlock) (table : Table) (entry : DirEntry) (offset length : Nat) :
    EStateM VolumeError D Bytes := do
  if positionLimit ≤ offset + length then throw .invalidArgument
  let stop := min (offset + length) entry.size.toNat
  if stop ≤ offset then return []
  let block ← settle (table.blockAt entry.first offset)
  readSpans layout table (spans offset (stop - offset)) block

end Read

end FlatVolume
