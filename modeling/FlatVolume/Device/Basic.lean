/-
**Block devices.**

A device is a row of blocks that are read and written one at a time by their numbers. A call that
fails leaves the content of every block alone, though it may change what the device counts.

`checkRequest` is the test that a device makes before it touches its content: the number of the
block first, then the length of the buffer.
-/

import FlatVolume.Bytes.Field
import FlatVolume.Error
import FlatVolume.Focus

namespace FlatVolume

/-- A store of numbered blocks. -/
class BlockDevice (D : Type) where
  /-- How many blocks the device says it has. -/
  numBlocks : D → Nat
  readBlock : Nat → EStateM DeviceError D Block
  writeBlock : Nat → Block → EStateM DeviceError D Unit
  /-- Makes what was written permanent. -/
  flush : EStateM DeviceError D Unit

/-- A request is one whole block of the device. -/
def checkRequest (numBlocks block length : Nat) : Except DeviceError Unit :=
  if numBlocks ≤ block then .error (.outOfRange block)
  else if length ≠ blockSize then .error (.badBuffer length)
  else .ok ()

theorem checkRequest_eq_ok_iff {numBlocks block length : Nat} :
    checkRequest numBlocks block length = .ok () ↔ block < numBlocks ∧ length = blockSize := by
  unfold checkRequest
  split
  · simp only [reduceCtorEq, false_iff]
    omega
  split <;> simp_all

/-! ### Calls made on behalf of a volume -/

section Calls

variable {D : Type} [BlockDevice D]

/-- Reads a block, and reports a failure as the device's. -/
def fetchBlock (block : Nat) : EStateM VolumeError D Block :=
  mapErrors .device (BlockDevice.readBlock block)

/-- Writes a block, and reports a failure as the device's. -/
def storeBlock (block : Nat) (content : Block) : EStateM VolumeError D Unit :=
  mapErrors .device (BlockDevice.writeBlock block content)

/-- Flushes the device, and reports a failure as the device's. -/
def flushDevice : EStateM VolumeError D Unit :=
  mapErrors .device BlockDevice.flush

end Calls

end FlatVolume
