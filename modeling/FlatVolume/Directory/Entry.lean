/-
**Directory entries.**

An entry takes 32 bytes: a name of up to sixteen bytes that ends at the first zero, the size in
bytes, the first block of the chain, and ten bytes of padding. An entry whose name starts with a
zero is free. `IsFileName` says which names a caller may give. It leaves room for a zero after the
name, so fifteen bytes are the most.
-/

import FlatVolume.BlockId
import FlatVolume.Bytes.LittleEndian

namespace FlatVolume

/-- The size of the name in an entry, in bytes. -/
def nameWidth : Nat := 16

/-- The size of an entry in bytes. -/
def entryWidth : Nat := 32

/-! ### Names -/

/-- The names that a file can be given. -/
def IsFileName (name : String) : Prop :=
  name ≠ "" ∧ name.utf8ByteSize < nameWidth ∧ '\x00' ∉ name.toList

instance (name : String) : Decidable (IsFileName name) :=
  inferInstanceAs (Decidable (_ ∧ _ ∧ _))

/-- Rejects a name that no file can be given. -/
def checkName (name : String) : Except VolumeError Unit :=
  if IsFileName name then .ok () else .error .invalidArgument

/-! ### Entries -/

/-- What the directory keeps of one file. -/
structure DirEntry where
  /-- The name and the bytes after it. -/
  nameField : ByteField nameWidth
  size : UInt32
  /-- The head of the file's chain, or the end of a chain if the file has no block. -/
  first : BlockId
deriving DecidableEq

namespace DirEntry

/-- A free entry of zeros. -/
def empty : DirEntry := ⟨.zero nameWidth, 0, .unused⟩

instance : Inhabited DirEntry := ⟨empty⟩

/-- An empty file. -/
def new (name : String) : DirEntry := ⟨.ofBytes nameWidth (utf8Bytes name), 0, .endOfChain⟩

/-- No file has the entry: its name starts with a zero. -/
def IsFree (entry : DirEntry) : Prop := entry.nameField.bytes.head? = some 0

instance (entry : DirEntry) : Decidable entry.IsFree :=
  inferInstanceAs (Decidable (_ = _))

/-- The bytes before the first zero. -/
def rawName (entry : DirEntry) : Bytes := entry.nameField.bytes.takeWhile (· ≠ 0)

/-- The name, which is empty when its bytes are not UTF-8. -/
def name (entry : DirEntry) : String := (String.fromUTF8? entry.rawName.toByteArray).getD ""

/-- The entry with its size set, cut to 32 bits. -/
def resize (entry : DirEntry) (size : Nat) : DirEntry := { entry with size := .ofNat size }

/-- The entry with its first block set. -/
def setFirst (entry : DirEntry) (first : BlockId) : DirEntry := { entry with first }

/-! ### Entries on disk -/

/-- The entry in 32 bytes. -/
def encode (entry : DirEntry) : ByteField entryWidth :=
  ByteField.ofBytes entryWidth
    (entry.nameField.bytes
      ++ littleEndian 4 entry.size.toNat
      ++ littleEndian 2 entry.first.toNat)

/-- The entry in the given bytes, of which the padding is ignored. -/
def decode (raw : ByteField entryWidth) : DirEntry where
  nameField := ByteField.ofBytes nameWidth (raw.slice 0 16)
  size := .ofNat (ofLittleEndian (raw.slice 16 4))
  first := .ofNat (ofLittleEndian (raw.slice 20 2))

end DirEntry

end FlatVolume
