/-
**Byte fields.**

A byte field is a byte string of fixed length: a disk block, or a name of sixteen bytes.

* `ByteField.ofBytes` fits a byte string into a field, cutting it off or filling it up with zeros;
* `ByteField.slice` reads a part of a field, `ByteField.overlay` writes a part of it.
-/

namespace FlatVolume

/-- A byte string of any length. -/
abbrev Bytes := List UInt8

/-- The UTF-8 form of a text. -/
def utf8Bytes (text : String) : Bytes := text.toUTF8.data.toList

/-- A byte string of exactly `width` bytes. -/
structure ByteField (width : Nat) where
  bytes : Bytes
  length_eq : bytes.length = width
deriving DecidableEq

namespace ByteField

variable {width : Nat}

theorem ext {first second : ByteField width} (same : first.bytes = second.bytes) :
    first = second := by
  cases first
  cases second
  cases same
  rfl

/-- The field of zeros. -/
def zero (width : Nat) : ByteField width :=
  ⟨List.replicate width 0, List.length_replicate⟩

instance : Inhabited (ByteField width) := ⟨zero width⟩

/-- The bytes cut off after `width`, or filled up with zeros. -/
def ofBytes (width : Nat) (bytes : Bytes) : ByteField width :=
  ⟨bytes.take width ++ List.replicate (width - bytes.length) 0, by
    simp only [List.length_append, List.length_take, List.length_replicate]
    omega⟩

/-- Bytes that have the field's length are the field. -/
theorem ofBytes_bytes (field : ByteField width) : ofBytes width field.bytes = field := by
  apply ext
  simp [ofBytes, field.length_eq, List.take_of_length_le]

theorem bytes_ofBytes_of_length {bytes : Bytes} (fits : bytes.length = width) :
    (ofBytes width bytes).bytes = bytes := by
  simp [ofBytes, fits, List.take_of_length_le]

/-- The `length` bytes that start at `skip`. -/
def slice (field : ByteField width) (skip length : Nat) : Bytes :=
  (field.bytes.drop skip).take length

theorem length_slice (field : ByteField width) (skip length : Nat) :
    (field.slice skip length).length = min length (width - skip) := by
  simp [slice, field.length_eq]

/-- The field with `part` written over the bytes that start at `skip`. -/
def overlay (field : ByteField width) (skip : Nat) (part : Bytes) : ByteField width :=
  ofBytes width
    (field.bytes.take skip ++ part ++ field.bytes.drop (skip + part.length))

/-- A part that stays inside the field leaves the bytes before and after it. -/
theorem bytes_overlay (field : ByteField width) {skip : Nat} {part : Bytes}
    (inside : skip + part.length ≤ width) :
    (field.overlay skip part).bytes =
      field.bytes.take skip ++ part ++ field.bytes.drop (skip + part.length) := by
  apply bytes_ofBytes_of_length
  simp only [List.length_append, List.length_take, List.length_drop, field.length_eq]
  omega

/-- A part that covers the field replaces it. -/
theorem overlay_whole (field part : ByteField width) : field.overlay 0 part.bytes = part := by
  apply ext
  rw [bytes_overlay field (by simp [part.length_eq])]
  simp [part.length_eq, field.length_eq]

end ByteField

/-! ### Disk blocks -/

/-- The size of a disk block in bytes. -/
def blockSize : Nat := 4096

/-- The content of one disk block. -/
abbrev Block := ByteField blockSize

end FlatVolume
