/-
**Files of the host.**

A host file is a byte string of which long stretches of zeros take no room. Writing behind its end
lengthens it, and reading stops at its end.
-/

import FlatVolume.Device.Medium

namespace FlatVolume

/-- A byte string kept as blocks. -/
structure HostFile where
  size : Nat
  /-- The bytes of the file, and zeros behind its end. -/
  medium : Medium

namespace HostFile

/-- A file of zeros. -/
def blank (size : Nat) : HostFile := ⟨size, .blank⟩

instance : Inhabited HostFile := ⟨blank 0⟩

/-- Up to `length` bytes from `offset` on. -/
def read (file : HostFile) (offset length : Nat) : Bytes :=
  file.medium.read offset (min length (file.size - offset))

/-- All bytes of the file. -/
def bytes (file : HostFile) : Bytes := file.read 0 file.size

/-- Writes bytes from `offset` on, and lengthens the file if they go beyond its end. -/
def write (file : HostFile) (offset : Nat) (data : Bytes) : HostFile :=
  if data = [] then file
  else ⟨max file.size (offset + data.length), file.medium.write offset data⟩

/-- The file that holds the given bytes. -/
def ofBytes (data : Bytes) : HostFile := (blank 0).write 0 data

/-- Cuts the file off, or lengthens it with zeros. -/
def resize (file : HostFile) (size : Nat) : HostFile :=
  ⟨size, if size < file.size then file.medium.truncate size else file.medium⟩

end HostFile

end FlatVolume
