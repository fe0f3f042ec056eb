/-
**Errors by their causes.**

* `DeviceError`: why a device refuses or fails a call;
* `LinkError`: why a number cannot be a link of a chain;
* `VolumeError`: why an operation on a volume fails. A broken link is always reported as a
  corrupted chain, and a device's error is handed on.

Each cause has one `message` for people and one `label` for reports.
-/

namespace FlatVolume

/-- Why a device did not carry out a call. -/
inductive DeviceError where
  /-- The device has no block of this number. -/
  | outOfRange (block : Nat)
  /-- The buffer of this many bytes is not one block. -/
  | badBuffer (length : Nat)
  /-- The store behind the device failed, and nothing was transferred. -/
  | failed
deriving DecidableEq

/-- The error in words. -/
def DeviceError.message : DeviceError → String
  | .outOfRange block => s!"block {block} is out of range"
  | .badBuffer length => s!"buffer of {length} bytes is not one block"
  | .failed => "I/O failure on the backing store"

/-- The name of the error with its number. -/
def DeviceError.label : DeviceError → String
  | .outOfRange block => s!"OutOfRange({block})"
  | .badBuffer length => s!"BadBuffer({length})"
  | .failed => "Io"

/-- Why a number cannot be a link of a chain. -/
inductive LinkError where
  /-- The number that marks an unused block. -/
  | unused
  /-- The number that ends a chain. -/
  | endOfChain
  /-- A number that the data area does not have. -/
  | outOfRange
deriving DecidableEq

/-- Why an operation on a volume failed. -/
inductive VolumeError where
  | notMounted
  | alreadyMounted
  | invalidFormat
  | invalidArgument
  | notFound
  | alreadyExists
  | directoryFull
  | openTableFull
  | invalidDescriptor
  | offsetOutOfRange
  | fileInUse
  | outOfSpace
  | corrupted
  | device (cause : DeviceError)
deriving DecidableEq

/-- The error in words. -/
def VolumeError.message : VolumeError → String
  | .notMounted => "no file system is mounted"
  | .alreadyMounted => "a file system is already mounted"
  | .invalidFormat => "disk is not a valid ECS150FS image"
  | .invalidArgument => "invalid argument"
  | .notFound => "no such file"
  | .alreadyExists => "file already exists"
  | .directoryFull => "root directory is full"
  | .openTableFull => "too many open files"
  | .invalidDescriptor => "bad file descriptor"
  | .offsetOutOfRange => "offset is past the end of file"
  | .fileInUse => "file is in use"
  | .outOfSpace => "no free data block left"
  | .corrupted => "allocation chain is corrupted"
  | .device cause => s!"device error: {cause.message}"

/-- The name of the error, with the name of its cause if a device failed. -/
def VolumeError.label : VolumeError → String
  | .notMounted => "NotMounted"
  | .alreadyMounted => "AlreadyMounted"
  | .invalidFormat => "InvalidFormat"
  | .invalidArgument => "InvalidArgument"
  | .notFound => "NotFound"
  | .alreadyExists => "AlreadyExists"
  | .directoryFull => "DirectoryFull"
  | .openTableFull => "OpenTableFull"
  | .invalidDescriptor => "InvalidDescriptor"
  | .offsetOutOfRange => "OffsetOutOfRange"
  | .fileInUse => "FileInUse"
  | .outOfSpace => "OutOfSpace"
  | .corrupted => "Corrupted"
  | .device cause => s!"Device({cause.label})"

/-- A broken link means that the chain is corrupted. -/
def VolumeError.ofLink (_ : LinkError) : VolumeError := .corrupted

end FlatVolume
