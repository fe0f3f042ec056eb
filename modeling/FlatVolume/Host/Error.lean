/-
**Errors of the host.**

Why the host cannot open, read, create or resize a file, with the number and the words by which the
host reports it. Three errors are found before the host's system is asked, and have no number: a
zero in a path, a length beyond the largest one, and an image that ends inside a block.
-/

namespace FlatVolume

/-- Why the host does not carry out an operation on a file. -/
inductive HostError where
  | notFound
  | notADirectory
  | isADirectory
  | nameTooLong
  /-- A path cannot hold a zero. -/
  | zeroInPath
  /-- A length must be below `2 ^ 63`. -/
  | lengthTooLarge
  /-- An image of this many bytes does not end at a block boundary. -/
  | partialBlock (length : Nat)
deriving DecidableEq

namespace HostError

/-- The name of the error. -/
def kind : HostError → String
  | .notFound => "NotFound"
  | .notADirectory => "NotADirectory"
  | .isADirectory => "IsADirectory"
  | .nameTooLong => "InvalidFilename"
  | .zeroInPath => "InvalidInput"
  | .lengthTooLarge => "InvalidInput"
  | .partialBlock _ => "InvalidData"

/-- The number of an error that the host's system reports. -/
def code? : HostError → Option Nat
  | .notFound => some 2
  | .notADirectory => some 20
  | .isADirectory => some 21
  | .nameTooLong => some 36
  | .zeroInPath => none
  | .lengthTooLarge => none
  | .partialBlock _ => none

/-- The error in words. -/
def message : HostError → String
  | .notFound => "No such file or directory"
  | .notADirectory => "Not a directory"
  | .isADirectory => "Is a directory"
  | .nameTooLong => "File name too long"
  | .zeroInPath => "file name contained an unexpected NUL byte"
  | .lengthTooLarge => "number too large to fit in target type"
  | .partialBlock length => s!"image size {length} is not a multiple of 4096"

end HostError

end FlatVolume
