/-
**Disk images.**

A host file of whole blocks serves as a device. Its number of blocks is fixed when it is opened, so
a file that is cut short later fails the reads behind its new end.

* `Host.makeImage` creates an image with an empty volume for a data area of a given size;
* `Host.openImage` opens an image, and `Host.readVolume` mounts the volume on it.
-/

import FlatVolume.Device.Basic
import FlatVolume.Host.Basic
import FlatVolume.Volume.Basic

namespace FlatVolume

/-- An open host file that serves as a device. -/
structure ImageFile where
  file : HostFile
  numBlocks : Nat

instance : BlockDevice ImageFile where
  numBlocks := ImageFile.numBlocks
  readBlock block := fun image =>
    match checkRequest image.numBlocks block blockSize with
    | .error cause => .error cause image
    | .ok () =>
      if image.file.size < (block + 1) * blockSize then .error .failed image
      else .ok (image.file.medium.block block) image
  writeBlock block content := fun image =>
    match checkRequest image.numBlocks block blockSize with
    | .error cause => .error cause image
    | .ok () =>
      .ok ()
        { image with
          file :=
            { size := max image.file.size ((block + 1) * blockSize)
              medium := image.file.medium.setBlock block content } }
  flush := return ()

namespace ImageFile

/-- Reads a block into a buffer of `length` bytes. -/
def read (block length : Nat) : EStateM DeviceError ImageFile Bytes := do
  settle (checkRequest (← get).numBlocks block length)
  return (← BlockDevice.readBlock block).bytes

/-- Writes a buffer over a block. -/
def write (block : Nat) (data : Bytes) : EStateM DeviceError ImageFile Unit := do
  settle (checkRequest (← get).numBlocks block data.length)
  BlockDevice.writeBlock block (ByteField.ofBytes blockSize data)

end ImageFile

/-- Where an open image is, and how many blocks it had when it was opened. -/
structure Image where
  place : Place
  numBlocks : Nat
deriving DecidableEq

namespace Host

/-- The image as a device. -/
def imageFile (host : Host) (image : Image) : ImageFile :=
  ⟨host.files.getD image.place default, image.numBlocks⟩

/-- An action on an image. -/
def onImage {ε α : Type} (image : Image) (action : EStateM ε ImageFile α) : EStateM ε Host α :=
  focus (fun host => host.imageFile image)
    (fun device host => host.setFile image.place device.file) action

/-- Opens an image, which must be a file of whole blocks. -/
def openImage (host : Host) (path : String) : Except HostError Image := do
  let (place, file) ← host.find path
  if file.size % blockSize = 0 then return ⟨place, file.size / blockSize⟩
  else .error (.partialBlock file.size)

/-- Creates an image of zeros, or makes one of a file. A file that is there is emptied first. -/
def createImage (path : String) (numBlocks : Nat) : EStateM HostError Host Image := do
  let place ← create path (.blank 0)
  resizeFile place (.blank 0) (numBlocks * blockSize)
  return ⟨place, numBlocks⟩

/-- Creates an image with an empty volume of the given data area. -/
def makeImage (path : String) (dataBlocks : Nat) : EStateM VolumeError Host Unit := do
  match SuperBlock.totalBlocksFor? dataBlocks with
  | none => throw .invalidArgument
  | some totalBlocks =>
    let image ← mapErrors (fun _ => .invalidArgument) (createImage path totalBlocks)
    onImage image Volume.format

/-- Opens an image for a volume. -/
def openForVolume (path : String) : EStateM VolumeError Host Image := do
  match (← get).openImage path with
  | .error _ => throw .notMounted
  | .ok image => return image

/-- Opens an image and reads the volume on it. -/
def readVolume (path : String) : EStateM VolumeError Host (Image × Volume) := do
  let image ← openForVolume path
  return (image, ← onImage image Volume.mount)

end Host

end FlatVolume
