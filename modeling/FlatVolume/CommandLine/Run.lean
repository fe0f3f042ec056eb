/-
**Carrying out a command.**

A command works on the host's files and prints to a console. It opens the image that it names,
mounts the volume on it, and puts the image back with whatever was written to it, also when it
fails. What was printed before a failure stays printed.
-/

import FlatVolume.CommandLine.Arguments
import FlatVolume.Host.Image
import FlatVolume.Text.Quoted
import FlatVolume.Volume.Operations
import FlatVolume.Volume.Report

namespace FlatVolume.CommandLine

/-- Why a command failed. -/
inductive Failure where
  | volume (cause : VolumeError)
  | host (cause : HostError)
deriving DecidableEq

/-- The line that a failed command ends with. -/
def Failure.report : Failure → String
  | .volume cause => "Error: Custom \x7b kind: Other, error: " ++ cause.label ++ " \x7d\n"
  | .host cause =>
    match cause.code? with
    | some code =>
      "Error: Os \x7b code: " ++ toString code ++ ", kind: " ++ cause.kind ++ ", message: "
        ++ quoted cause.message ++ " \x7d\n"
    | none =>
      "Error: Error \x7b kind: " ++ cause.kind ++ ", message: " ++ quoted cause.message ++ " \x7d\n"

/-! ### The console -/

/-- A state and what was printed. -/
structure Console (S : Type) where
  system : S
  /-- The printed pieces, the latest first. -/
  printed : List Bytes

namespace Console

variable {ε S : Type}

/-- All that was printed, in order. -/
def output (console : Console S) : Bytes := console.printed.reverse.flatten

/-- Prints a piece of output. -/
def print (piece : Bytes) : EStateM ε (Console S) Unit :=
  modify fun console => { console with printed := piece :: console.printed }

/-- Prints a text as UTF-8. -/
def printText (text : String) : EStateM ε (Console S) Unit := print (utf8Bytes text)

/-- An action that prints nothing. -/
def silent {α : Type} (action : EStateM ε S α) : EStateM ε (Console S) α :=
  focus Console.system (fun system console => { console with system }) action

end Console

open Console

/-! ### Work on a mounted image -/

/-- A mounted image and a console. -/
abbrev ImageAction (α : Type) := EStateM VolumeError (Console (Mounted ImageFile)) α

/-- Opens an image, mounts the volume on it, runs the action, and puts the image back. -/
def onVolume {α : Type} (disk : String) (action : ImageAction α) :
    EStateM Failure (Console Host) α := do
  let (image, volume) ← silent (mapErrors .volume (Host.readVolume disk))
  focus
    (fun console => ⟨⟨volume, console.system.imageFile image⟩, console.printed⟩)
    (fun inner console =>
      ⟨console.system.setFile image.place inner.system.device.file, inner.printed⟩)
    (mapErrors .volume action)

/-- The mounted volume. -/
def theVolume : ImageAction Volume := do return (← get).system.volume

/-- Creates a file and writes its whole content, or as much of it as there is space for. -/
def storeFile (name : String) (data : Bytes) : EStateM VolumeError (Mounted ImageFile) Nat := do
  Mounted.onVolume (Volume.create name)
  let descriptor ← Mounted.onVolume (Volume.openFile name)
  let count ← Mounted.write descriptor data
  Mounted.onVolume (Volume.close descriptor)
  return count

/-- Writes the volume back for the last time. -/
def finish : EStateM VolumeError (Mounted ImageFile) Unit := do
  let volume := (← get).volume
  Mounted.onDevice volume.unmount

/-- Prints the rest of an open file in at most `chunks` pieces of one block. -/
def printRest (descriptor : Nat) : (chunks : Nat) → ImageAction Unit
  | 0 => return ()
  | chunks + 1 => do
    let piece ← silent (Mounted.read descriptor blockSize)
    if piece = [] then return ()
    print piece
    printRest descriptor chunks

/-! ### Commands -/

/-- Carries out a command. -/
def run : Command → EStateM Failure (Console Host) Unit
  | .make disk dataBlocks => do
    silent (mapErrors .volume (Host.makeImage disk dataBlocks))
    printText s!"Created {quoted disk} with {dataBlocks} data blocks\n"
  | .info disk => onVolume disk do
    printText (← theVolume).info.report
  | .list disk => onVolume disk do
    printText (listReport (← theVolume).list)
  | .add disk hostFile name => do
    let (place, file) ← mapErrors .host (settle ((← get).system.find hostFile))
    let data := file.bytes
    let name := name.getD (place.getLastD "")
    onVolume disk do
      let count ← silent (storeFile name data)
      silent finish
      printText s!"Wrote {count} of {data.length} bytes to {quoted name}\n"
  | .remove disk name => onVolume disk do
    silent (Mounted.onVolume (Volume.delete name))
    silent finish
    printText s!"Removed {quoted name}\n"
  | .print disk name => onVolume disk do
    let descriptor ← silent (Mounted.onVolume (Volume.openFile name))
    let size ← settle ((← theVolume).fileSize descriptor)
    printRest descriptor (blocksFor size + 1)
  | .size disk name => onVolume disk do
    let descriptor ← silent (Mounted.onVolume (Volume.openFile name))
    let size ← settle ((← theVolume).fileSize descriptor)
    printText s!"Size of file {quoted name} is {size} bytes\n"
  | .check disk => onVolume disk do
    let volume ← theVolume
    settle volume.check
    printText s!"{quoted disk}: {volume.list.length} files, all chains intact\n"

/-! ### The whole program -/

/-- How the program ends. -/
inductive Outcome where
  | finished (output : Bytes)
  | failed (output : Bytes) (cause : Failure)
  | help
  | usage
deriving DecidableEq

/-- The exit status. -/
def Outcome.status : Outcome → Nat
  | .finished _ => 0
  | .failed _ _ => 1
  | .help => 0
  | .usage => 2

/-- How to call the program. -/
def helpText : String :=
  joinLines
    [ "Inspect and edit ECS150FS disk images"
    , ""
    , "  make <DISK> <DATA_BLOCKS>           create a new empty image"
    , "  info <DISK>                         print the superblock and free space"
    , "  ls <DISK>                           list files in the root directory"
    , "  add [-n <NAME>] <DISK> <HOST_FILE>  copy a host file into the image"
    , "  rm <DISK> <NAME>                    delete a file"
    , "  cat <DISK> <NAME>                   write the content of a file to the output"
    , "  stat <DISK> <NAME>                  print the size of a file"
    , "  check <DISK>                        verify every allocation chain" ]

/-- What the program writes to its output. -/
def Outcome.output : Outcome → Bytes
  | .finished output => output
  | .failed output _ => output
  | .help => utf8Bytes helpText
  | .usage => []

/-- What the program writes to its error output. -/
def Outcome.errorText : Outcome → String
  | .finished _ => ""
  | .failed _ cause => cause.report
  | .help => ""
  | .usage => helpText

/-- Runs the program with a parser of its own on the host's files. -/
def programWith (parser : Parser) (arguments : List String) (host : Host) : Outcome × Host :=
  match parser arguments with
  | .error .help => (.help, host)
  | .error .usage => (.usage, host)
  | .ok command =>
    match run command ⟨host, []⟩ with
    | .ok () console => (.finished console.output, console.system)
    | .error cause console => (.failed console.output cause, console.system)

/-- The program as it is called. -/
def program : List String → Host → Outcome × Host := programWith parse

end FlatVolume.CommandLine
