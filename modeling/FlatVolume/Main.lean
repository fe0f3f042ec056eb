/-
**The program.**

The files that the arguments name are read from the host, the command is carried out on them, and
the files that it changed are written back.
-/

import FlatVolume.CommandLine.Run

namespace FlatVolume.Main

open CommandLine

/-- The path of a place, from the root. -/
def pathOf (place : Place) : String := "/" ++ "/".intercalate place

/-- Reads the blocks from `index` on. -/
partial def readBlocks (handle : IO.FS.Handle) (index : Nat) (file : HostFile) : IO HostFile := do
  let bytes ← handle.read (.ofNat blockSize)
  if bytes.isEmpty then return file
  let data := bytes.data.toList
  let medium :=
    if data.all (· == 0) then file.medium
    else file.medium.setBlock index (ByteField.ofBytes blockSize data)
  readBlocks handle (index + 1) ⟨file.size + data.length, medium⟩

/-- Reads what is at a place. -/
def loadPlace (host : Host) (place : Place) : IO Host := do
  let path := (← IO.currentDir) / pathOf place
  if ← path.isDir then return { host with directories := place :: host.directories }
  if ← path.pathExists then
    let file ← readBlocks (← IO.FS.Handle.mk path .read) 0 (.blank 0)
    return host.setFile place file
  return host

/-- Reads all that the paths come by. -/
def loadHost (paths : List String) : IO Host := do
  let working := ((← IO.currentDir).toString.splitOn "/").filter (· ≠ "")
  let host : Host := { Host.empty with working }
  let host ← ((List.range working.length).map fun count => working.take (count + 1)).foldlM
    loadPlace host
  (paths.flatMap host.placesOn).foldlM loadPlace host

/-- Writes a file block by block. -/
def writeFile (path : String) (file : HostFile) : IO Unit := do
  let handle ← IO.FS.Handle.mk path .write
  for index in List.range (blocksFor file.size) do
    handle.write ((file.read (index * blockSize) blockSize).toByteArray)
  handle.flush

/-- Writes the files that are not what they were. -/
def storeHost (before after : Host) : IO Unit := do
  for (place, file) in after.files.toList do
    let same := before.files[place]?.any fun old =>
      decide (old.size = file.size ∧ old.medium.used = file.medium.used)
    unless same do writeFile (pathOf place) file

end FlatVolume.Main

open FlatVolume FlatVolume.CommandLine in
/-- Carries out the command that the arguments ask for. -/
def main (arguments : List String) : IO UInt32 := do
  let paths := match parse arguments with
    | .ok command => command.paths
    | .error _ => []
  let before ← Main.loadHost paths
  let (outcome, after) := program arguments before
  Main.storeHost before after
  (← IO.getStdout).write outcome.output.toByteArray
  (← IO.getStderr).putStr outcome.errorText
  return .ofNat outcome.status
