/-
**Dictionaries of byte strings.**

A dictionary is what the command line shows of an image: byte strings by their names, and the number
of data blocks that they share. A byte string takes as many whole blocks as its length needs, and
the first block of the data area is nobody's, so what is left can be counted (`Dictionary.free`).

`Dictionary.carryOut` says what each command answers and what dictionary it leaves behind. It looks
at the host only for the file that is to be added. The order in which files are listed and the
blocks in which they start are left open (`Answer.IsOutput`).
-/

import FlatVolume.CommandLine.Run
import FlatVolume.Proofs.Isolation.Cabinet

namespace FlatVolume

/-- Byte strings by name, and the size of the data area that holds them. -/
structure Dictionary where
  dataBlocks : Nat
  files : List (String × Bytes)

namespace Dictionary

/-- No byte string has a name. -/
def empty (dataBlocks : Nat) : Dictionary := ⟨dataBlocks, []⟩

variable (dictionary : Dictionary)

/-- The size of the disk: a superblock, the table, the directory and the data area. -/
def totalBlocks : Nat := 2 + tableBlocksFor dictionary.dataBlocks + dictionary.dataBlocks

/-- How many blocks the byte strings take. -/
def used : Nat := (dictionary.files.map fun file => blocksFor file.2.length).sum

/-- How many blocks are left. -/
def free : Nat := dictionary.dataBlocks - 1 - dictionary.used

/-- The byte string of a name. -/
def lookup (name : String) : Except VolumeError Bytes :=
  lookupIn (fun name => dictionary.files.lookup name) name

/-- Gives a byte string a name, or as much of it as finds room, and counts the bytes. -/
def add (name : String) (data : Bytes) : Except VolumeError (Nat × Dictionary) :=
  if ¬ IsFileName name then .error .invalidArgument
  else if (dictionary.files.lookup name).isSome then .error .alreadyExists
  else if slotCount ≤ dictionary.files.length then .error .directoryFull
  else if maxFileSize < data.length then .error .invalidArgument
  else
    let count := min data.length (dictionary.free * blockSize)
    .ok (count, { dictionary with files := dictionary.files ++ [(name, data.take count)] })

/-- Removes the byte string of a name. -/
def remove (name : String) : Except VolumeError Dictionary := do
  let _ ← dictionary.lookup name
  .ok { dictionary with files := dictionary.files.filter fun file => file.1 ≠ name }

/-- How the disk is divided and what is left of it. -/
def info : VolumeInfo where
  totalBlocks := dictionary.totalBlocks
  tableBlocks := tableBlocksFor dictionary.dataBlocks
  rootBlock := tableBlocksFor dictionary.dataBlocks + 1
  dataStart := tableBlocksFor dictionary.dataBlocks + 2
  dataBlocks := dictionary.dataBlocks
  freeBlocks := dictionary.free
  freeSlots := slotCount - dictionary.files.length

variable {dictionary} {name : String} {next : Dictionary}

/-- A byte string is added under a new name, if the name is one and a slot is left for it. -/
theorem add_eq_ok_iff {data : Bytes} {count : Nat} :
    dictionary.add name data = .ok (count, next) ↔
      IsFileName name ∧ dictionary.files.lookup name = none ∧
      dictionary.files.length < slotCount ∧ data.length ≤ maxFileSize ∧
      count = min data.length (dictionary.free * blockSize) ∧
      next = { dictionary with files := dictionary.files ++ [(name, data.take count)] } := by
  rw [add, ← Option.not_isSome_iff_eq_none]
  by_cases isName : IsFileName name
  swap
  · rw [if_pos isName]
    exact iff_of_false nofun fun added => isName added.1
  rw [if_neg (not_not.mpr isName)]
  by_cases taken : (dictionary.files.lookup name).isSome
  · rw [if_pos taken]
    exact iff_of_false nofun fun added => added.2.1 taken
  rw [if_neg taken]
  by_cases full : slotCount ≤ dictionary.files.length
  · rw [if_pos full]
    exact iff_of_false nofun fun added => Nat.not_le.mpr added.2.2.1 full
  rw [if_neg full]
  by_cases long : maxFileSize < data.length
  · rw [if_pos long]
    exact iff_of_false nofun fun added => Nat.not_lt.mpr added.2.2.2.1 long
  rw [if_neg long]
  constructor
  · intro added
    obtain ⟨rfl, rfl⟩ := Prod.mk.inj (Except.ok.inj added)
    exact ⟨isName, taken, Nat.not_le.mp full, Nat.not_lt.mp long, rfl, rfl⟩
  · rintro ⟨_, _, _, _, rfl, rfl⟩
    rfl

/-- Adding a byte string takes no block from the data area itself. -/
theorem add_dataBlocks {data : Bytes} {count : Nat}
    (added : dictionary.add name data = .ok (count, next)) :
    next.dataBlocks = dictionary.dataBlocks := by
  obtain ⟨_, _, _, _, _, rfl⟩ := add_eq_ok_iff.mp added
  rfl

theorem remove_dataBlocks (removed : dictionary.remove name = .ok next) :
    next.dataBlocks = dictionary.dataBlocks := by
  unfold remove at removed
  cases found : dictionary.lookup name with
  | error cause =>
    rw [found] at removed
    cases removed
  | ok bytes =>
    rw [found] at removed
    obtain rfl := Except.ok.inj removed
    rfl

end Dictionary

namespace CommandLine

/-- The image that a command works on. -/
def Command.image : Command → String
  | .make disk _ | .info disk | .list disk | .add disk _ _ | .remove disk _ | .print disk _
  | .size disk _ | .check disk => disk

/-- A command that only looks at the image. -/
def Command.OnlyLooks : Command → Prop
  | .info _ | .list _ | .print _ _ | .size _ _ | .check _ => True
  | .make _ _ | .add _ _ _ | .remove _ _ => False

/-- What a command that succeeds answers. -/
inductive Answer where
  | text (text : String)
  | content (bytes : Bytes)
  /-- Names and lengths, in any order. -/
  | listing (files : List (String × Nat))

/-- The output gives the answer. -/
def Answer.IsOutput : Answer → Bytes → Prop
  | .text shown, output => output = utf8Bytes shown
  | .content bytes, output => output = bytes
  | .listing files, output => ∃ listed : List FileInfo, output = utf8Bytes (listReport listed) ∧
    (listed.map fun file => (file.name, file.size)).Perm files

end CommandLine

open CommandLine

/-- What a command answers and the dictionary after it, or why it fails. -/
def Dictionary.carryOut (dictionary : Dictionary) (host : Host) :
    Command → Except Failure (Answer × Dictionary)
  | .make disk dataBlocks =>
    if 1 ≤ dataBlocks ∧ 2 + tableBlocksFor dataBlocks + dataBlocks ≤ maxTotalBlocks then
      .ok (.text s!"Created {quoted disk} with {dataBlocks} data blocks\n", .empty dataBlocks)
    else .error (.volume .invalidArgument)
  | .info _ => .ok (.text dictionary.info.report, dictionary)
  | .list _ => .ok (.listing (dictionary.files.map fun file => (file.1, file.2.length)), dictionary)
  | .add _ hostFile name => do
    let (place, file) ← (host.find hostFile).mapError .host
    let name := name.getD (place.getLastD "")
    let (count, after) ← (dictionary.add name file.bytes).mapError .volume
    .ok (.text s!"Wrote {count} of {file.bytes.length} bytes to {quoted name}\n", after)
  | .remove _ name => do
    let after ← (dictionary.remove name).mapError .volume
    .ok (.text s!"Removed {quoted name}\n", after)
  | .print _ name => do
    let bytes ← (dictionary.lookup name).mapError .volume
    .ok (.content bytes, dictionary)
  | .size _ name => do
    let bytes ← (dictionary.lookup name).mapError .volume
    .ok (.text s!"Size of file {quoted name} is {bytes.length} bytes\n", dictionary)
  | .check disk =>
    .ok (.text s!"{quoted disk}: {dictionary.files.length} files, all chains intact\n", dictionary)

end FlatVolume
