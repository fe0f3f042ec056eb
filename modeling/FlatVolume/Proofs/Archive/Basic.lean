/-
**Archives.**

An archive is what a client can tell about a volume: 128 slots with named byte strings, 32
descriptors with their positions, and the number of blocks that are left. It has no blocks, no
table and no device, and its operations are stated on whole byte strings:

* `Archive.read` and `Archive.write` act on the bytes behind a position; a write puts down as much
  as fits into the blocks that its file has and those that are left;
* `Archive.serve` carries out one call, and `ArchiveSession.perform` one step of a session, which
  may also mount and unmount. A step that fails changes nothing.
-/

import FlatVolume.Proofs.File.Content
import FlatVolume.Proofs.Session.Steps

namespace FlatVolume

/-- A named byte string. -/
structure Archive.File where
  name : String
  bytes : Bytes

/-- Files in their slots, descriptors with their positions, and how many blocks are left. -/
@[ext] structure Archive where
  files : Slot → Option Archive.File
  descriptors : Fin descriptorCount → Option OpenFile
  free : Nat

namespace Archive

/-- A result and the archive after it, or an error. -/
abbrev Outcome := Except VolumeError (Reply × Archive)

variable (archive : Archive)

/-! ### Files by name -/

/-- The lowest slot of a file that has the name. -/
def find? (name : String) : Option Slot :=
  (List.finRange slotCount).find? fun slot => (archive.files slot).any fun file => file.name = name

/-- The lowest empty slot. -/
def freeSlot? : Option Slot :=
  (List.finRange slotCount).find? fun slot => (archive.files slot).isNone

/-- The lowest unused descriptor. -/
def unused? : Option (Fin descriptorCount) :=
  (List.finRange descriptorCount).find? fun descriptor => (archive.descriptors descriptor).isNone

/-- The slot of the file that a caller names. -/
def lookup (name : String) : Except VolumeError Slot :=
  if IsFileName name then
    match archive.find? name with
    | some slot => .ok slot
    | none => .error .notFound
  else .error .invalidArgument

/-- Some descriptor stands for the file in the slot. -/
def IsOpen (slot : Slot) : Prop :=
  ∃ descriptor, (archive.descriptors descriptor).map OpenFile.slot = some slot

instance (slot : Slot) : Decidable (archive.IsOpen slot) :=
  inferInstanceAs (Decidable (∃ _, _))

variable {archive} in
/-- No file is open where no descriptor is in use. -/
theorem not_isOpen_of_closed (closed : archive.descriptors = fun _ => none) (slot : Slot) :
    ¬ archive.IsOpen slot := by
  rintro ⟨descriptor, isOpen⟩
  rw [closed] at isOpen
  cases isOpen

/-- The bytes in a slot; an empty slot has none. -/
def bytesIn (slot : Slot) : Bytes :=
  match archive.files slot with
  | some file => file.bytes
  | none => []

/-- Puts a file into a slot, or empties it. -/
def setFile (slot : Slot) (file : Option File) : Archive :=
  { archive with files := Function.update archive.files slot file }

/-- Makes an empty file in the lowest empty slot. -/
def create (name : String) : Outcome :=
  if IsFileName name then
    if (archive.find? name).isSome then .error .alreadyExists
    else
      match archive.freeSlot? with
      | some slot => .ok (.done, archive.setFile slot (some ⟨name, []⟩))
      | none => .error .directoryFull
  else .error .invalidArgument

/-- Empties the slot of a file that is not open. Its blocks are free again. -/
def delete (name : String) : Outcome := do
  let slot ← archive.lookup name
  if archive.IsOpen slot then .error .fileInUse
  else
    let free := archive.free + blocksFor (archive.bytesIn slot).length
    .ok (.done, { archive.setFile slot none with free })

/-- The names and sizes in the order of the slots. The first blocks are left out. -/
def list : List FileInfo :=
  (List.finRange slotCount).filterMap fun slot =>
    (archive.files slot).map fun file => ⟨file.name, file.bytes.length, .endOfChain⟩

/-! ### Open files -/

/-- What a descriptor in use stands for. -/
def opened (descriptor : Nat) : Except VolumeError OpenFile :=
  if inside : descriptor < descriptorCount then
    match archive.descriptors ⟨descriptor, inside⟩ with
    | some file => .ok file
    | none => .error .invalidDescriptor
  else .error .invalidDescriptor

/-- Makes a descriptor stand for something else. -/
def setDescriptor (descriptor : Nat) (file : Option OpenFile) : Archive :=
  { archive with
    descriptors := fun other => if other.val = descriptor then file else archive.descriptors other }

/-- Opens a file at its start with the lowest unused descriptor. -/
def openFile (name : String) : Outcome := do
  let slot ← archive.lookup name
  match archive.unused? with
  | some descriptor =>
    .ok (.descriptor descriptor, archive.setDescriptor descriptor (some ⟨slot, 0⟩))
  | none => .error .openTableFull

/-- Gives a descriptor back. -/
def close (descriptor : Nat) : Outcome := do
  let _ ← archive.opened descriptor
  .ok (.done, archive.setDescriptor descriptor none)

/-- The size of an open file. -/
def fileSize (descriptor : Nat) : Outcome := do
  let file ← archive.opened descriptor
  .ok (.count (archive.bytesIn file.slot).length, archive)

/-- Moves a descriptor, at most to the end of its file. -/
def seek (descriptor offset : Nat) : Outcome := do
  let file ← archive.opened descriptor
  if (archive.bytesIn file.slot).length < offset then .error .offsetOutOfRange
  else .ok (.done, archive.setDescriptor descriptor (some { file with offset }))

/-- Gives the bytes behind the position, as many as there are, and moves the descriptor behind
them. -/
def read (descriptor length : Nat) : Outcome := do
  let file ← archive.opened descriptor
  let data := ((archive.bytesIn file.slot).drop file.offset).take length
  .ok (.data data,
    archive.setDescriptor descriptor (some { file with offset := file.offset + data.length }))

/-- How many blocks a file gets that needs room for `length` bytes. -/
def added (slot : Slot) (length : Nat) : Nat :=
  min (blocksFor length - blocksFor (archive.bytesIn slot).length) archive.free

/-- How far data can go that would reach to `length`. -/
def stop (slot : Slot) (length : Nat) : Nat :=
  min length
    ((blocksFor (archive.bytesIn slot).length + archive.added slot length) * blockSize)

/-- Writes data over the bytes behind the position, as much of it as finds room, and moves the
descriptor behind it. -/
def write (descriptor : Nat) (data : Bytes) : Outcome := do
  let file ← archive.opened descriptor
  if maxFileSize < file.offset + data.length then .error .invalidArgument
  else
    let count := archive.stop file.slot (file.offset + data.length) - file.offset
    let written := (archive.files file.slot).map fun old =>
      { old with bytes := overwrite old.bytes file.offset (data.take count) }
    let free := archive.free - archive.added file.slot (file.offset + data.length)
    .ok (.count count,
      { (archive.setFile file.slot written).setDescriptor descriptor
          (some { file with offset := file.offset + count }) with free })

/-! ### Calls -/

/-- One call with its arguments. -/
inductive Call where
  | create (name : String)
  | delete (name : String)
  | openFile (name : String)
  | close (descriptor : Nat)
  | fileSize (descriptor : Nat)
  | seek (descriptor offset : Nat)
  | read (descriptor length : Nat)
  | write (descriptor : Nat) (data : Bytes)
  | list
  | sync

/-- Carries out one call. There is nothing to do for a sync. -/
def serve : Call → Outcome
  | .create name => archive.create name
  | .delete name => archive.delete name
  | .openFile name => archive.openFile name
  | .close descriptor => archive.close descriptor
  | .fileSize descriptor => archive.fileSize descriptor
  | .seek descriptor offset => archive.seek descriptor offset
  | .read descriptor length => archive.read descriptor length
  | .write descriptor data => archive.write descriptor data
  | .list => .ok (.files archive.list, archive)
  | .sync => .ok (.done, archive)

/-- The request that a call makes to a volume. -/
def Call.request : Call → Request
  | .create name => .create name
  | .delete name => .delete name
  | .openFile name => .openFile name
  | .close descriptor => .close descriptor
  | .fileSize descriptor => .fileSize descriptor
  | .seek descriptor offset => .seek descriptor offset
  | .read descriptor length => .read descriptor length
  | .write descriptor data => .write descriptor data
  | .list => .list
  | .sync => .sync

end Archive

/-- A reply without the first blocks of files, about which an archive says nothing. -/
def Reply.hideBlocks : Reply → Reply
  | .files listed => .files (listed.map fun file => { file with first := .endOfChain })
  | reply => reply

/-! ### Sessions -/

/-- An archive that may be out of reach. -/
structure ArchiveSession where
  mounted : Bool
  archive : Archive

namespace ArchiveSession

/-- One call to a session. -/
inductive Step (L : Type) where
  | mount (label : L)
  | unmount
  | serve (call : Archive.Call)

variable {L : Type}

/-- The result of a step and the session after it, or an error. -/
def outcome (session : ArchiveSession) : Step L → Except VolumeError (Reply × ArchiveSession)
  | .mount _ =>
    if session.mounted then .error .alreadyMounted
    else .ok (.done, { session with mounted := true })
  | .unmount =>
    if session.mounted then
      if ∃ slot, session.archive.IsOpen slot then .error .fileInUse
      else .ok (.done, { session with mounted := false })
    else .error .notMounted
  | .serve call =>
    if session.mounted then do
      let (reply, archive) ← session.archive.serve call
      .ok (reply, { session with archive })
    else .error .notMounted

/-- Carries out one step. A step that fails changes nothing. -/
def perform (step : Step L) : EStateM VolumeError ArchiveSession Reply := fun session =>
  match session.outcome step with
  | .ok (reply, after) => .ok reply after
  | .error cause => .error cause session

/-- The step of a session that has a volume mounted. -/
def Step.onVolume : Step L → Session.Step L
  | .mount label => .mount label
  | .unmount => .unmount
  | .serve call => .serve call.request

end ArchiveSession

end FlatVolume
