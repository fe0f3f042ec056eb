/-
**Guarded requests.**

The requests to a mounted volume again, made of guarded actions. Those that have no condition to
test are taken over as they are.

`serve_safe`: on a sound volume every request is safe, however broken the chains of its files are.
-/

import FlatVolume.Proofs.Guarded.File
import FlatVolume.Proofs.Volume.Serve

namespace FlatVolume.Guarded

open BlockDevice

/-! ### Requests -/

/-- The entry in a slot that the directory has. -/
def entryIn (directory : Directory) (slot : Nat) : Except Halt DirEntry :=
  match directory.entries[slot]? with
  | some entry => .ok entry
  | none => .error .panicked

/-- Creates an empty file. Its name is copied into a field of fixed width. -/
def create (name : String) : EStateM Halt Volume Unit := do
  let (slot, directory) ← settle (report ((← get).directory.insert name))
  settle (require (slot.val < slotCount ∧ name.utf8ByteSize ≤ nameWidth))
  modify fun volume => { volume with directory }

/-- Deletes a file that is not open and whose chain is intact, and frees its blocks. -/
def delete (name : String) : EStateM Halt Volume Unit := do
  let volume ← get
  let slot ← settle (report (volume.directory.lookup name))
  if volume.descriptors.IsOpen slot then throw (.reported .fileInUse)
  let entry ← settle (entryIn volume.directory slot)
  settle (check volume.table [(entry.first, entry.size.toNat)])
  focus Volume.table (fun table volume => { volume with table }) (release entry.first)
  modify fun volume => { volume with directory := volume.directory.remove slot }

/-- Opens a file at its start and returns its descriptor. -/
def openFile (name : String) : EStateM Halt Volume Nat := do
  let volume ← get
  let slot ← settle (report (volume.directory.lookup name))
  let (descriptor, descriptors) ← settle (report (volume.descriptors.insert slot))
  settle (require (descriptor < descriptorCount))
  set { volume with descriptors }
  return descriptor

/-- The blocks of a file in order. -/
def chainOf (volume : Volume) (name : String) : Except Halt (List BlockId) := do
  let slot ← report (volume.directory.lookup name)
  let entry ← entryIn volume.directory slot
  chain volume.table entry.first

/-- Every file has a chain that fits its size, and no two of them share a block. -/
def checkAll (volume : Volume) : Except Halt Unit :=
  check volume.table
    (volume.directory.files.map fun (_, entry) => (entry.first, entry.size.toNat))

/-- The size of an open file. -/
def fileSize (volume : Volume) (descriptor : Nat) : Except Halt Nat := do
  let file ← report (volume.descriptors.get descriptor)
  return (← entryIn volume.directory file.slot).size.toNat

/-- Moves a descriptor, at most to the end of its file. -/
def seek (descriptor offset : Nat) : EStateM Halt Volume Unit := do
  let volume ← get
  let file ← settle (report (volume.descriptors.get descriptor))
  let entry ← settle (entryIn volume.directory file.slot)
  if entry.size.toNat < offset then throw (.reported .offsetOutOfRange)
  reported (Volume.setOffset descriptor file offset)

section Requests

variable {D : Type} [BlockDevice D]

/-- An action on the volume alone. -/
def onVolume {α : Type} (action : EStateM Halt Volume α) : EStateM Halt (Mounted D) α :=
  focus Mounted.volume (fun volume mounted => { mounted with volume }) action

/-- Moves a descriptor behind what was read or written. -/
def advanceTo (descriptor : Nat) (file : OpenFile) (offset : Nat) :
    EStateM Halt (Mounted D) Unit := do
  settle (require (offset < positionLimit))
  reported (Mounted.onVolume (Volume.setOffset descriptor file offset))

/-- Reads from an open file and moves its descriptor behind what was read. -/
def read (descriptor length : Nat) : EStateM Halt (Mounted D) Bytes := do
  let volume := (← get).volume
  let file ← settle (report (volume.descriptors.get descriptor))
  let entry ← settle (entryIn volume.directory file.slot)
  let data ← focus Mounted.device (fun device mounted => { mounted with device })
    (readFile volume.layout volume.table entry file.offset length)
  advanceTo descriptor file (file.offset + data.length)
  return data

/-- Writes to an open file, moves its descriptor behind what was written, and returns the number of
bytes that found space. -/
def write (descriptor : Nat) (data : Bytes) : EStateM Halt (Mounted D) Nat := do
  let volume := (← get).volume
  let file ← settle (report (volume.descriptors.get descriptor))
  let _ ← settle (entryIn volume.directory file.slot)
  let count ← focus (Mounted.fileStore file.slot) (Mounted.putFileStore file.slot)
    (writeFile volume.layout file.offset data)
  advanceTo descriptor file (file.offset + count)
  return count

/-- Carries out one request. Five of them have no condition to test. Writing back and the three
reports take the table and the directory entry by entry, with ranges of bytes that are the same for
every volume, and a descriptor that is closed is looked up with its bound checked. -/
def serve : Request → EStateM Halt (Mounted D) Reply
  | .sync => reported (Mounted.serve .sync)
  | .info => reported (Mounted.serve .info)
  | .layout => reported (Mounted.serve .layout)
  | .list => reported (Mounted.serve .list)
  | .check => do
    settle (checkAll (← get).volume)
    return .done
  | .chain name => return .blocks (← settle (chainOf (← get).volume name))
  | .create name => do
    onVolume (create name)
    return .done
  | .delete name => do
    onVolume (delete name)
    return .done
  | .openFile name => return .descriptor (← onVolume (openFile name))
  | .close descriptor => reported (Mounted.serve (.close descriptor))
  | .fileSize descriptor => return .count (← settle (fileSize (← get).volume descriptor))
  | .seek descriptor offset => do
    onVolume (seek descriptor offset)
    return .done
  | .write descriptor data => return .count (← write descriptor data)
  | .read descriptor length => return .data (← read descriptor length)

end Requests

/-! ### Requests are safe -/

section Safe

theorem entryIn_eq (directory : Directory) (slot : Slot) :
    entryIn directory slot = .ok (directory.get slot) := by
  unfold entryIn
  rw [Vector.getElem?_eq_getElem slot.isLt]
  rfl

/-- A slot of the directory has an entry. -/
theorem Safe.entryIn_bind {σ β : Type} {directory : Directory} {slot : Slot} {state : σ}
    {guarded : DirEntry → EStateM Halt σ β} {plain : EStateM VolumeError σ β}
    (safe : Safe (guarded (directory.get slot)) plain state) :
    Safe (settle (entryIn directory slot) >>= guarded) plain state := by
  rw [entryIn_eq]
  exact safe

theorem create_safe (volume : Volume) (name : String) :
    Safe (create name) (Volume.create name) volume := by
  refine Safe.get_bind (Safe.settle_bind rfl fun inserted done => ?_)
  obtain ⟨slot, directory⟩ := inserted
  obtain ⟨⟨isName, _⟩, _⟩ := Directory.insert_eq_ok_iff.mp done
  exact Safe.require_bind ⟨slot.isLt, Nat.le_of_lt isName.2.1⟩ (safe_modify _ volume)

theorem delete_safe (volume : Volume) (name : String) :
    Safe (delete name) (Volume.delete name) volume := by
  refine Safe.get_bind (Safe.settle_bind rfl fun slot _ => ?_)
  by_cases isOpen : volume.descriptors.IsOpen slot
  · rw [if_pos isOpen, if_pos isOpen]
    exact safe_throw .fileInUse volume
  rw [if_neg isOpen, if_neg isOpen]
  refine Safe.entryIn_bind (Safe.settle_bind (check_eq _ _) fun _ _ => ?_)
  exact (release_safe volume.table _).focus.bind fun _ after _ => safe_modify _ after

theorem openFile_safe (volume : Volume) (name : String) :
    Safe (openFile name) (Volume.openFile name) volume := by
  refine Safe.get_bind (Safe.settle_bind rfl fun slot _ => ?_)
  refine Safe.settle_bind rfl fun opened done => ?_
  obtain ⟨descriptor, descriptors⟩ := opened
  obtain ⟨lowest, _, rfl, _⟩ := Descriptors.insert_eq_ok_iff.mp done
  refine Safe.require_bind lowest.isLt ?_
  exact (safe_set _ volume).bind fun _ after _ => safe_pure _ after

theorem chainOf_eq (volume : Volume) (name : String) :
    chainOf volume name = report (volume.chain name) := by
  unfold chainOf Volume.chain
  cases volume.directory.lookup name with
  | error cause => rfl
  | ok slot =>
    show (do
      let entry ← entryIn volume.directory slot
      chain volume.table entry.first) = _
    rw [entryIn_eq]
    exact chain_eq volume.table _

theorem fileSize_eq (volume : Volume) (descriptor : Nat) :
    fileSize volume descriptor = report (volume.fileSize descriptor) := by
  unfold fileSize Volume.fileSize
  cases volume.descriptors.get descriptor with
  | error cause => rfl
  | ok file =>
    show (do return (← entryIn volume.directory file.slot).size.toNat) = _
    rw [entryIn_eq]
    rfl

theorem seek_safe (volume : Volume) (descriptor offset : Nat) :
    Safe (seek descriptor offset) (Volume.seek descriptor offset) volume := by
  refine Safe.get_bind (Safe.settle_bind rfl fun file _ => Safe.entryIn_bind ?_)
  by_cases outside : (volume.directory.get file.slot).size.toNat < offset
  · rw [if_pos outside, if_pos outside]
    exact safe_throw .offsetOutOfRange volume
  · rw [if_neg outside, if_neg outside]
    exact safe_reported _ volume

/-- A position inside a file is far from the limit of positions. -/
theorem offset_lt {size : UInt32} {position : Nat} (inside : position ≤ size.toNat) :
    position < positionLimit :=
  Nat.lt_of_le_of_lt inside (Nat.lt_trans size.toNat_lt (by decide))

variable {D : Type} {mounted : Mounted D}

theorem advanceTo_safe {descriptor : Nat} {file : OpenFile} {offset : Nat}
    (bounded : offset < positionLimit) :
    Safe (advanceTo descriptor file offset)
      (Mounted.onVolume (Volume.setOffset descriptor file offset)) mounted :=
  Safe.require_bind bounded (safe_reported _ mounted)

variable [BlockDevice D] [StoringDevice D]

theorem read_safe (sound : mounted.Sound) (descriptor length : Nat) :
    Safe (read descriptor length) (Mounted.read descriptor length) mounted := by
  refine Safe.get_bind (Safe.settle_bind rfl fun file used => Safe.entryIn_bind ?_)
  have place := (sound.volume.descriptors descriptor file used).2
  let volume := mounted.volume
  let entry := volume.directory.get file.slot
  have reads : Yields (Mounted.onDevice
        (FlatVolume.readFile volume.layout volume.table entry file.offset length)) mounted
      (fun data _ => file.offset + data.length < positionLimit) fun _ _ => True := by
    refine yields_focus.mpr ((readFile_frame _ _ entry file.offset length mounted.device).mono
      (fun data _ ended => ?_) fun _ _ _ => trivial)
    exact offset_lt (ended.1 place)
  have safe := readFile_safe volume.layout volume.table entry file.offset length mounted.device
  refine safe.focus.bind_of_yields reads fun data after bounded => ?_
  exact (advanceTo_safe bounded).bind fun _ moved _ => safe_pure data moved

theorem write_safe (sound : mounted.Sound) (descriptor : Nat) (data : Bytes) :
    Safe (write descriptor data) (Mounted.write descriptor data) mounted := by
  refine Safe.get_bind (Safe.settle_bind rfl fun file used => Safe.entryIn_bind ?_)
  obtain ⟨occupied, place⟩ := sound.volume.descriptors descriptor file used
  have writes : Yields (focus (Mounted.fileStore file.slot) (Mounted.putFileStore file.slot)
        (FlatVolume.writeFile mounted.volume.layout file.offset data)) mounted
      (fun count _ => file.offset + count < positionLimit) fun _ _ => True := by
    refine yields_focus.mpr ((writeFile_frame _ file.offset data _ sound.volume.small
      sound.volume.table (sound.volume.isHead occupied)).mono (fun count store ended => ?_)
      fun _ _ _ => trivial)
    exact offset_lt (ended.2 place)
  have safe : Safe (writeFile mounted.volume.layout file.offset data) _
      (Mounted.fileStore file.slot mounted) := writeFile_safe _ data sound.volume.size_le place
  refine safe.focus.bind_of_yields writes fun count after bounded => ?_
  exact (advanceTo_safe bounded).bind fun _ moved _ => safe_pure count moved

/-- Every request to a sound volume is safe. -/
theorem serve_safe (sound : mounted.Sound) (request : Request) :
    Safe (serve request) (Mounted.serve request) mounted := by
  cases request with
  | sync | info | layout | list | close => exact safe_reported _ mounted
  | check =>
    exact Safe.get_bind (Safe.settle_bind (check_eq _ _) fun _ _ => safe_pure Reply.done mounted)
  | chain name =>
    refine Safe.get_bind (Safe.settle_bind (chainOf_eq _ name) fun blocks _ => ?_)
    exact safe_pure (Reply.blocks blocks) mounted
  | create name =>
    have safe : Safe (onVolume (create name)) _ mounted := (create_safe _ name).focus
    exact safe.bind fun _ after _ => safe_pure Reply.done after
  | delete name =>
    have safe : Safe (onVolume (delete name)) _ mounted := (delete_safe _ name).focus
    exact safe.bind fun _ after _ => safe_pure Reply.done after
  | openFile name =>
    have safe : Safe (onVolume (openFile name)) _ mounted := (openFile_safe _ name).focus
    exact safe.bind fun descriptor after _ => safe_pure (Reply.descriptor descriptor) after
  | fileSize descriptor =>
    refine Safe.get_bind (Safe.settle_bind (fileSize_eq _ descriptor) fun size _ => ?_)
    exact safe_pure (Reply.count size) mounted
  | seek descriptor offset =>
    have safe : Safe (onVolume (seek descriptor offset)) _ mounted :=
      (seek_safe _ descriptor offset).focus
    exact safe.bind fun _ after _ => safe_pure Reply.done after
  | write descriptor data =>
    exact (write_safe sound descriptor data).bind fun count after _ => safe_pure _ after
  | read descriptor length =>
    exact (read_safe sound descriptor length).bind fun data after _ => safe_pure _ after

end Safe

end FlatVolume.Guarded
