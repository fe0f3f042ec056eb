/-
**Operations on a volume and on its archive.**

Each operation on an intact volume ends as the same operation on its archive: with the same reply or
the same error, and with a volume whose archive is the one that is left behind. Creating, deleting,
opening, closing and seeking are compared on the volume alone, since no disk has a part in them.
-/

import FlatVolume.Proofs.Archive.Volume
import FlatVolume.Proofs.Volume.Allocation

namespace FlatVolume

open BlockDevice

namespace Volume

variable {volume : Volume} {blocks : Slot → List BlockId} {disk : Nat → Block}

/-- The operation on the volume ends as the one on its archive, with a reply made of its result. -/
def Mirrors {α : Type} (action : EStateM VolumeError Volume α) (volume : Volume)
    (disk : Nat → Block) (reply : α → Reply) (outcome : Archive.Outcome) : Prop :=
  Yields action volume
    (fun result after => outcome = .ok (reply result, after.archive disk))
    (fun cause after => outcome = .error cause ∧ after = volume)

/-- The archive of a volume with a new file. -/
theorem Lays.archive_insert (lays : volume.Lays blocks) {directory : Directory} {name : String}
    {slot : Slot} (inserted : volume.directory.insert name = .ok (slot, directory)) :
    archive { volume with directory } disk =
      (volume.archive disk).setFile slot (some ⟨name, []⟩) := by
  have after := (lays.insert inserted).1
  obtain ⟨⟨isName, _⟩, _, rfl⟩ := Directory.insert_eq_ok_iff.mp inserted
  have occupied : ¬ ((volume.directory.set slot (.new name)).get slot).IsFree := by
    rw [Directory.get_set_self]
    exact DirEntry.not_isFree_new isName
  refine Archive.ext ?_ rfl rfl
  rw [archive_files_update slot fun other apart => ?_]
  · have bytes : fileBytes { volume with directory := volume.directory.set slot (.new name) } disk
        slot = [] := by
      rw [fileBytes, Directory.get_set_self]
      exact List.take_zero
    rw [archive_files_of_occupied occupied, bytes, Directory.get_set_self, DirEntry.name_new isName]
    rfl
  · have entry : (volume.directory.set slot (.new name)).get other = volume.directory.get other :=
      Directory.get_set_of_ne apart
    exact ⟨entry, lays.fileBytes_congr after rfl entry rfl⟩

/-- The archive takes a new file when the directory does. -/
theorem archive_create (volume : Volume) (disk : Nat → Block) (name : String) :
    (volume.archive disk).create name =
      match volume.directory.insert name with
      | .ok (slot, _) => .ok (.done, (volume.archive disk).setFile slot (some ⟨name, []⟩))
      | .error cause => .error cause := by
  rw [Archive.create, archive_find?, archive_freeSlot?, Directory.insert_eq]
  by_cases isName : IsFileName name
  · rw [if_pos isName, if_pos isName]
    by_cases taken : (volume.directory.find? name).isSome
    · rw [if_pos taken, if_pos taken]
    · rw [if_neg taken, if_neg taken]
      cases volume.directory.freeSlot? <;> rfl
  · rw [if_neg isName, if_neg isName]

theorem create_mirrors (lays : volume.Lays blocks) (disk : Nat → Block) (name : String) :
    Mirrors (create name) volume disk (fun _ => .done) ((volume.archive disk).create name) := by
  unfold Mirrors Yields
  rw [create_eq, archive_create]
  cases inserted : volume.directory.insert name with
  | error cause => exact ⟨rfl, rfl⟩
  | ok result =>
    obtain ⟨slot, directory⟩ := result
    exact congrArg (fun after => Except.ok (Reply.done, after)) (lays.archive_insert inserted).symm

/-- The archive of a volume without one of its files. -/
theorem Lays.archive_remove (lays : volume.Lays blocks) {deviceBlocks : Nat}
    (sound : volume.Sound deviceBlocks) {slot : Slot}
    (occupied : ¬ (volume.directory.get slot).IsFree) :
    archive { volume with
        table := volume.table.discard (blocks slot)
        directory := volume.directory.remove slot } disk =
      { (volume.archive disk).setFile slot none with
        free := (volume.archive disk).free +
          blocksFor ((volume.archive disk).bytesIn slot).length } := by
  have after := (lays.remove slot).1
  have free : ((volume.directory.remove slot).get slot).IsFree := by
    rw [Directory.remove, Directory.get_set_self]
    exact DirEntry.isFree_empty
  refine Archive.ext ?_ rfl ?_
  · rw [archive_files_update slot fun other apart => ?_]
    · rw [archive_files_of_free free]
      rfl
    · have entry : (volume.directory.remove slot).get other = volume.directory.get other :=
        Directory.get_set_of_ne apart
      exact ⟨entry, lays.fileBytes_congr after rfl entry (Function.update_of_ne apart ..)⟩
  · have links : ∀ id ∈ blocks slot, id.IsLink volume.table.size :=
      fun id member => (lays.isLink member).1
    have stillReserved : (volume.table.discard (blocks slot)).entry .unused ≠ .unused := by
      rw [Table.entry_discard links, if_neg fun member => (links _ member).1 rfl]
      exact sound.table.reserved
    have count := Table.length_unusedBlocks_discard sound.size_le
      (lays.chain slot occupied).nodup fun id member => lays.isLink member
    show (volume.table.discard (blocks slot)).freeCount = volume.table.freeCount + _
    rw [Table.freeCount_eq (by rw [Table.size_discard]; exact sound.size_le) stillReserved,
      sound.freeCount_eq, count, archive_bytesIn, lays.length_fileBytes occupied,
      lays.length slot occupied]

theorem delete_mirrors {deviceBlocks : Nat} (sound : volume.Sound deviceBlocks)
    (lays : volume.Lays blocks) (disk : Nat → Block) (name : String) :
    Mirrors (delete name) volume disk (fun _ => .done) ((volume.archive disk).delete name) := by
  unfold Mirrors Yields Archive.delete
  rw [delete_eq lays, archive_lookup]
  cases looked : volume.directory.lookup name with
  | error cause => exact ⟨rfl, rfl⟩
  | ok slot =>
    have occupied := Directory.occupied_of_lookup looked
    have same : (volume.archive disk).IsOpen slot ↔ volume.descriptors.IsOpen slot := archive_isOpen
    by_cases isOpen : volume.descriptors.IsOpen slot
    · dsimp only
      rw [if_pos isOpen]
      exact ⟨if_pos (same.mpr isOpen), rfl⟩
    · dsimp only
      rw [if_neg isOpen]
      dsimp only
      rw [lays.archive_remove sound occupied]
      exact if_neg (mt same.mp isOpen)

theorem openFile_mirrors (volume : Volume) (disk : Nat → Block) (name : String) :
    Mirrors (openFile name) volume disk .descriptor ((volume.archive disk).openFile name) := by
  unfold Mirrors Yields Archive.openFile
  rw [openFile_eq, archive_lookup, archive_unused?]
  cases volume.directory.lookup name with
  | error cause => exact ⟨rfl, rfl⟩
  | ok slot =>
    unfold Descriptors.insert
    dsimp only
    cases volume.descriptors.unused? with
    | none => exact ⟨rfl, rfl⟩
    | some descriptor =>
      dsimp only
      rw [archive_setDescriptor]
      rfl

theorem close_mirrors (volume : Volume) (disk : Nat → Block) (descriptor : Nat) :
    Mirrors (close descriptor) volume disk (fun _ => .done)
      ((volume.archive disk).close descriptor) := by
  unfold Mirrors Yields Archive.close
  rw [close_eq, archive_opened]
  cases volume.descriptors.get descriptor with
  | error cause => exact ⟨rfl, rfl⟩
  | ok file =>
    dsimp only
    rw [archive_setDescriptor]
    rfl

theorem seek_mirrors {deviceBlocks : Nat} (sound : volume.Sound deviceBlocks)
    (lays : volume.Lays blocks) (disk : Nat → Block) (descriptor offset : Nat) :
    Mirrors (seek descriptor offset) volume disk (fun _ => .done)
      ((volume.archive disk).seek descriptor offset) := by
  unfold Mirrors Yields Archive.seek
  rw [seek_eq, archive_opened]
  cases used : volume.descriptors.get descriptor with
  | error cause => exact ⟨rfl, rfl⟩
  | ok file =>
    have length : ((volume.archive disk).bytesIn file.slot).length =
        (volume.directory.get file.slot).size.toNat := by
      rw [archive_bytesIn, lays.length_fileBytes (sound.descriptors descriptor file used).1]
    by_cases outside : (volume.directory.get file.slot).size.toNat < offset
    · dsimp only
      rw [if_pos outside]
      exact ⟨if_pos (by rwa [length]), rfl⟩
    · dsimp only
      rw [if_neg outside]
      dsimp only
      rw [archive_setDescriptor]
      exact if_neg (by rwa [length])

end Volume

end FlatVolume
