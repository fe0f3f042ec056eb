/-
**The archive of a volume.**

`Volume.archive` reads an archive off a volume and its disk. Looking up names, slots and descriptors
gives the same in both (`archive_lookup`, `archive_freeSlot?`, `archive_opened`, `archive_unused?`),
and a change to one slot or one descriptor of the volume is one to the same slot or descriptor of
the archive (`archive_files_update`, `archive_setDescriptor`).
-/

import FlatVolume.Proofs.Archive.Basic
import FlatVolume.Proofs.Session.Remount

namespace FlatVolume.Volume

/-- What a client can tell about a volume whose disk has the given blocks. -/
def archive (volume : Volume) (disk : Nat → Block) : Archive where
  files slot :=
    if (volume.directory.get slot).IsFree then none
    else some ⟨(volume.directory.get slot).name, volume.fileBytes disk slot⟩
  descriptors descriptor := volume.descriptors.table.get descriptor
  free := volume.table.freeCount

section Files

variable {volume : Volume} {disk : Nat → Block} {slot : Slot}

theorem archive_files_of_free (free : (volume.directory.get slot).IsFree) :
    (volume.archive disk).files slot = none :=
  if_pos free

theorem archive_files_of_occupied (occupied : ¬ (volume.directory.get slot).IsFree) :
    (volume.archive disk).files slot =
      some ⟨(volume.directory.get slot).name, volume.fileBytes disk slot⟩ :=
  if_neg occupied

theorem archive_find? (volume : Volume) (disk : Nat → Block) (name : String) :
    (volume.archive disk).find? name = volume.directory.find? name := by
  unfold Archive.find? Directory.find?
  congr 1
  funext slot
  by_cases free : (volume.directory.get slot).IsFree
  · simp [archive_files_of_free free, free]
  · simp [archive_files_of_occupied free, free]

theorem archive_freeSlot? (volume : Volume) (disk : Nat → Block) :
    (volume.archive disk).freeSlot? = volume.directory.freeSlot? := by
  unfold Archive.freeSlot? Directory.freeSlot?
  congr 1
  funext slot
  by_cases free : (volume.directory.get slot).IsFree
  · simp [archive_files_of_free free, free]
  · simp [archive_files_of_occupied free, free]

theorem archive_lookup (volume : Volume) (disk : Nat → Block) (name : String) :
    (volume.archive disk).lookup name = volume.directory.lookup name := by
  rw [Archive.lookup, archive_find?]
  exact (Directory.lookup_eq volume.directory name).symm

/-- A slot that is free has no bytes on either side. -/
theorem archive_bytesIn (volume : Volume) (disk : Nat → Block) (slot : Slot) :
    (volume.archive disk).bytesIn slot = volume.fileBytes disk slot := by
  unfold Archive.bytesIn
  by_cases free : (volume.directory.get slot).IsFree
  · rw [archive_files_of_free free, fileBytes, blocksOf, if_pos free]
    exact List.take_nil.symm
  · rw [archive_files_of_occupied free]

/-- Where all files but one are as before, the archive has changed in that slot. -/
theorem archive_files_update {after : Volume} {diskAfter : Nat → Block} (slot : Slot)
    (others : ∀ other, other ≠ slot → after.directory.get other = volume.directory.get other ∧
      after.fileBytes diskAfter other = volume.fileBytes disk other) :
    (after.archive diskAfter).files =
      Function.update (volume.archive disk).files slot ((after.archive diskAfter).files slot) := by
  funext other
  by_cases here : other = slot
  · rw [here, Function.update_self]
  · obtain ⟨entry, bytes⟩ := others other here
    rw [Function.update_of_ne here, archive, archive]
    dsimp only
    rw [entry, bytes]

/-- Volumes that are the same and have the same files open have one archive. -/
theorem archive_eq_of_same {first second : Volume} {before after : Nat → Block}
    (same : SameVolume first second) (data : SameData first.layout before after)
    (descriptors : second.descriptors = first.descriptors) :
    second.archive after = first.archive before := by
  refine Archive.ext ?_ ?_ ?_
  · funext slot
    by_cases free : (first.directory.get slot).IsFree
    · rw [archive_files_of_free free, archive_files_of_free ((same.free slot).mpr free)]
    · rw [archive_files_of_occupied free, archive_files_of_occupied (mt (same.free slot).mp free),
        same.entry slot free, same.fileBytes data]
  · simp only [archive, descriptors]
  · simp only [archive, same.table]

end Files

section Descriptors

variable {volume : Volume} {disk : Nat → Block}

theorem archive_opened (volume : Volume) (disk : Nat → Block) (descriptor : Nat) :
    (volume.archive disk).opened descriptor = volume.descriptors.get descriptor := by
  unfold Archive.opened Descriptors.get
  by_cases inside : descriptor < descriptorCount
  · have same : (volume.archive disk).descriptors ⟨descriptor, inside⟩ =
        volume.descriptors.table[descriptor] := rfl
    rw [dif_pos inside, Vector.getElem?_eq_getElem inside, same]
    cases volume.descriptors.table[descriptor] <;> rfl
  · rw [dif_neg inside, Vector.getElem?_eq_none (Nat.le_of_not_lt inside)]

theorem archive_unused? (volume : Volume) (disk : Nat → Block) :
    (volume.archive disk).unused? = volume.descriptors.unused? := by
  unfold Archive.unused? Descriptors.unused?
  congr 1
  funext descriptor
  show (volume.descriptors.table[descriptor]).isNone = _
  cases volume.descriptors.table[descriptor] <;> rfl

theorem archive_isOpen {slot : Slot} :
    (volume.archive disk).IsOpen slot ↔ volume.descriptors.IsOpen slot := by
  rw [Descriptors.isOpen_iff]
  constructor
  · rintro ⟨descriptor, found⟩
    obtain ⟨file, used, rfl⟩ := Option.map_eq_some_iff.mp found
    refine ⟨descriptor, file, Descriptors.get_eq_ok_iff.mpr ?_, rfl⟩
    rw [Vector.getElem?_eq_getElem descriptor.isLt]
    exact congrArg some used
  · rintro ⟨descriptor, file, used, rfl⟩
    have inside := Descriptors.lt_of_get_eq_ok used
    rw [Descriptors.get_eq_ok_iff, Vector.getElem?_eq_getElem inside, Option.some.injEq] at used
    exact ⟨⟨descriptor, inside⟩, congrArg (Option.map OpenFile.slot) used⟩

/-- No file of a volume is open if none of its archive is. -/
theorem openFiles_eq_nil_iff :
    volume.descriptors.openFiles = [] ↔ ¬ ∃ slot, (volume.archive disk).IsOpen slot := by
  simp only [archive_isOpen, Descriptors.IsOpen, List.mem_map]
  constructor
  · intro none ended
    obtain ⟨slot, file, member, _⟩ := ended
    rw [none] at member
    cases member
  · intro none
    exact List.eq_nil_iff_forall_not_mem.mpr fun file member => none ⟨_, file, member, rfl⟩

theorem archive_setDescriptor (descriptor : Nat) (file : Option OpenFile) :
    archive { volume with descriptors := volume.descriptors.set descriptor file } disk =
      (volume.archive disk).setDescriptor descriptor file := by
  unfold archive Archive.setDescriptor
  congr 1
  funext other
  show (volume.descriptors.table.setIfInBounds descriptor file)[other.val] = _
  rw [Vector.getElem_setIfInBounds]
  simp only [eq_comm]
  rfl

end Descriptors

end FlatVolume.Volume
