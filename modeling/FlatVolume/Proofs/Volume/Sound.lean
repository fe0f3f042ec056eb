/-
**What is always true of a mounted volume.**

`Volume.Sound` lists what mounting checks and every operation keeps: the division fits the device,
the table and the directory have only possible values, and every descriptor in use stands for a file
and a position in it. Nothing is said about chains, so a volume whose chains are broken is sound
too.

* `ofDisk_sound`: a volume that is read from a disk is sound;
* `ofDisk_of_holds`: a disk that holds a sound volume gives it back, with its free slots cleared and
  no file open;
* `create_sound` and the theorems after it: the operations in memory keep a volume sound.
-/

import FlatVolume.Proofs.Chain.Sound
import FlatVolume.Proofs.Storage.Areas
import FlatVolume.Volume.Operations

namespace FlatVolume

/-! ### Descriptors -/

namespace Descriptors

variable {descriptors : Descriptors} {number other : Nat} {file : OpenFile}

theorem lt_of_get_eq_ok (found : descriptors.get number = .ok file) : number < descriptorCount := by
  rw [get_eq_ok_iff] at found
  by_contra outside
  rw [Vector.getElem?_eq_none (Nat.le_of_not_lt outside)] at found
  cases found

/-- A descriptor reads back as it was set, and setting it changes no other. -/
theorem get_set_eq_ok_iff (inside : number < descriptorCount) {value : Option OpenFile} :
    (descriptors.set number value).get other = .ok file ↔
      if number = other then value = some file else descriptors.get other = .ok file := by
  rw [get_eq_ok_iff, set, Vector.getElem?_setIfInBounds]
  by_cases same : number = other
  · subst same
    simp [inside]
  · simp [same, get_eq_ok_iff]

/-- Setting a descriptor to what it stands for changes nothing. -/
theorem set_of_get_eq_ok (found : descriptors.get number = .ok file) :
    descriptors.set number (some file) = descriptors := by
  rw [get_eq_ok_iff] at found
  obtain ⟨inside, same⟩ := Vector.getElem?_eq_some_iff.mp found
  obtain ⟨table⟩ := descriptors
  rw [set]
  congr 1
  ext1 index below
  rw [Vector.getElem_setIfInBounds]
  split
  · rename_i here
    subst here
    exact same.symm
  · rfl

/-- Only what a descriptor was set to last counts. -/
theorem set_set (descriptors : Descriptors) (number : Nat) (first second : Option OpenFile) :
    (descriptors.set number first).set number second = descriptors.set number second := by
  rw [set, set, set, Vector.setIfInBounds_setIfInBounds]

theorem get_empty (number : Nat) : Descriptors.empty.get number = .error .invalidDescriptor := by
  unfold get empty
  rw [Vector.getElem?_replicate]
  by_cases inside : number < descriptorCount <;> simp [inside]

/-- A file is open if a descriptor stands for it. -/
theorem isOpen_iff {slot : Slot} :
    descriptors.IsOpen slot ↔
      ∃ number file, descriptors.get number = .ok file ∧ file.slot = slot := by
  simp only [IsOpen, openFiles, List.mem_map, List.mem_filterMap, id_eq, exists_eq_right,
    Vector.mem_toList_iff, Vector.mem_iff_getElem?, get_eq_ok_iff]
  constructor
  · rintro ⟨file, ⟨number, found⟩, rfl⟩
    exact ⟨number, file, found, rfl⟩
  · rintro ⟨number, file, found, rfl⟩
    exact ⟨file, ⟨number, found⟩, rfl⟩

theorem insert_eq_ok_iff {slot : Slot} {after : Descriptors} :
    descriptors.insert slot = .ok (number, after) ↔
      ∃ lowest, descriptors.unused? = some lowest ∧ number = lowest ∧
        after = descriptors.set lowest (some ⟨slot, 0⟩) := by
  unfold insert
  cases descriptors.unused? with
  | none => simp
  | some lowest =>
    simp only [Except.ok.injEq, Prod.mk.injEq, Option.some.injEq, exists_eq_left']
    constructor <;> (rintro ⟨rfl, rfl⟩; exact ⟨rfl, rfl⟩)

theorem erase_eq_ok_iff {after : Descriptors} :
    descriptors.erase number = .ok after ↔
      (∃ file, descriptors.get number = .ok file) ∧ after = descriptors.set number none := by
  unfold erase
  cases found : descriptors.get number with
  | error cause =>
    show Except.error cause = _ ↔ _
    simp
  | ok file =>
    show Except.ok _ = _ ↔ _
    simp [eq_comm]

end Descriptors

/-! ### Sound volumes -/

/-- The volume is possible on a device of `deviceBlocks` blocks. -/
structure Volume.Sound (volume : Volume) (deviceBlocks : Nat) : Prop where
  layout : volume.layout.Valid deviceBlocks
  table : volume.table.Sound volume.layout.dataBlocks.toNat
  directory : volume.directory.Acceptable volume.layout.dataBlocks.toNat
  /-- A descriptor in use stands for a file and is not behind its end. -/
  descriptors : ∀ number file, volume.descriptors.get number = .ok file →
    ¬ (volume.directory.get file.slot).IsFree ∧
      file.offset ≤ (volume.directory.get file.slot).size.toNat

/-- While no file is open, a volume is sound if its parts are. -/
theorem Volume.sound_of_unopened {volume : Volume} {deviceBlocks : Nat}
    (layout : volume.layout.Valid deviceBlocks)
    (table : volume.table.Sound volume.layout.dataBlocks.toNat)
    (directory : volume.directory.Acceptable volume.layout.dataBlocks.toNat)
    (unopened : volume.descriptors = .empty) : volume.Sound deviceBlocks := by
  refine ⟨layout, table, directory, fun number file found => ?_⟩
  rw [unopened, Descriptors.get_empty] at found
  cases found

/-- The volume as it is after it was written back and mounted again. -/
def Volume.reopened (volume : Volume) : Volume :=
  { volume with directory := volume.directory.cleared, descriptors := .empty }

section Disk

variable {disk : Nat → Block} {deviceBlocks : Nat} {volume : Volume}

/-- A volume that is read from a disk is sound, and no file is open. -/
theorem ofDisk_sound (read : Volume.ofDisk disk deviceBlocks = .ok volume) :
    volume.Sound deviceBlocks ∧ volume.descriptors = .empty ∧
      SuperBlock.decode (disk superBlockIndex) = .ok volume.layout := by
  obtain ⟨decoded, valid, areas⟩ := ofDisk_eq_ok_iff.mp read
  obtain ⟨_, table, _, unopened, tableFine, rootFine⟩ := ofAreas_eq_ok_iff.mp areas
  refine ⟨Volume.sound_of_unopened valid ⟨?_, tableFine⟩ rootFine unopened, unopened, decoded⟩
  rw [table, Table.size_decode]
  have covers := valid.table
  simp only [SuperBlock.tableArea, List.length_map, List.length_range', covers, tableBlocksFor,
    entriesPerBlock]
  omega

/-- A disk that holds a sound volume gives it back. -/
theorem ofDisk_of_holds (holds : Holds disk volume) (sound : volume.Sound deviceBlocks) :
    Volume.ofDisk disk deviceBlocks = .ok volume.reopened := by
  have covered : volume.table.size ≤ volume.layout.tableBlocks.toNat * entriesPerBlock := by
    rw [sound.table.size_eq, sound.layout.table]
    simp only [tableBlocksFor, entriesPerBlock]
    omega
  have area : volume.layout.tableArea.map disk =
      volume.table.encode volume.layout.tableBlocks.toNat := by
    rw [SuperBlock.tableArea, List.range'_eq_map_range, List.map_map, Table.encode]
    exact List.map_congr_left fun position member =>
      holds.table position (List.mem_range.mp member)
  refine ofDisk_eq_ok_iff.mpr ⟨holds.superBlock, sound.layout, ofAreas_eq_ok_iff.mpr ?_⟩
  refine ⟨rfl, ?_, ?_, rfl, sound.table.acceptable, sound.directory.cleared⟩
  · have table := Table.decode_encode volume.table covered
    rw [sound.table.size_eq] at table
    show _ = Table.decode (volume.layout.tableArea.map disk) volume.layout.dataBlocks.toNat
    rw [area]
    exact table.symm
  · show _ = Directory.decode (disk volume.layout.rootBlock.toNat)
    rw [holds.root, Directory.decode_encode]
    rfl

end Disk

/-! ### Operations in memory -/

namespace Volume

variable {volume : Volume} {deviceBlocks : Nat}

/-- A file of a sound volume has a possible head. -/
theorem Sound.isHead (sound : volume.Sound deviceBlocks) {slot : Slot}
    (occupied : ¬ (volume.directory.get slot).IsFree) :
    (volume.directory.get slot).first.IsHead volume.layout.dataBlocks.toNat :=
  (sound.directory slot occupied).2.2

/-- A sound table is small enough for its numbers. -/
theorem Sound.small (sound : volume.Sound deviceBlocks) :
    volume.layout.dataBlocks.toNat ≤ 65535 :=
  Nat.le_of_lt sound.layout.data_lt

theorem Sound.size_le (sound : volume.Sound deviceBlocks) : volume.table.size ≤ 65535 := by
  rw [sound.table.size_eq]
  exact sound.small

/-- The data area of a sound volume lies on the device. -/
theorem Sound.dataBlock_lt (sound : volume.Sound deviceBlocks) {id : BlockId}
    (isLink : id.IsLink volume.table.size) : volume.layout.dataBlock id < deviceBlocks := by
  have below := isLink.toNat_lt
  rw [sound.table.size_eq] at below
  rw [← sound.layout.total, sound.layout.whole, SuperBlock.dataBlock]
  exact Nat.add_lt_add_left below _

/-- The free blocks of a sound volume are those that are unused. -/
theorem Sound.freeCount_eq (sound : volume.Sound deviceBlocks) :
    volume.table.freeCount = volume.table.unusedBlocks.length :=
  Table.freeCount_eq sound.size_le sound.table.reserved

theorem create_sound (sound : volume.Sound deviceBlocks) (name : String) :
    Leaves (create name) volume fun after =>
      after.Sound deviceBlocks ∧ after.layout = volume.layout := by
  unfold Leaves create
  rw [yields_bind, yields_get, yields_bind]
  refine yields_settle (fun inserted done => ?_) fun _ _ => ⟨sound, rfl⟩
  obtain ⟨slot, directory⟩ := inserted
  rw [yields_modify]
  refine ⟨⟨sound.layout, sound.table, sound.directory.insert done, ?_⟩, rfl⟩
  -- The slot of a new file was free, so no descriptor stands for it.
  intro number file found
  obtain ⟨_, free, rfl⟩ := Directory.insert_eq_ok_iff.mp done
  obtain ⟨occupied, inside⟩ := sound.descriptors number file found
  have apart : file.slot ≠ slot := by
    intro same
    rw [same] at occupied
    exact occupied (Directory.of_freeSlot?_eq_some free)
  show ¬ ((volume.directory.set slot (.new name)).get file.slot).IsFree ∧
    file.offset ≤ ((volume.directory.set slot (.new name)).get file.slot).size.toNat
  rw [Directory.get_set_of_ne apart]
  exact ⟨occupied, inside⟩

theorem delete_sound (sound : volume.Sound deviceBlocks) (name : String) :
    Leaves (delete name) volume fun after =>
      after.Sound deviceBlocks ∧ after.layout = volume.layout := by
  unfold Leaves delete
  rw [yields_bind, yields_get, yields_bind]
  refine yields_settle (fun slot _ => ?_) fun _ _ => ⟨sound, rfl⟩
  by_cases isOpen : volume.descriptors.IsOpen slot
  · rw [if_pos isOpen]
    exact ⟨sound, rfl⟩
  rw [if_neg isOpen, yields_bind]
  refine yields_settle (fun _ _ => ?_) fun _ _ => ⟨sound, rfl⟩
  rw [yields_bind, yields_focus]
  refine (Table.release_sound sound.table _).mono (fun _ table released => ?_)
    fun _ table failed => ?_
  · rw [yields_modify]
    refine ⟨⟨sound.layout, released, sound.directory.remove slot, ?_⟩, rfl⟩
    intro number file found
    have apart : file.slot ≠ slot :=
      fun same => isOpen (Descriptors.isOpen_iff.mpr ⟨number, file, found, same⟩)
    show ¬ ((volume.directory.set slot .empty).get file.slot).IsFree ∧
      file.offset ≤ ((volume.directory.set slot .empty).get file.slot).size.toNat
    rw [Directory.get_set_of_ne apart]
    exact sound.descriptors number file found
  · exact ⟨⟨sound.layout, failed, sound.directory, sound.descriptors⟩, rfl⟩

theorem openFile_sound (sound : volume.Sound deviceBlocks) (name : String) :
    Leaves (openFile name) volume fun after =>
      after.Sound deviceBlocks ∧ after.layout = volume.layout := by
  unfold Leaves openFile
  rw [yields_bind, yields_get, yields_bind]
  refine yields_settle (fun slot looked => ?_) fun _ _ => ⟨sound, rfl⟩
  rw [yields_bind]
  refine yields_settle (fun inserted done => ?_) fun _ _ => ⟨sound, rfl⟩
  obtain ⟨descriptor, descriptors⟩ := inserted
  obtain ⟨lowest, _, rfl, rfl⟩ := Descriptors.insert_eq_ok_iff.mp done
  rw [yields_bind, yields_set, yields_pure]
  refine ⟨⟨sound.layout, sound.table, sound.directory, fun number file found => ?_⟩, rfl⟩
  rw [Descriptors.get_set_eq_ok_iff lowest.isLt] at found
  split at found
  · obtain rfl := Option.some.inj found
    exact ⟨Directory.occupied_of_lookup looked, Nat.zero_le _⟩
  · exact sound.descriptors number file found

theorem close_sound (sound : volume.Sound deviceBlocks) (descriptor : Nat) :
    Leaves (close descriptor) volume fun after =>
      after.Sound deviceBlocks ∧ after.layout = volume.layout := by
  unfold Leaves close
  rw [yields_bind, yields_get, yields_bind]
  refine yields_settle (fun descriptors erased => ?_) fun _ _ => ⟨sound, rfl⟩
  obtain ⟨⟨file, used⟩, rfl⟩ := Descriptors.erase_eq_ok_iff.mp erased
  rw [yields_modify]
  refine ⟨⟨sound.layout, sound.table, sound.directory, fun number other found => ?_⟩, rfl⟩
  rw [Descriptors.get_set_eq_ok_iff (Descriptors.lt_of_get_eq_ok used)] at found
  split at found
  · cases found
  · exact sound.descriptors number other found

/-- A descriptor may be moved to any position inside its file. -/
theorem setOffset_sound (sound : volume.Sound deviceBlocks) {descriptor offset : Nat}
    {file : OpenFile} (used : volume.descriptors.get descriptor = .ok file)
    (inside : offset ≤ (volume.directory.get file.slot).size.toNat) :
    Leaves (setOffset descriptor file offset) volume fun after =>
      after.Sound deviceBlocks ∧ after.layout = volume.layout := by
  refine ⟨⟨sound.layout, sound.table, sound.directory, fun number other found => ?_⟩, rfl⟩
  rw [Descriptors.get_set_eq_ok_iff (Descriptors.lt_of_get_eq_ok used)] at found
  split at found
  · obtain rfl := Option.some.inj found
    exact ⟨(sound.descriptors descriptor file used).1, inside⟩
  · exact sound.descriptors number other found

theorem seek_sound (sound : volume.Sound deviceBlocks) (descriptor offset : Nat) :
    Leaves (seek descriptor offset) volume fun after =>
      after.Sound deviceBlocks ∧ after.layout = volume.layout := by
  unfold Leaves seek
  rw [yields_bind, yields_get, yields_bind]
  refine yields_settle (fun file used => ?_) fun _ _ => ⟨sound, rfl⟩
  by_cases outside : (volume.directory.get file.slot).size.toNat < offset
  · rw [if_pos outside]
    exact ⟨sound, rfl⟩
  · rw [if_neg outside]
    exact setOffset_sound sound used (Nat.le_of_not_lt outside)

end Volume

end FlatVolume
