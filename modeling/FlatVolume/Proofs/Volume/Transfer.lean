/-
**Reading and writing open files.**

What the two operations that touch the content of files do on an intact volume, whatever calls the
device fails:

* `read_yields`: a read gives the bytes of the file behind the descriptor's position;
* `write_yields`: a write is refused without a trace, or it succeeds, or the device fails and the
  volume is as before;
* `written_lays`: a write that succeeds keeps the volume intact, has written its data into the file,
  and has changed no other file (`written_fileBytes_self`, `written_fileBytes_of_ne`);
* `torn_fileBytes`: a write that the device failed has at most written the first part of its data
  over bytes that the file had.
-/

import FlatVolume.Proofs.File.Write
import FlatVolume.Proofs.Volume.Lays
import FlatVolume.Proofs.Volume.Serve

namespace FlatVolume

open BlockDevice

namespace Mounted

section Sound

variable {D : Type} [BlockDevice D] [StoringDevice D] {mounted : Mounted D}
  {blocks : Slot → List BlockId}

/-- The data area lies on the device. -/
theorem Sound.dataBlock_lt (sound : mounted.Sound) {id : BlockId}
    (isLink : id.IsLink mounted.volume.table.size) :
    mounted.volume.layout.dataBlock id < numBlocks mounted.device :=
  sound.volume.dataBlock_lt isLink

theorem Sound.small (sound : mounted.Sound) : mounted.volume.table.size ≤ 65535 :=
  sound.volume.size_le

end Sound

section Unused

variable {D : Type} [BlockDevice D] {mounted : Mounted D} {descriptor : Nat} {cause : VolumeError}

/-- A descriptor that is not in use cannot be read. -/
theorem yields_read_of_unused
    (unused : mounted.volume.descriptors.get descriptor = .error cause) (length : Nat)
    {success : Bytes → Mounted D → Prop} {failure : VolumeError → Mounted D → Prop} :
    Yields (read descriptor length) mounted success failure ↔ failure cause mounted := by
  unfold read
  rw [yields_bind, yields_get, yields_bind, unused, yields_settle_error]

/-- A descriptor that is not in use cannot be written. -/
theorem yields_write_of_unused
    (unused : mounted.volume.descriptors.get descriptor = .error cause) (data : Bytes)
    {success : Nat → Mounted D → Prop} {failure : VolumeError → Mounted D → Prop} :
    Yields (write descriptor data) mounted success failure ↔ failure cause mounted := by
  unfold write
  rw [yields_bind, yields_get, yields_bind, unused, yields_settle_error]

end Unused

/-! ### Reading -/

section Read

variable {D : Type} [BlockDevice D] [StoringDevice D] {mounted : Mounted D}
  {blocks : Slot → List BlockId}

/-- A read gives the bytes of the file behind the descriptor's position and moves it behind them. -/
theorem read_yields (sound : mounted.Sound) (lays : mounted.volume.Lays blocks)
    {descriptor : Nat} {file : OpenFile}
    (used : mounted.volume.descriptors.get descriptor = .ok file) (length : Nat) :
    Yields (read descriptor length) mounted
      (fun data after => file.offset + length < positionLimit ∧
        data = ((mounted.volume.fileBytes (content mounted.device) file.slot).drop
          file.offset).take length ∧
        after.volume = { mounted.volume with
          descriptors := mounted.volume.descriptors.set descriptor
            (some { file with offset := file.offset + data.length }) } ∧
        content after.device = content mounted.device ∧ Follows mounted.device after.device)
      (fun cause after =>
        (cause = .invalidArgument ∧ positionLimit ≤ file.offset + length ∨
          DeviceFault mounted.device cause) ∧
        after.volume = mounted.volume ∧
        content after.device = content mounted.device ∧ Follows mounted.device after.device) := by
  obtain ⟨occupied, _⟩ := sound.volume.descriptors descriptor file used
  have chain := lays.chain file.slot occupied
  have inside : ∀ id ∈ blocks file.slot,
      mounted.volume.layout.dataBlock id < numBlocks mounted.device :=
    fun id member => sound.dataBlock_lt (chain.isLink_of_mem member)
  unfold read
  rw [yields_bind, yields_get, yields_bind, used, yields_settle_ok, yields_bind, onDevice,
    yields_focus]
  refine (readFile_yields mounted.device chain inside
    (Nat.le_of_eq (lays.length file.slot occupied).symm) file.offset length).mono ?_ ?_
  · intro data device ended
    obtain ⟨bounded, read, same, follows⟩ := ended
    rw [← lays.fileBytes_eq] at read
    exact ⟨bounded, read, rfl, same, follows⟩
  · intro cause device ended
    obtain ⟨reason, same, follows⟩ := ended
    exact ⟨reason, rfl, same, follows⟩

end Read

/-! ### Writing -/

section Write

variable {D : Type} [BlockDevice D] [FaithfulDevice D] {mounted : Mounted D}
  {blocks : Slot → List BlockId} {descriptor : Nat} {file : OpenFile} {data : Bytes}

/-- The volume after a write that succeeded. -/
def afterWrite (mounted : Mounted D) (descriptor : Nat) (file : OpenFile) (store : FileStore D)
    (count : Nat) : Mounted D where
  volume :=
    { mounted.volume with
      table := store.table
      directory := mounted.volume.directory.set file.slot store.entry
      descriptors := mounted.volume.descriptors.set descriptor
        (some { file with offset := file.offset + count }) }
  device := store.device

/-- A write is refused without a trace, or it succeeds, or the device fails and the volume is as
before. -/
theorem write_yields (sound : mounted.Sound) (lays : mounted.volume.Lays blocks)
    (used : mounted.volume.descriptors.get descriptor = .ok file) :
    Yields (write descriptor data) mounted
      (fun count after => ∃ store,
        after = mounted.afterWrite descriptor file store count ∧
        count = writeStop mounted.volume.table (blocks file.slot) (file.offset + data.length) -
          file.offset ∧
        (data ≠ [] → file.offset + data.length ≤ maxFileSize) ∧
        Written mounted.volume.layout (blocks file.slot) file.offset data
          (fileStore file.slot mounted) store)
      (fun cause after =>
        (cause = .invalidArgument ∧ data ≠ [] ∧ maxFileSize < file.offset + data.length ∧
          after = mounted) ∨
        DeviceFault mounted.device cause ∧ after.volume = mounted.volume ∧
          Follows mounted.device after.device ∧
          OverwrittenInPart mounted.volume.layout
            (blocks file.slot ++ addedBlocks mounted.volume.table (blocks file.slot)
              (file.offset + data.length)) (blocks file.slot).length file.offset
            (file.offset + data.length) data (content mounted.device)
            (content after.device)) := by
  obtain ⟨occupied, inside⟩ := sound.volume.descriptors descriptor file used
  have put : ∀ store : FileStore D, store.table = mounted.volume.table →
      store.entry = mounted.volume.directory.get file.slot →
      putFileStore file.slot store mounted = { mounted with device := store.device } := by
    intro store table entry
    rw [putFileStore, table, entry, Directory.set_get_self]
  unfold write
  rw [yields_bind, yields_get, yields_bind, used, yields_settle_ok, yields_bind, yields_focus]
  refine (writeFile_yields (fileStore file.slot mounted) sound.small
    (lays.chain file.slot occupied) (lays.length file.slot occupied) inside
    fun id isLink => sound.dataBlock_lt isLink).mono ?_ ?_
  · intro count store ended
    obtain ⟨counted, bounded, written⟩ := ended
    exact ⟨store, rfl, counted, bounded, written⟩
  · intro cause store ended
    rcases ended with ⟨invalid, some, long, rfl⟩ | ⟨fault, torn⟩
    · exact .inl ⟨invalid, some, long, put _ rfl rfl⟩
    · rw [put store torn.table torn.entry]
      exact .inr ⟨fault, rfl, torn.follows, torn.bytes⟩

variable {store : FileStore D} {count : Nat}

/-- A write that succeeds keeps the volume intact and the stray blocks stray. -/
theorem written_lays (lays : mounted.volume.Lays blocks)
    (occupied : ¬ (mounted.volume.directory.get file.slot).IsFree)
    (written : Written mounted.volume.layout (blocks file.slot) file.offset data
      (fileStore file.slot mounted) store) :
    (mounted.afterWrite descriptor file store count).volume.Lays
        (Function.update blocks file.slot (blocks file.slot ++
          addedBlocks mounted.volume.table (blocks file.slot) (file.offset + data.length))) ∧
      (mounted.afterWrite descriptor file store count).volume.strays = mounted.volume.strays := by
  refine lays.grow occupied written.name written.grown ?_
  rw [written.size, List.length_append]
  refine length_grown (lays.length file.slot occupied) ?_
  rw [addedBlocks, List.length_take]
  exact Nat.min_le_left _ _

/-- A successful write has put its data into the file, as far as there was room. -/
theorem written_fileBytes_self (lays : mounted.volume.Lays blocks)
    (occupied : ¬ (mounted.volume.directory.get file.slot).IsFree)
    (inside : file.offset ≤ (mounted.volume.directory.get file.slot).size.toNat)
    (written : Written mounted.volume.layout (blocks file.slot) file.offset data
      (fileStore file.slot mounted) store) :
    (mounted.afterWrite descriptor file store count).volume.fileBytes (content store.device)
        file.slot =
      overwrite (mounted.volume.fileBytes (content mounted.device) file.slot) file.offset
        (data.take (writeStop mounted.volume.table (blocks file.slot)
          (file.offset + data.length) - file.offset)) := by
  have after : (mounted.afterWrite descriptor file store count).volume.Lays _ :=
    (written_lays lays occupied written).1
  have room := lays.room occupied
  have stopLe : writeStop mounted.volume.table (blocks file.slot) (file.offset + data.length) ≤
      file.offset + data.length := writeStop_le
  have size : ((mounted.afterWrite descriptor file store count).volume.directory.get
      file.slot).size.toNat = max (mounted.volume.directory.get file.slot).size.toNat
        (writeStop mounted.volume.table (blocks file.slot) (file.offset + data.length)) := by
    show ((mounted.volume.directory.set file.slot store.entry).get file.slot).size.toNat = _
    rw [Directory.get_set_self, written.size]
    rfl
  rw [after.fileBytes_eq, lays.fileBytes_eq, Function.update_self, size]
  have enough : writeStop mounted.volume.table (blocks file.slot) (file.offset + data.length) -
      file.offset ≤ data.length := by omega
  have bytes := written.bytes.take_eq inside room (Nat.le_max_left _ _) (Nat.le_refl _) enough
  rw [Nat.min_eq_left (Nat.le_max_right _ _)] at bytes
  exact bytes

/-- A successful write changes no other file. -/
theorem written_fileBytes_of_ne (lays : mounted.volume.Lays blocks)
    (occupied : ¬ (mounted.volume.directory.get file.slot).IsFree)
    (written : Written mounted.volume.layout (blocks file.slot) file.offset data
      (fileStore file.slot mounted) store) {other : Slot} (apart : other ≠ file.slot) :
    (mounted.afterWrite descriptor file store count).volume.fileBytes (content store.device)
        other =
      mounted.volume.fileBytes (content mounted.device) other := by
  have after : (mounted.afterWrite descriptor file store count).volume.Lays _ :=
    (written_lays lays occupied written).1
  have entry : (mounted.afterWrite descriptor file store count).volume.directory.get other =
      mounted.volume.directory.get other := Directory.get_set_of_ne apart
  rw [after.fileBytes_eq, lays.fileBytes_eq, Function.update_of_ne apart, entry]
  refine congrArg (List.take _) (blockBytes_congr fun id member => ?_)
  have unused := fun id added => (written.grown.unused id added).2
  exact written.bytes.frame _ (lays.dataBlock_ne apart unused member)

/-- A write that the device failed has at most written the first part of its data over bytes that
the file had, and has changed no other file. -/
theorem torn_fileBytes (lays : mounted.volume.Lays blocks)
    (occupied : ¬ (mounted.volume.directory.get file.slot).IsFree)
    (inside : file.offset ≤ (mounted.volume.directory.get file.slot).size.toNat)
    {disk : Nat → Block} (small : mounted.volume.table.size ≤ 65535)
    (torn : OverwrittenInPart mounted.volume.layout
      (blocks file.slot ++ addedBlocks mounted.volume.table (blocks file.slot)
        (file.offset + data.length)) (blocks file.slot).length file.offset
      (file.offset + data.length) data (content mounted.device) disk) :
    (∃ place, file.offset ≤ place ∧ place < file.offset + data.length ∧
      (place = file.offset ∨ blockSize ∣ place) ∧
      mounted.volume.fileBytes disk file.slot =
        overwrite (mounted.volume.fileBytes (content mounted.device) file.slot) file.offset
          (data.take (min place (mounted.volume.directory.get file.slot).size.toNat -
            file.offset))) ∧
      ∀ other, other ≠ file.slot → mounted.volume.fileBytes disk other =
        mounted.volume.fileBytes (content mounted.device) other := by
  obtain ⟨place, least, below, start, overwritten⟩ := torn
  have room := lays.room occupied
  refine ⟨⟨place, least, below, start, ?_⟩, fun other apart => ?_⟩
  · have bytes := overwritten.take_eq inside room (Nat.le_refl _) (Nat.le_max_left _ _)
      (by omega)
    rw [blockBytes_append, List.take_append_of_le_length
      (by rwa [length_blockBytes])] at bytes
    rw [lays.fileBytes_eq, lays.fileBytes_eq]
    exact bytes
  · rw [lays.fileBytes_eq, lays.fileBytes_eq]
    refine congrArg (List.take _) (blockBytes_congr fun id member => ?_)
    have unused : ∀ id ∈ addedBlocks mounted.volume.table (blocks file.slot)
        (file.offset + data.length), mounted.volume.table.entry id = .unused :=
      fun id added => ((Table.mem_unusedBlocks small).mp (List.mem_of_mem_take added)).2
    exact overwritten.frame _ (lays.dataBlock_ne apart unused member)

end Write

end Mounted

end FlatVolume
