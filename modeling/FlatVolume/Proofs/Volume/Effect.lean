/-
**All that a write does.**

On an intact volume and a device that fails no call, a write that is not too long succeeds
(`write_succeeds`). Intact is a volume whose check passes and that is sound, as every volume is that
was mounted, after any requests (`run_sound_of_mount`). `write_effect` says what the write has then
done, and that it has done nothing else:

* the chain has grown by the lowest unused blocks, as many as the data needs and there are;
* the count is the number of bytes that found room, and the size and the offset follow;
* the blocks that these bytes cover hold them, with zeros beside them in a new block;
* these blocks, in the order of the chain, are the only ones that the device was called for.
-/

import FlatVolume.Proofs.Calls.Writing
import FlatVolume.Proofs.File.Filled
import FlatVolume.Proofs.Storage.Saved
import FlatVolume.Proofs.Volume.Transfer

namespace FlatVolume.Mounted

/-! ### Success -/

section Success

variable {D : Type} [BlockDevice D] {mounted : Mounted D} {descriptor : Nat} {file : OpenFile}

/-- A write that has not written nothing has written its data along the chain as it is now. -/
theorem write_writes (used : mounted.volume.descriptors.get descriptor = .ok file) (data : Bytes) :
    Yields (write descriptor data) mounted
      (fun count after => count = 0 ∧ after.device = mounted.device ∨
        0 < count ∧ writeChain mounted.volume.layout after.volume.table
          (after.volume.directory.get file.slot).first
          (blocksFor (mounted.volume.directory.get file.slot).size.toNat) file.offset
          (data.take count) mounted.device = .ok () after.device)
      (fun _ _ => True) := by
  unfold write
  rw [yields_bind, yields_get, yields_bind, used, yields_settle_ok, yields_bind, yields_focus]
  refine (writeFile_writes mounted.volume.layout file.offset data _).mono
    (fun count store ended => ?_) fun _ _ _ => trivial
  have entry : (mounted.volume.directory.set file.slot store.entry).get file.slot = store.entry :=
    Directory.get_set_self
  rw [← entry] at ended
  exact ended

variable [FaithfulDevice D] {blocks : Slot → List BlockId} {data : Bytes}

/-- A write that is not too long succeeds on a reliable device. It has filled the chain with the
data up to where the room ends. -/
theorem write_succeeds (sound : mounted.Sound) (lays : mounted.volume.Lays blocks)
    (reliable : Reliable mounted.device)
    (used : mounted.volume.descriptors.get descriptor = .ok file)
    (fits : file.offset + data.length ≤ maxFileSize) :
    let stop := writeStop mounted.volume.table (blocks file.slot) (file.offset + data.length)
    let grown := blocks file.slot ++
      addedBlocks mounted.volume.table (blocks file.slot) (file.offset + data.length)
    ∃ store, write descriptor data mounted =
        .ok (stop - file.offset) (mounted.afterWrite descriptor file store (stop - file.offset)) ∧
      Written mounted.volume.layout (blocks file.slot) file.offset data
        (fileStore file.slot mounted) store ∧
      Filled mounted.volume.layout grown (blocks file.slot).length file.offset stop data
        (content mounted.device) (content store.device) ∧
      (stop ≤ file.offset ∧ store.device = mounted.device ∨ file.offset < stop ∧
        writeChain mounted.volume.layout store.table store.entry.first (blocks file.slot).length
          file.offset (data.take (stop - file.offset)) mounted.device = .ok () store.device) := by
  intro stop grown
  obtain ⟨occupied, inside⟩ := sound.volume.descriptors descriptor file used
  have length := lays.length file.slot occupied
  have succeeds : Yields (write descriptor data) mounted (fun count after =>
      ∃ store, after = mounted.afterWrite descriptor file store count ∧
        count = stop - file.offset ∧
        Written mounted.volume.layout (blocks file.slot) file.offset data
          (fileStore file.slot mounted) store) (fun _ _ => False) := by
    refine (write_yields sound lays used).mono ?_ ?_
    · intro count after ended
      obtain ⟨store, same, counted, _, written⟩ := ended
      exact ⟨store, same, counted, written⟩
    · intro cause after ended
      rcases ended with ⟨_, _, long, _⟩ | ⟨fault, _⟩
      · exact absurd fits (Nat.not_le.mpr long)
      · exact fault.unreliable reliable
  obtain ⟨_, _, ended, store, rfl, rfl, written⟩ := succeeds.exists_ok
  have wrote : stop ≤ file.offset ∧ store.device = mounted.device ∨ file.offset < stop ∧
      writeChain mounted.volume.layout store.table store.entry.first (blocks file.slot).length
        file.offset (data.take (stop - file.offset)) mounted.device = .ok () store.device := by
    have entry : (mounted.volume.directory.set file.slot store.entry).get file.slot =
        store.entry := Directory.get_set_self
    rcases (write_writes used data).of_ok ended with ⟨none, same⟩ | ⟨some, wrote⟩
    · exact .inl ⟨Nat.le_of_sub_eq_zero none, same⟩
    · rw [length, ← entry]
      exact .inr ⟨Nat.lt_of_sub_pos some, wrote⟩
  refine ⟨store, ended, written, ?_, wrote⟩
  refine written.filled length inside fun some => ?_
  rcases wrote with ⟨none, _⟩ | ⟨some, wrote⟩
  · exact absurd some (Nat.not_lt.mpr none)
  · obtain ⟨nonempty, reaches, enough⟩ := take_writeStop some
    have zeros := (writeChain_zeros mounted.device written.grown.chain nonempty enough).of_ok wrote
    rwa [reaches] at zeros

end Success

/-! ### The effect -/

/-- All that a write to the file of `chain` has done. Its new blocks are `added`, and the first
`count` bytes of the data found room. -/
structure WriteEffect (mounted : Mounted Disk) (descriptor : Nat) (file : OpenFile) (data : Bytes)
    (chain added : List BlockId) (count : Nat) (after : Mounted Disk) : Prop where
  layout : after.volume.layout = mounted.volume.layout
  grown : mounted.volume.table.Grown after.volume.table
    (mounted.volume.directory.get file.slot).first chain
    (after.volume.directory.get file.slot).first added
  name : (after.volume.directory.get file.slot).nameField =
    (mounted.volume.directory.get file.slot).nameField
  size : (after.volume.directory.get file.slot).size.toNat =
    max (mounted.volume.directory.get file.slot).size.toNat (file.offset + count)
  others : ∀ other, other ≠ file.slot →
    after.volume.directory.get other = mounted.volume.directory.get other
  descriptors : after.volume.descriptors = mounted.volume.descriptors.set descriptor
    (some { file with offset := file.offset + count })
  /-- Beside the data a block has its old bytes, or zeros if it is new. -/
  bytes : ∀ index id, (chain ++ added)[index]? = some id → ∀ place < blockSize,
    (after.device.medium.block (mounted.volume.layout.dataBlock id)).bytes[place]? =
      if file.offset ≤ index * blockSize + place ∧
          index * blockSize + place < file.offset + count then
        data[index * blockSize + place - file.offset]?
      else if index < chain.length then
        (mounted.device.medium.block (mounted.volume.layout.dataBlock id)).bytes[place]?
      else some 0
  /-- Only blocks that have some of the data change. -/
  frame : ∀ block, (∀ index id, (chain ++ added)[index]? = some id →
      Covers file.offset (file.offset + count) index →
      block ≠ mounted.volume.layout.dataBlock id) →
    after.device.medium.block block = mounted.device.medium.block block
  log : after.device.log = mounted.device.log ++
    Disk.writeCalls mounted.volume.layout chain.length file.offset (file.offset + count) 0
      (chain ++ added)
  nothing : count = 0 → after.device = mounted.device

section Effect

variable {mounted : Mounted Disk} {descriptor : Nat} {file : OpenFile} {data : Bytes}

/-- The calls of a write that succeeded are those for the blocks that its data covers. -/
theorem led_of_written {store : FileStore Disk} {blocks : List BlockId}
    (written : Written mounted.volume.layout blocks file.offset data (fileStore file.slot mounted)
      store) {stop : Nat}
    (isStop : writeStop mounted.volume.table blocks (file.offset + data.length) = stop)
    (wrote : stop ≤ file.offset ∧ store.device = mounted.device ∨ file.offset < stop ∧
      writeChain mounted.volume.layout store.table store.entry.first blocks.length file.offset
        (data.take (stop - file.offset)) mounted.device = .ok () store.device) :
    Disk.Led (Disk.writeCalls mounted.volume.layout blocks.length file.offset stop 0
        (blocks ++ addedBlocks mounted.volume.table blocks (file.offset + data.length)))
      mounted.device store.device := by
  subst isStop
  rcases wrote with ⟨none, same⟩ | ⟨some, wrote⟩
  · rw [same, Disk.writeCalls_of_not_covers fun index _ _ covers => ?_]
    · exact .nil _ mounted.device
    · unfold Covers at covers
      omega
  · obtain ⟨nonempty, reaches, enough⟩ := take_writeStop some
    have led := (Disk.performs_writeChain written.grown.chain nonempty enough).of_ok wrote
    rwa [reaches] at led

/-- A write that is not too long grows the chain by the lowest unused blocks, puts the data there as
far as they reach, and does nothing else. -/
theorem write_effect (sound : mounted.Sound) (checked : mounted.volume.check = .ok ())
    (never : mounted.device.NeverFails)
    (used : mounted.volume.descriptors.get descriptor = .ok file)
    (fits : file.offset + data.length ≤ maxFileSize) :
    let entry := mounted.volume.directory.get file.slot
    let old := blocksFor entry.size.toNat
    let more := min (blocksFor (file.offset + data.length) - old) mounted.volume.table.freeCount
    let count := min data.length ((old + more) * blockSize - file.offset)
    ∃ chain added after,
      write descriptor data mounted = .ok count after ∧
      mounted.volume.table.IsChain entry.first chain ∧ chain.length = old ∧
      mounted.volume.table.Lowest more added ∧
      WriteEffect mounted descriptor file data chain added count after := by
  intro entry old more count
  obtain ⟨blocks, lays⟩ := Volume.check_eq_ok_iff.mp checked
  obtain ⟨occupied, inside⟩ := sound.volume.descriptors descriptor file used
  obtain ⟨store, ended, written, filled, wrote⟩ :=
    write_succeeds sound lays (Disk.reliable_of_neverFails never) used fits
  have length : (blocks file.slot).length = old := lays.length file.slot occupied
  have room : file.offset ≤ old * blockSize :=
    Nat.le_trans inside (blocksFor_le_iff.mp (Nat.le_refl _))
  have lowest : mounted.volume.table.Lowest more
      (addedBlocks mounted.volume.table (blocks file.slot) (file.offset + data.length)) := by
    rw [addedBlocks, List.take_eq_take_min, length, ← sound.volume.freeCount_eq]
    apply Table.lowest_take sound.small
    rw [← sound.volume.freeCount_eq]
    exact Nat.min_le_right _ _
  have stop : writeStop mounted.volume.table (blocks file.slot) (file.offset + data.length) =
      file.offset + count := by
    have larger := Nat.mul_le_mul_right blockSize (Nat.le_add_right old more)
    rw [writeStop, lowest.length, length]
    omega
  rw [stop] at filled wrote
  rw [stop, Nat.add_sub_cancel_left] at ended
  have led := led_of_written written stop wrote
  have current : (mounted.afterWrite descriptor file store count).volume.directory.get file.slot =
      store.entry := Directory.get_set_self
  refine ⟨_, _, _, ended, lays.chain file.slot occupied, length, lowest, ?_⟩
  refine
    { layout := rfl
      grown := ?_
      name := current ▸ written.name
      size := ?_
      others := fun other apart => Directory.get_set_of_ne apart
      descriptors := rfl
      bytes := fun index id found place below => filled.getElem?_block found below
      frame := fun block apart => led.block_eq block fun member => ?_
      log := led.log_eq
      nothing := fun none => ?_ }
  · rw [current]
    exact written.grown
  · rw [current, written.size, ← stop]
    rfl
  · obtain ⟨index, id, found, covers, same⟩ := Disk.exists_of_mem_writeCalls member
    exact apart index id found covers same
  · rcases wrote with ⟨_, same⟩ | ⟨some, _⟩
    · exact same
    · omega

end Effect

/-! ### A disk that is almost full -/

/-- A file of `100` bytes that is open at its end, on a volume with one more block. -/
def almostFull : Volume where
  layout := .forDataBlocks 3
  table := ⟨#[.endOfChain, .endOfChain, .unused]⟩
  directory := Directory.empty.set ⟨0, slotCount_pos⟩
    ⟨.ofBytes nameWidth (utf8Bytes "a"), 100, ⟨1⟩⟩
  descriptors := Descriptors.empty.set 0 (some ⟨⟨0, slotCount_pos⟩, 100⟩)

theorem almostFull_sound : Sound ⟨almostFull, almostFull.signed 6⟩ := by
  refine ⟨⟨by decide, ⟨rfl, by decide⟩, by decide +kernel, fun number file found => ?_⟩, ?_⟩
  · rw [almostFull, Descriptors.get_set_eq_ok_iff (by decide), Descriptors.get_empty] at found
    split at found
    · obtain rfl := Option.some.inj found
      decide +kernel
    · cases found
  · show SuperBlock.decode ((Medium.blank.setBlock superBlockIndex _).block superBlockIndex) = _
    rw [Medium.block_setBlock, if_pos rfl, SuperBlock.decode_encode]

/-- The disk is filled to its last byte, and the rest of the data finds no room. -/
theorem write_effect_almostFull :
    let mounted : Mounted Disk := ⟨almostFull, almostFull.signed 6⟩
    mounted.Sound ∧ mounted.volume.check = .ok () ∧
      ∃ after, write 0 (List.replicate 9000 7) mounted = .ok 8092 after ∧
        (after.volume.directory.get ⟨0, by decide⟩).size.toNat = 8192 := by
  intro mounted
  have checked : mounted.volume.check = .ok () := by decide +kernel
  have never : mounted.device.NeverFails := Disk.neverFails_blank 6
  have used : mounted.volume.descriptors.get 0 = .ok ⟨⟨0, by decide⟩, 100⟩ := by decide +kernel
  have length : (List.replicate 9000 (7 : UInt8)).length = 9000 := List.length_replicate
  have size : (mounted.volume.directory.get ⟨0, by decide⟩).size.toNat = 100 := by decide +kernel
  have free : mounted.volume.table.freeCount = 1 := by decide +kernel
  obtain ⟨chain, added, after, ended, _, _, _, effect⟩ :=
    write_effect almostFull_sound checked never used (by rw [length]; decide)
  rw [length, size, free] at ended effect
  exact ⟨almostFull_sound, checked, after, ended, effect.size.trans (by rw [size]; decide)⟩

end FlatVolume.Mounted
