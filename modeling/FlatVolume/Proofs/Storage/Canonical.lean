/-
**What writing back makes of an image.**

An image may hold bytes that nobody reads: behind the fields of the superblock and the last entry of
the table, in the padding of an entry of the directory, and in its free slots. Mounting an image and
writing the volume back keeps what is read and clears the rest of the table and the directory:

* `SuperBlock.encode_decode`, `DirEntry.encode_decode`: what is written for what was read is the
  field cut off behind the part that is read (`ByteField.keep`);
* `byteAt_encodeBlock_table`, `byteAt_encode_directory`: so it is with the table and the directory;
* `Canonical`: what becomes of each byte of the disk, and `Canonical.eq_of_canonical`: nothing
  becomes of it a second time;
* `writeBack_canonicalises`: so it is after every mount that is followed by a sync or an unmount.
-/

import FlatVolume.Proofs.Storage.Format
import FlatVolume.Proofs.Storage.Grammar

namespace FlatVolume

open BlockDevice

/-! ### Fields that are cut off -/

namespace ByteField

variable {width : Nat} {field : ByteField width} {offset skip count : Nat}

/-- Fields are the same if their bytes are. -/
theorem ext_byteAt {first second : ByteField width}
    (same : ∀ offset < width, first.byteAt offset = second.byteAt offset) : first = second := by
  refine ext (List.ext_getElem (first.length_eq.trans second.length_eq.symm) ?_)
  intro offset inFirst inSecond
  have equal := same offset (by rwa [first.length_eq] at inFirst)
  rw [byteAt, byteAt, List.getD_eq_getElem?_getD, List.getD_eq_getElem?_getD,
    List.getElem?_eq_getElem inFirst, List.getElem?_eq_getElem inSecond] at equal
  exact UInt8.toNat_inj.mp equal

/-- The bytes that are fitted into a field are followed by zeros. -/
theorem byteAt_ofBytes {bytes : Bytes} (inside : offset < width) :
    (ofBytes width bytes).byteAt offset = (bytes.getD offset 0).toNat := by
  have found : (ofBytes width bytes).bytes.getD offset 0 = bytes.getD offset 0 := by
    simp only [ofBytes, List.getD_eq_getElem?_getD, List.getElem?_append, List.length_take]
    by_cases below : offset < bytes.length
    · rw [if_pos (by omega), List.getElem?_take_of_lt inside]
    · rw [if_neg (by omega), List.getElem?_eq_none (Nat.le_of_not_lt below)]
      simp only [List.getElem?_replicate]
      split <;> rfl
  rw [byteAt, found]

theorem byteAt_zero (width offset : Nat) : (zero width).byteAt offset = 0 := by
  rw [byteAt, List.getD_eq_getElem?_getD, zero, List.getElem?_replicate]
  split <;> rfl

/-- A byte of a part is a byte of the field. -/
theorem getD_slice (offset : Nat) :
    ((field.slice skip count).getD offset 0).toNat =
      if offset < count then field.byteAt (skip + offset) else 0 := by
  rw [List.getD_eq_getElem?_getD, slice, List.getElem?_take]
  split
  · rw [List.getElem?_drop, byteAt, List.getD_eq_getElem?_getD]
  · rfl

/-- Parts that follow one another are one part. -/
theorem slice_append (field : ByteField width) (skip first second : Nat) :
    field.slice skip first ++ field.slice (skip + first) second =
      field.slice skip (first + second) := by
  rw [slice, slice, slice, List.take_add, List.drop_drop]

/-- A number is written as the part that it was read from. -/
theorem littleEndian_slice (inside : skip + count ≤ width) :
    littleEndian count (ofLittleEndian (field.slice skip count)) = field.slice skip count := by
  have length : (field.slice skip count).length = count := by
    rw [length_slice]
    omega
  have written := littleEndian_ofLittleEndian (field.slice skip count)
  rwa [length] at written

/-- The first bytes of the field, with zeros behind them. -/
def keep (field : ByteField width) (count : Nat) : ByteField width :=
  ofBytes width (field.slice 0 count)

theorem byteAt_keep (inside : offset < width) :
    (field.keep count).byteAt offset = if offset < count then field.byteAt offset else 0 := by
  rw [keep, byteAt_ofBytes inside, getD_slice, Nat.zero_add]

end ByteField

/-- The number in some bytes can be written in as many. -/
theorem ofLittleEndian_lt (bytes : Bytes) : ofLittleEndian bytes < 256 ^ bytes.length := by
  induction bytes with
  | nil => exact Nat.one_pos
  | cons byte rest hypothesis =>
    have small := byte.toNat_lt
    rw [ofLittleEndian, List.length_cons, Nat.pow_succ]
    omega

/-- A number in a part of a field is small enough for the width of the part. -/
theorem ByteField.ofLittleEndian_slice_lt {width : Nat} (field : ByteField width)
    (skip count : Nat) : ofLittleEndian (field.slice skip count) < 256 ^ count := by
  refine Nat.lt_of_lt_of_le (ofLittleEndian_lt _) (Nat.pow_le_pow_right (by decide) ?_)
  rw [length_slice]
  exact Nat.min_le_left ..

/-! ### The superblock and the entries -/

/-- A superblock that was read is written as its first 17 bytes, with zeros behind them. -/
theorem SuperBlock.encode_decode {block : Block} (signed : block.slice 0 8 = signature) :
    ∃ layout, decode block = .ok layout ∧ layout.encode = block.keep 17 := by
  have word : ∀ offset, offset + 2 ≤ blockSize →
      littleEndian 2 (UInt16.ofNat (fieldAt block offset 2)).toNat = block.slice offset 2 := by
    intro offset inside
    have small : fieldAt block offset 2 < 2 ^ 16 := block.ofLittleEndian_slice_lt offset 2
    rw [UInt16.toNat_ofNat', Nat.mod_eq_of_lt small, fieldAt, ByteField.littleEndian_slice inside]
  have byte : littleEndian 1 (UInt8.ofNat (fieldAt block 16 1)).toNat = block.slice 16 1 := by
    have small : fieldAt block 16 1 < 2 ^ 8 := block.ofLittleEndian_slice_lt 16 1
    rw [UInt8.toNat_ofNat', Nat.mod_eq_of_lt small, fieldAt,
      ByteField.littleEndian_slice (by decide)]
  rw [decode, if_pos signed]
  refine ⟨_, rfl, ?_⟩
  rw [encode, ByteField.keep]
  dsimp only
  rw [← signed, word 8 (by decide), word 10 (by decide), word 12 (by decide),
    word 14 (by decide), byte, block.slice_append 0 8 2, block.slice_append 0 10 2,
    block.slice_append 0 12 2, block.slice_append 0 14 2, block.slice_append 0 16 1]

/-- An entry that was read is written as its first 22 bytes, with zeros behind them. -/
theorem DirEntry.encode_decode (raw : ByteField entryWidth) :
    (decode raw).encode = raw.keep 22 := by
  have name : (ByteField.ofBytes nameWidth (raw.slice 0 16)).bytes = raw.slice 0 16 :=
    ByteField.bytes_ofBytes_of_length (by rw [ByteField.length_slice]; rfl)
  have size : littleEndian 4 (UInt32.ofNat (ofLittleEndian (raw.slice 16 4))).toNat =
      raw.slice 16 4 := by
    have small : ofLittleEndian (raw.slice 16 4) < 2 ^ 32 := raw.ofLittleEndian_slice_lt 16 4
    rw [UInt32.toNat_ofNat', Nat.mod_eq_of_lt small, ByteField.littleEndian_slice (by decide)]
  have first : littleEndian 2 (BlockId.ofNat (ofLittleEndian (raw.slice 20 2))).toNat =
      raw.slice 20 2 := by
    have small : ofLittleEndian (raw.slice 20 2) < 65536 := raw.ofLittleEndian_slice_lt 20 2
    rw [BlockId.toNat_ofNat, Nat.mod_eq_of_lt small, ByteField.littleEndian_slice (by decide)]
  rw [encode, ByteField.keep]
  show ByteField.ofBytes _ ((ByteField.ofBytes nameWidth (raw.slice 0 16)).bytes ++ _ ++ _) = _
  rw [name, decode]
  dsimp only
  rw [size, first, raw.slice_append 0 16 4, raw.slice_append 0 20 2]

/-! ### The areas -/

namespace OnDisk

variable {disk : Nat → Block} {position offset : Nat}

/-- A byte of a word that is written. -/
theorem getD_littleEndian_entry {index : Nat} (high : offset < 2) :
    ((littleEndian 2 (BlockId.ofNat (entry disk index)).toNat).getD offset 0).toNat =
      (disk (1 + index / 2048)).byteAt (2 * (index % 2048) + offset) := by
  have low := (disk (1 + index / 2048)).byteAt_lt (2 * (index % 2048))
  have top := (disk (1 + index / 2048)).byteAt_lt (2 * (index % 2048) + 1)
  rw [toNat_ofNat_entry, entry, ByteField.wordAt]
  obtain rfl | rfl : offset = 0 ∨ offset = 1 := by omega
  · show (UInt8.ofNat _).toNat = (disk (1 + index / 2048)).byteAt (2 * (index % 2048))
    rw [UInt8.toNat_ofNat']
    omega
  · show (UInt8.ofNat _).toNat = _
    rw [UInt8.toNat_ofNat']
    omega

/-- The part of the table that a block is written from. -/
theorem getElem?_extract_table (covered : dataBlocks disk ≤ tableBlocks disk * entriesPerBlock)
    {index : Nat} (inside : index < entriesPerBlock) :
    ((table disk).entries.extract (position * entriesPerBlock)
        (position * entriesPerBlock + entriesPerBlock)).toList[index]? =
      if position * entriesPerBlock + index < dataBlocks disk then
        some (.ofNat (entry disk (position * entriesPerBlock + index)))
      else none := by
  have size : (table disk).entries.size = dataBlocks disk := size_table covered
  rw [Array.getElem?_toList, Array.getElem?_extract]
  split
  · rw [if_pos (by omega), getElem?_table covered (by omega)]
  · rw [if_neg (by omega)]

/-- The entries of the data area are written as they were read, and zeros behind them. -/
theorem byteAt_encodeBlock_table (covered : dataBlocks disk ≤ tableBlocks disk * entriesPerBlock)
    (inside : offset < blockSize) :
    ((table disk).encodeBlock position).byteAt offset =
      if 4096 * position + offset < 2 * dataBlocks disk then
        (disk (1 + position)).byteAt offset
      else 0 := by
  have size : blockSize = 4096 := rfl
  have start : position * entriesPerBlock = position * 2048 := rfl
  have rows : ∀ value ∈ ((table disk).entries.extract (position * entriesPerBlock)
      (position * entriesPerBlock + entriesPerBlock)).toList,
      (littleEndian 2 value.toNat).length = 2 := fun _ _ => length_littleEndian ..
  rw [Table.encodeBlock, ByteField.byteAt_ofBytes inside, Table.bytesOf,
    List.getD_eq_getElem?_getD, getElem?_flatMap_rows (by decide) rows,
    getElem?_extract_table covered (by rw [entriesPerBlock]; omega)]
  by_cases within : position * entriesPerBlock + offset / 2 < dataBlocks disk
  · have row : (position * entriesPerBlock + offset / 2) / 2048 = position := by omega
    have column : (position * entriesPerBlock + offset / 2) % 2048 = offset / 2 := by omega
    have place : 2 * (offset / 2) + offset % 2 = offset := Nat.div_add_mod ..
    rw [if_pos within, if_pos (by omega), Option.bind_some, ← List.getD_eq_getElem?_getD,
      getD_littleEndian_entry (Nat.mod_lt _ (by decide)), row, column, place]
  · rw [if_neg within, if_neg (by omega)]
    rfl

/-- What a slot of the directory is written as. -/
theorem byteAt_stored_directory (disk : Nat → Block) (slot : Slot) (inside : offset < entryWidth) :
    ((directory disk).get slot).stored.byteAt offset =
      if Occupied disk slot ∧ offset < 22 then (root disk).byteAt (32 * slot + offset) else 0 := by
  have occupied := not_isFree_directory_iff disk slot
  rw [DirEntry.stored]
  by_cases free : ((directory disk).get slot).IsFree
  · rw [if_pos free, if_neg fun here => occupied.mpr here.1 free, ByteField.byteAt_zero]
  · have place : slot.val * entryWidth = 32 * slot := Nat.mul_comm ..
    rw [if_neg free, get_directory, DirEntry.encode_decode, ByteField.byteAt_keep inside,
      ByteField.byteAt_ofBytes inside, ByteField.getD_slice, if_pos inside, place]
    simp only [occupied.mp free, true_and]

/-- The files are written as they were read, without their padding, and zeros in free slots. -/
theorem byteAt_encode_directory (disk : Nat → Block) (inside : offset < blockSize) :
    (directory disk).encode.byteAt offset =
      if Occupied disk (offset / 32) ∧ offset % 32 < 22 then (root disk).byteAt offset else 0 := by
  have size : blockSize = 4096 := rfl
  have below : offset / 32 < slotCount := by
    rw [slotCount]
    omega
  have rows : ∀ entry ∈ (directory disk).entries.toList, entry.stored.bytes.length = 32 :=
    fun entry _ => entry.stored.length_eq
  have found : (directory disk).entries.toList[offset / 32]? =
      some ((directory disk).get ⟨offset / 32, below⟩) := by
    rw [Vector.getElem?_toList, Vector.getElem?_eq_getElem below]
    rfl
  have stored := byteAt_stored_directory disk ⟨offset / 32, below⟩
    (show offset % 32 < entryWidth from Nat.mod_lt _ (by decide))
  rw [ByteField.byteAt, List.getD_eq_getElem?_getD] at stored
  rw [Directory.encode, ByteField.byteAt_ofBytes inside, List.getD_eq_getElem?_getD,
    getElem?_flatMap_rows (by decide) rows, found, Option.bind_some, stored, Nat.div_add_mod]

end OnDisk

/-! ### Whole disks -/

open OnDisk

/-- The superblock and the data area are as they were. The table's area keeps the entries of the
data area, and the block of the directory keeps of each file the name, the size and the first block.
All other bytes of these blocks are zero. -/
structure Canonical (before after : Nat → Block) : Prop where
  superBlock : after 0 = before 0
  table : ∀ position < tableBlocks before, ∀ offset < 4096,
    (after (1 + position)).byteAt offset =
      if 4096 * position + offset < 2 * dataBlocks before then
        (before (1 + position)).byteAt offset
      else 0
  root : ∀ offset < 4096,
    (after (rootBlock before)).byteAt offset =
      if Occupied before (offset / 32) ∧ offset % 32 < 22 then
        (before (rootBlock before)).byteAt offset
      else 0
  data : ∀ block, dataStart before ≤ block → after block = before block

section Disks

variable {before middle after : Nat → Block} {deviceBlocks : Nat} {volume : Volume}

/-- A disk that holds what was read from it is what writing back makes of it. -/
theorem canonical_of_holds (read : Volume.ofDisk before deviceBlocks = .ok volume)
    (holds : Holds after volume) (same : SameData volume.layout before after) :
    Canonical before after := by
  have image := exists_ofDisk_iff.mp ⟨volume, read⟩
  have covered : dataBlocks before ≤ tableBlocks before * entriesPerBlock := by
    have table := image.table
    rw [entriesPerBlock]
    omega
  rw [ofDisk_eq, if_pos (isImage_iff.mp image)] at read
  obtain rfl := Except.ok.inj read
  obtain ⟨_, table, root⟩ := holds
  simp only [toNat_tableBlocks_layout, toNat_rootBlock_layout] at table root
  refine ⟨same 0 (.inl rfl), fun position below offset inside => ?_, fun offset inside => ?_,
    fun block inData => same block (.inr ?_)⟩
  · rw [table position below, byteAt_encodeBlock_table covered inside]
  · rw [root, byteAt_encode_directory before inside]
    rfl
  · rwa [toNat_dataStart_layout]

/-- What was written back once is the same when it is written back again. -/
theorem Canonical.eq_of_canonical (image : IsImage before deviceBlocks)
    (first : Canonical before middle) (second : Canonical middle after) : after = middle := by
  have tableSame : tableBlocks middle = tableBlocks before := by
    rw [tableBlocks, first.superBlock, ← tableBlocks]
  have dataSame : dataBlocks middle = dataBlocks before := by
    rw [dataBlocks, first.superBlock, ← dataBlocks]
  have rootSame : rootBlock middle = rootBlock before := by
    rw [rootBlock, first.superBlock, ← rootBlock]
  have startSame : dataStart middle = dataStart before := by
    rw [dataStart, first.superBlock, ← dataStart]
  obtain ⟨superBlock, table, root, data⟩ := second
  rw [tableSame, dataSame] at table
  rw [rootSame] at root
  rw [startSame] at data
  funext block
  have place : block = 0 ∨ (∃ position < tableBlocks before, block = 1 + position) ∨
      block = rootBlock before ∨ dataStart before ≤ block := by
    have afterTable := image.root
    have afterRoot := image.start
    by_cases inTable : 1 ≤ block ∧ block ≤ tableBlocks before
    · exact .inr (.inl ⟨block - 1, by omega, by omega⟩)
    · omega
  rcases place with rfl | ⟨position, below, rfl⟩ | rfl | inData
  · exact superBlock
  · refine ByteField.ext_byteAt fun offset inside => ?_
    rw [table position below offset inside]
    split
    · rfl
    · rename_i behind
      rw [first.table position below offset inside, if_neg behind]
  · refine ByteField.ext_byteAt fun offset inside => ?_
    rw [root offset inside]
    split
    · rfl
    · rename_i dropped
      rw [first.root offset inside, if_neg]
      rintro ⟨occupied, kept⟩
      refine dropped ⟨?_, kept⟩
      -- The first byte of an entry that is kept is kept.
      have size : blockSize = 4096 := rfl
      have start := first.root (32 * (offset / 32)) (by omega)
      rw [Nat.mul_div_cancel_left _ (by decide), Nat.mul_mod_right, if_pos ⟨occupied, by decide⟩]
        at start
      rw [Occupied, OnDisk.root, rootSame, start]
      exact occupied
  · exact data block inData

end Disks

/-! ### Writing back -/

namespace Volume

variable {D : Type} [BlockDevice D]

/-- Mounts the device and writes the volume back, by an unmount or by a sync. -/
def writeBack (unmounts : Bool) : EStateM VolumeError D Unit := do
  let volume ← mount
  if unmounts then volume.unmount else volume.sync

/-- While no file is open, an unmount is a sync. -/
theorem unmount_eq_sync {volume : Volume} (unopened : volume.descriptors = .empty) :
    (volume.unmount : EStateM VolumeError D Unit) = volume.sync := by
  have none : ¬ volume.descriptors.openFiles ≠ [] := by
    rw [unopened]
    decide
  rw [unmount, if_neg none]

variable [StoringDevice D] {device : D}

/-- An image on a device that does not fail is mounted and written back. It is an image again. -/
theorem writeBack_yields (unmounts : Bool) (reliable : Reliable device)
    (image : IsImage (content device) (numBlocks device)) :
    Yields (writeBack unmounts) device
      (fun _ after => Canonical (content device) (content after) ∧
        IsImage (content after) (numBlocks after) ∧ Reliable after)
      (fun _ _ => False) := by
  obtain ⟨volume, read⟩ := exists_ofDisk_iff.mpr image
  obtain ⟨mounted, done, same, follows⟩ := mount_of_ofDisk reliable read
  obtain ⟨sound, unopened, superBlock⟩ := ofDisk_sound read
  have closing : (if unmounts then volume.unmount else volume.sync : EStateM VolumeError D Unit) =
      volume.sync := by
    rw [unmount_eq_sync unopened, ite_self]
  have valid : volume.layout.Valid (numBlocks mounted) := by
    rw [follows.numBlocks_eq]
    exact sound.layout
  rw [← same] at superBlock
  refine yields_bind.mpr (yields_of_ok done ?_)
  rw [closing]
  have mountedReliable := follows.reliable reliable
  refine (sync_of_reliable mountedReliable valid superBlock).mono ?_ fun _ _ => id
  intro _ after closed
  obtain ⟨holds, sameData, later⟩ := closed
  rw [same] at sameData
  have size : numBlocks after = numBlocks device :=
    later.numBlocks_eq.trans follows.numBlocks_eq
  refine ⟨canonical_of_holds read holds sameData, ?_, later.reliable mountedReliable⟩
  rw [size]
  exact exists_ofDisk_iff.mp ⟨_, ofDisk_of_holds holds sound⟩

/-- An image that is mounted from a device that does not fail, and then written back, is left with
the superblock, the data area and all entries as they were, and with zeros for all that is not read.
Done once more, no block changes. A superblock is read back as it was written, and one that was
read is written as it was, with zeros behind its fields. -/
theorem writeBack_canonicalises {mounted : D} {volume : Volume} (reliable : Reliable device)
    (accepted : mount device = .ok volume mounted) (first second : Bool) :
    (∃ closed, writeBack first device = .ok () closed ∧
      Canonical (content device) (content closed) ∧
      ∃ last, writeBack second closed = .ok () last ∧ content last = content closed) ∧
    (∀ layout : SuperBlock, SuperBlock.decode layout.encode = .ok layout) ∧
    ∀ block : Block, block.slice 0 8 = SuperBlock.signature →
      ∃ layout, SuperBlock.decode block = .ok layout ∧
        ∀ offset < 4096,
          layout.encode.byteAt offset = if offset < 17 then block.byteAt offset else 0 := by
  have image : IsImage (content device) (numBlocks device) :=
    exists_ofDisk_iff.mp ⟨volume, ((mount_yields device).of_ok accepted).1⟩
  obtain ⟨⟨⟩, closed, once, canonical, still, stillReliable⟩ :=
    (writeBack_yields first reliable image).exists_ok
  obtain ⟨⟨⟩, last, twice, again, _⟩ := (writeBack_yields second stillReliable still).exists_ok
  refine ⟨⟨closed, once, canonical, last, twice, canonical.eq_of_canonical image again⟩,
    SuperBlock.decode_encode, fun block signed => ?_⟩
  obtain ⟨layout, read, written⟩ := SuperBlock.encode_decode signed
  refine ⟨layout, read, fun offset inside => ?_⟩
  rw [written]
  exact ByteField.byteAt_keep inside

/-- The entry of an empty file with bytes in its padding, and a free entry that is not zero. -/
def litter : Bytes :=
  [0x61] ++ List.replicate 19 0 ++ [0xFF, 0xFF] ++ List.replicate 10 7 ++ [0, 7]

/-- A disk of five blocks with these entries, and with a byte behind the last entry of the table. -/
def littered : Disk :=
  { Disk.blank 5 with
    medium := ((Medium.blank.setBlock 0 (SuperBlock.forDataBlocks 2).encode).setBlock 1
      (.ofBytes blockSize [0xFF, 0xFF, 0, 0, 7])).setBlock 2 (.ofBytes blockSize litter) }

theorem rootBlock_littered : rootBlock (content littered) = 2 := by decide +kernel

/-- Only the first slot has a file. -/
theorem eq_zero_of_occupied_littered {slot : Nat} (inside : slot < 128)
    (occupied : Occupied (content littered) slot) : slot = 0 := by
  by_contra later
  refine occupied ?_
  have root : OnDisk.root (content littered) = .ofBytes blockSize litter := by
    rw [OnDisk.root, rootBlock_littered]
    show littered.medium.block 2 = _
    rw [littered, Medium.block_setBlock, if_pos rfl]
  have size : blockSize = 4096 := rfl
  have length : litter.length = 34 := rfl
  rw [root, ByteField.byteAt_ofBytes (by omega)]
  obtain rfl | behind : slot = 1 ∨ litter.length ≤ 32 * slot := by omega
  · rfl
  · rw [List.getD_eq_getElem?_getD, List.getElem?_eq_none behind]
    rfl

theorem isImage_littered : IsImage (content littered) (numBlocks littered) where
  signature := by decide +kernel
  total := by decide +kernel
  data_pos := by decide +kernel
  data_lt := by decide +kernel
  table := by decide +kernel
  root := by decide +kernel
  start := by decide +kernel
  whole := by decide +kernel
  reserved := by decide +kernel
  entries := by decide +kernel
  readable := fun slot inside occupied => by
    obtain rfl := eq_zero_of_occupied_littered inside occupied
    exact ⟨"a", by decide +kernel⟩
  distinct := fun slot inside other otherInside occupied otherOccupied apart => by
    obtain rfl := eq_zero_of_occupied_littered inside occupied
    exact absurd (eq_zero_of_occupied_littered otherInside otherOccupied).symm apart
  heads := fun slot inside occupied => by
    obtain rfl := eq_zero_of_occupied_littered inside occupied
    exact .inl (by decide +kernel)

/-- The bytes that are not read are cleared the first time, and the name of the file is kept. -/
theorem writeBack_canonicalises_littered :
    ∃ (volume : Volume) (mounted closed last : Disk),
      Reliable littered ∧ mount littered = .ok volume mounted ∧
      writeBack false littered = .ok () closed ∧
      (content closed 1).byteAt 4 = 0 ∧ (content closed 2).byteAt 22 = 0 ∧
      (content closed 2).byteAt 33 = 0 ∧ (content closed 2).byteAt 0 = 97 ∧
      writeBack true closed = .ok () last ∧ content last = content closed := by
  have reliable : Reliable littered :=
    Disk.reliable_of_neverFails (Disk.neverFails_blank 5)
  obtain ⟨volume, read⟩ := exists_ofDisk_iff.mpr isImage_littered
  obtain ⟨mounted, accepted, _⟩ := mount_of_ofDisk reliable read
  obtain ⟨⟨closed, once, canonical, last, twice, same⟩, _⟩ :=
    writeBack_canonicalises reliable accepted false true
  have kept := canonical.root
  rw [rootBlock_littered] at kept
  refine ⟨volume, mounted, closed, last, reliable, accepted, once, ?_, ?_, ?_, ?_, twice, same⟩
  · exact (canonical.table 0 (by decide +kernel) 4 (by decide)).trans (by decide +kernel)
  · exact (kept 22 (by decide)).trans (by decide +kernel)
  · exact (kept 33 (by decide)).trans (by decide +kernel)
  · exact (kept 0 (by decide)).trans (by decide +kernel)

end Volume

end FlatVolume
