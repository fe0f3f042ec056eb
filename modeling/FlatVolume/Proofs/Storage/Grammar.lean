/-
**Which disks hold a volume.**

`IsImage` states the format of a disk, byte by byte and without a reader: the numbers in the
superblock, the words of the table's area, and the entries of the directory. `Decodes` says which
volume an image stands for.

* `exists_ofDisk_iff`, `eq_invalidFormat_of_ofDisk`: the images are the disks from which a volume is
  read, and every other disk has the wrong format;
* `decodes_of_ofDisk`: what is read from an image is what it stands for.
-/

import FlatVolume.Proofs.Directory.Terminated
import FlatVolume.Proofs.Storage.Areas

namespace FlatVolume

/-! ### Bytes and words of a field -/

namespace ByteField

variable {width : Nat} {field : ByteField width} {offset count : Nat}

/-- The byte at an offset. -/
def byteAt (field : ByteField width) (offset : Nat) : Nat := (field.bytes.getD offset 0).toNat

/-- The number in the two bytes at an offset, of which the first is the low one. -/
def wordAt (field : ByteField width) (offset : Nat) : Nat :=
  field.byteAt offset + 256 * field.byteAt (offset + 1)

theorem byteAt_lt (field : ByteField width) (offset : Nat) : field.byteAt offset < 256 :=
  UInt8.toNat_lt _

theorem wordAt_lt (field : ByteField width) (offset : Nat) : field.wordAt offset < 65536 := by
  have low := field.byteAt_lt offset
  have high := field.byteAt_lt (offset + 1)
  rw [wordAt]
  omega

/-- The first byte of a number in little-endian order is its low byte. -/
theorem ofLittleEndian_slice_succ (inside : offset < width) :
    ofLittleEndian (field.slice offset (count + 1)) =
      field.byteAt offset + 256 * ofLittleEndian (field.slice (offset + 1) count) := by
  have below : offset < field.bytes.length := by rwa [field.length_eq]
  rw [slice, List.drop_eq_getElem_cons below, List.take_succ_cons, ofLittleEndian, byteAt,
    List.getD_eq_getElem?_getD, List.getElem?_eq_getElem below]
  rfl

theorem ofLittleEndian_slice_zero : ofLittleEndian (field.slice offset 0) = 0 := by
  rw [slice, List.take_zero, ofLittleEndian]

/-- One byte is a number of its own. -/
theorem ofLittleEndian_slice_byte (inside : offset < width) :
    ofLittleEndian (field.slice offset 1) = field.byteAt offset := by
  rw [ofLittleEndian_slice_succ inside, ofLittleEndian_slice_zero]
  rfl

/-- Two bytes are a word. -/
theorem ofLittleEndian_slice_word (inside : offset + 1 < width) :
    ofLittleEndian (field.slice offset 2) = field.wordAt offset := by
  rw [ofLittleEndian_slice_succ (by omega), ofLittleEndian_slice_byte inside, wordAt]

/-- Four bytes are two words. -/
theorem ofLittleEndian_slice_words (inside : offset + 3 < width) :
    ofLittleEndian (field.slice offset 4) =
      field.wordAt offset + 65536 * field.wordAt (offset + 2) := by
  have low : field.wordAt offset = field.byteAt offset + 256 * field.byteAt (offset + 1) := rfl
  have high : ofLittleEndian (field.slice (offset + 2) 2) = field.wordAt (offset + 2) :=
    ofLittleEndian_slice_word inside
  rw [ofLittleEndian_slice_succ (by omega), ofLittleEndian_slice_succ (by omega), high, low]
  omega

/-- A part of a part is a part of the whole. -/
theorem slice_ofBytes_slice {part skip : Nat} (fits : offset + part ≤ width)
    (inside : skip + count ≤ part) :
    (ofBytes part (field.slice offset part)).slice skip count =
      field.slice (offset + skip) count := by
  have whole : (field.slice offset part).length = part := by
    rw [length_slice]
    omega
  rw [slice, bytes_ofBytes_of_length whole, slice, slice, List.drop_take, List.take_take,
    List.drop_drop]
  congr 1
  omega

end ByteField

/-! ### The format -/

namespace OnDisk

variable (disk : Nat → Block)

/-- The size of the disk that the superblock states. -/
def totalBlocks : Nat := (disk 0).wordAt 8

/-- The block of the directory. -/
def rootBlock : Nat := (disk 0).wordAt 10

/-- The first block of the data area. -/
def dataStart : Nat := (disk 0).wordAt 12

/-- The size of the data area in blocks. -/
def dataBlocks : Nat := (disk 0).wordAt 14

/-- The size of the table's area in blocks. -/
def tableBlocks : Nat := (disk 0).byteAt 16

/-- The word of the table's area at an index. -/
def entry (index : Nat) : Nat := (disk (1 + index / 2048)).wordAt (2 * (index % 2048))

/-- The block with the entries of the files, 32 bytes for each slot. -/
def root : Block := disk (rootBlock disk)

/-- A slot has a file if its first byte is not zero. -/
def Occupied (slot : Nat) : Prop := (root disk).byteAt (32 * slot) ≠ 0

instance (slot : Nat) : Decidable (Occupied disk slot) :=
  inferInstanceAs (Decidable (_ ≠ _))

/-- The sixteen bytes of the name and its padding. -/
def nameField (slot : Nat) : Bytes := ((root disk).bytes.drop (32 * slot)).take 16

/-- The bytes of the name, which end before the first zero. -/
def name (slot : Nat) : Bytes := (nameField disk slot).takeWhile (· ≠ 0)

/-- The size of the file in bytes. -/
def size (slot : Nat) : Nat :=
  (root disk).wordAt (32 * slot + 16) + 65536 * (root disk).wordAt (32 * slot + 18)

/-- The first block of the file. -/
def first (slot : Nat) : Nat := (root disk).wordAt (32 * slot + 20)

end OnDisk

open OnDisk

/-- The format of a disk of `deviceBlocks` blocks. -/
structure IsImage (disk : Nat → Block) (deviceBlocks : Nat) : Prop where
  signature : (disk 0).bytes.take 8 = utf8Bytes "ECS150FS"
  total : totalBlocks disk = deviceBlocks
  data_pos : 1 ≤ dataBlocks disk
  data_lt : dataBlocks disk < 65535
  table : tableBlocks disk = (dataBlocks disk + 2047) / 2048
  root : rootBlock disk = tableBlocks disk + 1
  start : dataStart disk = rootBlock disk + 1
  whole : totalBlocks disk = dataStart disk + dataBlocks disk
  /-- Block `0` of the data area is never given away. -/
  reserved : entry disk 0 = 0xFFFF
  entries : ∀ index < dataBlocks disk,
    entry disk index = 0 ∨ entry disk index = 0xFFFF ∨ entry disk index < dataBlocks disk
  readable : ∀ slot < 128, Occupied disk slot → ∃ text : String, utf8Bytes text = name disk slot
  distinct : ∀ slot < 128, ∀ other < 128, Occupied disk slot → Occupied disk other →
    slot ≠ other → name disk slot ≠ name disk other
  heads : ∀ slot < 128, Occupied disk slot →
    first disk slot = 0xFFFF ∨ 1 ≤ first disk slot ∧ first disk slot < dataBlocks disk

/-- The volume is what the bytes of the disk say, with no file open. -/
structure Decodes (disk : Nat → Block) (volume : Volume) : Prop where
  total : volume.layout.totalBlocks.toNat = totalBlocks disk
  root : volume.layout.rootBlock.toNat = rootBlock disk
  start : volume.layout.dataStart.toNat = dataStart disk
  data : volume.layout.dataBlocks.toNat = dataBlocks disk
  table : volume.layout.tableBlocks.toNat = tableBlocks disk
  size : volume.table.size = dataBlocks disk
  entries : ∀ index < dataBlocks disk,
    volume.table.entries[index]?.map BlockId.toNat = some (entry disk index)
  names : ∀ slot, (volume.directory.get slot).nameField.bytes = nameField disk slot
  sizes : ∀ slot, (volume.directory.get slot).size.toNat = OnDisk.size disk slot
  heads : ∀ slot, (volume.directory.get slot).first.toNat = first disk slot
  descriptors : volume.descriptors = .empty

/-! ### The superblock -/

/-- The numbers in the superblock, each in its width. -/
def OnDisk.layout (disk : Nat → Block) : SuperBlock where
  totalBlocks := .ofNat (totalBlocks disk)
  rootBlock := .ofNat (rootBlock disk)
  dataStart := .ofNat (dataStart disk)
  dataBlocks := .ofNat (dataBlocks disk)
  tableBlocks := .ofNat (tableBlocks disk)

section Layout

variable {disk : Nat → Block} {deviceBlocks : Nat}

theorem decode_superBlock (disk : Nat → Block) :
    SuperBlock.decode (disk superBlockIndex) =
      if (disk 0).bytes.take 8 = utf8Bytes "ECS150FS" then .ok (OnDisk.layout disk)
      else .error .invalidFormat := by
  have signed : SuperBlock.signature = utf8Bytes "ECS150FS" := by decide
  have word : ∀ offset, offset + 1 < blockSize →
      SuperBlock.fieldAt (disk 0) offset 2 = (disk 0).wordAt offset :=
    fun _ inside => ByteField.ofLittleEndian_slice_word inside
  have byte : SuperBlock.fieldAt (disk 0) 16 1 = (disk 0).byteAt 16 :=
    ByteField.ofLittleEndian_slice_byte (by decide)
  rw [superBlockIndex, SuperBlock.decode, ByteField.slice, List.drop_zero, signed,
    word 8 (by decide), word 10 (by decide), word 12 (by decide), word 14 (by decide), byte]
  rfl

theorem toNat_ofNat_wordAt (block : Block) (offset : Nat) :
    (UInt16.ofNat (block.wordAt offset)).toNat = block.wordAt offset := by
  rw [UInt16.toNat_ofNat', Nat.mod_eq_of_lt (block.wordAt_lt offset)]

section Fields

variable (disk : Nat → Block)

@[simp] theorem toNat_totalBlocks_layout :
    (OnDisk.layout disk).totalBlocks.toNat = totalBlocks disk :=
  toNat_ofNat_wordAt ..

@[simp] theorem toNat_rootBlock_layout :
    (OnDisk.layout disk).rootBlock.toNat = rootBlock disk :=
  toNat_ofNat_wordAt ..

@[simp] theorem toNat_dataStart_layout :
    (OnDisk.layout disk).dataStart.toNat = dataStart disk :=
  toNat_ofNat_wordAt ..

@[simp] theorem toNat_dataBlocks_layout :
    (OnDisk.layout disk).dataBlocks.toNat = dataBlocks disk :=
  toNat_ofNat_wordAt ..

@[simp] theorem toNat_tableBlocks_layout :
    (OnDisk.layout disk).tableBlocks.toNat = tableBlocks disk := by
  show (UInt8.ofNat _).toNat = _
  rw [UInt8.toNat_ofNat']
  exact Nat.mod_eq_of_lt ((disk 0).byteAt_lt 16)

end Fields

/-- The layout is valid when the numbers that are stated divide the disk. -/
theorem valid_layout_iff :
    (OnDisk.layout disk).Valid deviceBlocks ↔
      totalBlocks disk = deviceBlocks ∧ 1 ≤ dataBlocks disk ∧ dataBlocks disk < 65535 ∧
      tableBlocks disk = (dataBlocks disk + 2047) / 2048 ∧
      rootBlock disk = tableBlocks disk + 1 ∧ dataStart disk = rootBlock disk + 1 ∧
      totalBlocks disk = dataStart disk + dataBlocks disk := by
  have last : BlockId.endOfChain.toNat = 65535 := rfl
  simp only [SuperBlock.valid_iff, toNat_totalBlocks_layout, toNat_rootBlock_layout,
    toNat_dataStart_layout, toNat_dataBlocks_layout, toNat_tableBlocks_layout, last]
  rfl

end Layout

/-! ### The table -/

/-- A row of entries has a word for each pair of bytes. -/
theorem Table.getElem?_entriesOf {bytes : Bytes} {index : Nat}
    (inside : 2 * index + 1 < bytes.length) :
    (entriesOf bytes)[index]? =
      some (.ofNat ((bytes.getD (2 * index) 0).toNat +
        256 * (bytes.getD (2 * index + 1) 0).toNat)) := by
  fun_induction entriesOf bytes generalizing index with
  | case1 low high rest hypothesis =>
    cases index with
    | zero => simp [ofLittleEndian]
    | succ index =>
      simp only [List.length_cons] at inside
      rw [List.getElem?_cons_succ, hypothesis (by omega)]
      rfl
  | case2 bytes short =>
    have few := length_le_one_of_short short
    omega

/-- The table of the size that is stated. -/
def OnDisk.table (disk : Nat → Block) : Table :=
  .decode ((OnDisk.layout disk).tableArea.map disk) (dataBlocks disk)

section Entries

variable {disk : Nat → Block}

theorem length_tableArea_layout (disk : Nat → Block) :
    ((OnDisk.layout disk).tableArea.map disk).length = tableBlocks disk := by
  rw [List.length_map, SuperBlock.tableArea, List.length_range', toNat_tableBlocks_layout]

theorem size_table (covered : dataBlocks disk ≤ tableBlocks disk * entriesPerBlock) :
    (OnDisk.table disk).size = dataBlocks disk :=
  Table.size_decode (by rwa [length_tableArea_layout])

/-- The entries of the table are the words of its area. -/
theorem getElem?_table (covered : dataBlocks disk ≤ tableBlocks disk * entriesPerBlock)
    {index : Nat} (inside : index < dataBlocks disk) :
    (OnDisk.table disk).entries[index]? = some (.ofNat (entry disk index)) := by
  have rows : ∀ block ∈ (OnDisk.layout disk).tableArea.map disk,
      (Table.entriesOf block.bytes).length = entriesPerBlock :=
    fun block _ => Table.length_entriesOf_block block
  have row : index / entriesPerBlock < tableBlocks disk :=
    Nat.div_lt_of_lt_mul (by rw [Nat.mul_comm]; omega)
  have below : index % entriesPerBlock < entriesPerBlock := Nat.mod_lt _ (by decide)
  have found : ((OnDisk.layout disk).tableArea.map disk)[index / entriesPerBlock]? =
      some (disk (1 + index / entriesPerBlock)) := by
    rw [List.getElem?_map, SuperBlock.tableArea, List.getElem?_range' (by
      rwa [toNat_tableBlocks_layout])]
    simp
  have word : 2 * (index % entriesPerBlock) + 1 <
      (disk (1 + index / entriesPerBlock)).bytes.length := by
    rw [ByteField.length_eq, blockSize]
    rw [entriesPerBlock] at below ⊢
    omega
  show (List.toArray _)[index]? = _
  rw [List.getElem?_toArray, List.getElem?_take, if_pos inside,
    getElem?_flatMap_rows (by decide) rows, found, Option.bind_some, Table.getElem?_entriesOf word]
  rfl

theorem toNat_ofNat_entry (disk : Nat → Block) (index : Nat) :
    (BlockId.ofNat (entry disk index)).toNat = entry disk index :=
  toNat_ofNat_wordAt ..

/-- A possible value is one of two marks or the number of a block. -/
theorem isEntryValue_ofNat_iff {dataBlocks value : Nat} (small : value < 65536) :
    Table.IsEntryValue dataBlocks (.ofNat value) ↔
      value = 0 ∨ value = 0xFFFF ∨ value < dataBlocks := by
  have back : (BlockId.ofNat value).toNat = value := by
    rw [BlockId.toNat_ofNat, Nat.mod_eq_of_lt small]
  have zero : BlockId.unused.toNat = 0 := rfl
  have last : BlockId.endOfChain.toNat = 0xFFFF := rfl
  rw [Table.IsEntryValue, ← BlockId.toNat_inj, ← BlockId.toNat_inj, back, zero, last]

/-- The table is acceptable when the words of its area are. -/
theorem acceptable_table_iff (covered : dataBlocks disk ≤ tableBlocks disk * entriesPerBlock)
    (positive : 1 ≤ dataBlocks disk) :
    (OnDisk.table disk).Acceptable ↔
      entry disk 0 = 0xFFFF ∧ ∀ index < dataBlocks disk,
        entry disk index = 0 ∨ entry disk index = 0xFFFF ∨ entry disk index < dataBlocks disk := by
  have value : ∀ index, Table.IsEntryValue (dataBlocks disk) (.ofNat (entry disk index)) ↔ _ :=
    fun index => isEntryValue_ofNat_iff (ByteField.wordAt_lt _ _)
  have reserved : some (BlockId.ofNat (entry disk 0)) = some .endOfChain ↔
      entry disk 0 = 0xFFFF := by
    rw [Option.some.injEq, ← BlockId.toNat_inj, toNat_ofNat_entry]
    rfl
  rw [Table.Acceptable, getElem?_table covered positive, size_table covered, reserved]
  refine and_congr_right fun _ => ⟨fun all index inside => ?_, fun all found member => ?_⟩
  · exact (value index).mp (all _ (Array.mem_of_getElem? (getElem?_table covered inside)))
  · obtain ⟨index, held⟩ := Array.getElem?_of_mem member
    have inside : index < dataBlocks disk := by
      rw [← size_table covered]
      exact (Array.getElem?_eq_some_iff.mp held).1
    rw [getElem?_table covered inside] at held
    rw [← Option.some.inj held]
    exact (value index).mpr (all index inside)

end Entries

/-! ### The directory -/

/-- The directory in its block. -/
def OnDisk.directory (disk : Nat → Block) : Directory := .decode (root disk)

section Directory

variable {disk : Nat → Block}

theorem get_directory (disk : Nat → Block) (slot : Slot) :
    (OnDisk.directory disk).get slot =
      .decode (.ofBytes entryWidth ((root disk).slice (slot * entryWidth) entryWidth)) :=
  Vector.getElem_ofFn slot.isLt

/-- The directory's block has an entry for every slot. -/
theorem slot_lt (slot : Slot) : 32 * slot.val + 32 ≤ blockSize := by
  have below : slot.val < 128 := slot.isLt
  rw [blockSize]
  omega

/-- A part of an entry is a part of the directory's block. -/
theorem slice_entry (disk : Nat → Block) (slot : Slot) {skip count : Nat}
    (inside : skip + count ≤ entryWidth) :
    (ByteField.ofBytes entryWidth
        ((root disk).slice (slot * entryWidth) entryWidth)).slice skip count =
      (root disk).slice (32 * slot + skip) count := by
  have fits : slot * entryWidth + entryWidth ≤ blockSize := by
    have below := slot_lt slot
    rw [entryWidth]
    omega
  rw [ByteField.slice_ofBytes_slice fits inside, entryWidth, Nat.mul_comm]

theorem nameField_directory (disk : Nat → Block) (slot : Slot) :
    ((OnDisk.directory disk).get slot).nameField.bytes = nameField disk slot := by
  have inside := slot_lt slot
  rw [get_directory]
  show (ByteField.ofBytes nameWidth (ByteField.slice _ 0 16)).bytes = _
  rw [slice_entry disk slot (by decide), ByteField.bytes_ofBytes_of_length]
  · rfl
  · rw [ByteField.length_slice, nameWidth]
    omega

theorem size_directory (disk : Nat → Block) (slot : Slot) :
    ((OnDisk.directory disk).get slot).size.toNat = OnDisk.size disk slot := by
  have inside := slot_lt slot
  have low := (root disk).wordAt_lt (32 * slot + 16)
  have high := (root disk).wordAt_lt (32 * slot + 16 + 2)
  rw [get_directory]
  show (UInt32.ofNat (ofLittleEndian (ByteField.slice _ 16 4))).toNat = _
  rw [slice_entry disk slot (by decide), ByteField.ofLittleEndian_slice_words (by omega),
    UInt32.toNat_ofNat', Nat.mod_eq_of_lt (by omega)]
  rfl

theorem first_directory (disk : Nat → Block) (slot : Slot) :
    ((OnDisk.directory disk).get slot).first.toNat = first disk slot := by
  have inside := slot_lt slot
  rw [get_directory]
  show (BlockId.ofNat (ofLittleEndian (ByteField.slice _ 20 2))).toNat = _
  rw [slice_entry disk slot (by decide), ByteField.ofLittleEndian_slice_word (by omega)]
  exact toNat_ofNat_wordAt ..

theorem rawName_directory (disk : Nat → Block) (slot : Slot) :
    ((OnDisk.directory disk).get slot).rawName = name disk slot := by
  rw [DirEntry.rawName, nameField_directory, name]

theorem not_isFree_directory_iff (disk : Nat → Block) (slot : Slot) :
    ¬ ((OnDisk.directory disk).get slot).IsFree ↔ Occupied disk slot := by
  have inside := slot_lt slot
  have below : 32 * slot.val < (root disk).bytes.length := by
    rw [ByteField.length_eq]
    omega
  rw [DirEntry.IsFree, nameField_directory, Occupied, nameField, ByteField.byteAt,
    List.drop_eq_getElem_cons below, List.getD_eq_getElem?_getD, List.getElem?_eq_getElem below]
  show ¬ some _ = some _ ↔ _
  rw [Option.some.injEq, ← UInt8.toNat_inj]
  rfl

end Directory

/-- An entry that is not free has a name that can be read when its bytes are those of a text. -/
theorem DirEntry.name_ne_empty_iff {entry : DirEntry} (occupied : ¬ entry.IsFree) :
    entry.name ≠ "" ↔ ∃ text, utf8Bytes text = entry.rawName := by
  constructor
  · intro readable
    exact ⟨entry.name, utf8Bytes_name readable⟩
  · rintro ⟨text, bytes⟩ unreadable
    have same : entry.name = text := by
      rw [name, ← bytes, fromUTF8?_utf8Bytes]
      rfl
    have none : entry.rawName = [] := by
      rw [← bytes, ← same, unreadable]
      rfl
    refine occupied ?_
    rw [IsFree]
    cases list : entry.nameField.bytes with
    | nil =>
      have length := entry.nameField.length_eq
      rw [list] at length
      cases length
    | cons byte rest =>
      rw [rawName, list, List.takeWhile_eq_nil_iff] at none
      have zero := none (by simp)
      simpa using zero

section Directory

variable {disk : Nat → Block}

/-- The directory is acceptable when its names can be read and told apart and its files have
possible heads. -/
theorem acceptable_directory_iff (dataBlocks : Nat) (small : dataBlocks < 65535) :
    (OnDisk.directory disk).Acceptable dataBlocks ↔
      (∀ slot < 128, Occupied disk slot → ∃ text : String, utf8Bytes text = name disk slot) ∧
      (∀ slot < 128, ∀ other < 128, Occupied disk slot → Occupied disk other →
        slot ≠ other → name disk slot ≠ name disk other) ∧
      ∀ slot < 128, Occupied disk slot →
        first disk slot = 0xFFFF ∨ 1 ≤ first disk slot ∧ first disk slot < dataBlocks := by
  have occupied := not_isFree_directory_iff disk
  have readable : ∀ slot : Slot, Occupied disk slot →
      (((OnDisk.directory disk).get slot).name ≠ "" ↔
        ∃ text : String, utf8Bytes text = name disk slot) := by
    intro slot here
    rw [DirEntry.name_ne_empty_iff ((occupied slot).mpr here), rawName_directory]
  have head : ∀ slot : Slot, ((OnDisk.directory disk).get slot).HasHead dataBlocks ↔
      (first disk slot = 0xFFFF ∨ 1 ≤ first disk slot ∧ first disk slot < dataBlocks) := by
    intro slot
    have zero : BlockId.unused.toNat = 0 := rfl
    have last : BlockId.endOfChain.toNat = 0xFFFF := rfl
    rw [DirEntry.HasHead, BlockId.IsLink, ne_eq, ne_eq, ← BlockId.toNat_inj, ← BlockId.toNat_inj,
      first_directory, zero, last]
    omega
  have sameName : ∀ slot other : Slot, ((OnDisk.directory disk).get slot).name ≠ "" →
      ((OnDisk.directory disk).get other).name ≠ "" →
      (((OnDisk.directory disk).get slot).name = ((OnDisk.directory disk).get other).name ↔
        name disk slot = name disk other) := by
    intro slot other slotNamed otherNamed
    constructor
    · intro same
      rw [← rawName_directory, ← rawName_directory, ← DirEntry.utf8Bytes_name slotNamed,
        ← DirEntry.utf8Bytes_name otherNamed, same]
    · intro same
      rw [DirEntry.name, DirEntry.name, rawName_directory, rawName_directory, same]
  rw [Directory.acceptable_iff]
  constructor
  · rintro ⟨each, distinct⟩
    refine ⟨fun slot below here => ?_, fun slot below other otherBelow here there apart => ?_,
      fun slot below here => ?_⟩
    · exact (readable ⟨slot, below⟩ here).mp (each ⟨slot, below⟩ ((occupied _).mpr here)).1
    · intro same
      have slotIn := (occupied ⟨slot, below⟩).mpr here
      have otherIn := (occupied ⟨other, otherBelow⟩).mpr there
      have equal := (sameName _ _ (each _ slotIn).1 (each _ otherIn).1).mpr same
      exact apart (Fin.mk.inj (distinct _ _ slotIn otherIn equal))
    · exact (head ⟨slot, below⟩).mp (each ⟨slot, below⟩ ((occupied _).mpr here)).2
  · rintro ⟨texts, distinct, heads⟩
    have named : ∀ slot : Slot, Occupied disk slot →
        ((OnDisk.directory disk).get slot).name ≠ "" :=
      fun slot here => (readable slot here).mpr (texts slot slot.isLt here)
    refine ⟨fun slot slotIn => ?_, fun slot other slotIn otherIn same => ?_⟩
    · have here := (occupied slot).mp slotIn
      exact ⟨named slot here, (head slot).mpr (heads slot slot.isLt here)⟩
    · have here := (occupied slot).mp slotIn
      have there := (occupied other).mp otherIn
      have equal := (sameName slot other (named slot here) (named other there)).mp same
      by_contra apart
      exact distinct slot slot.isLt other other.isLt here there (mt Fin.ext apart) equal

end Directory

/-! ### The whole disk -/

section OfDisk

variable {disk : Nat → Block} {deviceBlocks : Nat} {volume : Volume} {cause : VolumeError}

/-- What is read from a disk, with all that is read from its superblock at its place. -/
theorem ofDisk_eq (disk : Nat → Block) (deviceBlocks : Nat) :
    Volume.ofDisk disk deviceBlocks =
      if (disk 0).bytes.take 8 = utf8Bytes "ECS150FS" ∧ (OnDisk.layout disk).Valid deviceBlocks ∧
          (OnDisk.table disk).Acceptable ∧ (OnDisk.directory disk).Acceptable (dataBlocks disk) then
        .ok ⟨OnDisk.layout disk, OnDisk.table disk, OnDisk.directory disk, .empty⟩
      else .error .invalidFormat := by
  rw [Volume.ofDisk, decode_superBlock]
  by_cases signed : (disk 0).bytes.take 8 = utf8Bytes "ECS150FS"
  · rw [if_pos signed]
    dsimp only
    by_cases valid : (OnDisk.layout disk).Valid deviceBlocks
    · rw [if_pos valid, Volume.ofAreas, toNat_dataBlocks_layout, toNat_rootBlock_layout]
      simp only [signed, valid, true_and]
      rfl
    · rw [if_neg valid, if_neg fun accepted => valid accepted.2.1]
  · rw [if_neg signed, if_neg fun accepted => signed accepted.1]

/-- The images are what is accepted. -/
theorem isImage_iff :
    IsImage disk deviceBlocks ↔
      (disk 0).bytes.take 8 = utf8Bytes "ECS150FS" ∧ (OnDisk.layout disk).Valid deviceBlocks ∧
        (OnDisk.table disk).Acceptable ∧
        (OnDisk.directory disk).Acceptable (dataBlocks disk) := by
  constructor
  · rintro ⟨signed, total, positive, small, table, root, start, whole, reserved, entries, readable,
      distinct, heads⟩
    have covered : dataBlocks disk ≤ tableBlocks disk * entriesPerBlock := by
      rw [entriesPerBlock]
      omega
    exact ⟨signed, valid_layout_iff.mpr ⟨total, positive, small, table, root, start, whole⟩,
      (acceptable_table_iff covered positive).mpr ⟨reserved, entries⟩,
      (acceptable_directory_iff _ small).mpr ⟨readable, distinct, heads⟩⟩
  · rintro ⟨signed, valid, tableFine, directoryFine⟩
    obtain ⟨total, positive, small, table, root, start, whole⟩ := valid_layout_iff.mp valid
    have covered : dataBlocks disk ≤ tableBlocks disk * entriesPerBlock := by
      rw [entriesPerBlock]
      omega
    obtain ⟨reserved, entries⟩ := (acceptable_table_iff covered positive).mp tableFine
    obtain ⟨readable, distinct, heads⟩ := (acceptable_directory_iff _ small).mp directoryFine
    exact ⟨signed, total, positive, small, table, root, start, whole, reserved, entries, readable,
      distinct, heads⟩

/-- A volume is read from the images. -/
theorem exists_ofDisk_iff :
    (∃ volume, Volume.ofDisk disk deviceBlocks = .ok volume) ↔ IsImage disk deviceBlocks := by
  rw [ofDisk_eq, isImage_iff]
  split <;> simp_all

/-- A disk from which no volume is read has the wrong format. -/
theorem eq_invalidFormat_of_ofDisk (refused : Volume.ofDisk disk deviceBlocks = .error cause) :
    cause = .invalidFormat := by
  rw [ofDisk_eq] at refused
  split at refused
  · cases refused
  · exact (Except.error.inj refused).symm

/-- What is read is what the bytes say. -/
theorem decodes_of_ofDisk (read : Volume.ofDisk disk deviceBlocks = .ok volume) :
    Decodes disk volume := by
  have image := exists_ofDisk_iff.mp ⟨volume, read⟩
  have covered : dataBlocks disk ≤ tableBlocks disk * entriesPerBlock := by
    have table := image.table
    rw [entriesPerBlock]
    omega
  rw [ofDisk_eq, if_pos (isImage_iff.mp image)] at read
  obtain rfl := Except.ok.inj read
  refine ⟨toNat_totalBlocks_layout disk, toNat_rootBlock_layout disk, toNat_dataStart_layout disk,
    toNat_dataBlocks_layout disk, toNat_tableBlocks_layout disk, size_table covered,
    fun index inside => ?_, fun slot => ?_, fun slot => ?_, fun slot => ?_, rfl⟩
  · rw [getElem?_table covered inside, Option.map_some, toNat_ofNat_entry]
  · rw [← nameField_directory]
  · rw [← size_directory]
  · rw [← first_directory]

end OfDisk

end FlatVolume
