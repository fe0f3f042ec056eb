/-
**What is stored is what is read back.**

* `ofLittleEndian_littleEndian`: a number reads back modulo `256 ^ width`;
* `DirEntry.decode_encode`: an entry reads back as it was written;
* `Table.decode_encode`: the first entries of the table's area are the table, whatever its size;
* `Directory.decode_encode`: the directory reads back with zeros in its free slots (`cleared`);
* `SuperBlock.decode_encode`: a superblock reads back as it was written.
-/

import Mathlib.Algebra.GroupWithZero.Nat
import FlatVolume.Directory.Storage
import FlatVolume.Proofs.Storage.Rows
import FlatVolume.Table.Storage

namespace FlatVolume

/-! ### Numbers -/

/-- Reading back gives the number cut to its low bytes. -/
theorem ofLittleEndian_littleEndian (width number : Nat) :
    ofLittleEndian (littleEndian width number) = number % 256 ^ width := by
  induction width generalizing number with
  | zero => simp [littleEndian, ofLittleEndian, Nat.mod_one]
  | succ width hypothesis =>
    have low : (UInt8.ofNat number).toNat = number % 256 := UInt8.toNat_ofNat'
    rw [littleEndian, ofLittleEndian, hypothesis, low, Nat.pow_succ, Nat.mul_comm (256 ^ width),
      Nat.mod_mul]

/-! ### The table -/

namespace Table

theorem entriesOf_littleEndian (value : BlockId) (rest : Bytes) :
    entriesOf (littleEndian 2 value.toNat ++ rest) = value :: entriesOf rest := by
  have small : value.toNat < 256 ^ 2 := value.toNat_lt
  have read := ofLittleEndian_littleEndian 2 value.toNat
  rw [Nat.mod_eq_of_lt small] at read
  obtain ⟨low, high, bytes⟩ : ∃ low high, littleEndian 2 value.toNat = [low, high] := ⟨_, _, rfl⟩
  rw [bytes] at read ⊢
  show BlockId.ofNat (ofLittleEndian [low, high]) :: entriesOf rest = _
  rw [read, BlockId.ofNat_toNat]

/-- Entries read back as they were written, and what follows them is read on. -/
theorem entriesOf_bytesOf (entries : List BlockId) (rest : Bytes) :
    entriesOf (bytesOf entries ++ rest) = entries ++ entriesOf rest := by
  induction entries with
  | nil => rfl
  | cons value entries hypothesis =>
    rw [bytesOf, List.flatMap_cons, List.append_assoc, entriesOf_littleEndian]
    exact congrArg (value :: ·) hypothesis

theorem length_bytesOf (entries : List BlockId) : (bytesOf entries).length = entries.length * 2 :=
  length_flatMap_rows fun _ _ => length_littleEndian ..

/-- Bytes without a first pair are at most one. -/
theorem length_le_one_of_short {bytes : Bytes}
    (short : ∀ low high rest, bytes = low :: high :: rest → False) : bytes.length ≤ 1 := by
  rcases bytes with _ | ⟨low, _ | ⟨high, rest⟩⟩
  · exact Nat.zero_le _
  · exact Nat.le_refl _
  · exact (short low high rest rfl).elim

theorem length_entriesOf (bytes : Bytes) : (entriesOf bytes).length = bytes.length / 2 := by
  fun_induction entriesOf bytes with
  | case1 low high rest hypothesis =>
    simp only [List.length_cons, hypothesis]
    omega
  | case2 bytes short =>
    have few := length_le_one_of_short short
    rw [List.length_nil]
    omega

/-- A block of the table's area begins with the entries of its part of the table. -/
theorem entriesOf_encodeBlock (table : Table) (position : Nat) :
    ∃ padding, entriesOf (table.encodeBlock position).bytes =
      (table.entries.extract (position * entriesPerBlock)
        (position * entriesPerBlock + entriesPerBlock)).toList ++ padding := by
  let entries := (table.entries.extract (position * entriesPerBlock)
    (position * entriesPerBlock + entriesPerBlock)).toList
  have short : (bytesOf entries).length ≤ blockSize := by
    rw [length_bytesOf]
    simp only [entries, Array.length_toList, Array.size_extract, entriesPerBlock, blockSize]
    omega
  refine ⟨entriesOf (List.replicate (blockSize - (bytesOf entries).length) 0), ?_⟩
  show entriesOf ((bytesOf entries).take blockSize ++ _) = _
  rw [List.take_of_length_le short, entriesOf_bytesOf]

theorem length_entriesOf_block (block : Block) :
    (entriesOf block.bytes).length = entriesPerBlock := by
  rw [length_entriesOf, block.length_eq]
  rfl

/-- Enough blocks give a table of the wanted size. -/
theorem size_decode {blocks : List Block} {dataBlocks : Nat}
    (covered : dataBlocks ≤ blocks.length * entriesPerBlock) :
    (decode blocks dataBlocks).size = dataBlocks := by
  have rows : ∀ block ∈ blocks, (entriesOf block.bytes).length = entriesPerBlock :=
    fun block _ => length_entriesOf_block block
  simp only [decode, size, List.size_toArray, List.length_take, length_flatMap_rows rows]
  omega

/-- The table reads back from its area as it was written. -/
theorem decode_encode (table : Table) {tableBlocks : Nat}
    (covered : table.size ≤ tableBlocks * entriesPerBlock) :
    decode (table.encode tableBlocks) table.size = table := by
  obtain ⟨entries⟩ := table
  simp only [size] at covered
  unfold decode
  congr 1
  apply Array.ext'
  rw [List.toList_toArray]
  refine List.ext_getElem? fun index => ?_
  by_cases inside : index < entries.size
  · have row : index / entriesPerBlock < tableBlocks :=
      Nat.div_lt_of_lt_mul (by rw [Nat.mul_comm]; omega)
    obtain ⟨padding, written⟩ := entriesOf_encodeBlock ⟨entries⟩ (index / entriesPerBlock)
    have split : index / entriesPerBlock * entriesPerBlock + index % entriesPerBlock = index :=
      Nat.div_add_mod' ..
    have below : index % entriesPerBlock < entriesPerBlock := Nat.mod_lt _ (by decide)
    have found : (encode ⟨entries⟩ tableBlocks)[index / entriesPerBlock]? =
        some (encodeBlock ⟨entries⟩ (index / entriesPerBlock)) := by
      simp [encode, row]
    have rows : ∀ block ∈ encode ⟨entries⟩ tableBlocks,
        (entriesOf block.bytes).length = entriesPerBlock :=
      fun block _ => length_entriesOf_block block
    rw [List.getElem?_take, if_pos (show index < size ⟨entries⟩ from inside),
      getElem?_flatMap_rows (by decide) rows, found, Option.bind_some, written,
      List.getElem?_append_left]
    · rw [Array.getElem?_toList, Array.getElem?_extract, split]
      simp only [Array.getElem?_toList]
      rw [if_pos]
      omega
    · simp only [Array.length_toList, Array.size_extract]
      omega
  · rw [List.getElem?_take, if_neg (show ¬ index < size ⟨entries⟩ from inside),
      Array.getElem?_toList, Array.getElem?_eq_none (Nat.le_of_not_lt inside)]

end Table

/-! ### Entries -/

/-- An entry reads back as it was written. -/
theorem DirEntry.decode_encode (entry : DirEntry) : decode entry.encode = entry := by
  obtain ⟨⟨name, nameLength⟩, size, first⟩ := entry
  have sizeSmall : size.toNat < 256 ^ 4 := size.toNat_lt
  have firstSmall : first.toNat < 256 ^ 2 := first.toNat_lt
  have total : (name ++ littleEndian 4 size.toNat ++ littleEndian 2 first.toNat).length = 22 := by
    simp [nameLength, nameWidth]
  have written : (encode ⟨⟨name, nameLength⟩, size, first⟩).bytes =
      name ++ (littleEndian 4 size.toNat ++
        (littleEndian 2 first.toNat ++ List.replicate 10 0)) := by
    simp only [encode, ByteField.ofBytes, total, entryWidth]
    rw [List.take_of_length_le (by omega)]
    simp
  simp only [nameWidth] at nameLength
  have nameSlice : (encode ⟨⟨name, nameLength⟩, size, first⟩).slice 0 16 = name := by
    simp [ByteField.slice, written, nameLength]
  have sizeSlice : (encode ⟨⟨name, nameLength⟩, size, first⟩).slice 16 4 =
      littleEndian 4 size.toNat := by
    simp [ByteField.slice, written, nameLength]
  have firstSlice : (encode ⟨⟨name, nameLength⟩, size, first⟩).slice 20 2 =
      littleEndian 2 first.toNat := by
    simp [ByteField.slice, written, List.drop_append, nameLength, List.drop_of_length_le]
  simp only [decode, nameSlice, sizeSlice, firstSlice, ofLittleEndian_littleEndian,
    Nat.mod_eq_of_lt sizeSmall, Nat.mod_eq_of_lt firstSmall, BlockId.ofNat_toNat]
  congr
  · exact ByteField.ofBytes_bytes (⟨name, nameLength⟩ : ByteField nameWidth)
  · simp

/-! ### The directory -/

namespace Directory

/-- The directory with the garbage in its free slots replaced by zeros. -/
def cleared (directory : Directory) : Directory :=
  ⟨directory.entries.map fun entry => if entry.IsFree then .empty else entry⟩

theorem get_cleared (directory : Directory) (slot : Slot) :
    directory.cleared.get slot =
      if (directory.get slot).IsFree then .empty else directory.get slot := by
  rw [get, cleared]
  exact Vector.getElem_map ..

/-- A free slot is written as an empty entry. -/
theorem decode_stored (entry : DirEntry) :
    DirEntry.decode entry.stored = if entry.IsFree then .empty else entry := by
  unfold DirEntry.stored
  split
  · decide
  · exact entry.decode_encode

/-- The directory reads back as it was written, with its free slots cleared. -/
theorem decode_encode (directory : Directory) : decode directory.encode = directory.cleared := by
  have rows : ∀ entry ∈ directory.entries.toList, entry.stored.bytes.length = entryWidth :=
    fun entry _ => entry.stored.length_eq
  have total : (directory.entries.toList.flatMap fun entry => entry.stored.bytes).length =
      blockSize := by
    rw [length_flatMap_rows rows, Vector.length_toList]
    rfl
  have written : directory.encode.bytes =
      directory.entries.toList.flatMap fun entry => entry.stored.bytes :=
    ByteField.bytes_ofBytes_of_length total
  refine congrArg Directory.mk (Vector.ext fun index inside => ?_)
  have found : directory.entries.toList[index]? = some directory.entries[index] := by
    simp [inside]
  have cut : directory.encode.slice (index * entryWidth) entryWidth =
      directory.entries[index].stored.bytes := by
    rw [ByteField.slice, written, take_drop_flatMap_rows rows found]
  rw [Vector.getElem_ofFn, Vector.getElem_map]
  show DirEntry.decode (.ofBytes entryWidth (directory.encode.slice (index * entryWidth) _)) = _
  rw [cut, ByteField.ofBytes_bytes, decode_stored]

end Directory

/-! ### The superblock -/

/-- Each of the parts that were fitted into a field in a row is found at its place. -/
theorem ByteField.slice_ofBytes_flatten {width : Nat} {parts : List Bytes} {part : Bytes}
    (index : Nat) (fits : parts.flatten.length ≤ width) (found : parts[index]? = some part) :
    (ofBytes width parts.flatten).slice (parts.take index).flatten.length part.length = part := by
  obtain ⟨inside, rfl⟩ := List.getElem?_eq_some_iff.mp found
  have split : parts.flatten =
      (parts.take index).flatten ++ (parts[index] ++ (parts.drop (index + 1)).flatten) := by
    rw [← List.flatten_cons, ← List.drop_eq_getElem_cons inside, ← List.flatten_append,
      List.take_append_drop]
  show ((parts.flatten.take width ++ _).drop _).take _ = _
  rw [List.take_of_length_le fits, split, List.append_assoc, List.append_assoc, List.drop_left,
    List.take_left]

namespace SuperBlock

/-- The signature and the fields in the order in which they are stored. -/
def parts (layout : SuperBlock) : List Bytes :=
  [ signature
  , littleEndian 2 layout.totalBlocks.toNat
  , littleEndian 2 layout.rootBlock.toNat
  , littleEndian 2 layout.dataStart.toNat
  , littleEndian 2 layout.dataBlocks.toNat
  , littleEndian 1 layout.tableBlocks.toNat ]

theorem encode_eq (layout : SuperBlock) :
    layout.encode = ByteField.ofBytes blockSize layout.parts.flatten := by
  simp only [encode, parts, List.flatten_cons, List.flatten_nil, List.append_assoc,
    List.append_nil]

theorem length_parts_le (layout : SuperBlock) : layout.parts.flatten.length ≤ blockSize := by
  simp [parts, signature, blockSize]

/-- A number among the parts is read from its place. -/
theorem fieldAt_encode {layout : SuperBlock} {width number : Nat} (index : Nat)
    (small : number < 256 ^ width)
    (found : layout.parts[index]? = some (littleEndian width number)) :
    fieldAt layout.encode (layout.parts.take index).flatten.length width = number := by
  have cut := ByteField.slice_ofBytes_flatten index layout.length_parts_le found
  rw [length_littleEndian] at cut
  rw [fieldAt, encode_eq, cut, ofLittleEndian_littleEndian, Nat.mod_eq_of_lt small]

/-- A superblock reads back as it was written. -/
theorem decode_encode (layout : SuperBlock) : decode layout.encode = .ok layout := by
  have signed : layout.encode.slice 0 8 = signature := by
    rw [encode_eq]
    exact ByteField.slice_ofBytes_flatten 0 layout.length_parts_le rfl
  have total : fieldAt layout.encode 8 2 = layout.totalBlocks.toNat :=
    fieldAt_encode 1 layout.totalBlocks.toNat_lt rfl
  have root : fieldAt layout.encode 10 2 = layout.rootBlock.toNat :=
    fieldAt_encode 2 layout.rootBlock.toNat_lt rfl
  have start : fieldAt layout.encode 12 2 = layout.dataStart.toNat :=
    fieldAt_encode 3 layout.dataStart.toNat_lt rfl
  have data : fieldAt layout.encode 14 2 = layout.dataBlocks.toNat :=
    fieldAt_encode 4 layout.dataBlocks.toNat_lt rfl
  have table : fieldAt layout.encode 16 1 = layout.tableBlocks.toNat :=
    fieldAt_encode 5 layout.tableBlocks.toNat_lt rfl
  rw [decode, if_pos signed, total, root, start, data, table]
  simp only [UInt16.ofNat_toNat, UInt8.ofNat_toNat]

end SuperBlock

end FlatVolume
