/-
**Writing to an intact chain.**

A write to a file whose chain fits its size ends in one of three ways (`writeFile_yields`):

* it is refused, since the file would become too long, and nothing has changed;
* it succeeds (`Written`): the chain has grown by the first unused blocks, the data up to
  `writeStop` was written over the bytes of the chain, and the size follows;
* the device fails (`Torn`): the table and the entry are as they were, and a part of the data was
  written, up to the start of some block.
-/

import FlatVolume.File.Write
import FlatVolume.Proofs.Chain.Growth
import FlatVolume.Proofs.File.Read

namespace FlatVolume

open BlockDevice

/-! ### The pieces -/

/-- Behind the piece for one block the data goes on with the piece for the next one. -/
theorem drop_behind_cut {offset stop index : Nat} (data : Bytes)
    (before : offset < (index + 1) * blockSize) (ends : (index + 1) * blockSize < stop) :
    (data.drop (max offset (index * blockSize) - offset)).drop (Span.cut offset stop index).length =
      data.drop (max offset ((index + 1) * blockSize) - offset) := by
  have size : (index + 1) * blockSize = index * blockSize + blockSize := Nat.succ_mul ..
  rw [List.drop_drop, Span.length_cut (by omega)]
  congr 1
  omega

/-- Data is written along a chain piece by piece, from the block of the offset on. -/
theorem writeChain_eq (D : Type) [BlockDevice D] (layout : SuperBlock) (fresh : Nat) {table : Table}
    {head : BlockId} {blocks : List BlockId} {offset : Nat} {data : Bytes}
    (chain : table.IsChain head blocks) (some : data ≠ [])
    (enough : offset + data.length ≤ blocks.length * blockSize) :
    ∃ count id, blocks[offset / blockSize]? = .some id ∧
      offset < (offset / blockSize + 1) * blockSize ∧
      offset / blockSize + (count + 1) = blocksFor (offset + data.length) ∧
      (writeChain layout table head fresh offset data : EStateM VolumeError D Unit) =
        writeSpans layout table fresh
          (spansFrom offset (offset + data.length) (offset / blockSize) (count + 1))
          (data.drop (max offset (offset / blockSize * blockSize) - offset)) id := by
  have fits := blocksFor_le_iff.mpr enough
  obtain ⟨count, pieces, reaches⟩ := spans_eq offset (List.length_pos_of_ne_nil some)
  have below : offset / blockSize < blocks.length := by omega
  have found := List.getElem?_eq_getElem below
  have start : max offset (offset / blockSize * blockSize) = offset := by
    simp only [blockSize]
    omega
  refine ⟨count, _, found, ?_, reaches, ?_⟩
  · simp only [blockSize]
    omega
  · unfold writeChain
    rw [Table.blockAt, chain.nth_eq found, pieces, start, Nat.sub_self, List.drop_zero]
    rfl

section Pieces

variable {D : Type} [BlockDevice D] [FaithfulDevice D]
  {layout : SuperBlock} {table : Table} {head : BlockId} {blocks : List BlockId}
  {fresh offset stop : Nat} {data : Bytes} {disk : Nat → Block}

/-- A piece is written over the old content of its block if any of it stays, or the device fails. -/
theorem writeSpan_yields (device : D) (layout : SuperBlock) (fresh : Nat) (span : Span)
    (part : Bytes) {id : BlockId} (inside : layout.dataBlock id < numBlocks device) :
    Yields (writeSpan layout fresh span part id) device
      (fun _ after => ∃ old : Block,
        (¬ (span.IsWhole ∨ fresh ≤ span.index) → old = content device (layout.dataBlock id)) ∧
        content after = Function.update (content device) (layout.dataBlock id)
          (old.overlay span.skip part) ∧
        Follows device after)
      (fun cause after => DeviceFault device cause ∧
        content after = content device ∧ Follows device after) := by
  unfold writeSpan
  dsimp only
  by_cases replaced : span.IsWhole ∨ fresh ≤ span.index
  · rw [if_pos replaced]
    refine (storeBlock_faithful _ _ device).mono ?_ ?_
    · intro _ after ended
      obtain ⟨written, follows⟩ := ended
      exact ⟨_, fun kept => absurd replaced kept, written, follows⟩
    · intro cause after ended
      obtain ⟨failure, same, follows⟩ := ended
      exact ⟨failure.fault inside, same, follows⟩
  · rw [if_neg replaced]
    refine yields_bind.mpr ((fetchBlock_yields _ device).mono ?_ ?_)
    · intro old fetched ended
      obtain ⟨rfl, same, follows⟩ := ended
      refine (storeBlock_faithful _ _ fetched).mono ?_ ?_
      · intro _ after ended
        obtain ⟨written, later⟩ := ended
        rw [same] at written
        exact ⟨_, fun _ => rfl, written, follows.trans later⟩
      · intro cause after ended
        obtain ⟨failure, still, later⟩ := ended
        have fault := failure.fault (by rwa [follows.numBlocks_eq])
        exact ⟨fault.of_follows follows, still.trans same, follows.trans later⟩
    · intro cause after ended
      obtain ⟨failure, same, follows⟩ := ended
      exact ⟨failure.fault inside, same, follows⟩

/-- The data was written up to some position before `stop`, which is where it starts or where a
block does. -/
def OverwrittenInPart (layout : SuperBlock) (blocks : List BlockId) (fresh offset stop : Nat)
    (data : Bytes) (before after : Nat → Block) : Prop :=
  ∃ place, offset ≤ place ∧ place < stop ∧ (place = offset ∨ blockSize ∣ place) ∧
    Overwritten layout blocks fresh offset place data before after

/-- The piece in one block of the chain is written after those before it. -/
theorem writePiece_yields (device : D) (distinct : blocks.Nodup)
    (inside : ∀ id ∈ blocks, layout.dataBlock id < numBlocks device) {index : Nat} {id : BlockId}
    (found : blocks[index]? = some id) (before : offset < (index + 1) * blockSize)
    (some : offset < stop) (starts : index * blockSize < stop) (whole : stop - offset ≤ data.length)
    (overwritten : Overwritten layout blocks fresh offset (max offset (index * blockSize)) data disk
      (content device)) :
    Yields (writeSpan layout fresh (Span.cut offset stop index)
        ((data.drop (max offset (index * blockSize) - offset)).take
          (Span.cut offset stop index).length) id) device
      (fun _ after => Overwritten layout blocks fresh offset (min stop ((index + 1) * blockSize))
        data disk (content after) ∧ Follows device after)
      (fun cause after => DeviceFault device cause ∧ Follows device after ∧
        OverwrittenInPart layout blocks fresh offset stop data disk (content after)) := by
  have next : (index + 1) * blockSize = index * blockSize + blockSize := Nat.succ_mul ..
  have here := inside id (List.mem_of_getElem? found)
  refine (writeSpan_yields device layout fresh _ _ here).mono ?_ ?_
  · intro _ after ended
    obtain ⟨old, kept, written, follows⟩ := ended
    refine ⟨?_, follows⟩
    rw [written, Span.skip_cut, Span.length_cut (Nat.le_of_lt starts)]
    refine overwritten.step distinct found rfl (by omega) (Nat.min_le_right _ _) (by omega) ?_
    intro isOld isPart
    refine kept fun replaced => isPart ?_
    rcases replaced with isWhole | isNew
    · have length : (Span.cut offset stop index).length = blockSize := isWhole
      rw [Span.length_cut (Nat.le_of_lt starts)] at length
      have size : 0 < blockSize := by decide
      omega
    · exact absurd isOld (Nat.not_lt.mpr isNew)
  · intro cause after ended
    obtain ⟨fault, same, follows⟩ := ended
    refine ⟨fault, follows, _, Nat.le_max_left _ _, by omega, ?_, same ▸ overwritten⟩
    rcases Nat.le_total offset (index * blockSize) with least | least
    · exact .inr ⟨index, by rw [Nat.max_eq_right least, Nat.mul_comm]⟩
    · exact .inl (Nat.max_eq_left least)

/-- The pieces from a block of the chain on are written, or some of them are and the device
fails. -/
theorem writeSpans_yields (device : D) (chain : table.IsChain head blocks)
    (inside : ∀ id ∈ blocks, layout.dataBlock id < numBlocks device) {index count : Nat}
    {id : BlockId} (found : blocks[index]? = some id) (before : offset < (index + 1) * blockSize)
    (some : offset < stop) (reaches : index + (count + 1) = blocksFor stop)
    (enough : blocksFor stop ≤ blocks.length) (whole : stop - offset ≤ data.length)
    (overwritten : Overwritten layout blocks fresh offset (max offset (index * blockSize)) data disk
      (content device)) :
    Yields (writeSpans layout table fresh (spansFrom offset stop index (count + 1))
        (data.drop (max offset (index * blockSize) - offset)) id) device
      (fun _ after => Overwritten layout blocks fresh offset stop data disk (content after) ∧
        Follows device after)
      (fun cause after => DeviceFault device cause ∧ Follows device after ∧
        OverwrittenInPart layout blocks fresh offset stop data disk (content after)) := by
  have starts : index * blockSize < stop := lt_blocksFor_iff.mp (by omega)
  have piece := writePiece_yields device chain.nodup inside found before some starts whole
    overwritten
  induction count generalizing index id device with
  | zero =>
    have ends : stop ≤ (index + 1) * blockSize := blocksFor_le_iff.mp (by omega)
    rw [Nat.min_eq_left ends] at piece
    exact piece
  | succ count hypothesis =>
    have next : (index + 1 + 1) * blockSize = (index + 1) * blockSize + blockSize :=
      Nat.succ_mul ..
    have ends : (index + 1) * blockSize < stop := lt_blocksFor_iff.mp (by omega)
    have below : index + 1 < blocks.length := by omega
    have more : blocks[index + 1]? = .some blocks[index + 1] := List.getElem?_eq_getElem below
    have place : max offset ((index + 1) * blockSize) = (index + 1) * blockSize :=
      Nat.max_eq_right (Nat.le_of_lt before)
    rw [Nat.min_eq_right (Nat.le_of_lt ends), ← place] at piece
    refine yields_bind.mpr (piece.mono ?_ fun _ _ ended => ended)
    intro _ middle ended
    obtain ⟨reached, follows⟩ := ended
    rw [Table.Path.follows chain found more, yields_bind, yields_settle_ok]
    have stillInside : ∀ id ∈ blocks, layout.dataBlock id < numBlocks middle := by
      rw [follows.numBlocks_eq]
      exact inside
    have later : offset < (index + 1 + 1) * blockSize := by omega
    have rest := hypothesis middle stillInside more later (by omega) reached ends
      (writePiece_yields middle chain.nodup stillInside more later some ends whole reached)
    rw [drop_behind_cut data before ends]
    refine rest.mono ?_ ?_
    · intro _ after ended
      obtain ⟨done, still⟩ := ended
      exact ⟨done, follows.trans still⟩
    · intro cause after ended
      obtain ⟨fault, still, inPart⟩ := ended
      exact ⟨fault.of_follows follows, follows.trans still, inPart⟩

/-- Data is written over the bytes of a chain that has room for it. -/
theorem writeChain_yields (device : D) (chain : table.IsChain head blocks)
    (inside : ∀ id ∈ blocks, layout.dataBlock id < numBlocks device) (some : data ≠ [])
    (enough : offset + data.length ≤ blocks.length * blockSize) :
    Yields (writeChain layout table head fresh offset data) device
      (fun _ after => Overwritten layout blocks fresh offset (offset + data.length) data
        (content device) (content after) ∧ Follows device after)
      (fun cause after => DeviceFault device cause ∧ Follows device after ∧
        OverwrittenInPart layout blocks fresh offset (offset + data.length) data
          (content device) (content after)) := by
  have positive : 0 < data.length := List.length_pos_of_ne_nil some
  obtain ⟨count, id, found, before, reaches, equation⟩ :=
    writeChain_eq D layout fresh chain some enough
  have start : max offset (offset / blockSize * blockSize) = offset := by
    simp only [blockSize]
    omega
  have unwritten := Overwritten.start layout blocks fresh offset data (content device)
  rw [equation]
  exact writeSpans_yields device chain inside found before (by omega) reaches
    (blocksFor_le_iff.mpr enough) (by omega) (by rwa [start])

end Pieces

/-! ### The file -/

/-- The blocks by which a chain grows when it needs room for `length` bytes. -/
def addedBlocks (table : Table) (blocks : List BlockId) (length : Nat) : List BlockId :=
  table.unusedBlocks.take (blocksFor length - blocks.length)

/-- Where data that reaches to `length` stops when the chain has grown as far as it can. -/
def writeStop (table : Table) (blocks : List BlockId) (length : Nat) : Nat :=
  min length ((blocks.length + (addedBlocks table blocks length).length) * blockSize)

/-- A chain that has grown as far as it can has the length that the new size needs. -/
theorem length_grown {blocks added size length : Nat} (fits : blocks = blocksFor size)
    (bound : added ≤ blocksFor length - blocks) :
    blocks + added = blocksFor (max size (min length ((blocks + added) * blockSize))) := by
  simp only [blocksFor, blockSize] at *
  omega

section Stop

variable {table : Table} {blocks : List BlockId} {offset length size : Nat}

theorem writeStop_le : writeStop table blocks length ≤ length := Nat.min_le_left _ _

theorem writeStop_le_room :
    writeStop table blocks length ≤
      (blocks ++ addedBlocks table blocks length).length * blockSize := by
  rw [List.length_append]
  exact Nat.min_le_right _ _

/-- The data that finds room ends where the write stops, and the grown chain has all of it. -/
theorem take_writeStop {data : Bytes}
    (some : offset < writeStop table blocks (offset + data.length)) :
    let part := data.take (writeStop table blocks (offset + data.length) - offset)
    part ≠ [] ∧ offset + part.length = writeStop table blocks (offset + data.length) ∧
      offset + part.length ≤
        (blocks ++ addedBlocks table blocks (offset + data.length)).length * blockSize := by
  intro part
  have stopLe : writeStop table blocks (offset + data.length) ≤ offset + data.length :=
    writeStop_le
  have reaches : offset + part.length = writeStop table blocks (offset + data.length) := by
    rw [List.length_take]
    omega
  refine ⟨List.ne_nil_of_length_pos (by omega), reaches, ?_⟩
  rw [reaches]
  exact writeStop_le_room

/-- A chain with room for the offset does not grow for it. -/
theorem nothing_to_add (room : size ≤ blocks.length * blockSize) (inside : offset ≤ size) :
    addedBlocks table blocks offset = [] ∧ writeStop table blocks offset = offset := by
  have enough : blocksFor offset ≤ blocks.length :=
    blocksFor_le_iff.mpr (Nat.le_trans inside room)
  have none : addedBlocks table blocks offset = [] := by
    rw [addedBlocks, Nat.sub_eq_zero_of_le enough, List.take_zero]
  refine ⟨none, ?_⟩
  rw [writeStop, none, List.length_nil, Nat.add_zero]
  exact Nat.min_eq_left (Nat.le_trans inside room)

/-- A chain that has no room for a single byte could not grow, and the offset is its end. -/
theorem nothing_fits (room : size ≤ blocks.length * blockSize) (inside : offset ≤ size)
    (some : offset < length) (noRoom : writeStop table blocks length ≤ offset) :
    addedBlocks table blocks length = [] ∧ writeStop table blocks length = offset := by
  have none : addedBlocks table blocks length = [] := by
    refine List.eq_nil_of_length_eq_zero (Nat.eq_zero_of_not_pos fun some => ?_)
    have more := Nat.mul_le_mul_right blockSize (Nat.add_le_add_left some blocks.length)
    rw [Nat.succ_eq_add_one, Nat.zero_add, Nat.succ_mul] at more
    have size : 0 < blockSize := by decide
    rw [writeStop] at noRoom
    omega
  refine ⟨none, ?_⟩
  rw [writeStop, none, List.length_nil, Nat.add_zero] at noRoom ⊢
  omega

end Stop

section File

variable {D : Type} [BlockDevice D] [FaithfulDevice D]

/-- What a successful write has done to a file with the chain of `blocks`. -/
structure Written (layout : SuperBlock) (blocks : List BlockId) (offset : Nat) (data : Bytes)
    (before after : FileStore D) : Prop where
  grown : before.table.Grown after.table before.entry.first blocks after.entry.first
    (addedBlocks before.table blocks (offset + data.length))
  unused : after.table.unusedBlocks =
    before.table.unusedBlocks.drop (blocksFor (offset + data.length) - blocks.length)
  name : after.entry.nameField = before.entry.nameField
  size : after.entry.size.toNat =
    max before.entry.size.toNat (writeStop before.table blocks (offset + data.length))
  bytes : Overwritten layout (blocks ++ addedBlocks before.table blocks (offset + data.length))
    blocks.length offset (writeStop before.table blocks (offset + data.length)) data
    (content before.device) (content after.device)
  follows : Follows before.device after.device

/-- What a write that the device failed has left behind. -/
structure Torn (layout : SuperBlock) (blocks : List BlockId) (offset : Nat) (data : Bytes)
    (before after : FileStore D) : Prop where
  table : after.table = before.table
  entry : after.entry = before.entry
  bytes : OverwrittenInPart layout
    (blocks ++ addedBlocks before.table blocks (offset + data.length)) blocks.length offset
    (offset + data.length) data (content before.device) (content after.device)
  follows : Follows before.device after.device

variable {layout : SuperBlock} {blocks : List BlockId} {offset : Nat} {data : Bytes}
  {store : FileStore D}

/-- A write that has no room for a single byte has done all it can. -/
theorem written_nothing (chain : store.table.IsChain store.entry.first blocks)
    (none : addedBlocks store.table blocks (offset + data.length) = [])
    (inside : offset ≤ store.entry.size.toNat)
    (stop : writeStop store.table blocks (offset + data.length) = offset) :
    Written layout blocks offset data store store := by
  have unused : store.table.unusedBlocks.drop (blocksFor (offset + data.length) - blocks.length) =
      store.table.unusedBlocks := by
    have split := List.take_append_drop (blocksFor (offset + data.length) - blocks.length)
      store.table.unusedBlocks
    rw [addedBlocks] at none
    rwa [none, List.nil_append] at split
  refine ⟨?_, unused.symm, rfl, ?_, ?_, .refl _⟩
  · rw [none]
    exact .refl chain
  · rw [stop, Nat.max_eq_left inside]
  · rw [none, stop]
    exact .start ..

/-- A write to a file whose chain fits its size is refused, or it succeeds, or the device fails. -/
theorem writeFile_yields (store : FileStore D) (small : store.table.size ≤ 65535)
    (chain : store.table.IsChain store.entry.first blocks)
    (fits : blocks.length = blocksFor store.entry.size.toNat)
    (inside : offset ≤ store.entry.size.toNat)
    (area : ∀ id : BlockId, id.IsLink store.table.size →
      layout.dataBlock id < numBlocks store.device) :
    Yields (writeFile layout offset data) store
      (fun count after => count = writeStop store.table blocks (offset + data.length) - offset ∧
        (data ≠ [] → offset + data.length ≤ maxFileSize) ∧
        Written layout blocks offset data store after)
      (fun cause after =>
        (cause = .invalidArgument ∧ data ≠ [] ∧ maxFileSize < offset + data.length ∧
          after = store) ∨
        DeviceFault store.device cause ∧ Torn layout blocks offset data store after) := by
  have room : store.entry.size.toNat ≤ blocks.length * blockSize :=
    blocksFor_le_iff.mp (Nat.le_of_eq fits.symm)
  unfold writeFile
  by_cases isEmpty : data = []
  · subst isEmpty
    obtain ⟨none, stop⟩ :
        addedBlocks store.table blocks (offset + ([] : Bytes).length) = [] ∧
          writeStop store.table blocks (offset + ([] : Bytes).length) = offset :=
      nothing_to_add room inside
    rw [if_pos rfl]
    refine ⟨by omega, fun some => absurd rfl some, written_nothing chain none inside stop⟩
  rw [if_neg isEmpty]
  have positive : 0 < data.length := List.length_pos_of_ne_nil isEmpty
  by_cases long : maxFileSize < offset + data.length
  · rw [if_pos long]
    exact .inl ⟨rfl, isEmpty, long, rfl⟩
  rw [if_neg long, yields_bind, yields_get, yields_bind, FileStore.onTable, yields_focus]
  obtain ⟨newHead, table, growth, grown, unused⟩ :=
    Table.grow_eq small chain (blocksFor (offset + data.length))
  rw [← fits]
  refine yields_of_ok growth ?_
  rw [yields_bind, FileStore.setFirst, yields_modify]
  show Yields (ite (writeStop store.table blocks (offset + data.length) ≤ offset) _ _) _ _ _
  have stopLe : writeStop store.table blocks (offset + data.length) ≤ offset + data.length :=
    writeStop_le
  by_cases noRoom : writeStop store.table blocks (offset + data.length) ≤ offset
  · obtain ⟨none, stop⟩ := nothing_fits room inside (by omega) noRoom
    obtain ⟨rfl, rfl⟩ := grown.nothing none
    rw [if_pos noRoom]
    exact ⟨by omega, fun _ => Nat.le_of_not_lt long, written_nothing chain none inside stop⟩
  rw [if_neg noRoom, yields_bind, yields_tryCatch, yields_bind, yields_get, FileStore.onDevice,
    yields_focus]
  obtain ⟨some, reaches, enough⟩ := take_writeStop (Nat.lt_of_not_le noRoom)
  have areaInside : ∀ id ∈ blocks ++ addedBlocks store.table blocks (offset + data.length),
      layout.dataBlock id < numBlocks store.device := by
    intro id member
    have isLink := grown.chain.isLink_of_mem member
    rw [grown.size] at isLink
    exact area id isLink
  refine (writeChain_yields store.device grown.chain areaInside some enough).mono ?_ ?_
  · intro _ device ended
    obtain ⟨written, follows⟩ := ended
    rw [reaches] at written
    rw [yields_bind, FileStore.resize, yields_modify, yields_pure]
    refine ⟨rfl, fun _ => Nat.le_of_not_lt long, grown, unused, rfl, ?_, ?_, follows⟩
    · refine (UInt32.toNat_ofNat' ..).trans (Nat.mod_eq_of_lt ?_)
      have small := store.entry.size.toNat_lt
      simp only [maxFileSize] at long
      show max _ (writeStop store.table blocks (offset + data.length)) < _
      omega
    · exact written.of_take (Nat.le_refl _)
  · intro cause device ended
    obtain ⟨fault, follows, place, least, below, start, written⟩ := ended
    rw [reaches] at below
    rw [yields_bind, FileStore.onTable, yields_focus]
    refine yields_of_ok (grown.truncate_eq small chain) ?_
    rw [yields_bind, FileStore.setFirst, yields_modify, yields_throw]
    refine .inr ⟨fault, rfl, rfl, ⟨place, least, by omega, start, ?_⟩, follows⟩
    exact written.of_take (by omega)

end File

end FlatVolume
