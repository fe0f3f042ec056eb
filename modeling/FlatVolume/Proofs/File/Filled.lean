/-
**All bytes of a chain after a write.**

`Filled`: the chain holds the data in the range that was written, zeros behind the blocks that it
had before, and its old bytes elsewhere, and no other block has changed. This says what every byte
is, so it determines the content of the device (`Filled.unique`), and a write that goes on where
another one stopped has the effect of one write of both parts (`Filled.trans`).

* `writeChain_zeros`: a new block that is not filled to its end has zeros there;
* `writeFile_writes`: a write that succeeds has written its data along the chain as it is now;
* `Written.filled`: so the chain is filled after a successful write.
-/

import FlatVolume.Proofs.File.Write

namespace FlatVolume

open BlockDevice

/-! ### Zeros -/

section Zeros

variable {D : Type} [BlockDevice D] [StoringDevice D] {layout : SuperBlock} {table : Table}
  {head last : BlockId} {blocks : List BlockId} {fresh offset stop : Nat} {data : Bytes}

/-- From the end of the data on, the new blocks that have some of it hold zeros. -/
def Zeros (layout : SuperBlock) (blocks : List BlockId) (fresh stop : Nat) (disk : Nat → Block) :
    Prop :=
  ∀ position, fresh * blockSize ≤ position → stop ≤ position →
    position < blocksFor stop * blockSize →
    (blockBytes layout disk blocks)[position]? = some 0

theorem ByteField.getElem?_zero {width index : Nat} (below : index < width) :
    (ByteField.zero width).bytes[index]? = some 0 := by
  show (List.replicate width (0 : UInt8))[index]? = some 0
  rw [List.getElem?_replicate, if_pos below]

/-- A piece in a new block is written over zeros. -/
theorem writeSpan_fresh (device : D) {span : Span} (isNew : fresh ≤ span.index) (part : Bytes)
    (id : BlockId) :
    Yields (writeSpan layout fresh span part id) device
      (fun _ after => content after = Function.update (content device) (layout.dataBlock id)
        ((ByteField.zero blockSize).overlay span.skip part))
      (fun _ _ => True) := by
  unfold writeSpan
  dsimp only
  rw [if_pos (.inr isNew)]
  exact (storeBlock_yields _ _ device).mono (fun _ _ ended => ended.1) fun _ _ _ => trivial

/-- The last of the pieces leaves zeros behind it in a new block. -/
theorem writeSpans_zeros (device : D) (path : table.Path head blocks last) {index count : Nat}
    {id : BlockId} (found : blocks[index]? = some id) (before : offset < (index + 1) * blockSize)
    (some : offset < stop) (reaches : index + (count + 1) = blocksFor stop)
    (enough : blocksFor stop ≤ blocks.length) (whole : stop - offset ≤ data.length) :
    Yields (writeSpans layout table fresh (spansFrom offset stop index (count + 1))
        (data.drop (max offset (index * blockSize) - offset)) id) device
      (fun _ after => Zeros layout blocks fresh stop (content after)) (fun _ _ => True) := by
  have starts : index * blockSize < stop := lt_blocksFor_iff.mp (by omega)
  have size : 0 < blockSize := by decide
  induction count generalizing index id device with
  | zero =>
    have ends : stop ≤ (index + 1) * blockSize := blocksFor_le_iff.mp (by omega)
    have next : (index + 1) * blockSize = index * blockSize + blockSize := Nat.succ_mul ..
    show Yields (writeSpan layout fresh (Span.cut offset stop index) _ id) device _ _
    by_cases isNew : fresh ≤ index
    · refine (writeSpan_fresh device isNew _ id).mono (fun _ after written => ?_)
        fun _ _ _ => trivial
      intro position _ behind below
      rw [← reaches, Nat.zero_add] at below
      have inside : position - index * blockSize < blockSize := by omega
      have fits : (Span.cut offset stop index).skip +
          ((data.drop (max offset (index * blockSize) - offset)).take
            (Span.cut offset stop index).length).length ≤ position - index * blockSize := by
        rw [Span.skip_cut, Span.length_cut (Nat.le_of_lt starts), List.length_take,
          List.length_drop]
        omega
      rw [written, getElem?_blockBytes_of_found found (by omega) below,
        Function.update_self, ByteField.getElem?_overlay _ (by omega), if_neg (by omega),
        ByteField.getElem?_zero inside]
    · -- The last block is an old one, so there is no new one.
      refine yields_of_forall (fun _ after position early _ below => ?_) fun _ _ => trivial
      have old := Nat.mul_le_mul_right blockSize (Nat.succ_le_of_lt (Nat.lt_of_not_le isNew))
      rw [← reaches] at below
      simp only [Nat.zero_add, Nat.succ_eq_add_one] at below old
      omega
  | succ count hypothesis =>
    have ends : (index + 1) * blockSize < stop := lt_blocksFor_iff.mp (by omega)
    have below : index + 1 < blocks.length := by omega
    have more : blocks[index + 1]? = .some blocks[index + 1] := List.getElem?_eq_getElem below
    have later : offset < (index + 1 + 1) * blockSize := by
      rw [Nat.succ_mul]
      omega
    refine yields_bind.mpr (yields_of_forall (fun _ middle => ?_) fun _ _ => trivial)
    rw [path.follows found more, yields_bind, yields_settle_ok, drop_behind_cut data before ends]
    exact hypothesis middle more later (by omega) ends

/-- Data that is written along a chain leaves zeros behind it in a new block. -/
theorem writeChain_zeros (device : D) (chain : table.IsChain head blocks) (some : data ≠ [])
    (enough : offset + data.length ≤ blocks.length * blockSize) :
    Yields (writeChain layout table head fresh offset data) device
      (fun _ after => Zeros layout blocks fresh (offset + data.length) (content after))
      (fun _ _ => True) := by
  have positive : 0 < data.length := List.length_pos_of_ne_nil some
  obtain ⟨count, id, found, before, reaches, equation⟩ :=
    writeChain_eq D layout fresh chain some enough
  rw [equation]
  exact writeSpans_zeros device chain found before (by omega) reaches
    (blocksFor_le_iff.mpr enough) (by omega)

end Zeros

/-- A write that succeeds without having written nothing has written its data along the chain. -/
theorem writeFile_writes {D : Type} [BlockDevice D] (layout : SuperBlock) (offset : Nat)
    (data : Bytes) (store : FileStore D) :
    Yields (writeFile layout offset data) store
      (fun count after => count = 0 ∧ after.device = store.device ∨
        0 < count ∧ writeChain layout after.table after.entry.first
          (blocksFor store.entry.size.toNat) offset (data.take count) store.device =
            .ok () after.device)
      (fun _ _ => True) := by
  unfold writeFile
  split
  · exact .inl ⟨rfl, rfl⟩
  split
  · trivial
  rw [yields_bind, yields_get, yields_bind, FileStore.onTable, yields_focus]
  refine yields_of_forall (fun extent grown => ?_) fun _ _ => trivial
  rw [yields_bind, FileStore.setFirst, yields_modify]
  dsimp only
  split
  · exact .inl ⟨rfl, rfl⟩
  · rename_i more
    rw [yields_bind, yields_tryCatch, yields_bind, yields_get, FileStore.onDevice, yields_focus]
    refine (yields_self _ _).mono (fun _ device wrote => ?_) fun cause device _ => ?_
    · rw [yields_bind, FileStore.resize, yields_modify, yields_pure]
      exact .inr ⟨Nat.sub_pos_of_lt (Nat.lt_of_not_le more), wrote⟩
    · -- The handler never succeeds.
      rw [yields_bind, FileStore.onTable, yields_focus]
      refine yields_of_forall (fun _ _ => ?_) fun _ _ => trivial
      rw [yields_bind, FileStore.setFirst, yields_modify, yields_throw]
      trivial

/-! ### All bytes -/

/-- The chain holds the data from `offset` to `stop`, zeros behind its first `fresh` blocks, and its
old bytes elsewhere. No block outside the chain has changed. -/
structure Filled (layout : SuperBlock) (blocks : List BlockId) (fresh offset stop : Nat)
    (data : Bytes) (before after : Nat → Block) : Prop where
  bytes : ∀ position < blocks.length * blockSize,
    (blockBytes layout after blocks)[position]? =
      if offset ≤ position ∧ position < stop then data[position - offset]?
      else if position < fresh * blockSize then (blockBytes layout before blocks)[position]?
      else some 0
  frame : ∀ block, (∀ id ∈ blocks, block ≠ layout.dataBlock id) → after block = before block

namespace Filled

variable {layout : SuperBlock} {blocks added : List BlockId} {fresh offset middle stop : Nat}
  {data : Bytes} {first second third other : Nat → Block}

/-- What a block of the chain holds. -/
theorem getElem?_block (filled : Filled layout blocks fresh offset stop data first second)
    {index place : Nat} {id : BlockId} (found : blocks[index]? = some id)
    (below : place < blockSize) :
    (second (layout.dataBlock id)).bytes[place]? =
      if offset ≤ index * blockSize + place ∧ index * blockSize + place < stop then
        data[index * blockSize + place - offset]?
      else if index < fresh then (first (layout.dataBlock id)).bytes[place]?
      else some 0 := by
  obtain ⟨inside, _⟩ := List.getElem?_eq_some_iff.mp found
  have room : (index + 1) * blockSize ≤ blocks.length * blockSize :=
    Nat.mul_le_mul_right _ inside
  have next : (index + 1) * blockSize = index * blockSize + blockSize := Nat.succ_mul ..
  have old : index * blockSize + place < fresh * blockSize ↔ index < fresh := by
    simp only [blockSize] at *
    omega
  have bytes := filled.bytes (index * blockSize + place) (by omega)
  rw [getElem?_blockBytes_of_found found (by omega) (by omega),
    getElem?_blockBytes_of_found found (by omega) (by omega), Nat.add_sub_cancel_left] at bytes
  simp only [old] at bytes
  exact bytes

/-- The content of every block is determined. -/
theorem unique (filled : Filled layout blocks fresh offset stop data first second)
    (again : Filled layout blocks fresh offset stop data first other) : other = second := by
  funext block
  by_cases own : ∀ id ∈ blocks, block ≠ layout.dataBlock id
  · rw [filled.frame block own, again.frame block own]
  · push Not at own
    obtain ⟨id, member, rfl⟩ := own
    obtain ⟨index, found⟩ := List.mem_iff_getElem?.mp member
    apply ByteField.ext
    ext1 place
    by_cases below : place < blockSize
    · rw [again.getElem?_block found below, filled.getElem?_block found below]
    · rw [List.getElem?_eq_none (by rw [(other _).length_eq]; omega),
        List.getElem?_eq_none (by rw [(second _).length_eq]; omega)]

/-- What is written behind the first part of the data fills the chain with all of it. The first part
may have been cut off only if nothing more is written. -/
theorem trans {more : Bytes} (filled : Filled layout blocks fresh offset middle data first second)
    (next : Filled layout (blocks ++ added) blocks.length middle stop more second third)
    (begins : offset ≤ middle) (goes : middle ≤ stop) (room : middle ≤ blocks.length * blockSize)
    (old : fresh ≤ blocks.length)
    (whole : middle < stop → middle - offset = data.length)
    (short : middle - offset ≤ data.length) :
    Filled layout (blocks ++ added) fresh offset stop (data ++ more) first third where
  bytes position inside := by
    have least := Nat.mul_le_mul_right blockSize old
    rw [next.bytes position inside]
    by_cases later : middle ≤ position ∧ position < stop
    · rw [if_pos later, if_pos (by omega), List.getElem?_append_right (by omega)]
      congr 1
      omega
    rw [if_neg later]
    by_cases early : position < blocks.length * blockSize
    · rw [if_pos early, blockBytes_append, List.getElem?_append_left (by rwa [length_blockBytes]),
        filled.bytes position early]
      by_cases covered : offset ≤ position ∧ position < middle
      · rw [if_pos covered, if_pos (by omega), List.getElem?_append_left (by omega)]
      · have outside : ¬ (offset ≤ position ∧ position < stop) := by omega
        rw [if_neg covered, if_neg outside, blockBytes_append,
          List.getElem?_append_left (by rwa [length_blockBytes])]
    · have outside : ¬ (offset ≤ position ∧ position < stop) := by omega
      rw [if_neg early, if_neg outside, if_neg (by omega)]
  frame block apart := by
    rw [next.frame block apart]
    exact filled.frame block fun id member => apart id (List.mem_append_left _ member)

end Filled

/-! ### After a write -/

/-- A successful write that has left zeros behind its data has filled the chain. -/
theorem Written.filled {D : Type} [BlockDevice D] [FaithfulDevice D] {layout : SuperBlock}
    {blocks : List BlockId} {offset : Nat} {data : Bytes} {before after : FileStore D}
    (written : Written layout blocks offset data before after)
    (length : blocks.length = blocksFor before.entry.size.toNat)
    (inside : offset ≤ before.entry.size.toNat)
    (zeros : offset < writeStop before.table blocks (offset + data.length) →
      Zeros layout (blocks ++ addedBlocks before.table blocks (offset + data.length)) blocks.length
        (writeStop before.table blocks (offset + data.length)) (content after.device)) :
    Filled layout (blocks ++ addedBlocks before.table blocks (offset + data.length)) blocks.length
      offset (writeStop before.table blocks (offset + data.length)) data (content before.device)
      (content after.device) where
  bytes position within := by
    have room : before.entry.size.toNat ≤ blocks.length * blockSize :=
      blocksFor_le_iff.mp (Nat.le_of_eq length.symm)
    by_cases covered : offset ≤ position ∧
        position < writeStop before.table blocks (offset + data.length)
    · rw [if_pos covered]
      exact written.bytes.written position covered.1 covered.2
    rw [if_neg covered]
    by_cases early : position < blocks.length * blockSize
    · rw [if_pos early]
      exact written.bytes.kept position early (by omega)
    · -- A block was added, so the data reaches into the last block.
      rw [if_neg early]
      have added : (addedBlocks before.table blocks (offset + data.length)).length ≤
          blocksFor (offset + data.length) - blocks.length := by
        rw [addedBlocks, List.length_take]
        exact Nat.min_le_left _ _
      have reaches := length_grown length added
      rw [List.length_append] at within
      have last : position < blocksFor (max before.entry.size.toNat
          (writeStop before.table blocks (offset + data.length))) * blockSize := by
        rw [writeStop, ← reaches]
        exact within
      have beyond : before.entry.size.toNat <
          writeStop before.table blocks (offset + data.length) := by
        by_contra short
        rw [Nat.max_eq_left (Nat.le_of_not_lt short), ← length] at last
        exact early last
      rw [Nat.max_eq_right (Nat.le_of_lt beyond)] at last
      exact zeros (by omega) position (Nat.le_of_not_lt early) (by omega) last
  frame := written.bytes.frame

end FlatVolume
