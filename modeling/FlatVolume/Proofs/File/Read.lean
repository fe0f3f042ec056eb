/-
**Reading from an intact chain.**

`readFile_yields`: on a file whose chain is long enough for its size, a read gives the bytes of the
file from the offset on, as many as were asked for and there are. It fails only for a range that has
no end, or because the device fails.
-/

import FlatVolume.Proofs.Device
import FlatVolume.Proofs.File.Content

namespace FlatVolume

open BlockDevice

/-- The piece of a range in a block starts where the range or the block does. -/
theorem Span.skip_cut (offset stop index : Nat) :
    (Span.cut offset stop index).skip = max offset (index * blockSize) - index * blockSize := by
  simp only [Span.cut]
  omega

/-- The piece of a range in a block ends where the range or the block does. -/
theorem Span.length_cut {offset stop index : Nat} (inside : index * blockSize ≤ stop) :
    (Span.cut offset stop index).length =
      min stop ((index + 1) * blockSize) - max offset (index * blockSize) := by
  simp only [Span.cut, blockSize] at *
  omega

/-- The pieces from one block on. -/
def spansFrom (offset stop index count : Nat) : List Span :=
  (List.range' index count).map (Span.cut offset stop)

/-- A range that is not empty has a piece in the block where it starts. -/
theorem spans_eq (offset : Nat) {length : Nat} (some : 0 < length) :
    ∃ count, spans offset length = spansFrom offset (offset + length) (offset / blockSize)
        (count + 1) ∧
      offset / blockSize + (count + 1) = blocksFor (offset + length) := by
  have more : offset / blockSize < blocksFor (offset + length) := by
    rw [lt_blocksFor_iff]
    simp only [blockSize]
    omega
  refine ⟨blocksFor (offset + length) - offset / blockSize - 1, ?_, by omega⟩
  rw [spans, if_neg (by omega), spansFrom]
  dsimp only
  congr 2
  omega

section Read

variable {D : Type} [BlockDevice D] [StoringDevice D]
  {layout : SuperBlock} {table : Table} {head last : BlockId} {blocks : List BlockId}

/-- The pieces from a block of a path on give the bytes of the path up to the end of the range. The
path may lead to anything. -/
theorem readSpans_yields (device : D) (path : table.Path head blocks last)
    (inside : ∀ id ∈ blocks, layout.dataBlock id < numBlocks device) {offset stop index count : Nat}
    {id : BlockId} (found : blocks[index]? = some id) (before : offset < (index + 1) * blockSize)
    (some : offset < stop) (reaches : index + (count + 1) = blocksFor stop)
    (enough : blocksFor stop ≤ blocks.length) :
    Yields (readSpans layout table (spansFrom offset stop index (count + 1)) id) device
      (fun data after =>
        data = ((blockBytes layout (content device) blocks).drop
          (max offset (index * blockSize))).take (stop - max offset (index * blockSize)) ∧
        content after = content device ∧ Follows device after)
      (fun cause after => DeviceFault device cause ∧
        content after = content device ∧ Follows device after) := by
  have starts : index * blockSize < stop := lt_blocksFor_iff.mp (by omega)
  have here := inside id (List.mem_of_getElem? found)
  induction count generalizing index id device with
  | zero =>
    have ends : stop ≤ (index + 1) * blockSize := blocksFor_le_iff.mp (by omega)
    refine yields_bind.mpr ((fetchBlock_yields _ device).mono ?_ ?_)
    · intro result after ended
      obtain ⟨rfl, same, follows⟩ := ended
      refine ⟨?_, same, follows⟩
      rw [Span.skip_cut, Span.length_cut (Nat.le_of_lt starts), Nat.min_eq_left ends]
      refine slice_eq found (Nat.le_max_right _ _) ?_
      simp only [blockSize] at *
      omega
    · intro cause after ended
      obtain ⟨failure, same, follows⟩ := ended
      exact ⟨failure.fault here, same, follows⟩
  | succ count hypothesis =>
    have ends : (index + 1) * blockSize < stop := lt_blocksFor_iff.mp (by omega)
    have below : index + 1 < blocks.length := by omega
    have more : blocks[index + 1]? = .some blocks[index + 1] := List.getElem?_eq_getElem below
    refine yields_bind.mpr ((fetchBlock_yields _ device).mono ?_ ?_)
    · intro result fetched ended
      obtain ⟨rfl, same, follows⟩ := ended
      rw [path.follows found more, yields_bind, yields_settle_ok, yields_bind]
      have stillInside : ∀ id ∈ blocks, layout.dataBlock id < numBlocks fetched := by
        rw [follows.numBlocks_eq]
        exact inside
      have stillBefore : offset < (index + 1 + 1) * blockSize := by
        rw [Nat.succ_mul]
        omega
      have rest := hypothesis fetched stillInside more stillBefore (by omega) ends
        (stillInside _ (List.mem_of_getElem? more))
      rw [same] at rest
      refine rest.mono ?_ ?_
      · intro data after ended
        obtain ⟨rfl, still, later⟩ := ended
        refine ⟨?_, still, follows.trans later⟩
        have next : max offset ((index + 1) * blockSize) = (index + 1) * blockSize :=
          Nat.max_eq_right (Nat.le_of_lt before)
        rw [Span.skip_cut, Span.length_cut (Nat.le_of_lt starts),
          Nat.min_eq_right (Nat.le_of_lt ends),
          slice_eq found (Nat.le_max_right _ _) (by simp only [blockSize] at *; omega), next]
        have split : stop - max offset (index * blockSize) =
            (index + 1) * blockSize - max offset (index * blockSize) +
              (stop - (index + 1) * blockSize) := by
          simp only [blockSize] at *
          omega
        have place : max offset (index * blockSize) +
            ((index + 1) * blockSize - max offset (index * blockSize)) =
              (index + 1) * blockSize := by
          simp only [blockSize] at *
          omega
        rw [split, List.take_add, List.drop_drop, place]
      · intro cause after ended
        obtain ⟨fault, still, later⟩ := ended
        exact ⟨fault.of_follows follows, still, follows.trans later⟩
    · intro cause after ended
      obtain ⟨failure, same, follows⟩ := ended
      exact ⟨failure.fault here, same, follows⟩

/-- A read gives the bytes of the file from the offset on. -/
theorem readFile_yields (device : D) {entry : DirEntry} (chain : table.IsChain entry.first blocks)
    (inside : ∀ id ∈ blocks, layout.dataBlock id < numBlocks device)
    (enough : blocksFor entry.size.toNat ≤ blocks.length) (offset length : Nat) :
    Yields (readFile layout table entry offset length) device
      (fun data after => offset + length < positionLimit ∧
        data = (((blockBytes layout (content device) blocks).take entry.size.toNat).drop
          offset).take length ∧
        content after = content device ∧ Follows device after)
      (fun cause after =>
        (cause = .invalidArgument ∧ positionLimit ≤ offset + length ∨ DeviceFault device cause) ∧
        content after = content device ∧ Follows device after) := by
  unfold readFile
  by_cases endless : positionLimit ≤ offset + length
  · rw [if_pos endless]
    exact ⟨.inl ⟨rfl, endless⟩, rfl, .refl device⟩
  rw [if_neg endless]
  have within : ∀ bytes : Bytes, ((bytes.take entry.size.toNat).drop offset).take length =
      (bytes.drop offset).take (min (offset + length) entry.size.toNat - offset) := by
    intro bytes
    rw [List.drop_take, List.take_take]
    congr 1
    omega
  rw [within]
  dsimp only
  by_cases nothing : min (offset + length) entry.size.toNat ≤ offset
  · rw [if_pos nothing]
    refine ⟨Nat.lt_of_not_le endless, ?_, rfl, .refl device⟩
    rw [Nat.sub_eq_zero_of_le nothing, List.take_zero]
  rw [if_neg nothing]
  have some : 0 < min (offset + length) entry.size.toNat - offset := by omega
  have stop : offset + (min (offset + length) entry.size.toNat - offset) =
      min (offset + length) entry.size.toNat := by omega
  obtain ⟨count, pieces, reaches⟩ := spans_eq offset some
  rw [stop] at pieces reaches
  have fits : blocksFor (min (offset + length) entry.size.toNat) ≤ blocks.length :=
    Nat.le_trans (blocksFor_le_iff.mpr (Nat.le_trans (Nat.min_le_right _ _)
      (blocksFor_le_iff.mp (Nat.le_refl _)))) enough
  have below : offset / blockSize < blocks.length := by omega
  have found := List.getElem?_eq_getElem below
  rw [Table.blockAt, chain.nth_eq found, yields_bind, yields_settle_ok, pieces]
  have read := readSpans_yields device chain inside found
    (by simp only [blockSize]; omega) (Nat.lt_of_not_le nothing) reaches fits
  have start : max offset (offset / blockSize * blockSize) = offset := by
    simp only [blockSize]
    omega
  rw [start] at read
  refine read.mono ?_ ?_
  · intro data after ended
    obtain ⟨rfl, same, follows⟩ := ended
    exact ⟨Nat.lt_of_not_le endless, rfl, same, follows⟩
  · intro cause after ended
    obtain ⟨fault, same, follows⟩ := ended
    exact ⟨.inr fault, same, follows⟩

end Read

end FlatVolume
