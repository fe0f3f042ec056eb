/-
**Writing a file in pieces.**

Data may be cut into two parts that are written one after the other. The second part gets the blocks
that one write would have taken next, and it stops where one write would (`room_append`).

`Stored`: data was stored as far as there was room for it, with all that this changes. So it tells
the table, the entry and the content of the device (`Stored.unique`), and two parts that are stored
one after the other are stored as one (`Stored.append`).
-/

import FlatVolume.Proofs.File.Filled

namespace FlatVolume

/-! ### Room -/

section Room

variable {table after : Table} {blocks : List BlockId} {offset length middle more : Nat}

/-- A write does not stop before its offset if the chain has that. -/
theorem le_writeStop (room : offset ≤ blocks.length * blockSize) (least : offset ≤ length) :
    offset ≤ writeStop table blocks length := by
  refine Nat.le_min.mpr ⟨least, Nat.le_trans room ?_⟩
  exact Nat.mul_le_mul_right blockSize (Nat.le_add_right ..)

/-- After a first part that reaches to `middle` there is the room that there was for both parts. The
first part was cut off only if nothing of the second one finds room. -/
theorem room_append (left : after.unusedBlocks =
      table.unusedBlocks.drop (blocksFor middle - blocks.length)) (more : Nat) :
    let added := addedBlocks table blocks middle
    let stop := writeStop table blocks middle
    addedBlocks table blocks (middle + more) =
        added ++ addedBlocks after (blocks ++ added) (stop + more) ∧
      writeStop table blocks (middle + more) =
        writeStop after (blocks ++ added) (stop + more) ∧
      after.unusedBlocks.drop (blocksFor (stop + more) - (blocks ++ added).length) =
        table.unusedBlocks.drop (blocksFor (middle + more) - blocks.length) ∧
      (stop < writeStop after (blocks ++ added) (stop + more) → stop = middle) := by
  intro added stop
  have list : added = table.unusedBlocks.take (blocksFor middle - blocks.length) := rfl
  have monotone : blocksFor middle ≤ blocksFor (middle + more) :=
    blocksFor_le_iff.mpr (Nat.le_trans (Nat.le_add_right ..) (blocksFor_le_iff.mp (Nat.le_refl _)))
  by_cases enough : blocksFor middle - blocks.length ≤ table.unusedBlocks.length
  · have length : added.length = blocksFor middle - blocks.length := by
      rw [list, List.length_take, Nat.min_eq_left enough]
    have whole : stop = middle := by
      refine Nat.min_eq_left (blocksFor_le_iff.mp ?_)
      show blocksFor middle ≤ blocks.length + added.length
      omega
    have blocksEq : addedBlocks table blocks (middle + more) =
        added ++ addedBlocks after (blocks ++ added) (stop + more) := by
      rw [addedBlocks, addedBlocks, whole, left, List.length_append, length, list,
        ← List.take_add]
      congr 1
      omega
    refine ⟨blocksEq, ?_, ?_, fun _ => whole⟩
    · rw [writeStop, writeStop, blocksEq, whole, List.length_append, List.length_append,
        Nat.add_assoc]
    · rw [left, List.drop_drop, whole, List.length_append, length]
      congr 1
      omega
  · -- The first part has used up all blocks.
    have short : table.unusedBlocks.length ≤ blocksFor middle - blocks.length := by omega
    have all : added = table.unusedBlocks := List.take_of_length_le short
    have none : addedBlocks after (blocks ++ added) (stop + more) = [] := by
      rw [addedBlocks, left, List.drop_of_length_le short, List.take_nil]
    have full : stop = (blocks.length + added.length) * blockSize := by
      refine Nat.min_eq_right (Nat.le_of_lt (lt_blocksFor_iff.mp ?_))
      show blocks.length + added.length < blocksFor middle
      rw [all]
      omega
    have blocksEq : addedBlocks table blocks (middle + more) = added := by
      rw [addedBlocks, List.take_of_length_le (by omega), all]
    have room : stop ≤ middle := writeStop_le
    have next : writeStop after (blocks ++ added) (stop + more) = stop := by
      rw [writeStop, none, List.length_append, List.length_nil, Nat.add_zero, ← full]
      exact Nat.min_eq_right (Nat.le_add_right ..)
    refine ⟨by rw [blocksEq, none, List.append_nil], ?_, ?_, fun later => ?_⟩
    · rw [next, writeStop, blocksEq, ← full]
      omega
    · rw [left, List.drop_of_length_le short, List.drop_nil, List.drop_of_length_le (by omega)]
    · rw [next] at later
      exact absurd later (Nat.lt_irrefl _)

end Room

/-! ### Files -/

/-- The file was extended by the blocks `added`, and its bytes from `offset` to `stop` were
written. -/
structure Extended {D : Type} [BlockDevice D] [StoringDevice D] (layout : SuperBlock)
    (blocks added : List BlockId) (offset stop : Nat) (data : Bytes)
    (before after : FileStore D) : Prop where
  grown : before.table.Grown after.table before.entry.first blocks after.entry.first added
  name : after.entry.nameField = before.entry.nameField
  size : after.entry.size.toNat = max before.entry.size.toNat stop
  filled : Filled layout (blocks ++ added) blocks.length offset stop data (content before.device)
    (content after.device)

namespace Extended

variable {D : Type} [BlockDevice D] [StoringDevice D] {layout : SuperBlock}
  {blocks added more : List BlockId} {offset place stop : Nat} {data rest : Bytes}
  {before middle after other : FileStore D}

/-- What a write has done tells what it has left behind. -/
theorem unique (small : before.table.size ≤ 65535)
    (first : Extended layout blocks added offset stop data before after)
    (second : Extended layout blocks added offset stop data before other) :
    other.table = after.table ∧ other.entry = after.entry ∧
      content other.device = content after.device := by
  obtain ⟨heads, tables⟩ := first.grown.unique small second.grown
  refine ⟨tables, ?_, first.filled.unique second.filled⟩
  have sizes : other.entry.size = after.entry.size :=
    UInt32.toNat_inj.mp (second.size.trans first.size.symm)
  have names := second.name.trans first.name.symm
  cases entry : other.entry
  cases entry' : after.entry
  simp_all

/-- Two parts that are written one after the other are written as one. The first one may have been
cut off only if nothing of the second one was written. -/
theorem trans (first : Extended layout blocks added offset place data before middle)
    (second : Extended layout (blocks ++ added) more place stop rest middle after)
    (begins : offset ≤ place) (goes : place ≤ stop)
    (room : place ≤ (blocks ++ added).length * blockSize)
    (whole : place < stop → place - offset = data.length)
    (short : place - offset ≤ data.length) :
    Extended layout blocks (added ++ more) offset stop (data ++ rest) before after where
  grown := first.grown.trans second.grown
  name := second.name.trans first.name
  size := by
    rw [second.size, first.size]
    omega
  filled := by
    have filled := first.filled.trans second.filled begins goes room ?_ whole short
    · rwa [List.append_assoc] at filled
    · rw [List.length_append]
      omega

end Extended

/-- The data was stored as far as there was room for it, which is for `count` bytes. -/
structure Stored {D : Type} [BlockDevice D] [StoringDevice D] (layout : SuperBlock)
    (blocks : List BlockId) (offset : Nat) (data : Bytes) (count : Nat)
    (before after : FileStore D) : Prop where
  stop : offset + count = writeStop before.table blocks (offset + data.length)
  unused : after.table.unusedBlocks =
    before.table.unusedBlocks.drop (blocksFor (offset + data.length) - blocks.length)
  extended : Extended layout blocks (addedBlocks before.table blocks (offset + data.length)) offset
    (offset + count) data before after

namespace Stored

variable {D : Type} [BlockDevice D] [StoringDevice D] {layout : SuperBlock}
  {blocks : List BlockId} {offset count more total : Nat} {data rest : Bytes}
  {before middle after other : FileStore D}

theorem count_le (stored : Stored layout blocks offset data count before after) :
    count ≤ data.length := by
  have stop := stored.stop
  have stopLe : writeStop before.table blocks (offset + data.length) ≤ offset + data.length :=
    writeStop_le
  omega

/-- What is stored tells its count and what it has left behind. -/
theorem unique (small : before.table.size ≤ 65535)
    (first : Stored layout blocks offset data count before after)
    (second : Stored layout blocks offset data total before other) :
    total = count ∧ other.table = after.table ∧ other.entry = after.entry ∧
      content other.device = content after.device := by
  obtain rfl : total = count := Nat.add_left_cancel (second.stop.trans first.stop.symm)
  exact ⟨rfl, first.extended.unique small second.extended⟩

/-- Two parts that are stored one after the other are stored as one. -/
theorem append (first : Stored layout blocks offset data count before middle)
    (second : Stored layout (blocks ++ addedBlocks before.table blocks (offset + data.length))
      (offset + count) rest more middle after) :
    Stored layout blocks offset (data ++ rest) (count + more) before after := by
  have lengths : offset + (data ++ rest).length = offset + data.length + rest.length := by
    rw [List.length_append, Nat.add_assoc]
  obtain ⟨blocksEq, stopEq, unusedEq, full⟩ := room_append first.unused rest.length
  rw [← first.stop] at blocksEq stopEq unusedEq full
  have extended := first.extended.trans second.extended (Nat.le_add_right ..)
    (Nat.le_add_right ..) (first.stop ▸ writeStop_le_room) (fun later => ?_) ?_
  · refine ⟨?_, ?_, ?_⟩
    · rw [lengths, stopEq, ← second.stop, Nat.add_assoc]
    · rw [lengths, second.unused, unusedEq]
    · rw [lengths, blocksEq, ← Nat.add_assoc]
      exact extended
  · rw [second.stop] at later
    exact Nat.sub_eq_of_eq_add' (full later)
  · rw [Nat.add_sub_cancel_left]
    exact first.count_le

end Stored

end FlatVolume
