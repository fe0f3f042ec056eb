/-
**The calls of a write.**

Data that is written along a chain goes into the blocks that it covers, one after another. Each of
them is written once. It is read before that if the file had the block and some of its bytes stay
(`blockCalls`).

* `writeCalls`: the calls for all blocks of a chain;
* `performs_writeChain`: a write along a chain that succeeds has made just these calls.
-/

import FlatVolume.Proofs.Calls.Exact
import FlatVolume.Proofs.File.Write

namespace FlatVolume

/-- Some of the bytes from `offset` to `stop` lie in the block at the index. -/
def Covers (offset stop index : Nat) : Prop :=
  max offset (index * blockSize) < min stop ((index + 1) * blockSize)

/-- The bytes from `offset` to `stop` have all of the block at the index. -/
def CoversAll (offset stop index : Nat) : Prop :=
  offset ≤ index * blockSize ∧ (index + 1) * blockSize ≤ stop

section Covers

variable {offset stop index : Nat}

instance : Decidable (Covers offset stop index) := inferInstanceAs (Decidable (_ < _))

instance : Decidable (CoversAll offset stop index) := inferInstanceAs (Decidable (_ ∧ _))

/-- The piece in a block is the whole block if the bytes have all of it. -/
theorem Span.isWhole_cut : (Span.cut offset stop index).IsWhole ↔ CoversAll offset stop index := by
  simp only [IsWhole, cut, CoversAll, blockSize]
  omega

end Covers

namespace Disk

/-- The calls for one block that some of the data goes into. The blocks from `fresh` on are new. -/
def blockCalls (layout : SuperBlock) (fresh offset stop index : Nat) (id : BlockId) : List Call :=
  if CoversAll offset stop index ∨ fresh ≤ index then [⟨.write, layout.dataBlock id, false⟩]
  else [⟨.read, layout.dataBlock id, false⟩, ⟨.write, layout.dataBlock id, false⟩]

/-- The calls for blocks of a chain in order, the first of them at `start`. -/
def writeCalls (layout : SuperBlock) (fresh offset stop start : Nat) (blocks : List BlockId) :
    List Call :=
  (blocks.zipIdx start).flatMap fun (id, index) =>
    if Covers offset stop index then blockCalls layout fresh offset stop index id else []

section Calls

variable {layout : SuperBlock} {table : Table} {head last id : BlockId} {blocks rest : List BlockId}
  {fresh offset stop start index count : Nat} {data : Bytes} {disk : Disk}

theorem writeCalls_append :
    writeCalls layout fresh offset stop start (blocks ++ rest) =
      writeCalls layout fresh offset stop start blocks ++
        writeCalls layout fresh offset stop (start + blocks.length) rest := by
  rw [writeCalls, List.zipIdx_append, List.flatMap_append]
  rfl

/-- A block that has none of the data needs no call. -/
theorem writeCalls_of_not_covers
    (apart : ∀ index, start ≤ index → index < start + blocks.length → ¬ Covers offset stop index) :
    writeCalls layout fresh offset stop start blocks = [] := by
  rw [writeCalls, List.flatMap_eq_nil_iff]
  intro block member
  obtain ⟨least, below, _⟩ := List.mem_zipIdx member
  exact if_neg (apart block.2 least below)

/-- Only blocks that have some of the data are written. -/
theorem exists_of_mem_writeCalls {block : Nat}
    (member : ⟨.write, block, false⟩ ∈ writeCalls layout fresh offset stop 0 blocks) :
    ∃ index id, blocks[index]? = some id ∧ Covers offset stop index ∧
      block = layout.dataBlock id := by
  obtain ⟨⟨id, index⟩, inside, call⟩ := List.mem_flatMap.mp member
  have found : blocks[index]? = some id := List.mem_zipIdx_iff_getElem?.mp inside
  by_cases covers : Covers offset stop index
  · refine ⟨index, id, found, covers, ?_⟩
    simp only [covers, ↓reduceIte, blockCalls] at call
    split at call <;> simpa using call
  · simp only [covers, ↓reduceIte, List.not_mem_nil] at call

/-- The calls for a block that has some of the data come before those for the blocks after it. -/
theorem writeCalls_drop (found : blocks[index]? = some id) (covers : Covers offset stop index) :
    writeCalls layout fresh offset stop index (blocks.drop index) =
      blockCalls layout fresh offset stop index id ++
        writeCalls layout fresh offset stop (index + 1) (blocks.drop (index + 1)) := by
  obtain ⟨inside, rfl⟩ := List.getElem?_eq_some_iff.mp found
  rw [List.drop_eq_getElem_cons inside, writeCalls, List.zipIdx_cons, List.flatMap_cons]
  dsimp only
  rw [if_pos covers]
  rfl

/-- The calls for one piece. -/
theorem performs_writeSpan (part : Bytes) :
    Performs (blockCalls layout fresh offset stop index id)
      (writeSpan layout fresh (Span.cut offset stop index) part id) disk := by
  have replaced : (Span.cut offset stop index).IsWhole ∨
      fresh ≤ (Span.cut offset stop index).index ↔ CoversAll offset stop index ∨ fresh ≤ index :=
    or_congr_left Span.isWhole_cut
  unfold writeSpan blockCalls
  dsimp only
  by_cases whole : CoversAll offset stop index ∨ fresh ≤ index
  · rw [if_pos whole, if_pos (replaced.mpr whole)]
    exact performs_storeBlock _ _
  · rw [if_neg whole, if_neg (mt replaced.mp whole)]
    exact (performs_fetchBlock _).bind fun old fetched _ => performs_storeBlock _ _

/-- The pieces are written with the calls for their blocks, and the blocks after them need none. -/
theorem performs_writeSpans (path : table.Path head blocks last) (found : blocks[index]? = some id)
    (before : offset < (index + 1) * blockSize) (nonempty : offset < stop)
    (reaches : index + (count + 1) = blocksFor stop) (enough : blocksFor stop ≤ blocks.length) :
    Performs (writeCalls layout fresh offset stop index (blocks.drop index))
      (writeSpans layout table fresh (spansFrom offset stop index (count + 1)) data id) disk := by
  have starts : index * blockSize < stop := lt_blocksFor_iff.mp (by omega)
  have next : (index + 1) * blockSize = index * blockSize + blockSize := Nat.succ_mul ..
  have size : 0 < blockSize := by decide
  have covers : Covers offset stop index := by
    unfold Covers
    omega
  rw [writeCalls_drop found covers]
  induction count generalizing index id data disk with
  | zero =>
    have ends : stop ≤ (index + 1) * blockSize := blocksFor_le_iff.mp (by omega)
    have behind : writeCalls layout fresh offset stop (index + 1) (blocks.drop (index + 1)) =
        [] := by
      refine writeCalls_of_not_covers fun later least _ covers => ?_
      have behind := Nat.mul_le_mul_right blockSize least
      unfold Covers at covers
      omega
    rw [behind, List.append_nil]
    exact performs_writeSpan _
  | succ count hypothesis =>
    have ends : (index + 1) * blockSize < stop := lt_blocksFor_iff.mp (by omega)
    have below : index + 1 < blocks.length := by omega
    have more : blocks[index + 1]? = some blocks[index + 1] := List.getElem?_eq_getElem below
    have later : (index + 1 + 1) * blockSize = (index + 1) * blockSize + blockSize :=
      Nat.succ_mul ..
    have coversNext : Covers offset stop (index + 1) := by
      unfold Covers
      omega
    refine (performs_writeSpan _).bind fun _ middle _ => ?_
    rw [path.follows found more, writeCalls_drop more coversNext]
    apply Performs.settle_bind
    intro block same
    obtain rfl := Except.ok.inj same
    exact hypothesis more (by omega) (by omega) ends later coversNext

/-- Data that is written along a chain takes the calls for the blocks that it covers. -/
theorem performs_writeChain (chain : table.IsChain head blocks) (some : data ≠ [])
    (enough : offset + data.length ≤ blocks.length * blockSize) :
    Performs (writeCalls layout fresh offset (offset + data.length) 0 blocks)
      (writeChain layout table head fresh offset data) disk := by
  have positive : 0 < data.length := List.length_pos_of_ne_nil some
  have fits := blocksFor_le_iff.mpr enough
  obtain ⟨count, id, found, begins, reaches, equation⟩ :=
    writeChain_eq Disk layout fresh chain some enough
  have short : (blocks.take (offset / blockSize)).length = offset / blockSize := by
    rw [List.length_take]
    omega
  have before : writeCalls layout fresh offset (offset + data.length) 0
      (blocks.take (offset / blockSize)) = [] := by
    refine writeCalls_of_not_covers fun index _ early covers => ?_
    rw [short, Nat.zero_add] at early
    simp only [Covers, blockSize] at *
    omega
  rw [← List.take_append_drop (offset / blockSize) blocks, writeCalls_append, before,
    List.nil_append, short, Nat.zero_add, equation]
  exact performs_writeSpans chain found begins (by omega) reaches fits

end Calls

end Disk

end FlatVolume
