/-
**The bytes of a chain.**

`blockBytes` puts the blocks of a chain one after another.

* `slice_eq`: a piece of a block is a part of the bytes of the chain;
* `Overwritten`: data was written over the bytes of a range, block by block, up to some position;
* `Overwritten.step`: writing the next piece moves that position to the end of the piece;
* `Overwritten.take_eq`: what this means for the content of a file.
-/

import FlatVolume.File.Read
import FlatVolume.Proofs.Chain.Path
import FlatVolume.Proofs.Storage.Rows

namespace FlatVolume

/-- The bytes with `part` written over those from `offset` on. -/
def overwrite (old : Bytes) (offset : Nat) (part : Bytes) : Bytes :=
  old.take offset ++ part ++ old.drop (offset + part.length)

theorem overwrite_nil (old : Bytes) (offset : Nat) : overwrite old offset [] = old := by
  rw [overwrite, List.append_nil, List.length_nil, Nat.add_zero, List.take_append_drop]

/-- The part that is written is found where it was written, and all else where it was. -/
theorem getElem?_overwrite {old part : Bytes} {offset : Nat} (inside : offset ≤ old.length)
    (index : Nat) :
    (overwrite old offset part)[index]? =
      if offset ≤ index ∧ index < offset + part.length then part[index - offset]?
      else old[index]? := by
  have short : (old.take offset).length = offset := by
    rw [List.length_take]
    omega
  rw [overwrite, List.append_assoc]
  by_cases before : index < offset
  · rw [List.getElem?_append_left (by omega), if_neg (by omega), List.getElem?_take_of_lt before]
  rw [List.getElem?_append_right (by omega), short]
  by_cases within : index < offset + part.length
  · rw [List.getElem?_append_left (by omega), if_pos ⟨by omega, within⟩]
  · rw [List.getElem?_append_right (by omega), if_neg (by omega), List.getElem?_drop]
    congr 1
    omega

theorem ByteField.getElem?_overlay {width skip : Nat} {part : Bytes} (field : ByteField width)
    (inside : skip + part.length ≤ width) (index : Nat) :
    (field.overlay skip part).bytes[index]? =
      if skip ≤ index ∧ index < skip + part.length then part[index - skip]?
      else field.bytes[index]? := by
  have starts : skip ≤ field.bytes.length := by
    rw [field.length_eq]
    omega
  rw [bytes_overlay field inside]
  exact getElem?_overwrite starts index

theorem SuperBlock.dataBlock_inj {layout : SuperBlock} {first second : BlockId} :
    layout.dataBlock first = layout.dataBlock second ↔ first = second := by
  rw [← BlockId.toNat_inj]
  simp only [dataBlock]
  omega

/-! ### Chains as bytes -/

/-- The bytes of the blocks one after another. -/
def blockBytes (layout : SuperBlock) (disk : Nat → Block) (blocks : List BlockId) : Bytes :=
  blocks.flatMap fun id => (disk (layout.dataBlock id)).bytes

section BlockBytes

variable {layout : SuperBlock} {disk other : Nat → Block} {blocks : List BlockId} {id : BlockId}
  {index : Nat}

theorem length_blockBytes (layout : SuperBlock) (disk : Nat → Block) (blocks : List BlockId) :
    (blockBytes layout disk blocks).length = blocks.length * blockSize :=
  length_flatMap_rows fun _ _ => (disk _).length_eq

theorem blockBytes_append (layout : SuperBlock) (disk : Nat → Block)
    (blocks rest : List BlockId) :
    blockBytes layout disk (blocks ++ rest) =
      blockBytes layout disk blocks ++ blockBytes layout disk rest :=
  List.flatMap_append

/-- The bytes depend only on the blocks of the chain. -/
theorem blockBytes_congr
    (same : ∀ id ∈ blocks, other (layout.dataBlock id) = disk (layout.dataBlock id)) :
    blockBytes layout other blocks = blockBytes layout disk blocks := by
  unfold blockBytes
  rw [List.flatMap_def, List.flatMap_def]
  exact congrArg List.flatten (List.map_congr_left fun id member => by rw [same id member])

/-- A byte is found in its block. -/
theorem getElem?_blockBytes (layout : SuperBlock) (disk : Nat → Block) (blocks : List BlockId)
    (position : Nat) :
    (blockBytes layout disk blocks)[position]? =
      blocks[position / blockSize]?.bind fun id =>
        (disk (layout.dataBlock id)).bytes[position % blockSize]? :=
  getElem?_flatMap_rows (by decide) (fun _ _ => (disk _).length_eq) position

/-- The bytes of one block of the chain. -/
theorem getElem?_blockBytes_of_found (found : blocks[index]? = some id) {position : Nat}
    (least : index * blockSize ≤ position) (below : position < (index + 1) * blockSize) :
    (blockBytes layout disk blocks)[position]? =
      (disk (layout.dataBlock id)).bytes[position - index * blockSize]? := by
  simp only [blockSize] at least below
  have block : position / blockSize = index := by
    simp only [blockSize]
    omega
  have rest : position % blockSize = position - index * blockSize := by
    simp only [blockSize]
    omega
  rw [getElem?_blockBytes, block, found, rest]
  rfl

/-- A piece of a block of the chain is a part of the bytes of the chain. -/
theorem slice_eq (found : blocks[index]? = some id) {start length : Nat}
    (least : index * blockSize ≤ start) (below : start + length ≤ (index + 1) * blockSize) :
    (disk (layout.dataBlock id)).slice (start - index * blockSize) length =
      ((blockBytes layout disk blocks).drop start).take length := by
  refine List.ext_getElem? fun position => ?_
  rw [ByteField.slice, List.getElem?_take, List.getElem?_take]
  by_cases inside : position < length
  · rw [if_pos inside, if_pos inside, List.getElem?_drop, List.getElem?_drop,
      getElem?_blockBytes_of_found found (by omega) (by omega)]
    congr 1
    omega
  · rw [if_neg inside, if_neg inside]

end BlockBytes

/-! ### Writing piece by piece -/

/-- The data was written over the bytes from `offset` to `stop` of the chain. Of its first `fresh`
blocks nothing else has changed, and no block outside the chain has. -/
structure Overwritten (layout : SuperBlock) (blocks : List BlockId) (fresh offset stop : Nat)
    (data : Bytes) (before after : Nat → Block) : Prop where
  written : ∀ position, offset ≤ position → position < stop →
    (blockBytes layout after blocks)[position]? = data[position - offset]?
  kept : ∀ position, position < fresh * blockSize → position < offset ∨ stop ≤ position →
    (blockBytes layout after blocks)[position]? = (blockBytes layout before blocks)[position]?
  frame : ∀ block, (∀ id ∈ blocks, block ≠ layout.dataBlock id) → after block = before block

namespace Overwritten

variable {layout : SuperBlock} {blocks : List BlockId} {fresh offset stop : Nat} {data : Bytes}
  {before middle : Nat → Block}

/-- Nothing was written yet. -/
theorem start (layout : SuperBlock) (blocks : List BlockId) (fresh offset : Nat) (data : Bytes)
    (disk : Nat → Block) : Overwritten layout blocks fresh offset offset data disk disk where
  written _ _ _ := by omega
  kept _ _ _ := rfl
  frame _ _ := rfl

/-- Only the data that reaches the position matters. -/
theorem of_take {length : Nat} (short : stop - offset ≤ length)
    (overwritten : Overwritten layout blocks fresh offset stop (data.take length) before middle) :
    Overwritten layout blocks fresh offset stop data before middle where
  written position least below := by
    rw [overwritten.written position least below, List.getElem?_take_of_lt (by omega)]
  kept := overwritten.kept
  frame := overwritten.frame

/-- The next piece is written. It starts where the block or the data starts and does not reach
behind the block. The old content of the block matters only if some of it stays. -/
theorem step {index place next : Nat} {id : BlockId} {old : Block}
    (overwritten : Overwritten layout blocks fresh offset place data before middle)
    (distinct : blocks.Nodup) (found : blocks[index]? = some id)
    (starts : place = max offset (index * blockSize)) (later : place ≤ next)
    (ends : next ≤ (index + 1) * blockSize) (enough : next - offset ≤ data.length)
    (content : index < fresh → ¬ (place = index * blockSize ∧ next = (index + 1) * blockSize) →
      old = middle (layout.dataBlock id)) :
    Overwritten layout blocks fresh offset next data before
      (Function.update middle (layout.dataBlock id)
        (old.overlay (place - index * blockSize)
          ((data.drop (place - offset)).take (next - place)))) := by
  have length : ((data.drop (place - offset)).take (next - place)).length = next - place := by
    rw [List.length_take, List.length_drop]
    omega
  have fits : place - index * blockSize +
      ((data.drop (place - offset)).take (next - place)).length ≤ blockSize := by
    rw [length]
    simp only [blockSize] at *
    omega
  -- The other blocks of the chain are not the one that is written.
  have others : ∀ position, ¬ (index * blockSize ≤ position ∧ position < (index + 1) * blockSize) →
      (blockBytes layout (Function.update middle (layout.dataBlock id)
        (old.overlay (place - index * blockSize)
          ((data.drop (place - offset)).take (next - place)))) blocks)[position]? =
        (blockBytes layout middle blocks)[position]? := by
    intro position outside
    rw [getElem?_blockBytes, getElem?_blockBytes]
    cases elsewhere : blocks[position / blockSize]? with
    | none => rfl
    | some other =>
      have apart : other ≠ id := by
        rintro rfl
        have same := (List.getElem?_inj (List.getElem?_eq_some_iff.mp found).1 distinct).mp
          (found.trans elsewhere.symm)
        simp only [blockSize] at *
        omega
      rw [Option.bind_some, Option.bind_some,
        Function.update_of_ne (mt SuperBlock.dataBlock_inj.mp apart)]
  refine ⟨fun position least below => ?_, fun position early outside => ?_, fun block apart => ?_⟩
  · by_cases here : index * blockSize ≤ position ∧ position < (index + 1) * blockSize
    · rw [getElem?_blockBytes_of_found found here.1 here.2, Function.update_self,
        ByteField.getElem?_overlay old fits, length, if_pos (by omega), List.getElem?_take,
        if_pos (by omega), List.getElem?_drop]
      congr 1
      omega
    · rw [others position here]
      exact overwritten.written position least (by omega)
  · by_cases here : index * blockSize ≤ position ∧ position < (index + 1) * blockSize
    · have isOld : index < fresh := by
        simp only [blockSize] at *
        omega
      rw [getElem?_blockBytes_of_found found here.1 here.2, Function.update_self,
        ByteField.getElem?_overlay old fits, length, if_neg (by omega),
        content isOld (by omega), ← getElem?_blockBytes_of_found found here.1 here.2]
      exact overwritten.kept position early (by omega)
    · rw [others position here]
      exact overwritten.kept position early (by omega)
  · rw [Function.update_of_ne (apart id (List.mem_of_getElem? found))]
    exact overwritten.frame block apart

/-- The content of a file after its bytes were written over. Nothing is written behind the new end
of the file, and the file does not end before the old end. -/
theorem take_eq {added : List BlockId} {size limit : Nat}
    (overwritten : Overwritten layout (blocks ++ added) blocks.length offset stop data before
      middle)
    (inside : offset ≤ size) (room : size ≤ blocks.length * blockSize) (least : size ≤ limit)
    (most : limit ≤ max size stop) (enough : stop - offset ≤ data.length) :
    (blockBytes layout middle (blocks ++ added)).take limit =
      overwrite ((blockBytes layout before blocks).take size) offset
        (data.take (min stop limit - offset)) := by
  have length : ((blockBytes layout before blocks).take size).length = size := by
    rw [List.length_take, length_blockBytes]
    omega
  have part : (data.take (min stop limit - offset)).length = min stop limit - offset := by
    rw [List.length_take]
    omega
  refine List.ext_getElem? fun position => ?_
  rw [getElem?_overwrite (by omega), part, List.getElem?_take]
  by_cases within : offset ≤ position ∧ position < offset + (min stop limit - offset)
  · rw [if_pos within, if_pos (by omega), overwritten.written position within.1 (by omega),
      List.getElem?_take_of_lt (by omega)]
  rw [if_neg within]
  by_cases early : position < size
  · rw [if_pos (by omega), overwritten.kept position (by omega) (by omega), blockBytes_append,
      List.getElem?_append_left (by rw [length_blockBytes]; omega),
      List.getElem?_take_of_lt early]
  · rw [if_neg (by omega), List.getElem?_eq_none (by omega)]

end Overwritten

end FlatVolume
