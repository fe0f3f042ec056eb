/-
**Formatting a device.**

`format_yields`: formatting makes a device hold the volume without files (`Volume.fresh`), unless
its size cannot be divided or it fails. The volume without files is sound, and it is what is read
from a device that was just formatted (`ofDisk_fresh`). A reliable device of a size that can be
divided is formatted and mounted (`mount_of_format`).
-/

import FlatVolume.Proofs.Storage.Saved

namespace FlatVolume

open BlockDevice

/-- A volume without files. -/
def Volume.fresh (layout : SuperBlock) : Volume where
  layout := layout
  table := .empty layout.dataBlocks.toNat
  directory := .empty
  descriptors := .empty

theorem Directory.isFree_get_empty (slot : Slot) : (Directory.empty.get slot).IsFree := by
  rw [Directory.get, Directory.empty]
  show (Vector.replicate slotCount DirEntry.empty)[slot.val].IsFree
  rw [Vector.getElem_replicate]
  exact DirEntry.isFree_empty

theorem Directory.cleared_empty : Directory.empty.cleared = .empty := by
  rw [Directory.cleared, Directory.empty, Vector.map_replicate, if_pos DirEntry.isFree_empty]

@[simp] theorem Table.size_empty (dataBlocks : Nat) :
    (Table.empty dataBlocks).size = dataBlocks := by
  simp [Table.empty, Table.size]

/-- Only block `0` of an empty table is in use. -/
theorem Table.entry_empty {dataBlocks : Nat} {id : BlockId} (isLink : id.IsLink dataBlocks) :
    (Table.empty dataBlocks).entry id = .unused := by
  have zero : BlockId.unused.toNat = 0 := rfl
  have apart : id.toNat ≠ 0 :=
    fun equal => isLink.1 (BlockId.toNat_inj.mp (equal.trans zero.symm))
  simp [Table.empty, Table.entry, Array.getD_eq_getD_getElem?, Ne.symm apart, isLink.toNat_lt]

/-- A volume without files is sound. -/
theorem Volume.fresh_sound {layout : SuperBlock} {deviceBlocks : Nat}
    (valid : layout.Valid deviceBlocks) : (Volume.fresh layout).Sound deviceBlocks := by
  have positive : 0 < layout.dataBlocks.toNat := valid.data_pos
  refine sound_of_unopened valid ⟨Table.size_empty _, ?_, fun value member => ?_⟩
    (fun slot occupied => ?_) rfl
  · show ((Array.replicate layout.dataBlocks.toNat BlockId.unused).setIfInBounds 0
      .endOfChain)[0]? = _
    rw [Array.getElem?_setIfInBounds, if_pos rfl, if_pos (by simpa using positive)]
  · rcases Array.mem_or_eq_of_mem_setIfInBounds member with member | rfl
    · exact .inl (Array.eq_of_mem_replicate member)
    · exact .inr (.inl rfl)
  · exact absurd (Directory.isFree_get_empty slot) occupied

/-- Writing a volume without files back and mounting it again changes nothing. -/
theorem Volume.reopened_fresh (layout : SuperBlock) :
    (Volume.fresh layout).reopened = .fresh layout := by
  show { Volume.fresh layout with directory := Directory.empty.cleared } = Volume.fresh layout
  rw [Directory.cleared_empty]
  rfl

/-- All blocks of a volume without files are unused, except block `0`. -/
theorem Volume.fresh_unused {layout : SuperBlock} {deviceBlocks : Nat}
    (valid : layout.Valid deviceBlocks) {id : BlockId}
    (member : id ∈ (Volume.fresh layout).table.links) :
    (Volume.fresh layout).table.entry id = .unused := by
  have isLink := (Table.mem_links (Volume.fresh_sound valid).size_le).mp member
  rw [(Volume.fresh_sound valid).table.size_eq] at isLink
  exact Table.entry_empty isLink

section Format

variable {D : Type} [BlockDevice D] [StoringDevice D]

/-- Formatting makes the device hold a volume without files, unless its size cannot be divided or it
fails. -/
theorem Volume.format_yields (device : D) :
    Yields Volume.format device
      (fun _ after => ∃ layout : SuperBlock,
        SuperBlock.forDisk (numBlocks device) = .ok layout ∧ layout.Valid (numBlocks after) ∧
        Holds (content after) (.fresh layout) ∧ Follows device after)
      (fun cause _ => SuperBlock.forDisk (numBlocks device) = .error cause ∨
        DeviceFault device cause) := by
  unfold Volume.format
  rw [yields_bind, yields_get, yields_bind]
  refine yields_settle (fun layout divided => ?_) fun cause refused => .inl refused
  have valid := SuperBlock.forDisk_valid divided
  refine yields_bind.mpr ((storeBlock_yields _ _ device).mono ?_ ?_)
  · intro _ signed ended
    obtain ⟨written, follows⟩ := ended
    have superBlock : SuperBlock.decode (content signed superBlockIndex) = .ok layout := by
      rw [written, Function.update_self, SuperBlock.decode_encode]
    have still : layout.Valid (numBlocks signed) := by rwa [follows.numBlocks_eq]
    -- What is left to do is to write the empty volume back.
    refine (Volume.sync_yields (.fresh layout) still superBlock).mono ?_ ?_
    · intro _ after ended
      obtain ⟨holds, _, later⟩ := ended
      refine ⟨layout, divided, ?_, holds, follows.trans later⟩
      rwa [later.numBlocks_eq]
    · intro cause after ended
      obtain ⟨fault, _, later⟩ := ended
      exact .inr (fault.of_follows follows)
  · intro cause after ended
    obtain ⟨failure, _, _⟩ := ended
    exact .inr (failure.fault valid.superBlockIndex_lt)

/-- A device that holds a volume without files is mounted as that. -/
theorem Volume.ofDisk_fresh {device : D} {layout : SuperBlock}
    (valid : layout.Valid (numBlocks device)) (holds : Holds (content device) (.fresh layout)) :
    Volume.ofDisk (content device) (numBlocks device) = .ok (.fresh layout) := by
  rw [ofDisk_of_holds holds (Volume.fresh_sound valid), Volume.reopened_fresh]

/-- A device that was just formatted is mounted without files. -/
theorem Volume.eq_fresh_of_format {blank device after : D} {volume : Volume}
    (formatted : Volume.format blank = .ok () device)
    (mounted : Volume.mount device = .ok volume after) :
    ∃ layout : SuperBlock, layout.Valid (numBlocks device) ∧ volume = .fresh layout := by
  obtain ⟨layout, _, valid, holds, _⟩ := (Volume.format_yields blank).of_ok formatted
  have read := ((Volume.mount_yields device).of_ok mounted).1
  rw [Volume.ofDisk_fresh valid holds] at read
  exact ⟨layout, valid, (Except.ok.inj read).symm⟩

/-- A reliable device whose size can be divided is formatted and then mounted. -/
theorem Volume.mount_of_format {blank : D} {layout : SuperBlock} (reliable : Reliable blank)
    (divided : SuperBlock.forDisk (numBlocks blank) = .ok layout) :
    ∃ device after, Volume.format blank = .ok () device ∧
      Volume.mount device = .ok (.fresh layout) after ∧ Reliable device ∧ Reliable after := by
  have format : Yields Volume.format blank
      (fun _ device => layout.Valid (numBlocks device) ∧
        Holds (content device) (.fresh layout) ∧ Reliable device) (fun _ _ => False) := by
    refine (Volume.format_yields blank).mono ?_ ?_
    · intro _ device ended
      obtain ⟨other, same, valid, holds, follows⟩ := ended
      obtain rfl := Except.ok.inj (divided.symm.trans same)
      exact ⟨valid, holds, follows.reliable reliable⟩
    · intro cause _ ended
      rcases ended with refused | fault
      · cases divided.symm.trans refused
      · exact fault.unreliable reliable
  obtain ⟨_, device, formatted, valid, holds, still⟩ := format.exists_ok
  obtain ⟨after, mounted, later⟩ := Volume.mount_of_holds still (Volume.fresh_sound valid) holds
  rw [Volume.reopened_fresh] at mounted
  exact ⟨device, after, formatted, mounted, still, later⟩

end Format

end FlatVolume
