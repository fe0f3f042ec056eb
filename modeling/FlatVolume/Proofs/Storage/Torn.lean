/-
**Writing a volume back, block by block.**

A volume is written back in single blocks, and the device may fail at any of them. `WrittenBack` is
the disk after all of them, `Torn` a disk after some of them: each block of the areas is untouched
or holds what is stored there in the end, and no other block changes. A sync leaves a torn disk at
whatever call it fails (`Volume.sync_torn`), and a disk to which the volume was written back if it
succeeds (`Volume.writtenBack_of_holds`).
-/

import FlatVolume.Proofs.Calls.Storage

namespace FlatVolume

open BlockDevice

namespace Volume

/-- What a block of the areas holds once the volume is written back. -/
def areaBlock (volume : Volume) (block : Nat) : Block :=
  if block = volume.layout.rootBlock.toNat then volume.directory.encode
  else volume.table.encodeBlock (block - 1)

/-- The areas hold the volume, and all other blocks are as before. -/
structure WrittenBack (volume : Volume) (before after : Nat → Block) : Prop where
  areas : ∀ block, volume.layout.InAreas block → after block = volume.areaBlock block
  others : ∀ block, ¬ volume.layout.InAreas block → after block = before block

/-- Some blocks of the areas hold what they hold in the end, and all other blocks are as before. -/
structure Torn (volume : Volume) (before after : Nat → Block) : Prop where
  areas : ∀ block, volume.layout.InAreas block →
    after block = before block ∨ after block = volume.areaBlock block
  others : ∀ block, ¬ volume.layout.InAreas block → after block = before block

variable {volume : Volume} {deviceBlocks : Nat} {before after : Nat → Block}

theorem Torn.refl (volume : Volume) (disk : Nat → Block) : volume.Torn disk disk :=
  ⟨fun _ _ => .inl rfl, fun _ _ => rfl⟩

/-- The entries of a valid layout lie before the directory. -/
theorem areaBlock_table (valid : volume.layout.Valid deviceBlocks) {position : Nat}
    (below : position < volume.layout.tableBlocks.toNat) :
    volume.areaBlock (1 + position) = volume.table.encodeBlock position := by
  have root := valid.root
  rw [areaBlock, if_neg (by omega), Nat.add_sub_cancel_left]

theorem areaBlock_root (volume : Volume) :
    volume.areaBlock volume.layout.rootBlock.toNat = volume.directory.encode := if_pos rfl

/-- A disk that holds the volume, and has the superblock and the data that it had, has the volume
written back to it. -/
theorem writtenBack_of_holds (valid : volume.layout.Valid deviceBlocks)
    (holds : Holds after volume) (same : SameData volume.layout before after) :
    volume.WrittenBack before after := by
  refine ⟨fun block inAreas => ?_, fun block outside => ?_⟩
  · rcases inAreas with inTable | rfl
    · obtain ⟨least, most⟩ := List.mem_range'_1.mp inTable
      obtain ⟨position, rfl⟩ := Nat.exists_eq_add_of_le least
      have below : position < volume.layout.tableBlocks.toNat := by omega
      rw [holds.table position below, areaBlock_table valid below]
    · rw [holds.root, areaBlock_root]
  · -- What is in no area is the superblock or lies in the data area.
    refine same block ?_
    rw [valid.inAreas_iff, superBlockIndex] at outside
    rw [superBlockIndex]
    omega

section Store

variable {D : Type} [BlockDevice D] [FaithfulDevice D] {device : D}

/-- Storing one more block of the areas, or failing to, leaves a torn disk. -/
theorem Torn.store (torn : volume.Torn before (content device)) {block : Nat}
    (inAreas : volume.layout.InAreas block) :
    Leaves (storeBlock block (volume.areaBlock block)) device
      fun after => volume.Torn before (content after) := by
  refine (storeBlock_faithful block _ device).mono ?_ ?_
  · intro _ after ended
    rw [ended.1]
    refine ⟨fun other member => ?_, fun other outside => ?_⟩
    · by_cases here : other = block
      · rw [here, Function.update_self]
        exact .inr rfl
      · rw [Function.update_of_ne here]
        exact torn.areas other member
    · have apart : other ≠ block := fun here => outside (here ▸ inAreas)
      rw [Function.update_of_ne apart]
      exact torn.others other outside
  · intro _ after ended
    rw [ended.2.1]
    exact torn

/-- The loop over the blocks of the table leaves a torn disk wherever it stops. -/
theorem Torn.storeTable (valid : volume.layout.Valid deviceBlocks) {positions : List Nat}
    (inside : ∀ position ∈ positions, position < volume.layout.tableBlocks.toNat)
    (torn : volume.Torn before (content device)) :
    Leaves (positions.forM fun position =>
        storeBlock (1 + position) (volume.table.encodeBlock position)) device
      fun after => volume.Torn before (content after) := by
  induction positions generalizing device with
  | nil => exact torn
  | cons position rest hypothesis =>
    have below := inside position List.mem_cons_self
    have here := torn.store (SuperBlock.inAreas_table below)
    rw [areaBlock_table valid below] at here
    refine yields_bind.mpr (here.mono (fun _ _ still => ?_) fun _ _ still => still)
    exact hypothesis (fun other member => inside other (List.mem_cons_of_mem _ member)) still

/-- A sync leaves each block as it was or as it is in the end, wherever it stops. -/
theorem sync_torn (volume : Volume) (valid : volume.layout.Valid (numBlocks device)) :
    Leaves volume.sync device fun after => volume.Torn (content device) (content after) := by
  have table := Torn.storeTable valid (fun _ => List.mem_range.mp)
    (Torn.refl volume (content device))
  refine yields_bind.mpr (table.mono (fun _ stored torn => ?_) fun _ _ torn => torn)
  have root := torn.store (.inr rfl)
  rw [areaBlock_root] at root
  refine yields_bind.mpr (root.mono (fun _ stored torn => ?_) fun _ _ torn => torn)
  refine (flushDevice_yields stored).mono ?_ ?_
  · intro _ after ended
    rwa [ended.1]
  · intro _ after ended
    rwa [ended.2.1]

end Store

end Volume

end FlatVolume
