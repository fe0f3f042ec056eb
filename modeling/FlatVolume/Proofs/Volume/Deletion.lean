/-
**What deleting a file does to the others.**

Deleting checks the chain of the file and frees its blocks. Nothing is assumed of the volume here:
chains may loop, meet or end in nothing.

* `Volume.delete_yields`: when a file is deleted and what is left, and why else nothing changes;
* `Mounted.delete_beside_others`: the other files keep their entries, and one of them keeps its
  walk exactly when the walk visits no block of the deleted file. The check does not ask for that;
* `Mounted.delete_frees_shared_block`: a file whose only block is freed with another file.
-/

import FlatVolume.Proofs.Chain.Walk
import FlatVolume.Proofs.Storage.Saved
import FlatVolume.Request

namespace FlatVolume

/-! ### In memory -/

namespace Volume

/-- The blocks are those of the file in the slot, and as many as its size needs. -/
def Fits (volume : Volume) (slot : Slot) (blocks : List BlockId) : Prop :=
  volume.table.Fits (volume.directory.get slot).first (volume.directory.get slot).size.toNat blocks

/-- Why a name cannot be deleted. -/
inductive Undeletable (volume : Volume) (name : String) : (cause : VolumeError) → Prop
  | unnamed {cause : VolumeError} (looked : volume.directory.lookup name = .error cause) :
      Undeletable volume name cause
  | isOpen {slot : Slot} (looked : volume.directory.lookup name = .ok slot)
      (isOpen : volume.descriptors.IsOpen slot) : Undeletable volume name .fileInUse
  | broken {slot : Slot} (looked : volume.directory.lookup name = .ok slot)
      (closed : ¬ volume.descriptors.IsOpen slot) (broken : ∀ blocks, ¬ volume.Fits slot blocks) :
      Undeletable volume name .corrupted

/-- The volume without the file in the slot and without the blocks. -/
def without (volume : Volume) (slot : Slot) (blocks : List BlockId) : Volume :=
  { volume with
    table := volume.table.discard blocks
    directory := volume.directory.remove slot }

/-- A file is deleted with its blocks if its own chain fits its size. Otherwise nothing changes. -/
theorem delete_yields (volume : Volume) (name : String) :
    Yields (delete name) volume
      (fun _ after => ∃ slot blocks, volume.directory.lookup name = .ok slot ∧
        ¬ volume.descriptors.IsOpen slot ∧ volume.Fits slot blocks ∧
        after = volume.without slot blocks)
      (fun cause after => after = volume ∧ volume.Undeletable name cause) := by
  unfold delete
  rw [yields_bind, yields_get, yields_bind]
  refine yields_settle (fun slot looked => ?_) fun cause looked => ⟨rfl, .unnamed looked⟩
  by_cases isOpen : volume.descriptors.IsOpen slot
  · rw [if_pos isOpen]
    exact ⟨rfl, .isOpen looked isOpen⟩
  rw [if_neg isOpen, yields_bind]
  refine yields_settle (fun _ checked => ?_) fun cause refused => ?_
  · obtain ⟨blocks, fits⟩ := Table.check_single_eq_ok_iff.mp checked
    rw [yields_bind, yields_focus]
    refine yields_of_ok (Table.release_eq fits.chain) ?_
    rw [yields_modify]
    exact ⟨slot, blocks, looked, isOpen, fits, rfl⟩
  · obtain rfl := Table.onlyCorrupted_check _ _ cause refused
    refine ⟨rfl, .broken looked isOpen fun blocks fits => ?_⟩
    rw [Table.check_single_eq_ok_iff.mpr ⟨blocks, fits⟩] at refused
    cases refused

end Volume

/-! ### Beside other files -/

namespace Mounted

variable {D : Type} [BlockDevice D]

/-- A deleted file takes its blocks away from whoever else visits them. A deletion that fails
changes nothing, and that the chain is corrupted is said of the file's own chain only. -/
theorem delete_beside_others (mounted : Mounted D) (name : String) :
    Yields (serve (.delete name)) mounted
      (fun _ after => ∃ slot blocks, mounted.volume.directory.lookup name = .ok slot ∧
        ¬ mounted.volume.descriptors.IsOpen slot ∧ mounted.volume.Fits slot blocks ∧
        (after.volume.directory.get slot).IsFree ∧
        (∀ block ∈ blocks, after.volume.table.entry block = .unused) ∧
        ∀ other, other ≠ slot →
          after.volume.directory.get other = mounted.volume.directory.get other ∧
          (mounted.volume.table.SameWalk after.volume.table
              (mounted.volume.directory.get other).first ↔
            ∀ block ∈ blocks,
              ¬ mounted.volume.table.Visits (mounted.volume.directory.get other).first block))
      (fun cause after => after = mounted ∧ mounted.volume.Undeletable name cause) := by
  refine yields_bind.mpr ?_
  rw [onVolume, yields_focus]
  refine (mounted.volume.delete_yields name).mono ?_ ?_
  · rintro _ _ ⟨slot, blocks, looked, closed, fits, rfl⟩
    have links : ∀ block ∈ blocks, block.IsLink mounted.volume.table.size :=
      fun _ member => fits.chain.isLink_of_mem member
    refine ⟨slot, blocks, looked, closed, fits, ?_, fun block member => ?_, fun other apart => ?_⟩
    · show ((mounted.volume.directory.set slot .empty).get slot).IsFree
      rw [Directory.get_set_self]
      exact DirEntry.isFree_empty
    · exact (Table.entry_discard links block).trans (if_pos member)
    · exact ⟨Directory.get_set_of_ne apart, Table.sameWalk_discard_iff fits.chain⟩
  · rintro cause _ ⟨rfl, undeletable⟩
    exact ⟨rfl, undeletable⟩

/-- Two files of which the first leads into the only block of the second, on six blocks. -/
def crossed : Volume where
  layout := .forDataBlocks 3
  table := ⟨#[.endOfChain, ⟨2⟩, .endOfChain]⟩
  directory :=
    (Directory.empty.set ⟨0, by decide⟩ ⟨.ofBytes nameWidth (utf8Bytes "a"), 8192, ⟨1⟩⟩).set
      ⟨1, by decide⟩ ⟨.ofBytes nameWidth (utf8Bytes "b"), 1, ⟨2⟩⟩
  descriptors := .empty

/-- Two files that share a block are mounted, the first of them is deleted, and the block of the
other one is unused although the other one is still there. -/
theorem delete_frees_shared_block :
    ∃ (device : Disk) (mounted after : Mounted Disk) (other : Slot),
      Volume.mount device = .ok mounted.volume mounted.device ∧
      mounted.volume.directory.lookup "b" = .ok other ∧
      mounted.volume.table.chain (mounted.volume.directory.get other).first = [⟨2⟩] ∧
      serve (.delete "a") mounted = .ok .done after ∧
      after.volume.directory.lookup "b" = .ok other ∧
      after.volume.directory.get other = mounted.volume.directory.get other ∧
      after.volume.table.entry ⟨2⟩ = .unused := by
  have sound : crossed.Sound 6 :=
    Volume.sound_of_unopened (by decide) ⟨rfl, by decide⟩ (by decide +kernel) rfl
  have deleted : serve (.delete "a") (crossed.opened 6) = .ok .done _ :=
    eq_ok_of_resultOf (by decide +kernel)
  exact ⟨_, _, _, ⟨1, by decide⟩, Volume.mount_saved sound, by decide +kernel,
    by decide +kernel, deleted, by decide +kernel⟩

end Mounted

end FlatVolume
