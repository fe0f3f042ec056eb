/-
**Mounting accepts exactly the images.**

On a disk that fails no read, mounting gives the volume that the image stands for, and a disk that
is no image is refused for its format (`Volume.mount_accepts_images`). Whatever the disk holds,
mounting does not panic and only reads.
-/

import FlatVolume.Proofs.Guarded.Session
import FlatVolume.Proofs.Storage.Format
import FlatVolume.Proofs.Storage.Grammar

namespace FlatVolume

namespace Disk

/-- Reads led from one disk to the other: all blocks are the same, and only reads are logged. -/
structure OnlyRead (before after : Disk) : Prop where
  calls : ∃ calls, after.log = before.log ++ calls ∧ ∀ call ∈ calls, call.kind = .read
  blocks : ∀ block, after.medium.block block = before.medium.block block

variable {disk after : Disk}

/-- The calls of a mount are reads. -/
theorem onlyRead_of_makes (makes : Makes (MountCall disk) disk after) : OnlyRead disk after := by
  obtain ⟨calls, made⟩ := makes
  refine ⟨⟨calls, made.log_eq, fun call member => (made.allowed call member).1⟩, fun block => ?_⟩
  refine made.block_eq block fun member => ?_
  have kind := (made.allowed _ member).1
  cases kind

end Disk

namespace Volume

variable {disk : Disk}

/-- Mounting a disk that can be read depends on the blocks of the disk alone. -/
theorem mount_of_readable (readable : disk.Readable) (positive : 1 ≤ disk.numBlocks) :
    Yields mount disk
      (fun volume after =>
        ofDisk disk.medium.block disk.numBlocks = .ok volume ∧ disk.OnlyRead after)
      (fun cause after =>
        ofDisk disk.medium.block disk.numBlocks = .error cause ∧ disk.OnlyRead after) := by
  refine ((mount_yields disk).and (Disk.calling_mount disk)).mono ?_ ?_
  · intro volume after ended
    obtain ⟨⟨read, _, _⟩, makes⟩ := ended
    exact ⟨read, Disk.onlyRead_of_makes makes⟩
  · intro cause after ended
    obtain ⟨⟨refused | failure, _⟩, makes, explains⟩ := ended
    · exact ⟨refused, Disk.onlyRead_of_makes makes⟩
    · obtain ⟨error, isDevice⟩ := failure.isDevice
      obtain ⟨call, mounting, accounts⟩ := explains error isDevice
      exact absurd accounts.reason (readable.not_fails_mounting positive mounting)

/-- An image is mounted as the volume that it stands for, and any other disk has the wrong format.
No disk makes mounting panic or write. -/
theorem mount_accepts_images (positive : 1 ≤ disk.numBlocks) (readable : disk.Readable) :
    (IsImage disk.medium.block disk.numBlocks →
      ∃ volume, resultOf mount disk = .ok volume ∧ Decodes disk.medium.block volume) ∧
    (¬ IsImage disk.medium.block disk.numBlocks →
      resultOf mount disk = .error .invalidFormat) ∧
    disk.OnlyRead (stateAfter mount disk) ∧
    Guarded.Safe Guarded.mount mount disk := by
  have mounted := mount_of_readable readable positive
  have result : resultOf mount disk = ofDisk disk.medium.block disk.numBlocks :=
    mounted.resultOf_eq (fun _ _ ended => ended.1) fun _ _ ended => ended.1
  have read : disk.OnlyRead (stateAfter mount disk) :=
    (mounted.leaves (fun _ _ ended => ended.2) fun _ _ ended => ended.2).stateAfter
  rw [result]
  refine ⟨fun image => ?_, fun other => ?_, read, Guarded.mount_safe disk⟩
  · obtain ⟨volume, found⟩ := exists_ofDisk_iff.mpr image
    exact ⟨volume, found, decodes_of_ofDisk found⟩
  · cases refused : ofDisk disk.medium.block disk.numBlocks with
    | ok volume => exact absurd (exists_ofDisk_iff.mp ⟨volume, refused⟩) other
    | error cause => rw [eq_invalidFormat_of_ofDisk refused]

/-- Writing a volume back to a disk that fails no read leaves a disk that fails none. -/
theorem readable_saved (volume : Volume) (deviceBlocks : Nat) :
    (volume.saved deviceBlocks).Readable := by
  have synced : Leaves volume.sync (volume.signed deviceBlocks) Disk.Readable := by
    refine (Disk.calling_sync volume (volume.signed deviceBlocks)).leaves ?_ ?_
    · rintro _ after ⟨_, made⟩ calls block
      exact congrFun (congrFun (made.plans_eq .read) calls) block
    · rintro _ after ⟨⟨_, made⟩, _⟩ calls block
      exact congrFun (congrFun (made.plans_eq .read) calls) block
  exact synced.stateAfter

/-- A disk of five blocks to which an empty volume was written is mounted. One of zeros is not. -/
theorem mount_accepts_images_saved :
    let image := (Volume.fresh (.forDataBlocks 2)).saved 5
    let zeros := Disk.blank 5
    (1 ≤ image.numBlocks ∧ image.Readable) ∧ (1 ≤ zeros.numBlocks ∧ zeros.Readable) ∧
      IsImage image.medium.block image.numBlocks ∧
      (∃ volume, resultOf mount image = .ok volume ∧ Decodes image.medium.block volume) ∧
      ¬ IsImage zeros.medium.block zeros.numBlocks ∧
      resultOf mount zeros = .error .invalidFormat := by
  intro image zeros
  have divided : SuperBlock.forDisk 5 = .ok (.forDataBlocks 2) := by decide
  have sound := fresh_sound (SuperBlock.forDisk_valid divided)
  obtain ⟨holds, blocks, _⟩ := saved_holds sound
  have sized : image.numBlocks = 5 := blocks
  have positive : 1 ≤ image.numBlocks := by omega
  have readable : image.Readable := readable_saved _ _
  have format : IsImage image.medium.block image.numBlocks := by
    rw [sized]
    exact exists_ofDisk_iff.mp ⟨_, ofDisk_of_holds holds sound⟩
  have unsigned : ¬ IsImage zeros.medium.block zeros.numBlocks := by
    intro format
    have signature := format.signature
    rw [show zeros.medium.block 0 = .zero blockSize from Medium.block_blank 0] at signature
    exact absurd signature (by decide)
  have blank : 1 ≤ zeros.numBlocks ∧ zeros.Readable := ⟨by decide, fun _ _ => rfl⟩
  exact ⟨⟨positive, readable⟩, blank, format, (mount_accepts_images positive readable).1 format,
    unsigned, (mount_accepts_images blank.1 blank.2).2.1 unsigned⟩

end Volume

end FlatVolume
