/-
**Disks that a volume was written to.**

`Volume.mount_of_ofDisk`: a reliable device is mounted as the volume that is read from its blocks.
If it holds a sound volume, that is the volume with its free slots cleared and no file open
(`mount_of_holds`). A disk need not be reliable for that, as long as no call fails that mounting may
make (`mount_of_harmless`), as on a disk that can be read, whatever it does with writes
(`mount_of_readable_holds`). `Volume.saved` is a disk that holds the volume, so every sound volume
is mounted from some disk (`mount_saved`).
-/

import FlatVolume.Proofs.Calls.Storage
import FlatVolume.Proofs.Volume.Sound

namespace FlatVolume

open BlockDevice

namespace Volume

variable {volume : Volume}

section Reliable

variable {D : Type} [BlockDevice D] [StoringDevice D] {device : D}

/-- A reliable device gives the volume that is read from its blocks. -/
theorem mount_of_ofDisk (reliable : Reliable device)
    (read : ofDisk (content device) (numBlocks device) = .ok volume) :
    ∃ after, mount device = .ok volume after ∧ content after = content device ∧
      Follows device after := by
  have mounted : Yields mount device
      (fun found after => found = volume ∧ content after = content device ∧ Follows device after)
      (fun _ _ => False) := by
    refine (mount_yields device).mono ?_ ?_
    · rintro found after ⟨same, unchanged, follows⟩
      exact ⟨Except.ok.inj (same.symm.trans read), unchanged, follows⟩
    · rintro cause _ ⟨refused | failure, _⟩
      · cases read.symm.trans refused
      · exact failure.unreliable (ofDisk_sound read).1.layout.superBlockIndex_lt reliable
  obtain ⟨_, after, done, rfl, unchanged, follows⟩ := mounted.exists_ok
  exact ⟨after, done, unchanged, follows⟩

/-- A reliable device gives back the volume that it holds. -/
theorem mount_of_holds (reliable : Reliable device) (sound : volume.Sound (numBlocks device))
    (holds : Holds (content device) volume) :
    ∃ after, mount device = .ok volume.reopened after ∧ Reliable after := by
  obtain ⟨after, mounted, _, follows⟩ := mount_of_ofDisk reliable (ofDisk_of_holds holds sound)
  exact ⟨after, mounted, follows.reliable reliable⟩

/-- A reliable device takes the volume that is written back to it. -/
theorem sync_of_reliable (reliable : Reliable device)
    (valid : volume.layout.Valid (numBlocks device))
    (superBlock : SuperBlock.decode (content device superBlockIndex) = .ok volume.layout) :
    Yields volume.sync device
      (fun _ after => Holds (content after) volume ∧
        SameData volume.layout (content device) (content after) ∧ Follows device after)
      (fun _ _ => False) :=
  (volume.sync_yields valid superBlock).mono (fun _ _ ended => ended)
    fun _ _ failed => failed.1.unreliable reliable

end Reliable

/-- A disk gives back the volume that it holds if no call fails that mounting may make. -/
theorem mount_of_harmless {disk : Disk} (sound : volume.Sound disk.numBlocks)
    (holds : Holds (content disk) volume)
    (harmless : ∀ call, Disk.MountCall disk call → ¬ disk.Fails call) :
    mount disk = .ok volume.reopened (stateAfter mount disk) ∧
      Reads (MountBlock disk) disk (stateAfter mount disk) := by
  have stored : ofDisk (content disk) (numBlocks disk) = .ok volume.reopened :=
    ofDisk_of_holds holds sound
  have mounted : Yields mount disk
      (fun found after => found = volume.reopened ∧ Reads (MountBlock disk) disk after)
      (fun _ _ => False) := by
    refine (((mount_yields disk).and (Disk.calling_mount disk)).and (mount_onlyReads disk)).mono
      ?_ ?_
    · rintro found after ⟨⟨⟨read, _, _⟩, _⟩, reads⟩
      exact ⟨Except.ok.inj (read.symm.trans stored), reads⟩
    · rintro cause _ ⟨⟨⟨refused | failure, _⟩, _, explains⟩, _⟩
      · cases stored.symm.trans refused
      · obtain ⟨error, isDevice⟩ := failure.isDevice
        obtain ⟨call, allowed, accounts⟩ := explains error isDevice
        exact harmless call allowed accounts.reason
  obtain ⟨_, after, done, rfl, reads⟩ := mounted.exists_ok
  have last : stateAfter mount disk = after := by rw [stateAfter, done]
  rw [last]
  exact ⟨done, reads⟩

/-- A disk that can be read gives back the volume that it holds, and only counts and logs that it
was read. -/
theorem mount_of_readable_holds {disk : Disk} (readable : disk.Readable)
    (sound : volume.Sound disk.numBlocks) (holds : Holds (content disk) volume) :
    ∃ reads log, mount disk = .ok volume.reopened (disk.afterReads reads log) := by
  have positive : 1 ≤ disk.numBlocks := Nat.zero_lt_of_lt sound.layout.superBlockIndex_lt
  obtain ⟨mounted, onlyRead⟩ := mount_of_harmless sound holds fun _ mounting =>
    readable.not_fails_mounting positive mounting
  rw [Disk.eq_of_reads onlyRead] at mounted
  exact ⟨_, _, mounted⟩

/-- A disk on which no call fails, with the superblock of the volume and nothing else. -/
def signed (volume : Volume) (deviceBlocks : Nat) : Disk :=
  { Disk.blank deviceBlocks with
    medium := Medium.blank.setBlock superBlockIndex volume.layout.encode }

/-- The disk after the volume was written back to it. -/
def saved (volume : Volume) (deviceBlocks : Nat) : Disk :=
  stateAfter volume.sync (volume.signed deviceBlocks)

variable {deviceBlocks : Nat}

/-- Writing a sound volume back to a disk that does not fail makes the disk hold it. -/
theorem saved_holds (sound : volume.Sound deviceBlocks) :
    Holds (content (volume.saved deviceBlocks)) volume ∧
      numBlocks (volume.saved deviceBlocks) = deviceBlocks ∧
      Reliable (volume.saved deviceBlocks) := by
  have reliable : Reliable (volume.signed deviceBlocks) :=
    Disk.reliable_of_neverFails (Disk.neverFails_blank deviceBlocks)
  have superBlock : SuperBlock.decode (content (volume.signed deviceBlocks) superBlockIndex) =
      .ok volume.layout := by
    show SuperBlock.decode ((Medium.blank.setBlock superBlockIndex volume.layout.encode).block
      superBlockIndex) = _
    rw [Medium.block_setBlock, if_pos rfl, SuperBlock.decode_encode]
  have synced : Leaves volume.sync (volume.signed deviceBlocks) fun disk =>
      Holds (content disk) volume ∧ numBlocks disk = deviceBlocks ∧ Reliable disk := by
    refine (sync_of_reliable reliable sound.layout superBlock).mono ?_ fun _ _ => False.elim
    intro _ disk ended
    obtain ⟨holds, _, follows⟩ := ended
    exact ⟨holds, follows.numBlocks_eq, follows.reliable reliable⟩
  exact synced.stateAfter

/-- The volume that is mounted from the disk that it was written to. -/
def opened (volume : Volume) (deviceBlocks : Nat) : Mounted Disk where
  volume := volume.reopened
  device := stateAfter mount (volume.saved deviceBlocks)

/-- Every sound volume is mounted from the disk that it was written to. -/
theorem mount_saved (sound : volume.Sound deviceBlocks) :
    mount (volume.saved deviceBlocks) =
      .ok (volume.opened deviceBlocks).volume (volume.opened deviceBlocks).device := by
  obtain ⟨holds, size, reliable⟩ := saved_holds sound
  obtain ⟨after, mounted, _⟩ := mount_of_holds reliable (by rwa [size]) holds
  have last : stateAfter mount (volume.saved deviceBlocks) = after := by
    rw [stateAfter, mounted]
  rw [opened, last, mounted]

end Volume

end FlatVolume
