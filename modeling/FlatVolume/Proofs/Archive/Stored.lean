/-
**Archives on devices.**

`Archived device archive`: the device holds an intact volume with the archive, in which no file is
open, and takes every call. Mounting it gives a volume that represents the archive
(`mount_archived`), and unmounting leaves the archive on the device (`unmount_archived`). A device
that is formatted holds an empty one (`format_archived`).
-/

import FlatVolume.Proofs.Archive.Serve

namespace FlatVolume

open BlockDevice

/-- A volume without files has an archive without files, and all its blocks but one are left. -/
theorem Volume.archive_fresh {layout : SuperBlock} {deviceBlocks : Nat}
    (valid : layout.Valid deviceBlocks) (disk : Nat → Block) :
    (Volume.fresh layout).archive disk =
      ⟨fun _ => none, fun _ => none, layout.dataBlocks.toNat - 1⟩ := by
  have sound := Volume.fresh_sound valid
  refine Archive.ext ?_ ?_ ?_
  · funext slot
    exact if_pos (Directory.isFree_get_empty slot)
  · funext descriptor
    exact Vector.getElem_replicate ..
  · have all : (Volume.fresh layout).table.unusedBlocks = (Volume.fresh layout).table.links := by
      refine List.filter_eq_self.mpr fun id member => ?_
      simpa using Volume.fresh_unused valid member
    show (Volume.fresh layout).table.freeCount = _
    rw [sound.freeCount_eq, all, Table.length_links, sound.table.size_eq]
    rfl

/-- No descriptor is in use if no file is open. -/
theorem Descriptors.eq_empty {descriptors : Descriptors} (closed : descriptors.openFiles = []) :
    descriptors = .empty := by
  obtain ⟨table⟩ := descriptors
  refine congrArg Descriptors.mk (Vector.ext fun index inside => ?_)
  rw [Vector.getElem_replicate]
  cases found : table[index] with
  | none => rfl
  | some file =>
    have member : file ∈ openFiles ⟨table⟩ :=
      List.mem_filterMap.mpr ⟨some file, by simp [← found], rfl⟩
    rw [closed] at member
    cases member

variable {D : Type} [BlockDevice D] [FaithfulDevice D] {device : D} {archive : Archive}

/-- The volume that the device gives back is intact and has the archive. -/
structure Archived (device : D) (archive : Archive) : Prop where
  reliable : Reliable device
  stored : ∃ volume, Volume.ofDisk (content device) (numBlocks device) = .ok volume ∧
    (∃ blocks, volume.Lays blocks) ∧ volume.archive (content device) = archive

/-- An archive is where its blocks are. -/
theorem Archived.congr (archived : Archived device archive) {other : D} (reliable : Reliable other)
    (size : numBlocks other = numBlocks device)
    (same : ∀ block < numBlocks device, content other block = content device block) :
    Archived other archive := by
  obtain ⟨_, volume, stored, ⟨blocks, lays⟩, rfl⟩ := archived
  have sound := (ofDisk_sound stored).1
  refine ⟨reliable, volume, ?_, ⟨blocks, lays⟩, Archive.ext (funext fun slot => ?_) rfl rfl⟩
  · rw [size]
    exact Volume.ofDisk_congr stored same
  · by_cases free : (volume.directory.get slot).IsFree
    · rw [Volume.archive_files_of_free free, Volume.archive_files_of_free free]
    · have chain := lays.chain slot free
      rw [Volume.archive_files_of_occupied free, Volume.archive_files_of_occupied free,
        lays.fileBytes_eq, lays.fileBytes_eq,
        blockBytes_congr fun id member =>
          same _ (sound.dataBlock_lt (chain.isLink_of_mem member))]

/-- An archive stays where no block changes. -/
theorem Archived.of_follows (archived : Archived device archive) {after : D}
    (same : content after = content device) (follows : Follows device after) :
    Archived after archive :=
  archived.congr (follows.reliable archived.reliable) follows.numBlocks_eq
    fun block _ => congrFun same block

/-- Mounting finds the archive and changes no block. -/
theorem mount_archived (archived : Archived device archive) :
    Yields Volume.mount device
      (fun volume after => Mounted.Represents ⟨volume, after⟩ archive ∧
        content after = content device ∧ Follows device after) (fun _ _ => False) := by
  obtain ⟨reliable, volume, stored, lays, rfl⟩ := archived
  refine (Volume.mount_yields device).mono ?_ ?_
  · intro found after ended
    obtain ⟨read, same, follows⟩ := ended
    obtain rfl := Except.ok.inj (stored.symm.trans read)
    refine ⟨⟨Mounted.sound_of_ofDisk read same follows, lays, follows.reliable reliable, ?_⟩, same,
      follows⟩
    rw [Mounted.archive, same]
  · intro cause _ ended
    rcases ended with ⟨refused | failure, _⟩
    · cases stored.symm.trans refused
    · have inside := (ofDisk_eq_ok_iff.mp stored).2.1.superBlockIndex_lt
      exact absurd reliable (failure.unreliable inside)

/-- Writing a volume back in which no file is open leaves its archive on the device. -/
theorem sync_archived {mounted : Mounted D} (represents : mounted.Represents archive)
    (unopened : mounted.volume.descriptors.openFiles = []) :
    Yields mounted.volume.sync mounted.device
      (fun _ after => Archived after archive ∧ Follows mounted.device after)
      (fun _ _ => False) := by
  obtain ⟨sound, ⟨blocks, lays⟩, reliable, rfl⟩ := represents
  refine (mounted.volume.sync_yields sound.volume.layout sound.superBlock).mono ?_ ?_
  · intro _ after ended
    obtain ⟨holds, data, follows⟩ := ended
    have still : mounted.volume.Sound (numBlocks after) := by
      rw [follows.numBlocks_eq]
      exact sound.volume
    refine ⟨⟨follows.reliable reliable, _, ofDisk_of_holds holds still, ?_, ?_⟩, follows⟩
    · rw [← Volume.check_eq_ok_iff, mounted.volume.same_reopened.check]
      exact Volume.check_eq_ok_iff.mpr ⟨blocks, lays⟩
    · exact Volume.archive_eq_of_same mounted.volume.same_reopened data
        (Descriptors.eq_empty unopened).symm
  · intro cause _ ended
    obtain ⟨fault, _⟩ := ended
    exact absurd reliable fault.unreliable

/-- Unmounting a volume leaves its archive on the device if the archive tells of no open file. -/
theorem unmount_archived {mounted : Mounted D} (represents : mounted.Represents archive)
    (closed : archive.descriptors = fun _ => none) :
    Yields mounted.volume.unmount mounted.device
      (fun _ after => Archived after archive ∧ Follows mounted.device after)
      (fun _ _ => False) := by
  have unopened : mounted.volume.descriptors.openFiles = [] := by
    rw [← represents.archive_eq] at closed
    have none := not_exists.mpr (Archive.not_isOpen_of_closed closed)
    exact Volume.openFiles_eq_nil_iff.mpr none
  unfold Volume.unmount
  rw [if_neg (not_not.mpr unopened)]
  exact sync_archived represents unopened

/-- A device that is formatted holds no file, and all its blocks but one are left. -/
theorem format_archived {layout : SuperBlock} (reliable : Reliable device)
    (divided : SuperBlock.forDisk (numBlocks device) = .ok layout) :
    Yields Volume.format device
      (fun _ after => Archived after
          ⟨fun _ => none, fun _ => none, layout.dataBlocks.toNat - 1⟩ ∧ Follows device after)
      (fun _ _ => False) := by
  refine (Volume.format_yields device).mono ?_ ?_
  · intro _ after ended
    obtain ⟨other, same, valid, holds, follows⟩ := ended
    obtain rfl := Except.ok.inj (divided.symm.trans same)
    have stored := ofDisk_of_holds holds (Volume.fresh_sound valid)
    rw [Volume.reopened_fresh] at stored
    exact ⟨⟨follows.reliable reliable, _, stored, ⟨_, Volume.fresh_lays layout⟩,
      Volume.archive_fresh valid _⟩, follows⟩
  · intro cause _ ended
    rcases ended with refused | fault
    · cases divided.symm.trans refused
    · exact absurd reliable fault.unreliable

end FlatVolume
