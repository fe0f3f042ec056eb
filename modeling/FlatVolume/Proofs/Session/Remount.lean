/-
**What is written back is what is mounted again.**

`remount_after_closing`: take any device, whatever image it holds, and any calls to a session on it,
with faults of the device at any of them. Once a sync or an unmount succeeds, mounting the device
again gives the volume that was in memory. Mounting does nothing but read, and it fails only if one
of its own reads does. The chains of the volume may be broken.

The two are the same in the sense of `SameVolume`: free slots may differ in what they hold, and the
files that were open are closed.
-/

import FlatVolume.Proofs.Session.Steps
import FlatVolume.Proofs.Storage.Format
import FlatVolume.Proofs.Volume.Operations
import FlatVolume.Volume.Report

namespace FlatVolume

open BlockDevice

/-- The volumes have the same division, the same table, and the same files in the same slots. -/
structure SameVolume (first second : Volume) : Prop where
  layout : second.layout = first.layout
  table : second.table = first.table
  free : ∀ slot, (second.directory.get slot).IsFree ↔ (first.directory.get slot).IsFree
  entry : ∀ slot, ¬ (first.directory.get slot).IsFree →
    second.directory.get slot = first.directory.get slot

/-- The free slots are counted one by one. -/
theorem Directory.freeCount_eq (directory : Directory) :
    directory.freeCount =
      (List.finRange slotCount).countP fun slot => decide (directory.get slot).IsFree := by
  have entries : directory.entries.toList = (List.finRange slotCount).map directory.get := by
    refine List.ext_getElem (by simp) fun index inside _ => ?_
    simp [Directory.get]
  rw [freeCount, ← Vector.countP_toList, entries, List.countP_map]
  rfl

namespace SameVolume

variable {first second : Volume}

theorem refl (volume : Volume) : SameVolume volume volume :=
  ⟨rfl, rfl, fun _ => .rfl, fun _ _ => rfl⟩

theorem files (same : SameVolume first second) :
    second.directory.files = first.directory.files := by
  refine List.filterMap_congr fun slot _ => ?_
  by_cases free : (first.directory.get slot).IsFree
  · simp [free, (same.free slot).mpr free]
  · simp [free, same.entry slot free]

theorem find? (same : SameVolume first second) (name : String) :
    second.directory.find? name = first.directory.find? name := by
  unfold Directory.find?
  congr 1
  funext slot
  by_cases free : (first.directory.get slot).IsFree
  · simp [free, (same.free slot).mpr free]
  · simp [free, same.entry slot free]

theorem freeSlots (same : SameVolume first second) :
    second.directory.freeCount = first.directory.freeCount := by
  rw [Directory.freeCount_eq, Directory.freeCount_eq]
  simp only [same.free]

theorem info (same : SameVolume first second) : second.info = first.info := by
  unfold Volume.info
  rw [same.layout, same.table, same.freeSlots]

theorem list (same : SameVolume first second) : second.list = first.list := by
  unfold Volume.list
  rw [same.files]

theorem check (same : SameVolume first second) : second.check = first.check := by
  unfold Volume.check
  rw [same.files, same.table]

theorem chain (same : SameVolume first second) (name : String) :
    second.chain name = first.chain name := by
  have looked : second.directory.lookup name = first.directory.lookup name := by
    rw [Directory.lookup_eq, Directory.lookup_eq, same.find?]
  unfold Volume.chain
  rw [looked, same.table]
  cases found : first.directory.lookup name with
  | error cause => rfl
  | ok slot =>
    show Except.ok _ = Except.ok _
    rw [same.entry slot (Directory.occupied_of_lookup found)]

theorem fileBytes (same : SameVolume first second) {before after : Nat → Block}
    (data : SameData first.layout before after) (slot : Slot) :
    second.fileBytes after slot = first.fileBytes before slot := by
  unfold Volume.fileBytes Volume.blocksOf
  rw [same.layout, same.table]
  by_cases free : (first.directory.get slot).IsFree
  · rw [if_pos free, if_pos ((same.free slot).mpr free)]
    exact List.take_nil.trans List.take_nil.symm
  · rw [if_neg free, if_neg (mt (same.free slot).mp free), same.entry slot free]
    exact congrArg (List.take _) (blockBytes_congr fun id _ => data _ (.inr (Nat.le_add_right _ _)))

end SameVolume

theorem Volume.same_reopened (volume : Volume) : SameVolume volume volume.reopened where
  layout := rfl
  table := rfl
  free slot := by
    show (volume.directory.cleared.get slot).IsFree ↔ _
    rw [Directory.get_cleared]
    split
    · exact iff_of_true DirEntry.isFree_empty ‹_›
    · exact .rfl
  entry slot occupied := by
    show volume.directory.cleared.get slot = _
    rw [Directory.get_cleared, if_neg occupied]

namespace Session

variable {L D : Type} [BlockDevice D] [StoringDevice D]

/-- A sync or an unmount that succeeds leaves the device holding the volume. -/
theorem holds_of_closing {closing : Step L} (closes : closing = .serve .sync ∨ closing = .unmount)
    {before after : Session L D} {label : L} {volume : Volume} {reply : Reply}
    (sound : Mounted.Sound ⟨volume, before.device⟩)
    (mounted : before.mounted = some (label, volume))
    (closed : perform closing before = .ok reply after) :
    Holds (content after.device) volume ∧
      SameData volume.layout (content before.device) (content after.device) ∧
      Follows before.device after.device := by
  have synced := volume.sync_yields sound.volume.layout sound.superBlock
  have yields : Yields (perform closing) before
      (fun _ after => Holds (content after.device) volume ∧
        SameData volume.layout (content before.device) (content after.device) ∧
        Follows before.device after.device) (fun _ _ => True) := by
    rcases closes with rfl | rfl
    · refine (yields_serve_of_mounted mounted .sync).mpr ?_
      refine yields_bind.mpr (yields_bind.mpr (yields_focus.mpr (synced.mono ?_ ?_)))
      · exact fun _ _ ended => ended
      · exact fun _ _ _ => trivial
    · refine yields_bind.mpr ((yields_unmount_of_mounted mounted).mpr ?_)
      split
      · refine synced.mono ?_ ?_
        · exact fun _ _ ended => ended
        · exact fun _ _ _ => trivial
      · trivial
  exact yields.of_ok closed

/-- Once a sync or an unmount has succeeded, mounting only reads the superblock, the table and the
directory, and gives back what was in memory. It fails only if the device fails one of these
reads. -/
theorem remount_after_closing {device : D} {steps : List (Step L)} {before after : Session L D}
    {label : L} {volume : Volume} {closing : Step L} {reply : Reply}
    (reached : (runAll perform steps ⟨none, device⟩).2 = before)
    (mounted : before.mounted = some (label, volume))
    (closes : closing = .serve .sync ∨ closing = .unmount)
    (closed : perform closing before = .ok reply after) :
    let mountBlock := fun block => block = superBlockIndex ∨ volume.layout.InAreas block
    Yields Volume.mount after.device
      (fun again remounted => Reads mountBlock after.device remounted ∧
        SameVolume volume again ∧ (∀ descriptor,
          again.descriptors.get descriptor = .error .invalidDescriptor) ∧
        again.info = volume.info ∧ again.list = volume.list ∧ again.check = volume.check ∧
        (∀ name, again.chain name = volume.chain name) ∧
        SameData volume.layout (content before.device) (content remounted) ∧
        ∀ slot, again.fileBytes (content remounted) slot =
          volume.fileBytes (content before.device) slot)
      (fun cause remounted => FailedRead mountBlock after.device cause remounted) := by
  intro mountBlock
  have sound : Mounted.Sound ⟨volume, before.device⟩ :=
    (reached ▸ run_sound device steps) label volume mounted
  obtain ⟨holds, data, follows⟩ := holds_of_closing closes sound mounted closed
  have still : volume.Sound (numBlocks after.device) := by
    rw [follows.numBlocks_eq]
    exact sound.volume
  have read := ofDisk_of_holds holds still
  have own : ∀ block, MountBlock after.device block → mountBlock block := by
    rintro block (first | ⟨layout, decoded, _, inAreas⟩)
    · exact .inl first
    · obtain rfl := Except.ok.inj (holds.superBlock.symm.trans decoded)
      exact .inr inAreas
  refine ((Volume.mount_yields after.device).and (Volume.mount_onlyReads after.device)).mono ?_ ?_
  · intro again remounted ended
    obtain ⟨⟨found, unchanged, _⟩, reads⟩ := ended
    obtain rfl := Except.ok.inj (read.symm.trans found)
    have same := volume.same_reopened
    rw [unchanged]
    exact ⟨reads.mono own, same, Descriptors.get_empty, same.info, same.list, same.check,
      same.chain, data, same.fileBytes data⟩
  · rintro cause _ ⟨⟨reason, _⟩, failed | ⟨other, _⟩⟩
    · exact failed.mono own
    -- What was written back is an image, so there is no other reason.
    · rcases reason with refused | failure
      · cases read.symm.trans refused
      · obtain ⟨error, isDevice⟩ := failure.isDevice
        exact absurd isDevice (other error)

/-! ### A sync that fails -/

/-- A disk of five blocks that fails the second write to it. -/
def halting (medium : Medium) (reads writes flushes : Nat) (log : List Call) : Disk where
  numBlocks := 5
  medium := medium
  faults := ⟨⟨fun _ _ => false, reads⟩, ⟨fun calls _ => decide (calls = 1), writes⟩,
    ⟨fun _ _ => false, flushes⟩⟩
  log := log

/-- That disk with a volume without files, before the first call to it. -/
def haltingFresh : Disk := halting ((Volume.fresh (.forDataBlocks 2)).saved 5).medium 0 0 0 []

/-- An empty file on a volume of two data blocks. -/
def single : Volume := { Volume.fresh (.forDataBlocks 2) with
  directory := Directory.empty.set ⟨0, slotCount_pos⟩ (.new "a") }

/-- The disk can be read, so it is mounted. -/
theorem mount_halting : ∃ reads log, Volume.mount haltingFresh =
    .ok (.fresh (.forDataBlocks 2)) (halting haltingFresh.medium reads 0 0 log) := by
  have sound : (Volume.fresh (.forDataBlocks 2)).Sound 5 := Volume.fresh_sound (by decide)
  have readable : haltingFresh.Readable := fun _ _ => rfl
  obtain ⟨reads, log, mounted⟩ :=
    Volume.mount_of_readable_holds readable sound (Volume.saved_holds sound).1
  rw [Volume.reopened_fresh] at mounted
  exact ⟨reads, log, mounted⟩

section Halting

variable (medium : Medium) (reads flushes : Nat) (log : List Call)

/-- Making the file needs no call. -/
theorem create_single (device : Disk) :
    perform (.serve (.create "a")) ⟨some ((), .fresh (.forDataBlocks 2)), device⟩ =
      .ok .done ⟨some ((), single), device⟩ := by
  have inserted : (Volume.fresh (.forDataBlocks 2)).directory.insert "a" =
      .ok (⟨0, slotCount_pos⟩, single.directory) := by decide +kernel
  have created : Volume.create "a" (.fresh (.forDataBlocks 2)) = .ok () single := by
    rw [Volume.create_eq, inserted]
    rfl
  have makes : Yields (perform (.serve (.create "a")))
      ⟨some ((), .fresh (.forDataBlocks 2)), device⟩
      (fun reply after => reply = .done ∧ after = ⟨some ((), single), device⟩)
      (fun _ _ => False) :=
    (yields_serve_of_mounted rfl _).mpr
      (yields_bind.mpr (yields_focus.mpr (yields_of_ok created ⟨rfl, rfl⟩)))
  obtain ⟨_, _, ended, rfl, rfl⟩ := makes.exists_ok
  exact ended

/-- The first sync stops after the table. -/
theorem sync_halts : ∃ medium' log',
    perform (.serve .sync) ⟨some ((), single), halting medium reads 0 flushes log⟩ =
      .error (.device .failed) ⟨some ((), single), halting medium' reads 2 flushes log'⟩ :=
  ⟨_, _, rfl⟩

/-- The writes after it succeed. -/
theorem unmount_goes_on : ∃ medium' log',
    perform .unmount ⟨some ((), single), halting medium reads 2 flushes log⟩ =
      .ok .done ⟨none, halting medium' reads 4 (flushes + 1) log'⟩ :=
  ⟨_, _, rfl⟩

end Halting

/-- A file is made, and the first sync fails after the table was written. What is written when the
volume is unmounted is mounted again. -/
theorem remount_after_closing_halting :
    ∃ (device : Disk) (before after : Session Unit Disk) (volume : Volume),
      runAll perform [.mount (), .serve (.create "a"), .serve .sync] ⟨none, device⟩ =
        ([.ok .done, .ok .done, .error (.device .failed)], before) ∧
      before.mounted = some ((), volume) ∧ volume.list = [⟨"a", 0, .endOfChain⟩] ∧
      perform .unmount before = .ok .done after ∧
      ∃ again remounted, Volume.mount after.device = .ok again remounted ∧
        again.list = volume.list := by
  obtain ⟨reads, log, mounted⟩ := mount_halting
  obtain ⟨torn, tornLog, third⟩ := sync_halts haltingFresh.medium reads 0 log
  obtain ⟨written, writtenLog, closed⟩ := unmount_goes_on torn reads 0 tornLog
  have run : runAll perform [.mount (), .serve (.create "a"), .serve .sync] ⟨none, haltingFresh⟩ =
      ([.ok .done, .ok .done, .error (.device .failed)],
        ⟨some ((), single), halting torn reads 2 0 tornLog⟩) := by
    rw [runAll_cons_of_ok (perform_mount_of_ok mounted ()), runAll_cons_of_ok (create_single _)]
    simp only [runAll, resultOf, stateAfter, third]
  have back := remount_after_closing (congrArg Prod.snd run) rfl (.inr rfl) closed
  have lists : single.list = [⟨"a", 0, .endOfChain⟩] := by decide +kernel
  -- The disk still fails no read, so mounting has no reason to fail.
  have readable : (halting written reads 4 1 writtenLog).Readable := fun _ _ => rfl
  have valid : single.layout.Valid 5 := by decide
  have inside : ∀ block, block = superBlockIndex ∨ single.layout.InAreas block → block < 5 := by
    rintro block (rfl | inAreas)
    · exact valid.superBlockIndex_lt
    · exact valid.inAreas_lt inAreas
  have mountsAgain : Yields Volume.mount (halting written reads 4 1 writtenLog)
      (fun again _ => again.list = single.list) (fun _ _ => False) := by
    refine back.mono (fun _ _ same => ?_) fun _ _ failed => ?_
    · exact same.2.2.2.2.1
    · exact readable.not_failedRead inside failed
  exact ⟨haltingFresh, _, _, single, run, rfl, lists, closed, mountsAgain.exists_ok⟩

end Session

end FlatVolume
