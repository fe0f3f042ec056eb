/-
**The blocks of files through all requests.**

`serve_intact`: on an intact volume every request leaves an intact volume behind, and the same stray
blocks, whether it succeeds or not and whatever calls the device fails.

`run_keeps_allocation`: after any requests to a mounted volume that passed its check, the volume
passes it still; every file has its own chain of the right length; block `0` is in none of them; no
block has become stray, and none has stopped to be; every open file is a file, and its position is
in it.
-/

import Mathlib.Algebra.GroupWithZero.Nat
import FlatVolume.Proofs.Storage.Format
import FlatVolume.Proofs.Volume.Operations
import FlatVolume.Proofs.Volume.Transfer

namespace FlatVolume

open BlockDevice

/-- The second volume is intact and has the stray blocks of the first. -/
def Volume.KeepsBlocks (before after : Volume) : Prop :=
  (∃ blocks, after.Lays blocks) ∧ after.strays = before.strays

section Memory

variable {volume : Volume} {blocks : Slot → List BlockId}

theorem Volume.Lays.keepsBlocks (lays : volume.Lays blocks) : volume.KeepsBlocks volume :=
  ⟨⟨blocks, lays⟩, rfl⟩

/-- Descriptors have no part in which block belongs to which file. -/
theorem Volume.Lays.keepsBlocks_descriptors (lays : volume.Lays blocks)
    (descriptors : Descriptors) : volume.KeepsBlocks { volume with descriptors } :=
  ⟨⟨blocks, lays.chain, lays.length, lays.free, lays.disjoint⟩, rfl⟩

theorem Volume.create_keepsBlocks (lays : volume.Lays blocks) (name : String) :
    Leaves (Volume.create name) volume volume.KeepsBlocks := by
  unfold Leaves Yields
  rw [Volume.create_eq]
  cases inserted : volume.directory.insert name with
  | error cause => exact lays.keepsBlocks
  | ok result =>
    obtain ⟨slot, directory⟩ := result
    exact ⟨⟨blocks, (lays.insert inserted).1⟩, (lays.insert inserted).2⟩

theorem Volume.delete_keepsBlocks (lays : volume.Lays blocks) (name : String) :
    Leaves (Volume.delete name) volume volume.KeepsBlocks := by
  unfold Leaves Yields
  rw [Volume.delete_eq lays]
  cases volume.directory.lookup name with
  | error cause => exact lays.keepsBlocks
  | ok slot =>
    by_cases isOpen : volume.descriptors.IsOpen slot
    · simp only [if_pos isOpen]
      exact lays.keepsBlocks
    · simp only [if_neg isOpen]
      exact ⟨⟨_, (lays.remove slot).1⟩, (lays.remove slot).2⟩

theorem Volume.openFile_keepsBlocks (lays : volume.Lays blocks) (name : String) :
    Leaves (Volume.openFile name) volume volume.KeepsBlocks := by
  unfold Leaves Yields
  rw [Volume.openFile_eq]
  cases volume.directory.lookup name with
  | error cause => exact lays.keepsBlocks
  | ok slot =>
    dsimp only
    cases volume.descriptors.insert slot with
    | error cause => exact lays.keepsBlocks
    | ok result => exact lays.keepsBlocks_descriptors result.2

theorem Volume.close_keepsBlocks (lays : volume.Lays blocks) (descriptor : Nat) :
    Leaves (Volume.close descriptor) volume volume.KeepsBlocks := by
  unfold Leaves Yields
  rw [Volume.close_eq]
  cases volume.descriptors.get descriptor with
  | error cause => exact lays.keepsBlocks
  | ok file => exact lays.keepsBlocks_descriptors _

theorem Volume.seek_keepsBlocks (lays : volume.Lays blocks) (descriptor offset : Nat) :
    Leaves (Volume.seek descriptor offset) volume volume.KeepsBlocks := by
  unfold Leaves Yields
  rw [Volume.seek_eq]
  cases volume.descriptors.get descriptor with
  | error cause => exact lays.keepsBlocks
  | ok file =>
    by_cases outside : (volume.directory.get file.slot).size.toNat < offset
    · simp only [if_pos outside]
      exact lays.keepsBlocks
    · simp only [if_neg outside]
      exact lays.keepsBlocks_descriptors _

end Memory

/-- A volume without files is intact. -/
theorem Volume.fresh_lays (layout : SuperBlock) : (Volume.fresh layout).Lays fun _ => [] where
  chain slot occupied := absurd (Directory.isFree_get_empty slot) occupied
  length slot occupied := absurd (Directory.isFree_get_empty slot) occupied
  free _ _ := rfl
  disjoint _ _ _ _ member := by cases member

namespace Mounted

variable {D : Type} [BlockDevice D] [FaithfulDevice D]

/-- The volume is sound and intact, and its stray blocks are the given ones. -/
structure Intact (mounted : Mounted D) (strays : List BlockId) : Prop where
  sound : mounted.Sound
  lays : ∃ blocks, mounted.volume.Lays blocks
  strays_eq : mounted.volume.strays = strays

section Serve

variable {mounted : Mounted D} {blocks : Slot → List BlockId}

theorem read_keepsBlocks (sound : mounted.Sound) (lays : mounted.volume.Lays blocks)
    (descriptor length : Nat) :
    Leaves (read descriptor length) mounted fun after =>
      mounted.volume.KeepsBlocks after.volume := by
  cases used : mounted.volume.descriptors.get descriptor with
  | error cause => exact (yields_read_of_unused used length).mpr lays.keepsBlocks
  | ok file =>
    refine (read_yields sound lays used length).leaves ?_ ?_
    · intro data after ended
      obtain ⟨_, _, same, _⟩ := ended
      rw [same]
      exact lays.keepsBlocks_descriptors _
    · intro cause after ended
      obtain ⟨_, same, _⟩ := ended
      rw [same]
      exact lays.keepsBlocks

theorem write_keepsBlocks (sound : mounted.Sound) (lays : mounted.volume.Lays blocks)
    (descriptor : Nat) (data : Bytes) :
    Leaves (write descriptor data) mounted fun after =>
      mounted.volume.KeepsBlocks after.volume := by
  cases used : mounted.volume.descriptors.get descriptor with
  | error cause => exact (yields_write_of_unused used data).mpr lays.keepsBlocks
  | ok file =>
    have occupied := (sound.volume.descriptors descriptor file used).1
    refine (write_yields sound lays used).leaves ?_ ?_
    · intro count after ended
      obtain ⟨store, rfl, _, _, written⟩ := ended
      exact ⟨⟨_, (written_lays lays occupied written).1⟩, (written_lays lays occupied written).2⟩
    · intro cause after ended
      rcases ended with ⟨_, _, _, rfl⟩ | ⟨_, same, _⟩
      · exact lays.keepsBlocks
      · rw [same]
        exact lays.keepsBlocks

theorem serve_keepsBlocks (request : Request) (sound : mounted.Sound)
    (lays : mounted.volume.Lays blocks) :
    Leaves (serve request) mounted fun after => mounted.volume.KeepsBlocks after.volume := by
  have settled : ∀ {α : Type} {outcome : Except VolumeError α},
      Leaves (settle outcome) mounted fun after => mounted.volume.KeepsBlocks after.volume :=
    leaves_settle lays.keepsBlocks
  have inMemory : ∀ {α : Type} {action : EStateM VolumeError Volume α},
      Leaves action mounted.volume mounted.volume.KeepsBlocks →
        Leaves (onVolume action) mounted fun after =>
          mounted.volume.KeepsBlocks after.volume := by
    intro α action leaves
    exact yields_focus.mpr leaves
  cases request with
  | sync =>
    refine Leaves.replied ?_
    unfold Leaves sync
    rw [yields_bind, yields_get, onDevice, yields_focus]
    exact (mounted.volume.sync_yields sound.volume.layout sound.superBlock).mono
      (fun _ _ _ => lays.keepsBlocks) fun _ _ _ => lays.keepsBlocks
  | info => exact lays.keepsBlocks
  | layout => exact lays.keepsBlocks
  | list => exact lays.keepsBlocks
  | check => exact settled.replied
  | chain name => exact settled.replied
  | create name => exact (inMemory (Volume.create_keepsBlocks lays name)).replied
  | delete name => exact (inMemory (Volume.delete_keepsBlocks lays name)).replied
  | openFile name => exact (inMemory (Volume.openFile_keepsBlocks lays name)).replied
  | close descriptor => exact (inMemory (Volume.close_keepsBlocks lays descriptor)).replied
  | fileSize descriptor => exact settled.replied
  | seek descriptor offset =>
    exact (inMemory (Volume.seek_keepsBlocks lays descriptor offset)).replied
  | write descriptor data => exact (write_keepsBlocks sound lays descriptor data).replied
  | read descriptor length => exact (read_keepsBlocks sound lays descriptor length).replied

/-- Whatever is asked for and whatever fails, an intact volume stays intact. -/
theorem serve_intact (request : Request) {strays : List BlockId} (intact : mounted.Intact strays) :
    Leaves (serve request) mounted (Intact · strays) := by
  obtain ⟨blocks, lays⟩ := intact.lays
  have both := (serve_sound request intact.sound).and (serve_keepsBlocks request intact.sound lays)
  refine both.mono ?_ ?_ <;>
    exact fun _ after kept => ⟨kept.1, kept.2.1, kept.2.2.trans intact.strays_eq⟩

end Serve

/-- A volume that was mounted and passed its check is intact. -/
theorem intact_of_mount {device after : D} {volume : Volume}
    (mounted : Volume.mount device = .ok volume after) (checked : volume.check = .ok ()) :
    Intact ⟨volume, after⟩ volume.strays := by
  obtain ⟨read, same, follows⟩ := (Volume.mount_yields device).of_ok mounted
  exact ⟨sound_of_ofDisk read same follows, Volume.check_eq_ok_iff.mp checked, rfl⟩

/-- The blocks of an intact volume: those that are free, those of the files, and the stray ones. -/
theorem Intact.freeCount {mounted : Mounted D} {strays : List BlockId}
    (intact : mounted.Intact strays) :
    mounted.volume.table.freeCount +
      (mounted.volume.directory.files.map fun file => blocksFor file.2.size.toNat).sum +
      strays.length = mounted.volume.table.size - 1 := by
  obtain ⟨blocks, lays⟩ := intact.lays
  have owned : ((List.finRange slotCount).flatMap blocks).length =
      (mounted.volume.directory.files.map fun file => blocksFor file.2.size.toNat).sum := by
    rw [lays.eq_blocksOf, ← Volume.flatMap_files, List.length_flatMap]
    refine congrArg List.sum (List.map_congr_left fun file listed => ?_)
    obtain ⟨slot, entry⟩ := file
    obtain ⟨rfl, occupied⟩ := Volume.mem_files.mp listed
    rw [(lays.chain slot occupied).chain_eq, lays.length slot occupied]
  have all := lays.count intact.sound.small
  rwa [owned, ← intact.sound.volume.freeCount_eq, intact.strays_eq] at all

/-- A volume that was just formatted passes its check. -/
theorem check_of_format {blank device after : D} {volume : Volume}
    (formatted : Volume.format blank = .ok () device)
    (mounted : Volume.mount device = .ok volume after) : volume.check = .ok () := by
  obtain ⟨layout, _, rfl⟩ := Volume.eq_fresh_of_format formatted mounted
  exact Volume.check_eq_ok_iff.mpr ⟨_, Volume.fresh_lays layout⟩

/-- A volume that was just formatted has no stray block. -/
theorem strays_of_format {blank device after : D} {volume : Volume}
    (formatted : Volume.format blank = .ok () device)
    (mounted : Volume.mount device = .ok volume after) : volume.strays = [] := by
  obtain ⟨layout, valid, rfl⟩ := Volume.eq_fresh_of_format formatted mounted
  refine List.filter_eq_nil_iff.mpr fun id member => ?_
  simp [Volume.fresh_unused valid member]

/-- What is true of the blocks and the descriptors after any requests to a mounted volume that
passed its check. -/
theorem run_keeps_allocation {device started : D} {volume final : Volume}
    (mounted : Volume.mount device = .ok volume started) (checked : volume.check = .ok ())
    (requests : List Request) (ended : (runAll serve requests ⟨volume, started⟩).2.volume = final) :
    -- The check passes: every file has a chain of the right length and no block is shared.
    final.check = .ok () ∧
    (∀ slot, ¬ (final.directory.get slot).IsFree →
      final.table.IsChain (final.directory.get slot).first (final.blocksOf slot) ∧
        (final.blocksOf slot).length = blocksFor (final.directory.get slot).size.toNat ∧
        (final.blocksOf slot).Nodup ∧ ∀ id ∈ final.blocksOf slot, id.toNat ≠ 0) ∧
    (∀ first second, first ≠ second → (final.blocksOf first).Disjoint (final.blocksOf second)) ∧
    final.table.entry (.ofNat 0) = .endOfChain ∧
    -- No block was lost and none was found again.
    final.strays = volume.strays ∧
    final.table.freeCount +
        (final.directory.files.map fun file => blocksFor file.2.size.toNat).sum +
        volume.strays.length = final.layout.dataBlocks.toNat - 1 ∧
    (∀ blank, Volume.format blank = .ok () device →
      volume.strays = [] ∧
      final.table.freeCount = final.layout.dataBlocks.toNat - 1 -
        (final.directory.files.map fun file => blocksFor file.2.size.toNat).sum) ∧
    -- Open files are files, and their positions are in them.
    ∀ descriptor file, final.descriptors.get descriptor = .ok file →
      ¬ (final.directory.get file.slot).IsFree ∧
        file.offset ≤ (final.directory.get file.slot).size.toNat := by
  subst ended
  have intact : Intact (runAll serve requests ⟨volume, started⟩).2 volume.strays :=
    runAll_keeps (fun request _ _ intact => serve_intact request intact)
      (intact_of_mount mounted checked)
  obtain ⟨blocks, lays⟩ := intact.lays
  have count := intact.freeCount
  have size := intact.sound.volume.table.size_eq
  rw [size] at count
  rw [← lays.eq_blocksOf]
  refine ⟨Volume.check_eq_ok_iff.mpr ⟨blocks, lays⟩, fun slot occupied => ?_, lays.disjoint,
    intact.sound.volume.table.entry_zero, intact.strays_eq, count, fun blank formatted => ?_,
    intact.sound.volume.descriptors⟩
  · have chain := lays.chain slot occupied
    refine ⟨chain, lays.length slot occupied, chain.nodup, fun id member zero => ?_⟩
    exact (chain.isLink_of_mem member).1 (BlockId.toNat_inj.mp zero)
  · have none := strays_of_format formatted mounted
    rw [none, List.length_nil] at count
    exact ⟨none, by omega⟩

/-- A disk of five blocks of which the last takes no write. -/
def worn : Disk := (Disk.blank 5).setFaults .write (.onBlocks [4])

/-- The disk after it was formatted, which does not write to its last block. -/
def formattedWorn : Disk := stateAfter Volume.format worn

/-- The disk after it was mounted. -/
def mountedWorn : Disk := stateAfter Volume.mount formattedWorn

theorem format_worn : Volume.format worn = .ok () formattedWorn := rfl

/-- Mounting the disk only reads it. -/
theorem mount_worn : Volume.mount formattedWorn = .ok (.fresh (.forDataBlocks 2)) mountedWorn ∧
    mountedWorn = formattedWorn.afterReads mountedWorn.faults.read.calls mountedWorn.log := by
  have divided : SuperBlock.forDisk 5 = .ok (.forDataBlocks 2) := by decide
  obtain ⟨layout, same, valid, holds, _⟩ := (Volume.format_yields worn).of_ok format_worn
  obtain rfl := Except.ok.inj (divided.symm.trans same)
  have readable : formattedWorn.Readable := fun _ _ => rfl
  obtain ⟨reads, log, mounted⟩ :=
    Volume.mount_of_readable_holds readable (Volume.fresh_sound valid) holds
  rw [Volume.reopened_fresh] at mounted
  have last : mountedWorn = formattedWorn.afterReads reads log := by
    rw [mountedWorn, stateAfter, mounted]
  rw [last]
  exact ⟨mounted, rfl⟩

/-- The first block that is given to a file takes no write. -/
theorem run_keeps_allocation_worn :
    let requests : List Request :=
      [.create "a", .openFile "a", .write 0 [104, 105], .delete "a", .close 0]
    let run := runAll serve requests ⟨.fresh (.forDataBlocks 2), mountedWorn⟩
    Volume.format worn = .ok () formattedWorn ∧
      Volume.mount formattedWorn = .ok (.fresh (.forDataBlocks 2)) mountedWorn ∧
      run.1 =
        [.ok .done, .ok (.descriptor 0), .error (.device .failed), .error .fileInUse, .ok .done] ∧
      ∃ final, run.2.volume = final ∧ final.check = .ok () ∧ final.strays = [] ∧
        final.table.freeCount = final.layout.dataBlocks.toNat - 1 -
          (final.directory.files.map fun file => blocksFor file.2.size.toNat).sum := by
  intro requests run
  obtain ⟨mounted, onlyRead⟩ := mount_worn
  have results : run.1 =
      [.ok .done, .ok (.descriptor 0), .error (.device .failed), .error .fileInUse, .ok .done] := by
    simp only [run]
    rw [onlyRead]
    decide +kernel
  refine ⟨format_worn, mounted, results, run.2.volume, rfl, ?_⟩
  obtain ⟨passes, _, _, _, strays, _, formatted, _⟩ :=
    run_keeps_allocation mounted (check_of_format format_worn mounted) requests
      (show run.2.volume = run.2.volume from rfl)
  obtain ⟨none, free⟩ := formatted worn format_worn
  exact ⟨passes, strays.trans none, free⟩

end Mounted

end FlatVolume
