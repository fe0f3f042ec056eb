/-
**The calls for the areas of a volume.**

The table's area and the block of the directory are all that mounting reads besides the superblock
(`calling_mount`), and all that is written when a volume is written back (`calling_sync`). Which
blocks these are is stated by the superblock on the disk; it is believed only when it divides the
disk. So mounting makes no call that fails if the disk can be read (`Readable.not_fails_mounting`),
whatever it does with writes.
-/

import FlatVolume.Proofs.Calls.Basic
import FlatVolume.Proofs.Storage.Reads

namespace FlatVolume

namespace Disk

/-- Mounting reads the superblock and the areas that a valid superblock states. -/
def MountCall (disk : Disk) (call : Call) : Prop :=
  call.kind = .read ∧
    (call.block = superBlockIndex ∨
      ∃ layout, SuperBlock.decode (disk.medium.block superBlockIndex) = .ok layout ∧
        layout.Valid disk.numBlocks ∧ layout.InAreas call.block)

/-- Writing a volume back writes its areas, and the disk is flushed. -/
def SyncCall (layout : SuperBlock) (call : Call) : Prop :=
  call.kind = .flush ∨ call.kind = .write ∧ layout.InAreas call.block

/-! ### Mounting -/

section Reads

variable {allowed : Nat → Prop}

/-- A read of an allowed block. -/
def ReadOf (allowed : Nat → Prop) (call : Call) : Prop := call.kind = .read ∧ allowed call.block

theorem calling_allowed {index : Nat} (isAllowed : allowed index) (disk : Disk) :
    Calling id (ReadOf allowed) (fetchBlock index) disk :=
  calling_fetchBlock (fun _ => ⟨rfl, isAllowed⟩) disk

/-- Reads are calls. -/
theorem makes_of_reads {before after : Disk} (reads : Reads allowed before after) :
    Makes (ReadOf allowed) before after := by
  induction reads with
  | nothing => exact .refl _ _
  | @block middle after index value _ isAllowed read hypothesis =>
    have fetched : fetchBlock index middle = .ok value after := by rw [fetchBlock, mapErrors, read]
    exact hypothesis.trans ((calling_allowed isAllowed middle).of_ok fetched)

/-- The read that failed is the call that explains the error. -/
theorem explains_of_failedRead {disk after : Disk} {cause : VolumeError}
    (failedRead : FailedRead allowed disk cause after) :
    Makes (ReadOf allowed) disk after ∧ Explains (ReadOf allowed) disk cause := by
  obtain ⟨index, middle, error, isAllowed, reads, failed, rfl⟩ := failedRead
  have fetched : fetchBlock index middle = .error (.device error) after := by
    rw [fetchBlock, mapErrors, failed]
  obtain ⟨last, explains⟩ := (calling_allowed isAllowed middle).of_error fetched
  have before := makes_of_reads reads
  exact ⟨before.trans last, before.explains_iff.mp explains⟩

/-- An action that only reads makes no other calls. -/
theorem calling_of_onlyReads {α : Type} {action : EStateM VolumeError Disk α} {disk : Disk}
    (only : OnlyReads allowed action disk) : Calling id (ReadOf allowed) action disk := by
  refine Yields.mono only (fun _ _ reads => makes_of_reads reads) fun cause after ended => ?_
  rcases ended with failed | ⟨other, reads⟩
  · exact explains_of_failedRead failed
  · exact ⟨makes_of_reads reads, explains_of_ne other⟩

/-- Mounting makes no other calls, whatever the disk holds. -/
theorem calling_mount (disk : Disk) : Calling id (MountCall disk) Volume.mount disk :=
  calling_of_onlyReads (Volume.mount_onlyReads disk)

end Reads

/-! ### Disks that can be read -/

/-- No read of a block that the disk has fails. -/
def Readable (disk : Disk) : Prop :=
  ∀ calls block, disk.faults.read.fails calls block = false

namespace Readable

variable {disk : Disk}

theorem not_fails (readable : disk.Readable) {call : Call} (kind : call.kind = .read)
    (inside : call.block < disk.numBlocks) : ¬ disk.Fails call := by
  rintro (⟨_, outside⟩ | ⟨count, failed⟩)
  · omega
  · rw [kind] at failed
    cases (readable count call.block).symm.trans failed

/-- All calls of a mount are on blocks of the disk, so none of them fails. -/
theorem not_fails_mounting (readable : disk.Readable) (positive : 1 ≤ disk.numBlocks) {call : Call}
    (mounting : MountCall disk call) : ¬ disk.Fails call := by
  obtain ⟨kind, first | ⟨layout, _, valid, inAreas⟩⟩ := mounting
  · refine readable.not_fails kind ?_
    rw [first]
    exact positive
  · exact readable.not_fails kind (valid.inAreas_lt inAreas)

theorem not_failedRead {allowed : Nat → Prop} {cause : VolumeError} {after : Disk}
    (readable : disk.Readable) (inside : ∀ block, allowed block → block < disk.numBlocks) :
    ¬ FailedRead allowed disk cause after := by
  intro failedRead
  obtain ⟨error, isDevice⟩ := failedRead.isDevice
  obtain ⟨_, explains⟩ := explains_of_failedRead failedRead
  obtain ⟨call, ⟨kind, isAllowed⟩, accounts⟩ := explains error isDevice
  exact readable.not_fails kind (inside _ isAllowed) accounts.reason

end Readable

/-! ### Writing back -/

theorem calling_storeBlocks {allowed : Call → Prop} {positions : List Nat} (value : Nat → Block)
    (permitted : ∀ position ∈ positions, ∀ failed, allowed ⟨.write, 1 + position, failed⟩)
    (disk : Disk) :
    Calling id allowed (positions.forM fun position => storeBlock (1 + position) (value position))
      disk := by
  induction positions generalizing disk with
  | nil => exact calling_pure ()
  | cons position rest hypothesis =>
    refine (calling_storeBlock (permitted position List.mem_cons_self) _ disk).bind ?_
    intro _ stored _
    exact hypothesis (fun other member => permitted other (List.mem_cons_of_mem _ member)) stored

/-- Writing a volume back makes no other calls. -/
theorem calling_sync (volume : Volume) (disk : Disk) :
    Calling id (SyncCall volume.layout) volume.sync disk := by
  have written : ∀ block, volume.layout.InAreas block → ∀ failed,
      SyncCall volume.layout ⟨.write, block, failed⟩ := fun _ inAreas _ => .inr ⟨rfl, inAreas⟩
  refine Calling.bind (calling_storeBlocks _ (fun position member failed => ?_) disk) ?_
  · have below := List.mem_range.mp member
    exact written _ (.inl (List.mem_range'_1.mpr ⟨by omega, by omega⟩)) failed
  intro _ tableStored _
  refine (calling_storeBlock (written _ (.inr rfl)) _ tableStored).bind fun _ stored _ => ?_
  exact calling_flushDevice (fun _ => .inl rfl) stored

end Disk

end FlatVolume
