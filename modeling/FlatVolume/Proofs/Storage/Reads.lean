/-
**Actions that only read.**

`Reads allowed before after`: reads of allowed blocks led from one device to the other, and all of
them succeeded. An action that `OnlyReads` makes no other calls. When it reports an error of the
device, the last of its reads failed with just that error, and the reads before it succeeded
(`FailedRead`). So it fails for no other call, whatever else the device may refuse.

* `OnlyReads.bind` and the lemmas beside it put such actions together;
* `Volume.mount_onlyReads`: mounting reads the superblock and the areas that it states;
* `Disk.eq_of_reads`: a disk is the same after reads, but for what it counts and logs of them.
-/

import FlatVolume.Proofs.Storage.Areas

namespace FlatVolume

open BlockDevice

section Reads

variable {D : Type} [BlockDevice D] {allowed : Nat → Prop}

/-- Reads of allowed blocks, all of which succeeded, led from one device to the other. -/
inductive Reads (allowed : Nat → Prop) : (before after : D) → Prop
  | nothing (device : D) : Reads allowed device device
  | block {before middle after : D} {index : Nat} {value : Block}
      (reads : Reads allowed before middle) (isAllowed : allowed index)
      (read : readBlock index middle = .ok value after) : Reads allowed before after

/-- After reads that succeeded, an allowed block could not be read, for the reason that the device
gave. -/
def FailedRead (allowed : Nat → Prop) (before : D) (cause : VolumeError) (after : D) : Prop :=
  ∃ index middle error, allowed index ∧ Reads allowed before middle ∧
    readBlock index middle = .error error after ∧ cause = .device error

theorem Reads.trans {first second third : D} (left : Reads allowed first second)
    (right : Reads allowed second third) : Reads allowed first third := by
  induction right with
  | nothing => exact left
  | block _ isAllowed read hypothesis => exact .block hypothesis isAllowed read

/-- Where more may be read, the same reads lead to the same device. -/
theorem Reads.mono {wider : Nat → Prop} {before after : D} (reads : Reads allowed before after)
    (weaker : ∀ index, allowed index → wider index) : Reads wider before after := by
  induction reads with
  | nothing => exact .nothing _
  | block _ isAllowed read hypothesis => exact .block hypothesis (weaker _ isAllowed) read

/-- A read that fails after other reads is one of all these reads. -/
theorem FailedRead.of_reads {first second third : D} {cause : VolumeError}
    (reads : Reads allowed first second) (failed : FailedRead allowed second cause third) :
    FailedRead allowed first cause third := by
  obtain ⟨index, middle, error, isAllowed, more, fails, isDevice⟩ := failed
  exact ⟨index, middle, error, isAllowed, reads.trans more, fails, isDevice⟩

theorem FailedRead.isDevice {before after : D} {cause : VolumeError}
    (failed : FailedRead allowed before cause after) : ∃ error, cause = .device error := by
  obtain ⟨_, _, error, _, _, _, isDevice⟩ := failed
  exact ⟨error, isDevice⟩

theorem FailedRead.mono {wider : Nat → Prop} {before after : D} {cause : VolumeError}
    (failed : FailedRead allowed before cause after)
    (weaker : ∀ index, allowed index → wider index) : FailedRead wider before cause after := by
  obtain ⟨index, middle, error, isAllowed, reads, fails, isDevice⟩ := failed
  exact ⟨index, middle, error, weaker index isAllowed, reads.mono weaker, fails, isDevice⟩

/-! ### Putting actions together -/

variable {α β : Type}

/-- The action makes no calls but reads of allowed blocks. An error of the device is that of its
last read. -/
def OnlyReads (allowed : Nat → Prop) (action : EStateM VolumeError D α) (device : D) : Prop :=
  Yields action device (fun _ after => Reads allowed device after)
    (fun cause after => FailedRead allowed device cause after ∨
      (∀ error, cause ≠ .device error) ∧ Reads allowed device after)

variable {device : D}

theorem onlyReads_pure (result : α) : OnlyReads allowed (pure result) device := .nothing device

theorem onlyReads_throw {cause : VolumeError} (other : ∀ error, cause ≠ .device error) :
    OnlyReads allowed (throw cause : EStateM VolumeError D α) device :=
  .inr ⟨other, .nothing device⟩

/-- The second action reads on where the first one ended. -/
theorem OnlyReads.bind {action : EStateM VolumeError D α} {rest : α → EStateM VolumeError D β}
    (only : OnlyReads allowed action device)
    (later : ∀ result after, action device = .ok result after →
      OnlyReads allowed (rest result) after) :
    OnlyReads allowed (action >>= rest) device := by
  refine yields_bind.mpr ?_
  unfold OnlyReads Yields at only
  unfold Yields
  cases ended : action device with
  | ok result middle =>
    rw [ended] at only
    have reads : Reads allowed device middle := only
    refine Yields.mono (later result middle ended) (fun _ _ more => reads.trans more) ?_
    rintro cause after (failed | ⟨other, more⟩)
    · exact .inl (failed.of_reads reads)
    · exact .inr ⟨other, reads.trans more⟩
  | error cause after =>
    rw [ended] at only
    exact only

/-- An outcome that needs no device needs no read. -/
theorem OnlyReads.settle_bind {outcome : Except VolumeError α}
    {rest : α → EStateM VolumeError D β}
    (blameless : ∀ error, outcome ≠ .error (.device error))
    (later : ∀ result, outcome = .ok result → OnlyReads allowed (rest result) device) :
    OnlyReads allowed (settle outcome >>= rest) device := by
  cases outcome with
  | ok result => exact later result rfl
  | error cause => exact onlyReads_throw fun error same => blameless error (same ▸ rfl)

theorem onlyReads_fetchBlock {index : Nat} (isAllowed : allowed index) :
    OnlyReads allowed (fetchBlock index) device := by
  refine yields_mapErrors.mpr ((yields_self _ device).mono ?_ ?_)
  · exact fun _ _ read => .block (.nothing device) isAllowed read
  · exact fun error _ failed => .inl ⟨index, device, error, isAllowed, .nothing device, failed, rfl⟩

theorem onlyReads_fetchBlocks {blocks : List Nat} (areAllowed : ∀ index ∈ blocks, allowed index) :
    OnlyReads allowed (blocks.mapM fetchBlock) device := by
  induction blocks generalizing device with
  | nil => exact onlyReads_pure []
  | cons index rest hypothesis =>
    rw [List.mapM_cons]
    refine (onlyReads_fetchBlock (areAllowed index List.mem_cons_self)).bind fun _ fetched _ => ?_
    refine OnlyReads.bind (hypothesis fun other member => ?_) fun _ _ _ => onlyReads_pure _
    exact areAllowed other (List.mem_cons_of_mem _ member)

end Reads

/-! ### Mounting -/

section Mount

variable {D : Type} [BlockDevice D] {allowed : Nat → Prop} {layout : SuperBlock} {device : D}

theorem Table.load_onlyReads (areas : ∀ block, layout.InAreas block → allowed block) :
    OnlyReads allowed (Table.load layout) device := by
  refine (onlyReads_fetchBlocks fun index member => areas index (.inl member)).bind
    fun blocks fetched _ => ?_
  dsimp only
  split
  · exact onlyReads_pure _
  · exact onlyReads_throw nofun

theorem Directory.load_onlyReads (areas : ∀ block, layout.InAreas block → allowed block) :
    OnlyReads allowed (Directory.load layout) device := by
  refine (onlyReads_fetchBlock (areas _ (.inr rfl))).bind fun block fetched _ => ?_
  dsimp only
  generalize Directory.decode block = directory
  by_cases fine : directory.Acceptable layout.dataBlocks.toNat
  · rw [if_pos fine]
    exact onlyReads_pure _
  · rw [if_neg fine]
    exact onlyReads_throw nofun

variable [StoringDevice D]

/-- The superblock, and the areas that it states. They are believed only when it divides the
device. -/
def MountBlock (device : D) (block : Nat) : Prop :=
  block = superBlockIndex ∨
    ∃ layout, SuperBlock.decode (content device superBlockIndex) = .ok layout ∧
      layout.Valid (numBlocks device) ∧ layout.InAreas block

/-- Mounting only reads, whatever the device holds. -/
theorem Volume.mount_onlyReads (device : D) :
    OnlyReads (MountBlock device) Volume.mount device := by
  refine (onlyReads_fetchBlock (.inl rfl)).bind fun block fetched found => ?_
  obtain ⟨rfl, _, follows⟩ := (fetchBlock_yields superBlockIndex device).of_ok found
  refine OnlyReads.settle_bind (fun error failed => ?_) fun layout decoded => ?_
  · unfold SuperBlock.decode at failed
    split at failed <;> cases failed
  show OnlyReads _ (settle (layout.validate (numBlocks fetched)) >>= _) fetched
  refine OnlyReads.settle_bind (fun error failed => ?_) fun _ accepted => ?_
  · unfold SuperBlock.validate at failed
    split at failed <;> cases failed
  rw [follows.numBlocks_eq] at accepted
  have areas : ∀ block, layout.InAreas block → MountBlock device block :=
    fun block inAreas => .inr ⟨layout, decoded, SuperBlock.validate_eq_ok_iff.mp accepted, inAreas⟩
  refine (Table.load_onlyReads areas).bind fun table loaded _ => ?_
  exact (Directory.load_onlyReads areas).bind fun directory _ _ => onlyReads_pure _

end Mount

/-! ### Reads of a disk -/

namespace Disk

/-- The disk after some reads, with the log that it has then. -/
def afterReads (disk : Disk) (calls : Nat) (log : List Call) : Disk :=
  { disk.setFaults .read ⟨disk.faults.read.fails, calls⟩ with log }

theorem attempt_read_eq {disk after : Disk} {block : Nat}
    (attempted : attempt .read block disk = .ok () after) :
    after = disk.afterReads after.faults.read.calls after.log := by
  unfold attempt at attempted
  split at attempted
  · cases attempted
  · dsimp only at attempted
    split at attempted <;> cases attempted
    rfl

/-- A disk that was only read is the same, but for the number of reads and the log. -/
theorem eq_of_reads {allowed : Nat → Prop} {disk after : Disk}
    (reads : Reads allowed disk after) :
    after = disk.afterReads after.faults.read.calls after.log := by
  induction reads with
  | nothing => rfl
  | @block middle after index value _ _ read hypothesis =>
    have one : Yields (readBlock index) middle
        (fun _ after => after = middle.afterReads after.faults.read.calls after.log)
        (fun _ _ => True) := by
      refine yields_bind.mpr ((yields_self _ middle).mono ?_ fun _ _ _ => trivial)
      exact fun _ _ attempted => attempt_read_eq attempted
    rw [one.of_ok read, hypothesis]
    rfl

end Disk

end FlatVolume
