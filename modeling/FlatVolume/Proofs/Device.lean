/-
**Devices that keep what is written to them.**

* `StoringDevice`: a block reads as it was last written. Any call may fail at any time, and a write
  that fails may leave anything in its own block.
* `FaithfulDevice`: a write that fails transfers nothing.
* `Reliable`: the device takes every call on its own blocks, now and after any further calls.

`fetchBlock_yields`, `storeBlock_yields` and `flushDevice_yields` say what the calls made on behalf
of a volume do. All of them leave a device that `Follows` the one before: it has whatever properties
calls keep, so a kind of device with an invariant of its own needs only to know its calls.
-/

import Mathlib.Logic.Function.Basic
import FlatVolume.Device.Disk
import FlatVolume.Proofs.Outcome

namespace FlatVolume

open BlockDevice

/-- A device whose blocks have a content: reads return it and writes replace it. No call changes
another block than its own, and only writes change a block at all. -/
class StoringDevice (D : Type) [BlockDevice D] where
  content : D → Nat → Block
  readBlock_yields : ∀ (block : Nat) (device : D),
    Yields (readBlock block) device
      (fun result after => result = content device block ∧
        content after = content device ∧ numBlocks after = numBlocks device)
      (fun _ after => content after = content device ∧ numBlocks after = numBlocks device)
  writeBlock_yields : ∀ (block : Nat) (value : Block) (device : D),
    Yields (writeBlock block value) device
      (fun _ after => content after = Function.update (content device) block value ∧
        numBlocks after = numBlocks device)
      (fun _ after => (∀ other, other ≠ block → content after other = content device other) ∧
        numBlocks after = numBlocks device)
  flush_yields : ∀ device : D,
    Yields flush device
      (fun _ after => content after = content device ∧ numBlocks after = numBlocks device)
      (fun _ after => content after = content device ∧ numBlocks after = numBlocks device)

export StoringDevice (content)

/-- A storing device on which a call that fails changes no block. -/
class FaithfulDevice (D : Type) [BlockDevice D] extends StoringDevice D where
  writeBlock_fails : ∀ (block : Nat) (value : Block) (device : D),
    Yields (writeBlock block value) device (fun _ _ => True)
      (fun _ after => content after = content device)

section Reliable

variable {D : Type} [BlockDevice D]

/-- The device fails no call on a block that it has, now and after any calls. -/
def Reliable (device : D) : Prop :=
  ∃ good : D → Prop, good device ∧ ∀ device, good device →
    (∀ block, Yields (readBlock block) device (fun _ => good)
      (fun _ after => numBlocks device ≤ block ∧ good after)) ∧
    (∀ block value, Yields (writeBlock block value) device (fun _ => good)
      (fun _ after => numBlocks device ≤ block ∧ good after)) ∧
    Yields flush device (fun _ => good) (fun _ _ => False)

theorem Reliable.readBlock_yields {device : D} (reliable : Reliable device) (block : Nat) :
    Yields (readBlock block) device (fun _ => Reliable)
      (fun _ after => numBlocks device ≤ block ∧ Reliable after) := by
  obtain ⟨good, here, closed⟩ := reliable
  exact ((closed device here).1 block).mono (fun _ _ still => ⟨good, still, closed⟩)
    fun _ _ ended => ⟨ended.1, good, ended.2, closed⟩

theorem Reliable.writeBlock_yields {device : D} (reliable : Reliable device) (block : Nat)
    (value : Block) :
    Yields (writeBlock block value) device (fun _ => Reliable)
      (fun _ after => numBlocks device ≤ block ∧ Reliable after) := by
  obtain ⟨good, here, closed⟩ := reliable
  exact ((closed device here).2.1 block value).mono (fun _ _ still => ⟨good, still, closed⟩)
    fun _ _ ended => ⟨ended.1, good, ended.2, closed⟩

theorem Reliable.flush_yields {device : D} (reliable : Reliable device) :
    Yields flush device (fun _ => Reliable) (fun _ _ => False) := by
  obtain ⟨good, here, closed⟩ := reliable
  exact (closed device here).2.2.mono (fun _ _ still => ⟨good, still, closed⟩)
    fun _ _ impossible => impossible

/-- Every call keeps the property, whether it succeeds or not. -/
def KeptByCalls (holds : D → Prop) : Prop :=
  ∀ device, holds device →
    (∀ block, Leaves (readBlock block) device holds) ∧
    (∀ block value, Leaves (writeBlock block value) device holds) ∧
    Leaves flush device holds

/-- The device has every property that calls keep and that the other one had. -/
def Inherits (before after : D) : Prop :=
  ∀ holds : D → Prop, KeptByCalls holds → holds before → holds after

/-- Calls led from one device to the other: it has as many blocks and all that calls keep. -/
structure Follows (before after : D) : Prop where
  numBlocks_eq : numBlocks after = numBlocks before
  inherits : Inherits before after

theorem Follows.refl (device : D) : Follows device device := ⟨rfl, fun _ _ here => here⟩

theorem Follows.trans {first second third : D} (left : Follows first second)
    (right : Follows second third) : Follows first third :=
  ⟨right.numBlocks_eq.trans left.numBlocks_eq,
    fun holds kept here => right.inherits holds kept (left.inherits holds kept here)⟩

/-- A device that was reliable still is. -/
theorem Follows.reliable {before after : D} (follows : Follows before after)
    (reliable : Reliable before) : Reliable after := by
  obtain ⟨good, here, closed⟩ := reliable
  refine ⟨good, follows.inherits good (fun device holds => ?_) here, closed⟩
  obtain ⟨reads, writes, flushes⟩ := closed device holds
  exact ⟨fun block => (reads block).leaves (fun _ _ still => still) fun _ _ ended => ended.2,
    fun block value =>
      (writes block value).leaves (fun _ _ still => still) fun _ _ ended => ended.2,
    flushes.leaves (fun _ _ still => still) fun _ _ impossible => impossible.elim⟩

theorem readBlock_inherits (block : Nat) (device : D) :
    Leaves (readBlock block) device (Inherits device) := by
  unfold Leaves Yields
  cases ended : readBlock block device <;> intro holds kept here <;>
    simpa only [Leaves, Yields, ended] using (kept device here).1 block

theorem writeBlock_inherits (block : Nat) (value : Block) (device : D) :
    Leaves (writeBlock block value) device (Inherits device) := by
  unfold Leaves Yields
  cases ended : writeBlock block value device <;> intro holds kept here <;>
    simpa only [Leaves, Yields, ended] using (kept device here).2.1 block value

theorem flush_inherits (device : D) : Leaves flush device (Inherits device) := by
  unfold Leaves Yields
  cases ended : flush device <;> intro holds kept here <;>
    simpa only [Leaves, Yields, ended] using (kept device here).2.2

/-- The call on a block failed for a reason that the device gave, which no reliable device gives for
one of its blocks. -/
structure DeviceFailure (device : D) (block : Nat) (cause : VolumeError) : Prop where
  isDevice : ∃ error, cause = .device error
  unreliable : block < numBlocks device → ¬ Reliable device

/-- A call failed for a reason that the device gave, and no reliable device gives it. -/
structure DeviceFault (device : D) (cause : VolumeError) : Prop where
  isDevice : ∃ error, cause = .device error
  unreliable : ¬ Reliable device

theorem DeviceFailure.fault {device : D} {block : Nat} {cause : VolumeError}
    (failure : DeviceFailure device block cause) (inside : block < numBlocks device) :
    DeviceFault device cause :=
  ⟨failure.isDevice, failure.unreliable inside⟩

/-- A fault that comes after other calls is one from the start. -/
theorem DeviceFault.of_follows {before after : D} {cause : VolumeError}
    (fault : DeviceFault after cause) (follows : Follows before after) :
    DeviceFault before cause :=
  ⟨fault.isDevice, fun reliable => fault.unreliable (follows.reliable reliable)⟩

end Reliable

/-! ### Calls made on behalf of a volume -/

section Calls

variable {D : Type} [BlockDevice D] [StoringDevice D]

/-- A block is read as it is, or the device fails. Its content stays. -/
theorem fetchBlock_yields (block : Nat) (device : D) :
    Yields (fetchBlock block) device
      (fun result after => result = content device block ∧
        content after = content device ∧ Follows device after)
      (fun cause after => DeviceFailure device block cause ∧
        content after = content device ∧ Follows device after) := by
  have storing :=
    (StoringDevice.readBlock_yields block device).and (readBlock_inherits block device)
  refine yields_mapErrors.mpr ?_
  unfold Yields at storing ⊢
  cases ended : readBlock block device with
  | ok result after =>
    rw [ended] at storing
    obtain ⟨⟨read, same, size⟩, inherits⟩ := storing
    exact ⟨read, same, size, inherits⟩
  | error cause after =>
    rw [ended] at storing
    obtain ⟨⟨same, size⟩, inherits⟩ := storing
    refine ⟨⟨⟨cause, rfl⟩, fun inside reliable => ?_⟩, same, size, inherits⟩
    exact absurd ((reliable.readBlock_yields block).of_error ended).1 (Nat.not_le.mpr inside)

/-- A block is replaced, or the device fails. All other blocks stay. -/
theorem storeBlock_yields (block : Nat) (value : Block) (device : D) :
    Yields (storeBlock block value) device
      (fun _ after => content after = Function.update (content device) block value ∧
        Follows device after)
      (fun cause after => DeviceFailure device block cause ∧
        (∀ other, other ≠ block → content after other = content device other) ∧
        Follows device after) := by
  have storing := (StoringDevice.writeBlock_yields block value device).and
    (writeBlock_inherits block value device)
  refine yields_mapErrors.mpr ?_
  unfold Yields at storing ⊢
  cases ended : writeBlock block value device with
  | ok result after =>
    rw [ended] at storing
    obtain ⟨⟨written, size⟩, inherits⟩ := storing
    exact ⟨written, size, inherits⟩
  | error cause after =>
    rw [ended] at storing
    obtain ⟨⟨same, size⟩, inherits⟩ := storing
    refine ⟨⟨⟨cause, rfl⟩, fun inside reliable => ?_⟩, same, size, inherits⟩
    exact absurd ((reliable.writeBlock_yields block value).of_error ended).1
      (Nat.not_le.mpr inside)

/-- A flush changes no block. -/
theorem flushDevice_yields (device : D) :
    Yields flushDevice device
      (fun _ after => content after = content device ∧ Follows device after)
      (fun cause after => DeviceFault device cause ∧
        content after = content device ∧ Follows device after) := by
  have storing := (StoringDevice.flush_yields device).and (flush_inherits device)
  refine yields_mapErrors.mpr ?_
  unfold Yields at storing ⊢
  cases ended : flush device with
  | ok result after =>
    rw [ended] at storing
    obtain ⟨⟨same, size⟩, inherits⟩ := storing
    exact ⟨same, size, inherits⟩
  | error cause after =>
    rw [ended] at storing
    obtain ⟨⟨same, size⟩, inherits⟩ := storing
    exact ⟨⟨⟨cause, rfl⟩, fun reliable => reliable.flush_yields.of_error ended⟩, same, size,
      inherits⟩

end Calls

/-- On a faithful device a block that cannot be written stays as it is. -/
theorem storeBlock_faithful {D : Type} [BlockDevice D] [FaithfulDevice D] (block : Nat)
    (value : Block) (device : D) :
    Yields (storeBlock block value) device
      (fun _ after => content after = Function.update (content device) block value ∧
        Follows device after)
      (fun cause after => DeviceFailure device block cause ∧
        content after = content device ∧ Follows device after) := by
  have fails : Yields (storeBlock block value) device (fun _ _ => True)
      (fun _ after => content after = content device) :=
    yields_mapErrors.mpr (FaithfulDevice.writeBlock_fails block value device)
  refine ((storeBlock_yields block value device).and fails).mono ?_ ?_
  · exact fun _ _ ended => ended.1
  · exact fun _ _ ended => ⟨ended.1.1, ended.2, ended.1.2.2⟩

/-! ### Disks -/

namespace Disk

/-- No plan of the disk fails a call. -/
def NeverFails (disk : Disk) : Prop :=
  ∀ kind calls block, (disk.faults.plan kind).fails calls block = false

theorem neverFails_blank (numBlocks : Nat) : (blank numBlocks).NeverFails := by
  intro kind calls block
  cases kind <;> rfl

/-- A refused or failed call changes only what the disk counts. -/
theorem attempt_yields (kind : CallKind) (block : Nat) (disk : Disk) :
    Yields (attempt kind block) disk
      (fun _ after => after.medium = disk.medium ∧ after.numBlocks = disk.numBlocks)
      (fun _ after => after.medium = disk.medium ∧ after.numBlocks = disk.numBlocks) := by
  unfold Yields attempt
  cases disk.checkCall kind block with
  | error cause => exact ⟨rfl, rfl⟩
  | ok _ =>
    by_cases failed : (disk.faults.plan kind).fails (disk.faults.plan kind).calls block = true
    · simp only [failed, ↓reduceIte]
      exact ⟨rfl, rfl⟩
    · simp only [failed]
      exact ⟨rfl, rfl⟩

instance : StoringDevice Disk where
  content disk := disk.medium.block
  readBlock_yields block disk := by
    refine yields_bind.mpr ((attempt_yields .read block disk).mono ?_ ?_)
    · intro _ after ended
      obtain ⟨medium, size⟩ := ended
      exact ⟨congrArg (Medium.block · block) medium, congrArg Medium.block medium, size⟩
    · intro _ after ended
      obtain ⟨medium, size⟩ := ended
      exact ⟨congrArg Medium.block medium, size⟩
  writeBlock_yields block value disk := by
    refine yields_bind.mpr ((attempt_yields .write block disk).mono ?_ ?_)
    · intro _ after ended
      obtain ⟨medium, size⟩ := ended
      refine ⟨?_, size⟩
      funext other
      simp only [medium, Medium.block_setBlock, Function.update_apply, eq_comm]
    · intro _ after ended
      obtain ⟨medium, size⟩ := ended
      exact ⟨fun other _ => congrArg (Medium.block · other) medium, size⟩
  flush_yields disk := by
    refine (attempt_yields .flush 0 disk).mono ?_ ?_
    · intro _ after ended
      obtain ⟨medium, size⟩ := ended
      exact ⟨congrArg Medium.block medium, size⟩
    · intro _ after ended
      obtain ⟨medium, size⟩ := ended
      exact ⟨congrArg Medium.block medium, size⟩

instance : FaithfulDevice Disk where
  writeBlock_fails block value disk := by
    refine yields_bind.mpr ((attempt_yields .write block disk).mono ?_ ?_)
    · exact fun _ _ _ => trivial
    · exact fun _ after ended => congrArg Medium.block ended.1

/-- Counting a call leaves the plans as they are. -/
theorem neverFails_counted {disk : Disk} (never : disk.NeverFails) (kind : CallKind)
    (log : List Call) :
    NeverFails { disk.setFaults kind (disk.faults.plan kind).counted with log } := by
  intro other calls block
  have plans := never other calls block
  cases kind <;> cases other <;> exact plans

/-- A disk whose plans fail no call refuses only calls on blocks that it does not have. -/
theorem attempt_of_neverFails {disk : Disk} (never : disk.NeverFails) (kind : CallKind)
    (block : Nat) :
    Yields (attempt kind block) disk (fun _ => NeverFails)
      (fun _ after => (kind ≠ .flush ∧ disk.numBlocks ≤ block) ∧ NeverFails after) := by
  unfold Yields attempt
  cases checked : disk.checkCall kind block with
  | error cause =>
    refine ⟨?_, never⟩
    cases kind with
    | flush => simp [checkCall] at checked
    | read =>
      by_contra inside
      have fits := checkRequest_eq_ok_iff.mpr ⟨by simpa using inside, rfl⟩
      simp [checkCall, fits] at checked
    | write =>
      by_contra inside
      have fits := checkRequest_eq_ok_iff.mpr ⟨by simpa using inside, rfl⟩
      simp [checkCall, fits] at checked
  | ok _ =>
    simp only [never kind _ block]
    exact neverFails_counted never kind _

/-- A disk whose plans fail no call is reliable. -/
theorem reliable_of_neverFails {disk : Disk} (never : disk.NeverFails) : Reliable disk := by
  refine ⟨NeverFails, never, fun disk never => ⟨fun block => ?_, fun block value => ?_, ?_⟩⟩
  · refine yields_bind.mpr ((attempt_of_neverFails never .read block).mono ?_ ?_)
    · exact fun _ _ still => still
    · exact fun _ _ ended => ⟨ended.1.2, ended.2⟩
  · refine yields_bind.mpr ((attempt_of_neverFails never .write block).mono ?_ ?_)
    · exact fun _ _ still => still
    · exact fun _ _ ended => ⟨ended.1.2, ended.2⟩
  · refine (attempt_of_neverFails never .flush 0).mono (fun _ _ still => still) ?_
    exact fun _ _ ended => ended.1.1 rfl

end Disk

end FlatVolume
