/-
**Disks that can fail.**

A disk is a medium of a stated number of blocks. Each kind of call has a fault plan, which may fail
any call by how many came before it and by its block; a call that fails transfers nothing. The disk
keeps a log of the calls made to it.
-/

import FlatVolume.Device.Basic
import FlatVolume.Device.Medium

namespace FlatVolume

/-- The calls that a disk takes. -/
inductive CallKind where
  | read
  | write
  | flush
deriving DecidableEq

/-- A call made to a disk. A flush is a call on block `0`. -/
structure Call where
  kind : CallKind
  block : Nat
  failed : Bool
deriving DecidableEq

/-! ### Fault plans -/

/-- Which calls of one kind fail, and how many were made so far. -/
structure FaultPlan where
  /-- Whether the call fails that comes after `calls` others and is on `block`. -/
  fails : (calls block : Nat) → Bool
  calls : Nat

namespace FaultPlan

/-- No call fails. -/
def never : FaultPlan := ⟨fun _ _ => false, 0⟩

/-- Every call fails. -/
def always : FaultPlan := ⟨fun _ _ => true, 0⟩

/-- The calls on the listed blocks fail. -/
def onBlocks (blocks : List Nat) : FaultPlan := ⟨fun _ block => blocks.contains block, 0⟩

/-- The next `count` calls succeed, and all later ones fail. -/
def afterCalls (count : Nat) : FaultPlan := ⟨fun calls _ => decide (count ≤ calls), 0⟩

/-- The plan after one more call. -/
def counted (plan : FaultPlan) : FaultPlan := { plan with calls := plan.calls + 1 }

end FaultPlan

/-- One fault plan for each kind of call. -/
structure Faults where
  read : FaultPlan
  write : FaultPlan
  flush : FaultPlan

namespace Faults

/-- No call fails. -/
def never : Faults := ⟨.never, .never, .never⟩

/-- The plan for one kind of call. -/
def plan (faults : Faults) : CallKind → FaultPlan
  | .read => faults.read
  | .write => faults.write
  | .flush => faults.flush

/-- Replaces the plan for one kind of call. -/
def setPlan (faults : Faults) (kind : CallKind) (plan : FaultPlan) : Faults :=
  match kind with
  | .read => { faults with read := plan }
  | .write => { faults with write := plan }
  | .flush => { faults with flush := plan }

end Faults

/-! ### The disk -/

/-- A medium with its number of blocks, its fault plans and its log. -/
structure Disk where
  numBlocks : Nat
  medium : Medium
  faults : Faults
  /-- The calls in the order in which they were made. -/
  log : List Call

namespace Disk

/-- A disk of zeros on which no call fails. -/
def blank (numBlocks : Nat) : Disk := ⟨numBlocks, .blank, .never, []⟩

/-- Replaces the fault plan for one kind of call. -/
def setFaults (disk : Disk) (kind : CallKind) (plan : FaultPlan) : Disk :=
  { disk with faults := disk.faults.setPlan kind plan }

/-- Forgets the calls made so far. -/
def clearLog (disk : Disk) : Disk := { disk with log := [] }

/-- Changes the number of blocks and keeps the medium. -/
def resize (disk : Disk) (numBlocks : Nat) : Disk := { disk with numBlocks }

/-- Whether the disk takes the call at all. A flush is always taken. -/
def checkCall (disk : Disk) : CallKind → Nat → Except DeviceError Unit
  | .flush, _ => .ok ()
  | _, block => checkRequest disk.numBlocks block blockSize

/-- Refuses a call, or counts it and fails it by the plan; the log has it in each case. -/
def attempt (kind : CallKind) (block : Nat) : EStateM DeviceError Disk Unit := fun disk =>
  match disk.checkCall kind block with
  | .error cause => .error cause { disk with log := disk.log ++ [⟨kind, block, true⟩] }
  | .ok () =>
    let plan := disk.faults.plan kind
    let failed := plan.fails plan.calls block
    let after :=
      { disk.setFaults kind plan.counted with log := disk.log ++ [⟨kind, block, failed⟩] }
    if failed then .error .failed after else .ok () after

instance : BlockDevice Disk where
  numBlocks := Disk.numBlocks
  readBlock block := do
    attempt .read block
    return (← get).medium.block block
  writeBlock block content := do
    attempt .write block
    modify fun disk => { disk with medium := disk.medium.setBlock block content }
  flush := attempt .flush 0

end Disk

end FlatVolume
