/-
**Exactly which calls an action makes.**

`Led calls before after`: just these calls, in this order, led from one disk to the other.
`Performs calls action disk`: an action that succeeds has made just these calls. The calls of
actions one after another are appended (`Performs.bind`), and an action that needs no disk makes
none. What a failed action has done is not said here.
-/

import FlatVolume.Proofs.Calls.Basic

namespace FlatVolume.Disk

/-- Just these calls led from one disk to the other. -/
abbrev Led (calls : List Call) (before after : Disk) : Prop :=
  Made (fun _ => True) before after calls

/-- An action that succeeds has made just the given calls. -/
def Performs {α : Type} (calls : List Call) (action : EStateM VolumeError Disk α)
    (disk : Disk) : Prop :=
  Yields action disk (fun _ after => Led calls disk after) (fun _ _ => True)

section Performs

variable {α β : Type} {calls later : List Call} {disk : Disk}

theorem Performs.of_ok {action : EStateM VolumeError Disk α} {result : α} {after : Disk}
    (performs : Performs calls action disk) (ended : action disk = .ok result after) :
    Led calls disk after := by
  simpa only [Performs, Yields, ended] using performs

theorem performs_pure (result : α) : Performs [] (pure result) disk := Made.nil _ disk

/-- The calls of the second action come after those of the first. -/
theorem Performs.bind {action : EStateM VolumeError Disk α} {rest : α → EStateM VolumeError Disk β}
    (performs : Performs calls action disk)
    (next : ∀ result after, action disk = .ok result after → Performs later (rest result) after) :
    Performs (calls ++ later) (action >>= rest) disk := by
  refine yields_bind.mpr ?_
  unfold Performs Yields at performs
  unfold Yields
  cases ended : action disk with
  | ok result middle =>
    rw [ended] at performs
    apply Yields.mono (next result middle ended)
    · exact fun _ _ more => Made.append performs more
    · exact fun _ _ failed => failed
  | error _ _ => trivial

/-- An outcome that needs no disk needs no call. -/
theorem Performs.settle_bind {outcome : Except VolumeError α}
    {rest : α → EStateM VolumeError Disk β}
    (next : ∀ result, outcome = .ok result → Performs calls (rest result) disk) :
    Performs calls (settle outcome >>= rest) disk := by
  cases outcome with
  | ok result => exact next result rfl
  | error _ => trivial

/-- What is read from the disk's state is not a call. -/
theorem Performs.get_bind {rest : Disk → EStateM VolumeError Disk β}
    (next : Performs calls (rest disk) disk) : Performs calls (get >>= rest) disk := next

theorem Single.performs {kind : CallKind} {block : Nat} {action : EStateM VolumeError Disk α}
    (single : Single (fun _ => True) kind block action disk) :
    Performs [⟨kind, block, false⟩] action disk :=
  Yields.mono single (fun _ _ made => made) fun _ _ _ => trivial

theorem performs_fetchBlock (block : Nat) :
    Performs [⟨.read, block, false⟩] (fetchBlock block) disk :=
  (single_fetchBlock (fun _ => trivial) disk).performs

theorem performs_storeBlock (block : Nat) (value : Block) :
    Performs [⟨.write, block, false⟩] (storeBlock block value) disk :=
  (single_storeBlock (fun _ => trivial) value disk).performs

theorem performs_flushDevice : Performs [⟨.flush, 0, false⟩] flushDevice disk :=
  (single_flushDevice (fun _ => trivial) disk).performs

/-- Blocks that are stored one after another are written in that order. -/
theorem performs_storeBlocks (value : Nat → Block) (positions : List Nat) :
    Performs (positions.map fun position => ⟨.write, 1 + position, false⟩)
      (positions.forM fun position => storeBlock (1 + position) (value position)) disk := by
  induction positions generalizing disk with
  | nil => exact performs_pure ()
  | cons position rest hypothesis =>
    exact (performs_storeBlock _ _).bind fun _ _ _ => hypothesis

end Performs

end FlatVolume.Disk
