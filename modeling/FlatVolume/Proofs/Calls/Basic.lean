/-
**The calls that an action makes.**

`Makes allowed before after`: one disk came from the other by calls that are all allowed, and they
are what its log has more. `Calling disk allowed action state`: whether the action succeeds or
fails, it makes only allowed calls to the `disk` of its state, and when it reports an error of the
disk, an allowed call is the cause. An action whose state has no disk is given one `beside` it.

A call goes wrong in two ways only (`Fails`): the disk does not have the block, or the plan for its
kind fails it. `Calling.bind` puts actions together, and an outcome that needs no state may come
between them if it is `Blameless`. `single_fetchBlock`, `single_storeBlock` and
`single_flushDevice` are the single calls.
-/

import FlatVolume.Proofs.Device

namespace FlatVolume

namespace Disk

/-- The disk refuses the call, or its plan can fail it. -/
def Fails (disk : Disk) (call : Call) : Prop :=
  call.kind ≠ .flush ∧ disk.numBlocks ≤ call.block ∨
    ∃ count, (disk.faults.plan call.kind).fails count call.block = true

/-- The calls, all of them allowed, led from one disk to the other. Only blocks that were written
changed, the plans stay the same, and a call that is logged as failed had a reason to fail. -/
structure Made (allowed : Call → Prop) (before after : Disk) (calls : List Call) : Prop where
  log_eq : after.log = before.log ++ calls
  numBlocks_eq : after.numBlocks = before.numBlocks
  plans_eq : ∀ kind, (after.faults.plan kind).fails = (before.faults.plan kind).fails
  block_eq : ∀ block, ⟨.write, block, false⟩ ∉ calls →
    after.medium.block block = before.medium.block block
  allowed : ∀ call ∈ calls, allowed call
  failed : ∀ call ∈ calls, call.failed = true → before.Fails call

/-- Allowed calls led from one disk to the other. -/
def Makes (allowed : Call → Prop) (before after : Disk) : Prop :=
  ∃ calls, Made allowed before after calls

/-- The call accounts for an error that the disk reported. -/
structure Accounts (disk : Disk) (call : Call) (error : DeviceError) : Prop where
  failed : call.failed = true
  reason : disk.Fails call
  error_eq : error = .failed ∨ disk.numBlocks ≤ call.block ∧ error = .outOfRange call.block

/-- An error of the disk is accounted for by an allowed call. Other errors need no call. -/
def Explains (allowed : Call → Prop) (disk : Disk) (cause : VolumeError) : Prop :=
  ∀ error, cause = .device error → ∃ call, allowed call ∧ disk.Accounts call error

section Makes

variable {allowed wider : Call → Prop} {first second third : Disk}

theorem Made.nil (allowed : Call → Prop) (disk : Disk) : Made allowed disk disk [] where
  log_eq := (List.append_nil _).symm
  numBlocks_eq := rfl
  plans_eq _ := rfl
  block_eq _ _ := rfl
  allowed _ member := (List.not_mem_nil member).elim
  failed _ member := (List.not_mem_nil member).elim

theorem Makes.refl (allowed : Call → Prop) (disk : Disk) : Makes allowed disk disk :=
  ⟨[], .nil allowed disk⟩

theorem fails_congr (numBlocks : second.numBlocks = first.numBlocks)
    (plans : ∀ kind, (second.faults.plan kind).fails = (first.faults.plan kind).fails)
    (call : Call) : second.Fails call ↔ first.Fails call := by
  rw [Fails, Fails, numBlocks, plans]

/-- Calls after other calls. -/
theorem Made.append {calls later : List Call} (made : Made allowed first second calls)
    (more : Made allowed second third later) : Made allowed first third (calls ++ later) := by
  refine ⟨?_, more.numBlocks_eq.trans made.numBlocks_eq,
    fun kind => (more.plans_eq kind).trans (made.plans_eq kind), fun block unwritten => ?_,
    fun call member => ?_, fun call member wrong => ?_⟩
  · rw [more.log_eq, made.log_eq, List.append_assoc]
  · rw [List.mem_append, not_or] at unwritten
    exact (more.block_eq block unwritten.2).trans (made.block_eq block unwritten.1)
  · rcases List.mem_append.mp member with member | member
    · exact made.allowed call member
    · exact more.allowed call member
  · rcases List.mem_append.mp member with member | member
    · exact made.failed call member wrong
    · exact (fails_congr made.numBlocks_eq made.plans_eq call).mp (more.failed call member wrong)

theorem Makes.trans (left : Makes allowed first second) (right : Makes allowed second third) :
    Makes allowed first third := by
  obtain ⟨calls, made⟩ := left
  obtain ⟨later, more⟩ := right
  exact ⟨calls ++ later, made.append more⟩

theorem Makes.mono (makes : Makes allowed first second)
    (weaker : ∀ call, allowed call → wider call) : Makes wider first second := by
  obtain ⟨calls, made⟩ := makes
  exact ⟨calls, { made with allowed := fun call member => weaker call (made.allowed call member) }⟩

theorem Made.accounts_iff {calls : List Call} (made : Made allowed first second calls) {call : Call}
    {error : DeviceError} : second.Accounts call error ↔ first.Accounts call error := by
  have same := fails_congr made.numBlocks_eq made.plans_eq call
  have blocks := made.numBlocks_eq
  constructor
  · rintro ⟨failed, reason, cause⟩
    exact ⟨failed, same.mp reason, blocks ▸ cause⟩
  · rintro ⟨failed, reason, cause⟩
    exact ⟨failed, same.mpr reason, blocks.symm ▸ cause⟩

/-- What accounts for an error after some calls accounts for it before them, and the other way. -/
theorem Makes.explains_iff {cause : VolumeError} {permitted : Call → Prop}
    (makes : Makes allowed first second) :
    Explains permitted second cause ↔ Explains permitted first cause := by
  obtain ⟨calls, made⟩ := makes
  unfold Explains
  simp only [made.accounts_iff]

theorem Explains.mono {cause : VolumeError} (explains : Explains allowed first cause)
    (weaker : ∀ call, allowed call → wider call) : Explains wider first cause := by
  intro error isDevice
  obtain ⟨call, fine, accounts⟩ := explains error isDevice
  exact ⟨call, weaker call fine, accounts⟩

/-- An error that is not the disk's needs no call. -/
theorem explains_of_ne {cause : VolumeError} (other : ∀ error, cause ≠ .device error) :
    Explains allowed first cause :=
  fun error isDevice => absurd isDevice (other error)

end Makes

/-! ### Actions -/

variable {σ τ α β : Type}

/-- The action makes only allowed calls to the disk that is a part of its state, and one of these
accounts for an error of the disk. -/
def Calling (disk : σ → Disk) (allowed : Call → Prop) (action : EStateM VolumeError σ α)
    (state : σ) : Prop :=
  Yields action state (fun _ after => Makes allowed (disk state) (disk after))
    (fun cause after => Makes allowed (disk state) (disk after) ∧
      Explains allowed (disk state) cause)

/-- The outcome is no error of a disk. -/
def Blameless (outcome : Except VolumeError α) : Prop := ∀ error, outcome ≠ .error (.device error)

/-- What is done with a result may fail too. -/
theorem Blameless.bind {outcome : Except VolumeError α} {rest : α → Except VolumeError β}
    (first : Blameless outcome) (later : ∀ result, Blameless (rest result)) :
    Blameless (outcome >>= rest) := by
  cases outcome with
  | ok result => exact later result
  | error cause =>
    intro error failed
    rw [Except.error.inj failed] at first
    exact first error rfl

/-- The disk beside a state that has none. An action on such a state makes no call. -/
abbrev beside (disk : Disk) (_ : σ) : Disk := disk

section Calling

variable {disk : σ → Disk} {allowed wider : Call → Prop} {state : σ}

theorem Calling.mono {action : EStateM VolumeError σ α}
    (calling : Calling disk allowed action state) (weaker : ∀ call, allowed call → wider call) :
    Calling disk wider action state :=
  Yields.mono calling (fun _ _ makes => makes.mono weaker)
    fun _ _ ended => ⟨ended.1.mono weaker, ended.2.mono weaker⟩

theorem calling_pure (result : α) : Calling disk allowed (pure result) state := Makes.refl allowed _

theorem calling_throw {cause : VolumeError} (explains : Explains allowed (disk state) cause) :
    Calling disk allowed (throw cause : EStateM VolumeError σ α) state :=
  ⟨.refl allowed _, explains⟩

/-- A change of the state beside the disk needs no call. -/
theorem calling_modify {change : σ → σ} (beside : disk (change state) = disk state) :
    Calling disk allowed (modify change) state := by
  show Makes allowed (disk state) (disk (change state))
  rw [beside]
  exact .refl allowed _

/-- The second action starts where the first one ended. -/
theorem Calling.bind {action : EStateM VolumeError σ α} {rest : α → EStateM VolumeError σ β}
    (calling : Calling disk allowed action state)
    (later : ∀ result after, action state = .ok result after →
      Calling disk allowed (rest result) after) :
    Calling disk allowed (action >>= rest) state := by
  refine yields_bind.mpr ?_
  unfold Calling Yields at calling
  unfold Yields
  cases ended : action state with
  | ok result middle =>
    rw [ended] at calling
    refine Yields.mono (later result middle ended) (fun _ _ makes => Makes.trans calling makes) ?_
    exact fun _ _ failed => ⟨Makes.trans calling failed.1, (Makes.explains_iff calling).mp failed.2⟩
  | error cause after =>
    rw [ended] at calling
    exact calling

/-- Replying with the result of an action needs no call. -/
theorem Calling.replied {action : EStateM VolumeError σ α} {reply : α → β}
    (calling : Calling disk allowed action state) :
    Calling disk allowed (do return reply (← action)) state :=
  calling.bind fun result _ _ => calling_pure (reply result)

/-- What is read from the state is the state. -/
theorem Calling.get_bind {rest : σ → EStateM VolumeError σ β}
    (later : Calling disk allowed (rest state) state) :
    Calling disk allowed (get >>= rest) state := later

/-- An outcome that needs no state needs no call, and it blames no disk. -/
theorem Calling.settle_bind {outcome : Except VolumeError α}
    {rest : α → EStateM VolumeError σ β} (blameless : Blameless outcome)
    (later : ∀ result, outcome = .ok result → Calling disk allowed (rest result) state) :
    Calling disk allowed (settle outcome >>= rest) state := by
  cases outcome with
  | ok result => exact later result rfl
  | error _ =>
    exact ⟨.refl allowed _, explains_of_ne fun error same => blameless error (same ▸ rfl)⟩

/-- An action on a part makes the calls that it makes to the disk of the whole. -/
theorem Calling.focus {view : σ → τ} {update : τ → σ → σ} {action : EStateM VolumeError τ α}
    (same : disk (update (view state) state) = disk state)
    (calling : Calling (fun part => disk (update part state)) allowed action (view state)) :
    Calling disk allowed (focus view update action) state := by
  refine yields_focus.mpr ?_
  unfold Calling at calling
  dsimp only at calling
  rwa [same] at calling

/-- A failure is handled after the calls of the action. -/
theorem Calling.tryCatch {action : EStateM VolumeError σ α}
    {handle : VolumeError → EStateM VolumeError σ α}
    (calling : Calling disk allowed action state)
    (handled : ∀ cause after, Explains allowed (disk after) cause →
      Calling disk allowed (handle cause) after) :
    Calling disk allowed (tryCatch action handle) state := by
  refine yields_tryCatch.mpr
    (Yields.mono calling (fun _ _ makes => makes) fun cause middle ended => ?_)
  obtain ⟨makes, explains⟩ := ended
  refine Yields.mono (handled cause middle (makes.explains_iff.mpr explains)) ?_ ?_
  · exact fun _ _ more => makes.trans more
  · exact fun _ _ failed => ⟨makes.trans failed.1, makes.explains_iff.mp failed.2⟩

end Calling

/-! ### Single calls -/

section Single

variable {allowed : Call → Prop}

/-- A call is logged and leaves the medium alone. It fails only for a reason. -/
theorem attempt_made (kind : CallKind) (block : Nat) (disk : Disk)
    (permitted : ∀ failed, allowed ⟨kind, block, failed⟩) :
    Yields (attempt kind block) disk
      (fun _ after => after.medium = disk.medium ∧ Made allowed disk after [⟨kind, block, false⟩])
      (fun error after => Made allowed disk after [⟨kind, block, true⟩] ∧
        disk.Accounts ⟨kind, block, true⟩ error) := by
  have single : ∀ (after : Disk) (failed : Bool), after.log = disk.log ++ [⟨kind, block, failed⟩] →
      after.numBlocks = disk.numBlocks → after.medium = disk.medium →
      (∀ other, (after.faults.plan other).fails = (disk.faults.plan other).fails) →
      (failed = true → disk.Fails ⟨kind, block, true⟩) →
      Made allowed disk after [⟨kind, block, failed⟩] := by
    intro after failed log numBlocks medium plans reason
    refine ⟨log, numBlocks, plans, fun other _ => by rw [medium], fun call member => ?_,
      fun call member wrong => ?_⟩
    · obtain rfl := List.mem_singleton.mp member
      exact permitted failed
    · obtain rfl := List.mem_singleton.mp member
      obtain rfl : failed = true := wrong
      exact reason rfl
  have counted : ∀ other, ((disk.setFaults kind (disk.faults.plan kind).counted).faults.plan
      other).fails = (disk.faults.plan other).fails := by
    intro other
    cases kind <;> cases other <;> rfl
  unfold Yields attempt
  cases checked : disk.checkCall kind block with
  | error cause =>
    have refused : kind ≠ .flush ∧ disk.numBlocks ≤ block ∧ cause = .outOfRange block := by
      cases kind with
      | flush => cases checked
      | read | write =>
        simp only [checkCall, checkRequest, ne_eq, not_true_eq_false, ↓reduceIte] at checked
        split at checked
        · rename_i outside
          exact ⟨by decide, outside, (Except.error.inj checked).symm⟩
        · cases checked
    have reason : disk.Fails ⟨kind, block, true⟩ := .inl ⟨refused.1, refused.2.1⟩
    exact ⟨single _ true rfl rfl rfl (fun _ => rfl) fun _ => reason, rfl, reason, .inr refused.2⟩
  | ok _ =>
    dsimp only
    cases failed : (disk.faults.plan kind).fails (disk.faults.plan kind).calls block with
    | true =>
      have reason : disk.Fails ⟨kind, block, true⟩ := .inr ⟨_, failed⟩
      exact ⟨single _ _ rfl rfl rfl counted fun _ => reason, rfl, reason, .inl rfl⟩
    | false => exact ⟨rfl, single _ _ rfl rfl rfl counted fun wrong => by cases wrong⟩

/-- The action makes one call of its disk, and an error that it reports is the disk's. -/
def Single (allowed : Call → Prop) (kind : CallKind) (block : Nat)
    (action : EStateM VolumeError Disk α) (disk : Disk) : Prop :=
  Yields action disk (fun _ after => Made allowed disk after [⟨kind, block, false⟩])
    (fun cause after => Made allowed disk after [⟨kind, block, true⟩] ∧
      ∃ error, cause = .device error ∧ disk.Accounts ⟨kind, block, true⟩ error)

theorem single_fetchBlock {block : Nat} (permitted : ∀ failed, allowed ⟨.read, block, failed⟩)
    (disk : Disk) : Single allowed .read block (fetchBlock block) disk := by
  refine yields_mapErrors.mpr (yields_bind.mpr
    ((attempt_made .read block disk permitted).mono (fun _ _ ended => ended.2) ?_))
  exact fun error _ ended => ⟨ended.1, error, rfl, ended.2⟩

theorem single_storeBlock {block : Nat} (permitted : ∀ failed, allowed ⟨.write, block, failed⟩)
    (value : Block) (disk : Disk) : Single allowed .write block (storeBlock block value) disk := by
  refine yields_mapErrors.mpr (yields_bind.mpr ((attempt_made .write block disk permitted).mono ?_
    fun error _ ended => ⟨ended.1, error, rfl, ended.2⟩))
  rintro _ after ⟨medium, made⟩
  refine { made with block_eq := fun other unwritten => ?_ }
  rw [List.mem_singleton] at unwritten
  show (after.medium.setBlock block value).block other = disk.medium.block other
  rw [Medium.block_setBlock, if_neg, medium]
  rintro rfl
  exact unwritten rfl

theorem single_flushDevice (permitted : ∀ failed, allowed ⟨.flush, 0, failed⟩) (disk : Disk) :
    Single allowed .flush 0 flushDevice disk :=
  yields_mapErrors.mpr ((attempt_made .flush 0 disk permitted).mono (fun _ _ ended => ended.2)
    fun error _ ended => ⟨ended.1, error, rfl, ended.2⟩)

/-- A single call is made if it is allowed. -/
theorem Single.calling {kind : CallKind} {block : Nat} {action : EStateM VolumeError Disk α}
    {disk : Disk} (single : Single allowed kind block action disk)
    (permitted : allowed ⟨kind, block, true⟩) : Calling id allowed action disk := by
  refine Yields.mono single (fun _ _ made => ⟨_, made⟩) fun cause after ended => ?_
  obtain ⟨made, error, rfl, accounts⟩ := ended
  refine ⟨⟨_, made⟩, fun other same => ⟨_, permitted, ?_⟩⟩
  obtain rfl := VolumeError.device.inj same
  exact accounts

theorem calling_fetchBlock {block : Nat} (permitted : ∀ failed, allowed ⟨.read, block, failed⟩)
    (disk : Disk) : Calling id allowed (fetchBlock block) disk :=
  (single_fetchBlock permitted disk).calling (permitted true)

theorem calling_storeBlock {block : Nat} (permitted : ∀ failed, allowed ⟨.write, block, failed⟩)
    (value : Block) (disk : Disk) : Calling id allowed (storeBlock block value) disk :=
  (single_storeBlock permitted value disk).calling (permitted true)

theorem calling_flushDevice (permitted : ∀ failed, allowed ⟨.flush, 0, failed⟩) (disk : Disk) :
    Calling id allowed flushDevice disk :=
  (single_flushDevice permitted disk).calling (permitted true)

end Single

end Disk

end FlatVolume
