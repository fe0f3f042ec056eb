/-
**Steps that fail.**

`run_atomic` says what holds of a session at any time, whatever image its device held at the start,
whatever steps were made, and whatever calls the device fails:

* a step that fails, other than a write, leaves the session with the volume that it had, or with
  none if it had none. Only reading, mounting and writing the volume back make calls to the device
  before they fail, and they leave every block as it was, or a torn disk (`Touched`);
* a deletion frees no block or all blocks of the file. Once its check is passed it cannot fail;
* with a file open, an unmount makes no call to the device, and neither does a mount of a session
  that has a volume already.
-/

import FlatVolume.Proofs.Session.Remount
import FlatVolume.Proofs.Storage.Torn
import FlatVolume.Proofs.Volume.Deletion
import FlatVolume.Proofs.Volume.Operations

namespace FlatVolume

open BlockDevice

/-! ### In memory -/

namespace Volume

/-- The action leaves the volume alone when it fails. -/
def FailsClean {α : Type} (action : EStateM VolumeError Volume α) (volume : Volume) : Prop :=
  Yields action volume (fun _ _ => True) (fun _ after => after = volume)

variable (volume : Volume)

theorem create_failsClean (name : String) : FailsClean (create name) volume := by
  unfold FailsClean Yields
  rw [create_eq]
  cases volume.directory.insert name with
  | ok inserted => trivial
  | error cause => exact rfl

theorem delete_failsClean (name : String) : FailsClean (delete name) volume :=
  (volume.delete_yields name).mono (fun _ _ _ => trivial) fun _ _ ended => ended.1

theorem openFile_failsClean (name : String) : FailsClean (openFile name) volume := by
  unfold FailsClean Yields
  rw [openFile_eq]
  cases volume.directory.lookup name with
  | error cause => exact rfl
  | ok slot =>
    dsimp only
    cases volume.descriptors.insert slot with
    | ok opened => trivial
    | error cause => exact rfl

theorem close_failsClean (descriptor : Nat) : FailsClean (close descriptor) volume := by
  unfold FailsClean Yields
  rw [close_eq]
  cases volume.descriptors.get descriptor with
  | ok file => trivial
  | error cause => exact rfl

theorem seek_failsClean (descriptor offset : Nat) :
    FailsClean (seek descriptor offset) volume := by
  unfold FailsClean Yields
  rw [seek_eq]
  cases volume.descriptors.get descriptor with
  | error cause => exact rfl
  | ok file =>
    dsimp only
    by_cases outside : (volume.directory.get file.slot).size.toNat < offset
    · rw [if_pos outside]
    · rw [if_neg outside]
      trivial

end Volume

/-! ### Requests -/

namespace Mounted

section Actions

variable {D α : Type} {mounted : Mounted D}

/-- The action fails without a change to the volume, and the device it leaves is a fine one. -/
def Fails (action : EStateM VolumeError (Mounted D) α) (mounted : Mounted D)
    (fine : D → Prop) : Prop :=
  Yields action mounted (fun _ _ => True)
    (fun _ after => after.volume = mounted.volume ∧ fine after.device)

theorem Fails.replied {action : EStateM VolumeError (Mounted D) α} {fine : D → Prop} {β : Type}
    {reply : α → β} (fails : Fails action mounted fine) :
    Fails (do return reply (← action)) mounted fine :=
  yields_bind.mpr fails

theorem fails_onVolume {action : EStateM VolumeError Volume α}
    (clean : Volume.FailsClean action mounted.volume) :
    Fails (onVolume action) mounted (· = mounted.device) :=
  yields_focus.mpr (clean.mono (fun _ _ _ => trivial) fun _ _ same => ⟨same, rfl⟩)

theorem fails_settle (outcome : Except VolumeError α) :
    Fails (settle outcome) mounted (· = mounted.device) :=
  yields_settle (fun _ _ => trivial) fun _ _ => ⟨rfl, rfl⟩

end Actions

section Requests

variable {D : Type} [BlockDevice D] {mounted : Mounted D}

theorem fails_read [StoringDevice D] (descriptor length : Nat) :
    Fails (read descriptor length) mounted
      fun device => content device = content mounted.device := by
  unfold Fails read
  rw [yields_bind, yields_get, yields_bind]
  refine yields_settle (fun file _ => ?_) fun _ _ => ⟨rfl, rfl⟩
  rw [yields_bind, onDevice, yields_focus]
  refine (readFile_frame _ _ _ file.offset length mounted.device).mono ?_ ?_
  · exact fun _ _ _ => trivial
  · exact fun _ _ ended => ⟨rfl, ended.1⟩

variable [FaithfulDevice D]

theorem fails_sync (sound : mounted.Sound) :
    Fails sync mounted
      fun device => mounted.volume.Torn (content mounted.device) (content device) := by
  unfold Fails sync
  rw [yields_bind, yields_get, onDevice, yields_focus]
  refine (mounted.volume.sync_torn sound.volume.layout).mono ?_ ?_
  · exact fun _ _ _ => trivial
  · exact fun _ _ torn => ⟨rfl, torn⟩

/-- What a request that fails has done to the device. -/
def Touched (mounted : Mounted D) (request : Request) (device : D) : Prop :=
  match request with
  | .sync => mounted.volume.Torn (content mounted.device) (content device)
  | .read _ _ => content device = content mounted.device
  | _ => device = mounted.device

/-- A request that fails, other than a write, does not change the volume. -/
theorem fails_serve (sound : mounted.Sound) (request : Request)
    (noWrite : ∀ descriptor data, request ≠ .write descriptor data) :
    Fails (serve request) mounted (mounted.Touched request) := by
  cases request with
  | sync => exact (fails_sync sound).replied
  | info | layout | list => trivial
  | check => exact (fails_settle mounted.volume.check).replied
  | chain name => exact (fails_settle (mounted.volume.chain name)).replied
  | create name => exact (fails_onVolume (mounted.volume.create_failsClean name)).replied
  | delete name => exact (fails_onVolume (mounted.volume.delete_failsClean name)).replied
  | openFile name => exact (fails_onVolume (mounted.volume.openFile_failsClean name)).replied
  | close descriptor =>
    exact (fails_onVolume (mounted.volume.close_failsClean descriptor)).replied
  | fileSize descriptor => exact (fails_settle (mounted.volume.fileSize descriptor)).replied
  | seek descriptor offset =>
    exact (fails_onVolume (mounted.volume.seek_failsClean descriptor offset)).replied
  | write descriptor data => exact absurd rfl (noWrite descriptor data)
  | read descriptor length => exact (fails_read descriptor length).replied

end Requests

end Mounted

/-! ### Steps -/

namespace Session

section Deletion

variable {L D : Type} [BlockDevice D] {session : Session L D} {label : L} {volume : Volume}
  {name : String}

/-- A deletion from the mounted volume. -/
theorem delete_yields (held : session.mounted = some (label, volume)) (name : String) :
    Yields (perform (.serve (.delete name))) session
      (fun reply after => reply = .done ∧ ∃ slot blocks,
        volume.directory.lookup name = .ok slot ∧ volume.Fits slot blocks ∧
        after = ⟨some (label, volume.without slot blocks), session.device⟩)
      (fun cause _ => volume.Undeletable name cause) := by
  refine (yields_serve_of_mounted held _).mpr (yields_bind.mpr (yields_focus.mpr ?_))
  refine (volume.delete_yields name).mono ?_ fun _ _ ended => ended.2
  rintro _ _ ⟨slot, blocks, looked, _, fits, rfl⟩
  exact ⟨rfl, slot, blocks, looked, fits, rfl⟩

/-- A file that is not open and whose chain passes the check is deleted. -/
theorem delete_of_check (held : session.mounted = some (label, volume)) {slot : Slot}
    (looked : volume.directory.lookup name = .ok slot) (unopened : ¬ volume.descriptors.IsOpen slot)
    (checked : volume.table.check [((volume.directory.get slot).first,
      (volume.directory.get slot).size.toNat)] = .ok ()) :
    ∃ after, perform (.serve (.delete name)) session = .ok .done after := by
  have yields := delete_yields held name
  cases ended : perform (.serve (.delete name)) session with
  | ok reply after =>
    obtain ⟨rfl, _⟩ := yields.of_ok ended
    exact ⟨after, rfl⟩
  | error cause after =>
    cases yields.of_error ended with
    | unnamed failed => cases looked.symm.trans failed
    | isOpen found isOpen =>
      obtain rfl := Except.ok.inj (looked.symm.trans found)
      exact absurd isOpen unopened
    | broken found _ broken =>
      obtain rfl := Except.ok.inj (looked.symm.trans found)
      obtain ⟨blocks, fits⟩ := Table.check_single_eq_ok_iff.mp checked
      exact absurd fits (broken blocks)

/-- A deletion that succeeds frees the chain of the file as a whole. -/
theorem delete_frees_chain {reply : Reply} {after : Session L D}
    (deleted : perform (.serve (.delete name)) session = .ok reply after) :
    ∃ label volume slot blocks, session.mounted = some (label, volume) ∧
      volume.directory.lookup name = .ok slot ∧ volume.Fits slot blocks ∧
      (∀ block ∈ blocks, (volume.without slot blocks).table.entry block = .unused) ∧
      after = ⟨some (label, volume.without slot blocks), session.device⟩ := by
  cases held : session.mounted with
  | none =>
    have refused : Yields (perform (.serve (.delete name))) session (fun _ _ => False)
        (fun _ _ => True) := (yields_serve_of_unmounted held _).mpr trivial
    exact (refused.of_ok deleted).elim
  | some pair =>
    obtain ⟨label, volume⟩ := pair
    obtain ⟨_, slot, blocks, looked, fits, rfl⟩ := (delete_yields held name).of_ok deleted
    refine ⟨label, volume, slot, blocks, rfl, looked, fits, fun block member => ?_, rfl⟩
    have links : ∀ block ∈ blocks, block.IsLink volume.table.size :=
      fun _ member => fits.chain.isLink_of_mem member
    exact (Table.entry_discard links block).trans (if_pos member)

end Deletion

variable {L D : Type} [BlockDevice D] [FaithfulDevice D] {session : Session L D}

/-- What a step that fails has done to the device. -/
def Touched (session : Session L D) (step : Step L) (device : D) : Prop :=
  match session.mounted, step with
  | none, .mount _ => content device = content session.device
  | some (_, volume), .unmount => volume.Torn (content session.device) (content device)
  | some (_, volume), .serve request => Mounted.Touched ⟨volume, session.device⟩ request device
  | _, _ => device = session.device

/-- What holds of the steps that a session can make. -/
structure Atomic (session : Session L D) : Prop where
  /-- A step that fails, other than a write, keeps what is mounted. -/
  failed : ∀ step cause after, (∀ descriptor data, step ≠ .serve (.write descriptor data)) →
    perform step session = .error cause after →
      after.mounted = session.mounted ∧ session.Touched step after.device
  /-- A deletion that succeeds frees the whole chain of the file. -/
  deleted : ∀ name reply after, perform (.serve (.delete name)) session = .ok reply after →
    ∃ label volume slot blocks, session.mounted = some (label, volume) ∧
      volume.directory.lookup name = .ok slot ∧ volume.Fits slot blocks ∧
      (∀ block ∈ blocks, (volume.without slot blocks).table.entry block = .unused) ∧
      after = ⟨some (label, volume.without slot blocks), session.device⟩
  /-- A deletion of a file whose chain passes the check succeeds. -/
  released : ∀ label volume name slot, session.mounted = some (label, volume) →
    volume.directory.lookup name = .ok slot → ¬ volume.descriptors.IsOpen slot →
    volume.table.check [((volume.directory.get slot).first,
      (volume.directory.get slot).size.toNat)] = .ok () →
    ∃ after, perform (.serve (.delete name)) session = .ok .done after
  /-- A sync or an unmount that succeeds has written all areas. -/
  closed : ∀ step reply after label volume, step = .serve .sync ∨ step = .unmount →
    session.mounted = some (label, volume) → perform step session = .ok reply after →
      volume.WrittenBack (content session.device) (content after.device)
  /-- With a file open, an unmount changes nothing and makes no call. -/
  opened : ∀ label volume, session.mounted = some (label, volume) →
    volume.descriptors.openFiles ≠ [] → perform .unmount session = .error .fileInUse session
  /-- A session that has a volume mounts no other and makes no call. -/
  mounted : session.mounted.isSome → ∀ label,
    perform (.mount label) session = .error .alreadyMounted session

/-- A step that fails, other than a write, keeps what is mounted. -/
theorem perform_fails (sound : session.Sound) (step : Step L)
    (noWrite : ∀ descriptor data, step ≠ .serve (.write descriptor data)) :
    Yields (perform step) session (fun _ _ => True)
      (fun _ after => after.mounted = session.mounted ∧ session.Touched step after.device) := by
  unfold Touched
  cases held : session.mounted with
  | none =>
    cases step with
    | mount label =>
      refine yields_bind.mpr ((yields_mount_of_unmounted held label).mpr ?_)
      refine (Volume.mount_yields session.device).mono (fun _ _ _ => trivial) ?_
      exact fun _ _ ended => ⟨held, ended.2.1⟩
    | unmount => exact yields_bind.mpr ((yields_unmount_of_unmounted held).mpr ⟨held, rfl⟩)
    | serve request => exact (yields_serve_of_unmounted held request).mpr ⟨held, rfl⟩
  | some pair =>
    obtain ⟨label, volume⟩ := pair
    have here := sound label volume held
    cases step with
    | mount other =>
      exact yields_bind.mpr ((yields_mount_of_mounted held other).mpr ⟨held, rfl⟩)
    | unmount =>
      refine yields_bind.mpr ((yields_unmount_of_mounted held).mpr ?_)
      split
      · refine (volume.sync_torn here.volume.layout).mono (fun _ _ _ => trivial) ?_
        exact fun _ _ torn => ⟨held, torn⟩
      · exact ⟨held, .refl volume _⟩
    | serve request =>
      refine (yields_serve_of_mounted held request).mpr ?_
      have fails := Mounted.fails_serve here request fun descriptor data isWrite =>
        noWrite descriptor data (congrArg Step.serve isWrite)
      refine fails.mono (fun _ _ _ => trivial) fun _ after ended => ?_
      exact ⟨congrArg (fun volume => some (label, volume)) ended.1, ended.2⟩

/-- A sync or an unmount that succeeds has written all areas of the volume. -/
theorem writtenBack_of_closing (sound : session.Sound) {closing : Step L} {label : L}
    {volume : Volume} {reply : Reply} {after : Session L D}
    (closes : closing = .serve .sync ∨ closing = .unmount)
    (held : session.mounted = some (label, volume))
    (closed : perform closing session = .ok reply after) :
    volume.WrittenBack (content session.device) (content after.device) := by
  have here := sound label volume held
  obtain ⟨holds, same, _⟩ := holds_of_closing closes here held closed
  exact Volume.writtenBack_of_holds here.volume.layout holds same

/-- Whatever was done to a session from the start on, its steps are atomic. -/
theorem run_atomic (device : D) (steps : List (Step L)) :
    Atomic (runAll perform steps ⟨none, device⟩).2 := by
  have sound := run_sound device steps
  generalize (runAll perform steps ⟨none, device⟩).2 = session at sound
  refine ⟨fun step cause after noWrite failed => ?_, fun name reply after deleted => ?_,
    fun label volume name slot held looked unopened checked => ?_,
    fun step reply after label volume closes held closed => ?_,
    fun label volume held opened => ?_, fun held label => ?_⟩
  · exact (perform_fails sound step noWrite).of_error failed
  · exact delete_frees_chain deleted
  · exact delete_of_check held looked unopened checked
  · exact writtenBack_of_closing sound closes held closed
  · refine (yields_bind.mpr ((yields_unmount_of_mounted held).mpr ?_)).eq_error
    rw [if_neg opened]
    exact ⟨rfl, rfl⟩
  · obtain ⟨⟨other, volume⟩, here⟩ := Option.isSome_iff_exists.mp held
    exact (yields_bind.mpr ((yields_mount_of_mounted here label).mpr ⟨rfl, rfl⟩)).eq_error

end Session

end FlatVolume
