/-
**The calls of requests and sessions.**

`RequestCall layout request` and `StepCall session step` say which calls are allowed for a request
and for a step of a session. Reading and writing get blocks of files, syncing and unmounting get the
areas, and no other request gets any call.

`calling_serve` and `calling_perform`: no other calls are made on a sound volume.
-/

import FlatVolume.Proofs.Calls.File
import FlatVolume.Proofs.Calls.Storage
import FlatVolume.Proofs.Session.Steps

namespace FlatVolume.Disk

/-- The calls that a request may make. -/
def RequestCall (layout : SuperBlock) : Request → Call → Prop
  | .read _ _ => ReadCall layout
  | .write _ _ => WriteCall layout
  | .sync => SyncCall layout
  | _ => fun _ => False

/-- The calls that a step may make. -/
def StepCall {L : Type} (session : Session L Disk) : Session.Step L → Call → Prop
  | .mount _ => fun call => session.mounted = none ∧ MountCall session.device call
  | .unmount => fun call => ∃ label volume, session.mounted = some (label, volume) ∧
      SyncCall volume.layout call
  | .serve request => fun call => ∃ label volume, session.mounted = some (label, volume) ∧
      RequestCall volume.layout request call

/-! ### In memory -/

section Memory

variable {disk : Disk} {allowed : Call → Prop} {volume : Volume}

theorem blameless_lookup (directory : Directory) (name : String) :
    Blameless (directory.lookup name) := by
  rw [Directory.lookup_eq]
  split
  · cases directory.find? name <;> exact nofun
  · exact nofun

theorem blameless_insert (directory : Directory) (name : String) :
    Blameless (directory.insert name) := by
  rw [Directory.insert_eq]
  split
  · split
    · exact nofun
    · cases directory.freeSlot? <;> exact nofun
  · exact nofun

theorem blameless_get (descriptors : Descriptors) (descriptor : Nat) :
    Blameless (descriptors.get descriptor) := by
  unfold Descriptors.get
  split <;> exact nofun

theorem blameless_open (descriptors : Descriptors) (slot : Slot) :
    Blameless (descriptors.insert slot) := by
  unfold Descriptors.insert
  split <;> exact nofun

theorem calling_create (name : String) :
    Calling (beside disk) allowed (Volume.create name) volume :=
  Calling.get_bind (Calling.settle_bind (blameless_insert _ name) fun _ _ => calling_modify rfl)

theorem calling_delete (name : String) :
    Calling (beside disk) allowed (Volume.delete name) volume := by
  refine Calling.get_bind (Calling.settle_bind (blameless_lookup _ name) fun slot _ => ?_)
  split
  · exact calling_throw (explains_of_ne nofun)
  · refine Calling.settle_bind (Table.onlyCorrupted_check _ _).blameless fun _ _ => ?_
    · refine Calling.bind (Calling.focus rfl (calling_release _)) fun _ _ _ => ?_
      exact calling_modify rfl

theorem calling_openFile (name : String) :
    Calling (beside disk) allowed (Volume.openFile name) volume := by
  refine Calling.get_bind (Calling.settle_bind (blameless_lookup _ name) fun slot _ => ?_)
  refine Calling.settle_bind (blameless_open _ slot) fun opened _ => ?_
  exact Calling.bind (calling_modify rfl) fun _ _ _ => calling_pure opened.1

theorem calling_close (descriptor : Nat) :
    Calling (beside disk) allowed (Volume.close descriptor) volume :=
  Calling.get_bind (Calling.settle_bind ((blameless_get _ descriptor).bind fun _ => nofun)
    fun _ _ => calling_modify rfl)

theorem calling_seek (descriptor offset : Nat) :
    Calling (beside disk) allowed (Volume.seek descriptor offset) volume := by
  refine Calling.get_bind (Calling.settle_bind (blameless_get _ descriptor) fun file _ => ?_)
  split
  · exact calling_throw (explains_of_ne nofun)
  · exact calling_modify rfl

end Memory

/-! ### Requests -/

section Serve

variable {mounted : Mounted Disk} {allowed : Call → Prop}

/-- What is done to the volume alone makes no call. -/
theorem Calling.onVolume {α : Type} {action : EStateM VolumeError Volume α}
    (calling : Calling (beside mounted.device) allowed action mounted.volume) :
    Calling Mounted.device allowed (Mounted.onVolume action) mounted := Calling.focus rfl calling

theorem Calling.onDevice {α : Type} {action : EStateM VolumeError Disk α}
    (calling : Calling id allowed action mounted.device) :
    Calling Mounted.device allowed (Mounted.onDevice action) mounted := Calling.focus rfl calling

theorem calling_read (sound : mounted.Sound) (descriptor length : Nat) :
    Calling Mounted.device (ReadCall mounted.volume.layout) (Mounted.read descriptor length)
      mounted := by
  refine Calling.get_bind (Calling.settle_bind (blameless_get _ descriptor) fun file _ => ?_)
  have calls := calling_readFile sound.volume.layout sound.volume.table.size_eq
    (mounted.volume.directory.get file.slot) file.offset length mounted.device
  refine calls.onDevice.bind fun data after _ => ?_
  exact Calling.bind (Calling.onVolume (calling_modify rfl)) fun _ _ _ => calling_pure data

theorem calling_write (sound : mounted.Sound) (descriptor : Nat) (data : Bytes) :
    Calling Mounted.device (WriteCall mounted.volume.layout) (Mounted.write descriptor data)
      mounted := by
  refine Calling.get_bind (Calling.settle_bind (blameless_get _ descriptor) fun file used => ?_)
  have occupied := (sound.volume.descriptors descriptor file used).1
  have calls : Calling FileStore.device (WriteCall mounted.volume.layout)
      (writeFile mounted.volume.layout file.offset data) (Mounted.fileStore file.slot mounted) :=
    calling_writeFile sound.volume.layout file.offset data sound.volume.small sound.volume.table
      (sound.volume.isHead occupied)
  refine Calling.bind (Calling.focus rfl calls) fun count after _ => ?_
  exact Calling.bind (Calling.onVolume (calling_modify rfl)) fun _ _ _ => calling_pure count

/-- A request to a sound volume makes no other calls than it may. -/
theorem calling_serve (sound : mounted.Sound) (request : Request) :
    Calling Mounted.device (RequestCall mounted.volume.layout request) (Mounted.serve request)
      mounted := by
  cases request with
  | sync =>
    have calls := (calling_sync mounted.volume mounted.device).onDevice
    exact Calling.replied (Calling.get_bind calls)
  | info | layout | list => exact Calling.get_bind (calling_pure _)
  | check =>
    have blameless : Blameless mounted.volume.check := (Table.onlyCorrupted_check _ _).blameless
    exact Calling.get_bind (Calling.settle_bind blameless fun _ _ => calling_pure _)
  | chain name =>
    have blameless : Blameless (mounted.volume.chain name) :=
      (blameless_lookup _ name).bind fun _ => nofun
    exact Calling.get_bind (Calling.settle_bind blameless fun _ _ => calling_pure _)
  | create name => exact (Calling.onVolume (calling_create name)).replied
  | delete name => exact (Calling.onVolume (calling_delete name)).replied
  | openFile name => exact (Calling.onVolume (calling_openFile name)).replied
  | close descriptor => exact (Calling.onVolume (calling_close descriptor)).replied
  | fileSize descriptor =>
    have blameless : Blameless (mounted.volume.fileSize descriptor) :=
      (blameless_get _ descriptor).bind fun _ => nofun
    exact Calling.get_bind (Calling.settle_bind blameless fun _ _ => calling_pure _)
  | seek descriptor offset => exact (Calling.onVolume (calling_seek descriptor offset)).replied
  | write descriptor data => exact (calling_write sound descriptor data).replied
  | read descriptor length => exact (calling_read sound descriptor length).replied

end Serve

/-! ### Steps -/

section Perform

variable {L : Type} {session : Session L Disk}

/-- A step of a session with a sound volume makes no other calls than it may. -/
theorem calling_perform (sound : session.Sound) (step : Session.Step L) :
    Calling Session.device (StepCall session step) (Session.perform step) session := by
  cases step with
  | mount label =>
    refine Calling.replied ?_
    cases held : session.mounted with
    | some pair =>
      exact (Session.yields_mount_of_mounted held label).mpr ⟨.refl _ _, explains_of_ne nofun⟩
    | none =>
      refine (Session.yields_mount_of_unmounted held label).mpr ?_
      exact (calling_mount session.device).mono fun _ call => ⟨held, call⟩
  | unmount =>
    refine Calling.replied ?_
    cases held : session.mounted with
    | none => exact (Session.yields_unmount_of_unmounted held).mpr ⟨.refl _ _, explains_of_ne nofun⟩
    | some pair =>
      obtain ⟨label, volume⟩ := pair
      refine (Session.yields_unmount_of_mounted held).mpr ?_
      split
      · exact (calling_sync volume session.device).mono fun _ call => ⟨label, volume, held, call⟩
      · exact ⟨.refl _ _, explains_of_ne nofun⟩
  | serve request =>
    show Calling Session.device (StepCall session (.serve request)) (Session.serve request) session
    cases held : session.mounted with
    | none =>
      exact (Session.yields_serve_of_unmounted held request).mpr
        ⟨.refl _ _, explains_of_ne nofun⟩
    | some pair =>
      obtain ⟨label, volume⟩ := pair
      refine (Session.yields_serve_of_mounted held request).mpr ?_
      refine (calling_serve (sound label volume held) request).mono ?_
      exact fun _ call => ⟨label, volume, held, call⟩

end Perform

end FlatVolume.Disk
