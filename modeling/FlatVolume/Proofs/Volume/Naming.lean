/-
**Files under the names that are listed.**

Every listed name is the name of one file only. `Mounted.listed_names` says what a caller can do
with it after any requests to a volume that was mounted from any image:

* a name that ends inside its field is looked up, opened and deleted as that file (`Reaches`);
* a name that fills its field is not a file name, so opening and deleting refuse it (`Refuses`).
  Requests never make such a name: the image had it in the same slot.

`Mounted.listed_name_refused`: an image with such a name is mounted.
-/

import FlatVolume.Proofs.Directory.Terminated
import FlatVolume.Proofs.Storage.Format
import FlatVolume.Proofs.Volume.Deletion
import FlatVolume.Proofs.Volume.Operations
import FlatVolume.Proofs.Volume.Serve

namespace FlatVolume

/-! ### Calls with a name -/

/-- A file that is looked up is opened at its start if a descriptor is left. -/
theorem Volume.openFile_yields {volume : Volume} {slot : Slot} {name : String}
    (looked : volume.directory.lookup name = .ok slot) :
    Yields (openFile name) volume
      (fun descriptor after => after.descriptors.get descriptor = .ok ⟨slot, 0⟩)
      (fun cause after => cause = .openTableFull ∧ after = volume) := by
  unfold openFile
  rw [yields_bind, yields_get, yields_bind, looked, yields_settle_ok, yields_bind]
  refine yields_settle (fun opened done => ?_) fun cause refused => ?_
  · obtain ⟨descriptor, descriptors⟩ := opened
    obtain ⟨lowest, _, rfl, rfl⟩ := Descriptors.insert_eq_ok_iff.mp done
    rw [yields_bind, yields_set, yields_pure]
    exact (Descriptors.get_set_eq_ok_iff lowest.isLt).mpr (by rw [if_pos rfl])
  · unfold Descriptors.insert at refused
    split at refused
    · cases refused
    · exact ⟨(Except.error.inj refused).symm, rfl⟩

namespace Mounted

section Named

variable {D : Type} [BlockDevice D] {mounted : Mounted D} {slot : Slot} {name : String}

/-- A caller who gives the name reaches the file in the slot. -/
structure Reaches (mounted : Mounted D) (name : String) (slot : Slot) : Prop where
  lookup : mounted.volume.directory.lookup name = .ok slot
  openFile : Yields (serve (.openFile name)) mounted
    (fun reply after => ∃ descriptor, reply = .descriptor descriptor ∧
      after.volume.descriptors.get descriptor = .ok ⟨slot, 0⟩)
    (fun cause after => cause = .openTableFull ∧ after = mounted)
  delete : Yields (serve (.delete name)) mounted
    (fun _ after => (after.volume.directory.get slot).IsFree)
    (fun cause after => (cause = .fileInUse ∨ cause = .corrupted) ∧ after = mounted)

/-- A caller who gives the name is told that it is none. -/
structure Refuses (mounted : Mounted D) (name : String) : Prop where
  openFile : serve (.openFile name) mounted = .error .invalidArgument mounted
  delete : serve (.delete name) mounted = .error .invalidArgument mounted

/-- A name that is looked up can be opened and deleted. -/
theorem reaches_of_lookup (looked : mounted.volume.directory.lookup name = .ok slot) :
    mounted.Reaches name slot := by
  refine ⟨looked, yields_bind.mpr ?_, ?_⟩
  · rw [onVolume, yields_focus]
    refine (Volume.openFile_yields looked).mono (fun descriptor after opened => ?_) ?_
    · exact ⟨descriptor, rfl, opened⟩
    · rintro cause _ ⟨rfl, rfl⟩
      exact ⟨rfl, rfl⟩
  · refine (mounted.delete_beside_others name).mono ?_ ?_
    · intro _ after ended
      obtain ⟨deleted, _, found, _, _, free, _⟩ := ended
      obtain rfl := Except.ok.inj (looked.symm.trans found)
      exact free
    · rintro cause _ ⟨rfl, undeletable⟩
      refine ⟨?_, rfl⟩
      cases undeletable with
      | unnamed failed => cases looked.symm.trans failed
      | isOpen _ _ => exact .inl rfl
      | broken _ _ _ => exact .inr rfl

theorem refuses_of_lookup
    (looked : mounted.volume.directory.lookup name = .error .invalidArgument) :
    mounted.Refuses name := by
  have opened : onVolume (Volume.openFile name) mounted = .error .invalidArgument mounted := by
    refine focus_error ?_
    rw [Volume.openFile_eq, looked]
  have deleted : onVolume (Volume.delete name) mounted = .error .invalidArgument mounted := by
    refine focus_error ?_
    have yields := mounted.volume.delete_yields name
    cases ended : Volume.delete name mounted.volume with
    | ok _ after =>
      obtain ⟨_, _, found, _⟩ := yields.of_ok ended
      cases looked.symm.trans found
    | error cause after =>
      obtain ⟨rfl, undeletable⟩ := yields.of_error ended
      cases undeletable with
      | unnamed failed => rw [Except.error.inj (looked.symm.trans failed)]
      | isOpen found _ => cases looked.symm.trans found
      | broken found _ _ => cases looked.symm.trans found
  exact ⟨by rw [serve, bind_apply, opened], by rw [serve, bind_apply, deleted]⟩

end Named

/-! ### After any requests -/

variable {D : Type} [BlockDevice D] [StoringDevice D] {mounted : Mounted D} {before : Directory}

/-- No request makes a name that fills its field. -/
theorem serve_names (request : Request) (sound : mounted.Sound)
    (names : before.NamesFrom mounted.volume.directory) :
    Leaves (serve request) mounted fun after => before.NamesFrom after.volume.directory := by
  -- Most requests leave the directory as it is.
  have same : ∀ {α : Type} {action : EStateM VolumeError Volume α},
      (Leaves action mounted.volume fun after => after.directory = mounted.volume.directory) →
      Leaves (onVolume action) mounted fun after => before.NamesFrom after.volume.directory := by
    intro α action leaves
    refine yields_focus.mpr (leaves.mono ?_ ?_) <;>
    · intro _ after kept
      show before.NamesFrom after.directory
      rwa [kept]
  have settled : ∀ {α : Type} (outcome : Except VolumeError α), Leaves (settle outcome) mounted
      fun after => before.NamesFrom after.volume.directory := fun _ => leaves_settle names
  cases request with
  | info | layout | list => exact names
  | check => exact (settled mounted.volume.check).replied
  | chain name => exact (settled (mounted.volume.chain name)).replied
  | fileSize descriptor => exact (settled (mounted.volume.fileSize descriptor)).replied
  | sync =>
    refine Leaves.replied ?_
    unfold Leaves sync
    rw [yields_bind, yields_get, onDevice, yields_focus]
    exact leaves_of_forall fun _ => names
  | create name =>
    refine Leaves.replied (yields_focus.mpr ?_)
    unfold Yields
    rw [Volume.create_eq]
    cases inserted : mounted.volume.directory.insert name with
    | error cause => exact names
    | ok result => exact names.insert inserted
  | delete name =>
    refine Leaves.replied (yields_focus.mpr ((Volume.delete_yields _ name).mono ?_ ?_))
    · rintro _ _ ⟨slot, blocks, _, _, _, rfl⟩
      exact names.remove slot
    · rintro cause _ ⟨rfl, _⟩
      exact names
  | openFile name =>
    refine Leaves.replied (same ?_)
    unfold Leaves Yields
    rw [Volume.openFile_eq]
    cases mounted.volume.directory.lookup name with
    | error cause => exact rfl
    | ok slot =>
      dsimp only
      cases mounted.volume.descriptors.insert slot <;> exact rfl
  | close descriptor =>
    refine Leaves.replied (same ?_)
    unfold Leaves Yields
    rw [Volume.close_eq]
    cases mounted.volume.descriptors.get descriptor <;> exact rfl
  | seek descriptor offset =>
    refine Leaves.replied (same ?_)
    unfold Leaves Yields
    rw [Volume.seek_eq]
    cases mounted.volume.descriptors.get descriptor with
    | error cause => exact rfl
    | ok file =>
      dsimp only
      by_cases outside : (mounted.volume.directory.get file.slot).size.toNat < offset
      · rw [if_pos outside]
      · rw [if_neg outside]
  | read descriptor length =>
    refine Leaves.replied ?_
    unfold Leaves read
    rw [yields_bind, yields_get, yields_bind]
    refine yields_settle (fun file _ => ?_) fun _ _ => names
    rw [yields_bind, onDevice, yields_focus]
    exact leaves_of_forall fun _ => names
  | write descriptor data =>
    refine Leaves.replied ?_
    unfold Leaves write
    rw [yields_bind, yields_get, yields_bind]
    refine yields_settle (fun file used => ?_) fun _ _ => names
    obtain ⟨occupied, _⟩ := sound.volume.descriptors descriptor file used
    rw [yields_bind, yields_focus]
    refine (writeFile_frame _ file.offset data (fileStore file.slot mounted) sound.volume.small
      sound.volume.table (sound.volume.isHead occupied)).mono ?_ ?_
    · intro count store ended
      exact names.set ended.1.name
    · intro cause store keeps
      exact names.set keeps.name

/-- After any requests to a mounted volume, each listed name is found in the slot of its file, and a
caller can use it unless it fills its field. Such a name was mounted with the volume. -/
theorem listed_names {device : D}
    (accepted : Volume.mount device = .ok mounted.volume mounted.device) (requests : List Request) :
    let now := (runAll serve requests mounted).2
    ∀ slot entry, (slot, entry) ∈ now.volume.directory.files →
      now.volume.directory.find? entry.name = some slot ∧
      (IsFileName entry.name ↔ entry.Terminated) ∧
      (entry.Terminated → now.Reaches entry.name slot) ∧
      (¬ entry.Terminated → now.Refuses entry.name ∧
        entry.nameField = (mounted.volume.directory.get slot).nameField) := by
  intro now slot entry listed
  obtain ⟨read, same, follows⟩ := (Volume.mount_yields device).of_ok accepted
  have run : now.Sound ∧ mounted.volume.directory.NamesFrom now.volume.directory := by
    have step : ∀ request ∈ requests, ∀ state : Mounted D,
        state.Sound ∧ mounted.volume.directory.NamesFrom state.volume.directory →
        Leaves (serve request) state fun after =>
          after.Sound ∧ mounted.volume.directory.NamesFrom after.volume.directory := by
      rintro request _ state ⟨sound, names⟩
      exact (serve_sound request sound).and (serve_names request sound names)
    exact runAll_keeps step ⟨sound_of_ofDisk read same follows, .refl _⟩
  obtain ⟨rfl, occupied⟩ := Volume.mem_files.mp listed
  have acceptable := run.1.volume.directory
  obtain ⟨readable, found, _⟩ := acceptable slot occupied
  have looked := acceptable.lookup_name occupied
  refine ⟨found, DirEntry.isFileName_name_iff readable, fun terminated => ?_, fun full => ?_⟩
  · rw [if_pos terminated] at looked
    exact reaches_of_lookup looked
  · rw [if_neg full] at looked
    exact ⟨refuses_of_lookup looked, (run.2 slot occupied).resolve_left full⟩

/-- A file that was created on a mounted disk can be used under its name. -/
theorem listed_names_created :
    ∃ (device : Disk) (mounted : Mounted Disk) (slot : Slot),
      Volume.mount device = .ok mounted.volume mounted.device ∧
      (runAll serve [.create "a"] mounted).2.Reaches "a" slot := by
  have accepted := Volume.mount_saved
    (Volume.fresh_sound (show (SuperBlock.forDataBlocks 2).Valid 5 by decide))
  have named := listed_names accepted [.create "a"] ⟨0, by decide⟩ (.new "a") (by decide +kernel)
  rw [DirEntry.name_new (by decide)] at named
  exact ⟨_, _, _, accepted, named.2.2.1 (by decide)⟩

/-- A volume of five blocks with an empty file whose name has sixteen bytes. -/
def overlong : Volume where
  layout := .forDataBlocks 2
  table := .empty 2
  directory := Directory.empty.set ⟨0, slotCount_pos⟩
    ⟨.ofBytes nameWidth (utf8Bytes "0123456789abcdef"), 0, .endOfChain⟩
  descriptors := .empty

/-- A file is listed on a mounted disk under a name that is refused. -/
theorem listed_name_refused :
    ∃ (device : Disk) (mounted : Mounted Disk),
      Volume.mount device = .ok mounted.volume mounted.device ∧
      mounted.volume.list.map FileInfo.name = ["0123456789abcdef"] ∧
      serve (.openFile "0123456789abcdef") mounted = .error .invalidArgument mounted := by
  have sound : overlong.Sound 5 :=
    Volume.sound_of_unopened (by decide) ⟨rfl, by decide⟩ (by decide +kernel) rfl
  have refuses : (overlong.opened 5).Refuses "0123456789abcdef" :=
    refuses_of_lookup (by decide +kernel)
  exact ⟨_, _, Volume.mount_saved sound, by decide +kernel, refuses.openFile⟩

end Mounted

end FlatVolume
