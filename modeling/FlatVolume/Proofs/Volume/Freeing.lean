/-
**A deletion frees exactly the chain of its file.**

The chains of the other files may loop, meet or end in nothing. A deletion looks at none of them:

* `Volume.Deletable`: the names that can be deleted, with the slots of their files;
* `Volume.Refuses`: why a name cannot be deleted, the first reason that applies;
* `Volume.Frees`: what a deletion changes, and that it changes nothing else;
* `Volume.Sound.delete_frees`: a deletion from a sound volume frees, or refuses and changes nothing;
* `Mounted.delete_frees_exactly`: so it is after any requests to any volume that was mounted.
-/

import FlatVolume.Proofs.Chain.Checking
import FlatVolume.Proofs.Volume.Deletion
import FlatVolume.Proofs.Volume.Serve

namespace FlatVolume

open BlockDevice

/-! ### Slots -/

namespace Directory

variable {directory : Directory} {slot : Slot} {name : String}

/-- The slot holds a file of the name. -/
def Names (directory : Directory) (slot : Slot) (name : String) : Prop :=
  ¬ (directory.get slot).IsFree ∧ (directory.get slot).name = name

instance (directory : Directory) (slot : Slot) (name : String) :
    Decidable (directory.Names slot name) :=
  inferInstanceAs (Decidable (_ ∧ _))

/-- A name is found in the one slot that holds a file of it. -/
theorem Acceptable.find?_eq_some_iff {dataBlocks : Nat}
    (acceptable : directory.Acceptable dataBlocks) :
    directory.find? name = some slot ↔ directory.Names slot name := by
  refine ⟨of_find?_eq_some, ?_⟩
  rintro ⟨occupied, rfl⟩
  exact (acceptable slot occupied).2.1

/-- A file that is removed leaves one more slot free. -/
theorem freeCount_remove (occupied : ¬ (directory.get slot).IsFree) :
    (directory.remove slot).freeCount = directory.freeCount + 1 := by
  have counted : ¬ decide directory.entries[slot.val].IsFree = true := by
    rw [decide_eq_true_eq]
    exact occupied
  show (directory.entries.set slot .empty).countP _ = _
  rw [Vector.countP_set, if_neg counted, if_pos (decide_eq_true DirEntry.isFree_empty)]
  rfl

end Directory

/-! ### In memory -/

namespace Volume

/-- The first block and the size of the file in a slot. -/
def extentOf (volume : Volume) (slot : Slot) : BlockId × Nat :=
  ((volume.directory.get slot).first, (volume.directory.get slot).size.toNat)

/-- The name is that of the file in the slot, no descriptor stands for the file, and its walk comes
to the end of its chain over as many blocks as its size needs, no two of them the same. -/
structure Deletable (volume : Volume) (name : String) (slot : Slot) : Prop where
  isName : IsFileName name
  named : volume.directory.Names slot name
  closed : ¬ volume.descriptors.IsOpen slot
  toEnd : volume.table.WalksToEnd (volume.extentOf slot)
  nodup : (volume.table.walk (volume.extentOf slot)).Nodup

/-- Why a name cannot be deleted, the first reason that applies. -/
inductive Refuses (volume : Volume) (name : String) : (cause : VolumeError) → Prop
  | unfit (unfit : ¬ IsFileName name) : Refuses volume name .invalidArgument
  | absent (isName : IsFileName name) (absent : ∀ slot, ¬ volume.directory.Names slot name) :
      Refuses volume name .notFound
  | isOpen {slot : Slot} (isName : IsFileName name) (named : volume.directory.Names slot name)
      (isOpen : volume.descriptors.IsOpen slot) : Refuses volume name .fileInUse
  | broken {slot : Slot} (isName : IsFileName name) (named : volume.directory.Names slot name)
      (closed : ¬ volume.descriptors.IsOpen slot)
      (broken : ¬ (volume.table.WalksToEnd (volume.extentOf slot) ∧
        (volume.table.walk (volume.extentOf slot)).Nodup)) :
      Refuses volume name .corrupted

/-- The file in the slot is gone, and just the blocks of its walk are unused that were not. -/
structure Frees (volume : Volume) (slot : Slot) (after : Volume) : Prop where
  layout : after.layout = volume.layout
  descriptors : after.descriptors = volume.descriptors
  size : after.table.size = volume.table.size
  entry : ∀ block, after.table.entry block =
    if block ∈ volume.table.walk (volume.extentOf slot) then .unused else volume.table.entry block
  freeBlocks : after.table.freeCount =
    volume.table.freeCount + blocksFor (volume.directory.get slot).size.toNat
  emptied : after.directory.get slot = .empty
  others : ∀ other, other ≠ slot → after.directory.get other = volume.directory.get other
  freeSlots : after.directory.freeCount = volume.directory.freeCount + 1

section Sound

variable {volume : Volume} {deviceBlocks : Nat} {name : String} {slot : Slot}

/-- The blocks that fit a file are those of its walk, if that comes to its end. -/
theorem fits_iff_walk {blocks : List BlockId} :
    volume.Fits slot blocks ↔
      blocks = volume.table.walk (volume.extentOf slot) ∧
        volume.table.WalksToEnd (volume.extentOf slot) :=
  Table.fits_iff (volume.extentOf slot)

/-- A name is looked up where the file is. -/
theorem Sound.lookup_eq_ok_iff (sound : volume.Sound deviceBlocks) :
    volume.directory.lookup name = .ok slot ↔
      IsFileName name ∧ volume.directory.Names slot name := by
  rw [Directory.lookup_eq_ok_iff, sound.directory.find?_eq_some_iff]

/-- A name has one file at most. -/
theorem Sound.slot_unique (sound : volume.Sound deviceBlocks) {other : Slot}
    (first : volume.directory.Names slot name) (second : volume.directory.Names other name) :
    slot = other :=
  Option.some.inj ((sound.directory.find?_eq_some_iff.mpr first).symm.trans
    (sound.directory.find?_eq_some_iff.mpr second))

/-- A name that is not looked up is no name, or no file has it. -/
theorem refuses_unnamed {cause : VolumeError}
    (looked : volume.directory.lookup name = .error cause) : volume.Refuses name cause := by
  rw [Directory.lookup_eq] at looked
  by_cases isName : IsFileName name
  · rw [if_pos isName] at looked
    cases found : volume.directory.find? name with
    | some slot => simp [found] at looked
    | none =>
      rw [found] at looked
      obtain rfl := Except.error.inj looked
      exact .absent isName fun slot named =>
        Directory.of_find?_eq_none found named.1 named.2
  · rw [if_neg isName] at looked
    obtain rfl := Except.error.inj looked
    exact .unfit isName

/-- What keeps a name from being deleted is the first reason that applies. -/
theorem Sound.refuses (sound : volume.Sound deviceBlocks) {cause : VolumeError}
    (undeletable : volume.Undeletable name cause) : volume.Refuses name cause := by
  cases undeletable with
  | unnamed looked => exact refuses_unnamed looked
  | isOpen looked isOpen =>
    obtain ⟨isName, named⟩ := sound.lookup_eq_ok_iff.mp looked
    exact .isOpen isName named isOpen
  | broken looked closed broken =>
    obtain ⟨isName, named⟩ := sound.lookup_eq_ok_iff.mp looked
    exact .broken isName named closed fun fits => broken _ (fits_iff_walk.mpr ⟨rfl, fits.1⟩)

/-- A name that is refused cannot be deleted. -/
theorem Sound.not_deletable (sound : volume.Sound deviceBlocks) {cause : VolumeError}
    (refuses : volume.Refuses name cause) : ¬ volume.Deletable name slot := by
  rintro ⟨isName, named, closed, toEnd, nodup⟩
  cases refuses with
  | unfit unfit => exact unfit isName
  | absent _ absent => exact absent slot named
  | isOpen _ other isOpen =>
    obtain rfl := sound.slot_unique named other
    exact closed isOpen
  | broken _ other _ broken =>
    obtain rfl := sound.slot_unique named other
    exact broken ⟨toEnd, nodup⟩

/-- Without a file and the blocks of its chain, the volume has lost just them. -/
theorem Sound.frees_without (sound : volume.Sound deviceBlocks) {blocks : List BlockId}
    (occupied : ¬ (volume.directory.get slot).IsFree) (fits : volume.Fits slot blocks) :
    volume.Frees slot (volume.without slot blocks) := by
  obtain ⟨rfl, _⟩ := fits_iff_walk.mp fits
  have used : ∀ block ∈ volume.table.walk (volume.extentOf slot),
      block.IsLink volume.table.size ∧ volume.table.entry block ≠ .unused := fun _ member =>
    ⟨fits.chain.isLink_of_mem member, fits.chain.entry_ne_unused member⟩
  refine ⟨rfl, rfl, Table.size_discard .., ?_, ?_, Directory.get_set_self,
    fun _ apart => Directory.get_set_of_ne apart, Directory.freeCount_remove occupied⟩
  · exact Table.entry_discard fun block member => (used block member).1
  · rw [← fits.length_eq]
    exact Table.freeCount_discard sound.size_le sound.table.reserved fits.chain.nodup used

/-- A deletion from a sound volume frees the file of the name, or refuses and changes nothing. -/
theorem Sound.delete_frees (sound : volume.Sound deviceBlocks) (name : String) :
    Yields (delete name) volume
      (fun _ after => ∃ slot, volume.Deletable name slot ∧ volume.Frees slot after)
      (fun cause after => after = volume ∧ volume.Refuses name cause) := by
  refine (volume.delete_yields name).mono ?_ ?_
  · rintro _ _ ⟨slot, blocks, looked, closed, fits, rfl⟩
    obtain ⟨isName, named⟩ := sound.lookup_eq_ok_iff.mp looked
    refine ⟨slot, ⟨isName, named, closed, ?_, ?_⟩, sound.frees_without named.1 fits⟩
    · exact (fits_iff_walk.mp fits).2
    · rw [← (fits_iff_walk.mp fits).1]
      exact fits.chain.nodup
  · rintro cause _ ⟨same, undeletable⟩
    exact ⟨same, sound.refuses undeletable⟩

end Sound

end Volume

/-! ### After any requests -/

namespace Mounted

variable {D : Type} [BlockDevice D] [StoringDevice D]

/-- After any requests to a volume that was mounted from any image, and whatever calls the device
failed: a deletion succeeds exactly when the name is that of a file that is not open and whose walk
comes to the end of its chain, and then it frees the blocks of the walk and the slot and nothing
else. Otherwise it changes nothing and reports the first reason that applies. -/
theorem delete_frees_exactly {device : D} {mounted : Mounted D}
    (accepted : Volume.mount device = .ok mounted.volume mounted.device)
    (requests : List Request) (name : String) :
    let now := (runAll serve requests mounted).2
    ((∃ after, serve (.delete name) now = .ok .done after) ↔
        ∃ slot, now.volume.Deletable name slot) ∧
      (∀ slot, now.volume.Deletable name slot →
        ∃ after, serve (.delete name) now = .ok .done ⟨after, now.device⟩ ∧
          now.volume.Frees slot after) ∧
      ((∀ slot, ¬ now.volume.Deletable name slot) →
        ∃ cause, serve (.delete name) now = .error cause now ∧
          now.volume.Refuses name cause) := by
  intro now
  have sound : now.volume.Sound (numBlocks now.device) :=
    (run_sound_of_mount accepted requests).volume
  have yields : Yields (serve (.delete name)) now
      (fun reply after => reply = .done ∧ after.device = now.device ∧
        ∃ slot, now.volume.Deletable name slot ∧ now.volume.Frees slot after.volume)
      (fun cause after => after = now ∧ now.volume.Refuses name cause) := by
    refine yields_bind.mpr (yields_focus.mpr ?_)
    refine (sound.delete_frees name).mono (fun _ _ freed => ⟨rfl, rfl, freed⟩) ?_
    rintro cause _ ⟨rfl, refuses⟩
    exact ⟨rfl, refuses⟩
  cases ended : serve (.delete name) now with
  | ok reply after =>
    obtain ⟨rfl, sameDevice, slot, deletable, frees⟩ := yields.of_ok ended
    refine ⟨⟨fun _ => ⟨slot, deletable⟩, fun _ => ⟨after, rfl⟩⟩, fun other otherToo => ?_,
      fun none => absurd deletable (none slot)⟩
    obtain rfl := sound.slot_unique deletable.named otherToo.named
    refine ⟨after.volume, ?_, frees⟩
    rw [← sameDevice]
  | error cause after =>
    obtain ⟨rfl, refuses⟩ := yields.of_error ended
    refine ⟨⟨?_, ?_⟩, fun slot deletable => ?_, fun _ => ⟨cause, rfl, refuses⟩⟩
    · rintro ⟨_, other⟩
      cases other
    · rintro ⟨slot, deletable⟩
      exact absurd deletable (sound.not_deletable refuses)
    · exact absurd deletable (sound.not_deletable refuses)

/-- The file with two blocks is deleted while the one that its chain leads into is open. -/
theorem delete_frees_exactly_crossed :
    ∃ (device : Disk) (mounted : Mounted Disk) (after : Volume),
      Volume.mount device = .ok mounted.volume mounted.device ∧
      serve (.delete "a") (runAll serve [.openFile "b"] mounted).2 =
        .ok .done ⟨after, (runAll serve [.openFile "b"] mounted).2.device⟩ ∧
      after.table.freeCount = 2 := by
  have sound : crossed.Sound 6 :=
    Volume.sound_of_unopened (by decide) ⟨rfl, by decide⟩ (by decide +kernel) rfl
  have accepted := Volume.mount_saved sound
  obtain ⟨after, deleted, frees⟩ :=
    (delete_frees_exactly accepted [.openFile "b"] "a").2.1 ⟨0, by decide⟩
      ⟨by decide, by decide +kernel, by decide +kernel, by decide +kernel, by decide +kernel⟩
  refine ⟨_, _, after, accepted, deleted, ?_⟩
  rw [frees.freeBlocks]
  decide +kernel

end Mounted

end FlatVolume
