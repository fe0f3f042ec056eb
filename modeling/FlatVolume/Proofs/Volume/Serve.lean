/-
**Every request keeps a mounted volume sound.**

`serve_sound`: whatever a request is, whether it succeeds or not, and whatever calls the device
fails on the way, the volume that it leaves behind is sound again and the superblock on the device
still states its division. The chains of the volume may be broken throughout.
-/

import FlatVolume.Proofs.File.Frame
import FlatVolume.Proofs.Volume.Sound
import FlatVolume.Request

namespace FlatVolume

open BlockDevice

namespace Mounted

variable {D : Type} [BlockDevice D] [StoringDevice D]

/-- The volume is sound, and the device has the superblock of its division. -/
structure Sound (mounted : Mounted D) : Prop where
  volume : mounted.volume.Sound (numBlocks mounted.device)
  superBlock :
    SuperBlock.decode (content mounted.device superBlockIndex) = .ok mounted.volume.layout

variable {mounted : Mounted D}

/-- The superblock lies before the data area. -/
theorem Sound.superBlock_lt (sound : mounted.Sound) :
    superBlockIndex < mounted.volume.layout.dataStart.toNat := by
  have start := sound.volume.layout.start
  simp only [superBlockIndex]
  omega

/-- Another sound volume with the same division may take the place of the mounted one. -/
theorem Sound.withVolume (sound : mounted.Sound) {volume : Volume}
    (kept : volume.Sound (numBlocks mounted.device) ∧ volume.layout = mounted.volume.layout) :
    Sound { mounted with volume } :=
  ⟨kept.1, by rw [kept.2]; exact sound.superBlock⟩

/-- Calls that leave the superblock alone may be made to the device. -/
theorem Sound.withDevice (sound : mounted.Sound) {device : D}
    (superBlock : content device superBlockIndex = content mounted.device superBlockIndex)
    (follows : Follows mounted.device device) : Sound { mounted with device } where
  volume := by
    show mounted.volume.Sound (numBlocks device)
    rw [follows.numBlocks_eq]
    exact sound.volume
  superBlock := by
    show SuperBlock.decode (content device superBlockIndex) = _
    rw [superBlock]
    exact sound.superBlock

/-- A volume that was read from its device is sound on it. -/
theorem sound_of_ofDisk {device after : D} {volume : Volume}
    (read : Volume.ofDisk (content device) (numBlocks device) = .ok volume)
    (same : content after = content device) (follows : Follows device after) :
    Sound ⟨volume, after⟩ := by
  obtain ⟨sound, _, superBlock⟩ := ofDisk_sound read
  refine ⟨?_, ?_⟩
  · show volume.Sound (numBlocks after)
    rw [follows.numBlocks_eq]
    exact sound
  · show SuperBlock.decode (content after superBlockIndex) = .ok volume.layout
    rw [same]
    exact superBlock

theorem onVolume_sound {α : Type} {action : EStateM VolumeError Volume α} (sound : mounted.Sound)
    (leaves : Leaves action mounted.volume fun after =>
      after.Sound (numBlocks mounted.device) ∧ after.layout = mounted.volume.layout) :
    Leaves (onVolume action) mounted Sound := by
  unfold Leaves onVolume
  rw [yields_focus]
  exact leaves.mono (fun _ _ kept => sound.withVolume kept) fun _ _ kept => sound.withVolume kept

theorem read_sound (sound : mounted.Sound) (descriptor length : Nat) :
    Leaves (read descriptor length) mounted Sound := by
  unfold Leaves read
  rw [yields_bind, yields_get, yields_bind]
  refine yields_settle (fun file used => ?_) fun _ _ => sound
  have place := sound.volume.descriptors descriptor file used
  rw [yields_bind, onDevice, yields_focus]
  refine (readFile_frame _ _ _ file.offset length mounted.device).mono ?_ ?_
  · intro data device ended
    obtain ⟨inside, same, follows⟩ := ended
    have still := sound.withDevice (congrFun same superBlockIndex) follows
    rw [yields_bind]
    exact onVolume_sound still (Volume.setOffset_sound still.volume used (inside place.2))
  · intro cause device ended
    obtain ⟨same, follows⟩ := ended
    exact sound.withDevice (congrFun same superBlockIndex) follows

/-- What a write to a file leaves behind fits into the mounted volume. -/
theorem putFileStore_sound (sound : mounted.Sound) {slot : Slot} {store : FileStore D}
    (occupied : ¬ (mounted.volume.directory.get slot).IsFree)
    (keeps : WriteKeeps mounted.volume.layout (fileStore slot mounted) store) :
    (putFileStore slot store mounted).Sound := by
  have stillOccupied : ¬ store.entry.IsFree := mt (DirEntry.isFree_congr keeps.name).mp occupied
  have directory := sound.volume.directory.set_of_nameField keeps.name fun _ => keeps.head
  refine ⟨⟨?_, keeps.table, directory, fun number file found => ?_⟩, ?_⟩
  · show mounted.volume.layout.Valid (numBlocks store.device)
    rw [keeps.areas.2.numBlocks_eq]
    exact sound.volume.layout
  · obtain ⟨before, inside⟩ := sound.volume.descriptors number file found
    show ¬ ((mounted.volume.directory.set slot store.entry).get file.slot).IsFree ∧
      file.offset ≤ ((mounted.volume.directory.set slot store.entry).get file.slot).size.toNat
    by_cases here : file.slot = slot
    · rw [here, Directory.get_set_self]
      rw [here] at inside
      exact ⟨stillOccupied, Nat.le_trans inside (UInt32.le_iff_toNat_le.mp keeps.size)⟩
    · rw [Directory.get_set_of_ne here]
      exact ⟨before, inside⟩
  · show SuperBlock.decode (content store.device superBlockIndex) = _
    rw [keeps.areas.1 _ sound.superBlock_lt]
    exact sound.superBlock

theorem write_sound (sound : mounted.Sound) (descriptor : Nat) (data : Bytes) :
    Leaves (write descriptor data) mounted Sound := by
  unfold Leaves write
  rw [yields_bind, yields_get, yields_bind]
  refine yields_settle (fun file used => ?_) fun _ _ => sound
  obtain ⟨occupied, place⟩ := sound.volume.descriptors descriptor file used
  rw [yields_bind, yields_focus]
  refine (writeFile_frame _ file.offset data (fileStore file.slot mounted) sound.volume.small
    sound.volume.table (sound.volume.isHead occupied)).mono ?_ ?_
  · intro count store ended
    obtain ⟨keeps, inside⟩ := ended
    have still := putFileStore_sound sound occupied keeps
    rw [yields_bind]
    refine onVolume_sound still (Volume.setOffset_sound still.volume used ?_)
    show _ ≤ ((mounted.volume.directory.set file.slot store.entry).get file.slot).size.toNat
    rw [Directory.get_set_self]
    exact inside place
  · exact fun _ store keeps => putFileStore_sound sound occupied keeps

theorem sync_sound (sound : mounted.Sound) : Leaves sync mounted Sound := by
  unfold Leaves sync
  rw [yields_bind, yields_get, onDevice, yields_focus]
  refine (mounted.volume.sync_yields sound.volume.layout sound.superBlock).mono ?_ ?_
  · intro _ device ended
    obtain ⟨_, same, follows⟩ := ended
    exact sound.withDevice (same _ (.inl rfl)) follows
  · intro cause device ended
    obtain ⟨_, same, follows⟩ := ended
    exact sound.withDevice (same _ (.inl rfl)) follows

/-- Whatever is asked for and whatever fails, the mounted volume stays sound. -/
theorem serve_sound (request : Request) (sound : mounted.Sound) :
    Leaves (serve request) mounted Sound := by
  cases request with
  | sync => exact (sync_sound sound).replied
  | info => exact sound
  | layout => exact sound
  | list => exact sound
  | check => exact (leaves_settle sound).replied
  | chain name => exact (leaves_settle sound).replied
  | create name => exact (onVolume_sound sound (Volume.create_sound sound.volume name)).replied
  | delete name => exact (onVolume_sound sound (Volume.delete_sound sound.volume name)).replied
  | openFile name => exact (onVolume_sound sound (Volume.openFile_sound sound.volume name)).replied
  | close descriptor =>
    exact (onVolume_sound sound (Volume.close_sound sound.volume descriptor)).replied
  | fileSize descriptor => exact (leaves_settle sound).replied
  | seek descriptor offset =>
    exact (onVolume_sound sound (Volume.seek_sound sound.volume descriptor offset)).replied
  | write descriptor data => exact (write_sound sound descriptor data).replied
  | read descriptor length => exact (read_sound sound descriptor length).replied

/-- After any requests to a volume that was mounted from any image, the volume is sound. -/
theorem run_sound_of_mount {device : D}
    (accepted : Volume.mount device = .ok mounted.volume mounted.device)
    (requests : List Request) : (runAll serve requests mounted).2.Sound := by
  obtain ⟨read, same, follows⟩ := (Volume.mount_yields device).of_ok accepted
  exact runAll_keeps (fun request _ _ sound => serve_sound request sound)
    (sound_of_ofDisk read same follows)

end Mounted

end FlatVolume
