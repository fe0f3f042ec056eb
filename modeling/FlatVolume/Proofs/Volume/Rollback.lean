/-
**A write that fails is rolled back.**

`write_rolls_back`: on an intact volume, a write that fails for whatever reason and at whatever call
of the device leaves the table, the directory and the descriptors exactly as they were, although the
chain may have grown in between. No other file changes. Of the file itself only bytes that it had
before can have changed: those from the offset up to the start of some block, or to the end of the
file if that comes first, and they are the bytes of the data.
-/

import FlatVolume.Proofs.Volume.Allocation

namespace FlatVolume.Mounted

variable {D : Type} [BlockDevice D] [FaithfulDevice D]

/-- A failed write leaves the volume as it was, every other file, and of the written file all but
a first part of the range. -/
theorem write_rolls_back {mounted after : Mounted D} {descriptor : Nat} {file : OpenFile}
    {data : Bytes} {cause : VolumeError} (sound : mounted.Sound)
    (checked : mounted.volume.check = .ok ())
    (used : mounted.volume.descriptors.get descriptor = .ok file)
    (failed : write descriptor data mounted = .error cause after) :
    after.volume = mounted.volume ∧
    (∀ other, other ≠ file.slot → after.volume.fileBytes (content after.device) other =
      mounted.volume.fileBytes (content mounted.device) other) ∧
    ∃ place, file.offset ≤ place ∧ place < file.offset + data.length ∧
      (place = file.offset ∨ blockSize ∣ place) ∧
      after.volume.fileBytes (content after.device) file.slot =
        overwrite (mounted.volume.fileBytes (content mounted.device) file.slot) file.offset
          (data.take (min place (mounted.volume.directory.get file.slot).size.toNat -
            file.offset)) := by
  obtain ⟨blocks, lays⟩ := Volume.check_eq_ok_iff.mp checked
  obtain ⟨occupied, inside⟩ := sound.volume.descriptors descriptor file used
  rcases (write_yields sound lays used).of_error failed with
    ⟨_, some, _, rfl⟩ | ⟨_, same, _, torn⟩
  · have positive : 0 < data.length := List.length_pos_of_ne_nil some
    refine ⟨rfl, fun _ _ => rfl, file.offset, Nat.le_refl _, by omega, .inl rfl, ?_⟩
    rw [Nat.min_eq_left inside, Nat.sub_self, List.take_zero, overwrite_nil]
  · obtain ⟨content, others⟩ := torn_fileBytes lays occupied inside sound.small torn
    rw [same]
    exact ⟨rfl, others, content⟩

/-- The first byte of a file on a disk that takes no writes. -/
theorem write_rolls_back_unwritable :
    ∃ mounted after : Mounted Disk, mounted.Sound ∧ mounted.volume.check = .ok () ∧
      mounted.volume.descriptors.get 0 = .ok ⟨⟨0, by decide⟩, 0⟩ ∧
      write 0 [7] mounted = .error (.device .failed) after ∧ after.volume = mounted.volume := by
  -- A disk that holds a volume without files and takes no write.
  let disk : Disk := { Disk.blank 5 with
    medium := Medium.blank.setBlock 0 (SuperBlock.forDataBlocks 2).encode
    faults := { Faults.never with write := .always } }
  let start : Mounted Disk := ⟨.fresh (.forDataBlocks 2), disk⟩
  let opened : Mounted Disk := (runAll serve [.create "a", .openFile "a"] start).2
  have intact : opened.Intact start.volume.strays := by
    refine runAll_keeps (fun request _ _ intact => serve_intact request intact) ⟨⟨?_, ?_⟩, ?_, rfl⟩
    · exact Volume.fresh_sound (by decide)
    · show SuperBlock.decode ((Medium.blank.setBlock 0 _).block 0) = _
      rw [Medium.block_setBlock, if_pos rfl, SuperBlock.decode_encode]
      rfl
    · exact ⟨_, Volume.fresh_lays _⟩
  have checked := Volume.check_eq_ok_iff.mpr intact.lays
  have used : opened.volume.descriptors.get 0 = .ok ⟨⟨0, by decide⟩, 0⟩ := by decide +kernel
  have failed : write 0 [7] opened = .error (.device .failed) _ :=
    eq_error_of_resultOf (by decide +kernel)
  exact ⟨opened, _, intact.sound, checked, used, failed,
    (write_rolls_back intact.sound checked used failed).1⟩

end FlatVolume.Mounted
