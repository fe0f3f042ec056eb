/-
**Sessions and archives.**

`run_agrees_with_archive`: take a device that fails no call and a volume that was mounted from it
and passed its check. Whatever steps a session makes from there, unmounting and mounting again among
them, all their results are those of the same steps on the archive of the volume, except that an
archive does not tell the first blocks of files.

`Represents` relates a session to an archive. While no volume is mounted, the archive is that of the
volume that the device gives back.
-/

import FlatVolume.Proofs.Archive.Stored

namespace FlatVolume

open BlockDevice

namespace ArchiveSession

variable {L : Type} {session after : ArchiveSession} {step : Step L} {reply : Reply}
  {cause : VolumeError}

theorem perform_of_ok (ended : session.outcome step = .ok (reply, after)) :
    perform step session = .ok reply after := by
  rw [perform, ended]

theorem perform_of_error (ended : session.outcome step = .error cause) :
    perform step session = .error cause session := by
  rw [perform, ended]

end ArchiveSession

namespace Session

variable {L D : Type} [BlockDevice D] [FaithfulDevice D]

/-- The archive is that of the mounted volume, or of the volume that the device gives back when it
is mounted. The device fails no call. -/
def Represents (session : Session L D) (archived : ArchiveSession) : Prop :=
  match session.mounted with
  | some (_, volume) =>
    archived.mounted = true ∧ Mounted.Represents ⟨volume, session.device⟩ archived.archive
  | none =>
    archived.mounted = false ∧ Reliable session.device ∧
      ∃ volume, Volume.ofDisk (content session.device) (numBlocks session.device) = .ok volume ∧
        (∃ blocks, volume.Lays blocks) ∧
        volume.archive (content session.device) = archived.archive

variable {session : Session L D} {archived : ArchiveSession}

theorem mount_agrees (represents : session.Represents archived) (label : L) :
    Agrees Reply.hideBlocks Represents (perform (.mount label))
      (ArchiveSession.perform (ArchiveSession.Step.mount label)) session archived := by
  obtain ⟨mounted, device⟩ := session
  cases mounted with
  | some pair =>
    obtain ⟨other, volume⟩ := pair
    refine yields_bind.mpr ((yields_mount_of_mounted rfl label).mpr ?_)
    exact ⟨archived, ArchiveSession.perform_of_error (if_pos represents.1), represents⟩
  | none =>
    obtain ⟨unmounted, reliable, stored⟩ := represents
    refine yields_bind.mpr ((yields_mount_of_unmounted rfl label).mpr ?_)
    refine (mount_archived ⟨reliable, stored⟩).mono ?_ fun _ _ impossible => impossible.elim
    rintro volume after ⟨still, _, _⟩
    refine ⟨{ archived with mounted := true }, ArchiveSession.perform_of_ok ?_, rfl, still⟩
    exact if_neg (by simp [unmounted])

theorem unmount_agrees (represents : session.Represents archived) :
    Agrees Reply.hideBlocks Represents (perform (.unmount : Step L))
      (ArchiveSession.perform (.unmount : ArchiveSession.Step L)) session archived := by
  obtain ⟨mounted, device⟩ := session
  cases mounted with
  | none =>
    refine yields_bind.mpr ((yields_unmount_of_unmounted rfl).mpr ?_)
    refine ⟨archived, ArchiveSession.perform_of_error (if_neg ?_), represents⟩
    simp [represents.1]
  | some pair =>
    obtain ⟨label, volume⟩ := pair
    obtain ⟨isMounted, here⟩ := represents
    have closed : volume.descriptors.openFiles = [] ↔ ¬ ∃ slot, archived.archive.IsOpen slot := by
      rw [← here.archive_eq]
      exact Volume.openFiles_eq_nil_iff
    refine yields_bind.mpr ((yields_unmount_of_mounted rfl).mpr ?_)
    by_cases none : volume.descriptors.openFiles = []
    · rw [if_pos none]
      refine (sync_archived here none).mono ?_ fun _ _ impossible => impossible.elim
      rintro _ after ⟨⟨reliable, stored⟩, _⟩
      refine ⟨{ archived with mounted := false }, ArchiveSession.perform_of_ok ?_, rfl, reliable,
        stored⟩
      exact (if_pos isMounted).trans (if_neg (closed.mp none))
    · rw [if_neg none]
      refine ⟨archived, ArchiveSession.perform_of_error ?_, isMounted, here⟩
      exact (if_pos isMounted).trans (if_pos (not_not.mp (mt closed.mpr none)))

theorem serve_agrees (represents : session.Represents archived) (call : Archive.Call)
    (short : ∀ descriptor length, call = .read descriptor length → length < 2 ^ 63) :
    Agrees Reply.hideBlocks Represents (perform (.serve call.request : Step L))
      (ArchiveSession.perform (.serve call : ArchiveSession.Step L)) session archived := by
  obtain ⟨mounted, device⟩ := session
  cases mounted with
  | none =>
    refine (yields_serve_of_unmounted rfl _).mpr ?_
    refine ⟨archived, ArchiveSession.perform_of_error (if_neg ?_), represents⟩
    simp [represents.1]
  | some pair =>
    obtain ⟨label, volume⟩ := pair
    obtain ⟨isMounted, here⟩ := represents
    refine (yields_serve_of_mounted rfl _).mpr ?_
    refine (Mounted.serve_represents here call short).mono ?_ ?_
    · intro reply after ended
      obtain ⟨next, same, still⟩ := ended
      refine ⟨{ archived with archive := next }, ArchiveSession.perform_of_ok ?_, isMounted, still⟩
      rw [ArchiveSession.outcome, if_pos isMounted, same]
      rfl
    · intro cause after ended
      obtain ⟨same, still⟩ := ended
      refine ⟨archived, ArchiveSession.perform_of_error ?_, isMounted, still⟩
      rw [ArchiveSession.outcome, if_pos isMounted, same]
      rfl

/-- Every step of a session ends as the step on the archive that it represents. -/
theorem perform_agrees (represents : session.Represents archived) (step : ArchiveSession.Step L)
    (short : ∀ descriptor length, step = .serve (.read descriptor length) → length < 2 ^ 63) :
    Agrees Reply.hideBlocks Represents (perform step.onVolume) (ArchiveSession.perform step) session
      archived := by
  cases step with
  | mount label => exact mount_agrees represents label
  | unmount => exact unmount_agrees represents
  | serve call =>
    refine serve_agrees represents call fun descriptor length isRead => ?_
    exact short descriptor length (congrArg _ isRead)

/-- A volume that was mounted and passed its check is seen through its archive: all results of all
steps are the same, and so is what is left in the end. -/
theorem run_agrees_with_archive {device started : D} {volume : Volume} (label : L)
    (mounted : Volume.mount device = .ok volume started)
    (checked : volume.check = .ok () ∨ ∃ blank : D, Volume.format blank = .ok () device)
    (reliable : Reliable device) (steps : List (ArchiveSession.Step L))
    (short : ∀ descriptor length, .serve (.read descriptor length) ∈ steps → length < 2 ^ 63) :
    (runAll perform (steps.map ArchiveSession.Step.onVolume) ⟨some (label, volume), started⟩).1.map
        (Except.map Reply.hideBlocks) =
      (runAll ArchiveSession.perform steps ⟨true, volume.archive (content started)⟩).1 ∧
    Represents
      (runAll perform (steps.map ArchiveSession.Step.onVolume) ⟨some (label, volume), started⟩).2
      (runAll ArchiveSession.perform steps ⟨true, volume.archive (content started)⟩).2 := by
  have passed : volume.check = .ok () := by
    rcases checked with passed | ⟨blank, formatted⟩
    · exact passed
    · exact Mounted.check_of_format formatted mounted
  have intact := Mounted.intact_of_mount mounted passed
  obtain ⟨_, _, follows⟩ := (Volume.mount_yields device).of_ok mounted
  refine runAll_agrees (fun step member session archived represents => ?_)
    ⟨rfl, intact.sound, intact.lays, follows.reliable reliable, rfl⟩
  refine perform_agrees represents step fun descriptor length isRead => ?_
  exact short descriptor length (isRead ▸ member)

/-- A file on a disk of five blocks, written, read, and still there after the next mount. -/
theorem run_agrees_with_archive_blank :
    ∃ device started : Disk, Volume.format (Disk.blank 5) = .ok () device ∧
      Volume.mount device = .ok (.fresh (.forDataBlocks 2)) started ∧ Reliable device ∧
      (runAll perform (List.map ArchiveSession.Step.onVolume
          [.serve (.create "a"), .serve (.openFile "a"), .serve (.write 0 [104, 105]),
            .serve (.seek 0 1), .serve (.read 0 9), .serve (.close 0), .unmount, .mount (),
            .serve .list])
          ⟨some ((), .fresh (.forDataBlocks 2)), started⟩).1.map (Except.map Reply.hideBlocks) =
        [.ok .done, .ok (.descriptor 0), .ok (.count 2), .ok .done, .ok (.data [105]), .ok .done,
          .ok .done, .ok .done, .ok (.files [⟨"a", 2, .endOfChain⟩])] := by
  have divided : SuperBlock.forDisk 5 = .ok (.forDataBlocks 2) := by decide
  obtain ⟨device, started, formatted, mounted, reliable, _⟩ :=
    Volume.mount_of_format (Disk.reliable_of_neverFails (Disk.neverFails_blank 5)) divided
  have agrees := run_agrees_with_archive () mounted (.inr ⟨_, formatted⟩) reliable
    [.serve (.create "a"), .serve (.openFile "a"), .serve (.write 0 [104, 105]),
      .serve (.seek 0 1), .serve (.read 0 9), .serve (.close 0), .unmount, .mount (),
      .serve .list] (by simp)
  refine ⟨device, started, formatted, mounted, reliable, agrees.1.trans ?_⟩
  rw [Volume.archive_fresh (SuperBlock.forDisk_valid divided)]
  decide +kernel

end Session

end FlatVolume
