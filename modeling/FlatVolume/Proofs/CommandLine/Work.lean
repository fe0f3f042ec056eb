/-
**Work on a mounted image.**

What the commands do to a mounted volume is told on the dictionary that its archive keeps:
`storeFile` adds a byte string (`storeFile_yields`), deleting removes one (`delete_yields`), and
`printRest` prints the bytes behind the position of a descriptor (`printRest_yields`). Work that
fails changes no block of the image.
-/

import FlatVolume.Proofs.Archive.Stored
import FlatVolume.Proofs.Dictionary.Archive
import FlatVolume.Proofs.Host.Image

namespace FlatVolume

open BlockDevice

namespace Mounted

/-! ### Single actions -/

section Actions

variable {D : Type} [BlockDevice D] [FaithfulDevice D] {mounted : Mounted D} {archive : Archive}

/-- An action in memory that carries out a call ends as the call to the archive. -/
theorem onVolume_represents {α : Type} {action : EStateM VolumeError Volume α}
    (represents : mounted.Represents archive) (call : Archive.Call) (reply : α → Reply)
    (carriesOut : serve (D := D) call.request = do return reply (← onVolume action))
    (short : ∀ descriptor length, call = .read descriptor length → length < 2 ^ 63) :
    Yields (onVolume action) mounted
      (fun result after => ∃ next, archive.serve call = .ok ((reply result).hideBlocks, next) ∧
        after.Represents next ∧ after.device = mounted.device)
      (fun cause after => archive.serve call = .error cause ∧ after.device = mounted.device) := by
  have served := serve_represents represents call short
  rw [carriesOut, yields_bind] at served
  have device : Leaves (onVolume action) mounted fun after => after.device = mounted.device :=
    yields_focus.mpr (leaves_of_forall fun _ => rfl)
  refine (served.and device).mono ?_ ?_
  · rintro _ after ⟨⟨next, same, still⟩, kept⟩
    exact ⟨next, same, still, kept⟩
  · exact fun _ _ ended => ⟨ended.1.1, ended.2⟩

/-- A write that is refused changes nothing at all. -/
theorem write_represents (represents : mounted.Represents archive) (descriptor : Nat)
    (data : Bytes) :
    Yields (write descriptor data) mounted
      (fun count after => ∃ next, archive.write descriptor data = .ok (.count count, next) ∧
        after.Represents next ∧ Follows mounted.device after.device)
      (fun cause after => archive.write descriptor data = .error cause ∧ after = mounted) := by
  have served := yields_bind.mp (serve_represents represents (.write descriptor data) nofun)
  obtain ⟨sound, ⟨blocks, lays⟩, reliable, rfl⟩ := represents
  have unchanged : Yields (write descriptor data) mounted (fun _ _ => True)
      (fun _ after => after = mounted) := by
    cases used : mounted.volume.descriptors.get descriptor with
    | error cause => exact (yields_write_of_unused used data).mpr rfl
    | ok file =>
      refine (write_yields sound lays used).mono (fun _ _ _ => trivial) ?_
      rintro _ after (⟨_, _, _, same⟩ | ⟨fault, _⟩)
      · exact same
      · exact absurd reliable fault.unreliable
  refine ((served.and (write_mirrors sound lays reliable descriptor data)).and unchanged).mono ?_ ?_
  · rintro count after ⟨⟨⟨next, same, still⟩, _, follows⟩, _⟩
    exact ⟨next, same, still, follows⟩
  · exact fun _ _ ended => ⟨ended.1.1.1, ended.2⟩

/-- A read changes no block. -/
theorem read_represents (represents : mounted.Represents archive) (descriptor : Nat) {length : Nat}
    (short : length < 2 ^ 63) :
    Yields (read descriptor length) mounted
      (fun data after => ∃ next, archive.read descriptor length = .ok (.data data, next) ∧
        after.Represents next ∧ content after.device = content mounted.device ∧
        Follows mounted.device after.device)
      (fun cause _ => archive.read descriptor length = .error cause) := by
  have served := yields_bind.mp (serve_represents represents (.read descriptor length)
    fun _ _ same => (Archive.Call.read.inj same).2 ▸ short)
  obtain ⟨sound, ⟨blocks, lays⟩, _, rfl⟩ := represents
  have unchanged : Yields (read descriptor length) mounted
      (fun _ after => content after.device = content mounted.device ∧
        Follows mounted.device after.device) (fun _ _ => True) := by
    cases used : mounted.volume.descriptors.get descriptor with
    | error cause => exact (yields_read_of_unused used length).mpr trivial
    | ok file =>
      exact (read_yields sound lays used length).mono (fun _ _ ended => ended.2.2.2)
        fun _ _ _ => trivial
  refine (served.and unchanged).mono ?_ fun _ _ ended => ended.1.1
  rintro data after ⟨⟨next, same, still⟩, kept⟩
  exact ⟨next, same, still, kept⟩

end Actions

end Mounted

namespace CommandLine

variable {mounted : Mounted ImageFile} {archive : Archive} {dictionary : Dictionary}

/-! ### Storing and deleting -/

/-- Storing a file adds a byte string. When it fails, the image is as before. -/
theorem storeFile_yields (represents : mounted.Represents archive)
    (keeps : archive.Keeps dictionary) (name : String) (data : Bytes) :
    Yields (storeFile name data) mounted
      (fun count after => ∃ next nextArchive, dictionary.add name data = .ok (count, next) ∧
        after.Represents nextArchive ∧ nextArchive.Keeps next ∧
        Follows mounted.device after.device)
      (fun cause after => dictionary.add name data = .error cause ∧
        after.device = mounted.device) := by
  refine yields_bind.mpr ((Mounted.onVolume_represents represents (.create name) (fun _ => .done)
    rfl nofun).mono ?_ ?_)
  swap
  · rintro cause after ⟨refused, device⟩
    exact ⟨keeps.add_of_create_error represents.tidy refused data, device⟩
  rintro _ created ⟨first, isCreated, firstRepresents, firstDevice⟩
  obtain ⟨slot, empty, rfl, isName, added⟩ := keeps.add_of_create represents.tidy isCreated
  rw [added]
  refine yields_bind.mpr ((Mounted.onVolume_represents firstRepresents (.openFile name) .descriptor
    rfl nofun).mono ?_ ?_)
  swap
  · rintro cause after ⟨refused, _⟩
    cases refused.symm.trans (Archive.openFile_new keeps.closed isName firstRepresents.tidy)
  rintro descriptor opened ⟨second, isOpened, secondRepresents, secondDevice⟩
  obtain ⟨same, rfl⟩ := Prod.mk.inj (Except.ok.inj
    (isOpened.symm.trans (Archive.openFile_new keeps.closed isName firstRepresents.tidy)))
  obtain rfl : descriptor = 0 := Reply.descriptor.inj same
  refine yields_bind.mpr ((Mounted.write_represents secondRepresents 0 data).mono ?_ ?_)
  swap
  · rintro cause after ⟨refused, rfl⟩
    rw [Archive.write_new] at refused
    split at refused
    · rename_i long
      rw [if_pos long, Except.error.inj refused]
      exact ⟨rfl, secondDevice.trans firstDevice⟩
    · cases refused
  rintro count written ⟨third, isWritten, thirdRepresents, follows⟩
  rw [Archive.write_new] at isWritten
  split at isWritten
  · cases isWritten
  rename_i fits
  rw [if_neg fits]
  obtain ⟨counted, rfl⟩ := Prod.mk.inj (Except.ok.inj isWritten)
  obtain rfl := Reply.count.inj counted
  rw [secondDevice, firstDevice] at follows
  refine yields_bind.mpr ((Mounted.onVolume_represents thirdRepresents (.close 0) (fun _ => .done)
    rfl nofun).mono ?_ ?_)
  swap
  · rintro cause after ⟨refused, _⟩
    cases refused.symm.trans (Archive.close_new keeps.closed _ _)
  rintro _ closed ⟨last, isClosed, lastRepresents, lastDevice⟩
  obtain ⟨_, rfl⟩ := Prod.mk.inj (Except.ok.inj
    (isClosed.symm.trans (Archive.close_new keeps.closed _ _)))
  exact ⟨_, _, rfl, lastRepresents, keeps.withFile empty data, lastDevice ▸ follows⟩

/-- Deleting a file removes a byte string. When it fails, the image is as before. -/
theorem delete_yields (represents : mounted.Represents archive)
    (keeps : archive.Keeps dictionary) (name : String) :
    Yields (Mounted.onVolume (Volume.delete name)) mounted
      (fun _ after => ∃ next nextArchive, dictionary.remove name = .ok next ∧
        after.Represents nextArchive ∧ nextArchive.Keeps next ∧ after.device = mounted.device)
      (fun cause after => dictionary.remove name = .error cause ∧
        after.device = mounted.device) := by
  have deleted := keeps.delete represents.tidy name
  refine (Mounted.onVolume_represents represents (.delete name) (fun _ => .done) rfl nofun).mono
    ?_ ?_
  · rintro _ after ⟨nextArchive, same, still, device⟩
    rw [show archive.delete name = _ from same] at deleted
    obtain ⟨next, removed, nextKeeps⟩ := deleted
    exact ⟨next, nextArchive, removed, still, nextKeeps, device⟩
  · rintro cause after ⟨same, device⟩
    rw [show archive.delete name = _ from same] at deleted
    exact ⟨deleted, device⟩

/-! ### Looking -/

/-- A file that is opened has the byte string of the name. -/
theorem openFile_yields (represents : mounted.Represents archive)
    (keeps : archive.Keeps dictionary) (name : String) :
    Yields (Mounted.onVolume (Volume.openFile name)) mounted
      (fun descriptor after => ∃ slot, dictionary.lookup name = .ok (archive.bytesIn slot) ∧
        descriptor = 0 ∧ after.Represents (archive.setDescriptor 0 (some ⟨slot, 0⟩)) ∧
        after.device = mounted.device)
      (fun cause after => dictionary.lookup name = .error cause ∧
        after.device = mounted.device) := by
  have found := keeps.openFile represents.tidy name
  refine (Mounted.onVolume_represents represents (.openFile name) .descriptor rfl nofun).mono
    ?_ ?_
  · rintro descriptor after ⟨nextArchive, same, still, device⟩
    rw [show archive.openFile name = _ from same] at found
    obtain ⟨slot, looked, first, rfl⟩ := found
    exact ⟨slot, looked, Reply.descriptor.inj first, still, device⟩
  · rintro cause after ⟨same, device⟩
    rw [show archive.openFile name = _ from same] at found
    exact ⟨found, device⟩

/-- The size of an open file is the length of its byte string. -/
theorem fileSize_eq (represents : mounted.Represents archive) {file : OpenFile}
    (opened : archive.opened 0 = .ok file) :
    mounted.volume.fileSize 0 = .ok (archive.bytesIn file.slot).length := by
  obtain ⟨sound, ⟨blocks, lays⟩, _, rfl⟩ := represents
  have same := Mounted.fileSize_mirrors sound lays 0
  simp only [Archive.fileSize, opened, bind, Except.bind] at same
  cases found : mounted.volume.fileSize 0 with
  | error cause =>
    rw [found] at same
    cases same
  | ok size =>
    rw [found] at same
    rw [Reply.count.inj (Prod.mk.inj (Except.ok.inj same)).1]

/-- Reading a block from an open file gives the next piece of what is left of it. -/
theorem readPiece_yields (represents : mounted.Represents archive) {slot : Slot} {offset : Nat}
    {left : Bytes} (opened : archive.opened 0 = .ok ⟨slot, offset⟩)
    (rest : (archive.bytesIn slot).drop offset = left) :
    Yields (Mounted.read 0 blockSize) mounted
      (fun data after => data = left.take blockSize ∧
        (∃ next later, after.Represents next ∧ next.opened 0 = .ok ⟨slot, later⟩ ∧
          (next.bytesIn slot).drop later = left.drop blockSize) ∧
        content after.device = content mounted.device ∧ Follows mounted.device after.device)
      (fun _ _ => False) := by
  have piece : archive.read 0 blockSize = .ok (.data (left.take blockSize),
      archive.setDescriptor 0 (some ⟨slot, offset + (left.take blockSize).length⟩)) := by
    simp only [Archive.read, opened, bind, Except.bind, rest]
  refine (Mounted.read_represents represents 0 (by decide)).mono ?_ ?_
  · rintro data after ⟨next, same, still, blocks, follows⟩
    obtain ⟨isData, rfl⟩ := Prod.mk.inj (Except.ok.inj (piece.symm.trans same))
    refine ⟨(Reply.data.inj isData).symm, ⟨_, _, still, rfl, ?_⟩, blocks, follows⟩
    show (archive.bytesIn slot).drop _ = _
    rw [← List.drop_drop, rest, List.length_take]
    rcases Nat.le_total blockSize left.length with long | short
    · rw [Nat.min_eq_left long]
    · rw [Nat.min_eq_right short, List.drop_length, List.drop_eq_nil_of_le short]
  · intro cause _ refused
    cases piece.symm.trans refused

/-- Printing piece by piece prints all that is left of an open file. The pieces are enough when
there is one for each block that the bytes need. -/
theorem printRest_yields {console : Console (Mounted ImageFile)}
    (represents : console.system.Represents archive) {slot : Slot} {offset chunks : Nat}
    {left : Bytes} (opened : archive.opened 0 = .ok ⟨slot, offset⟩)
    (rest : (archive.bytesIn slot).drop offset = left) (enough : blocksFor left.length ≤ chunks) :
    Yields (printRest 0 chunks) console
      (fun _ after => after.output = console.output ++ left ∧
        content after.system.device = content console.system.device ∧
        Follows console.system.device after.system.device) (fun _ _ => False) := by
  induction chunks generalizing console archive offset left with
  | zero =>
    have none := List.length_eq_zero_iff.mp (blocksFor_eq_zero_iff.mp (Nat.le_zero.mp enough))
    rw [none, List.append_nil]
    exact ⟨rfl, rfl, .refl _⟩
  | succ chunks hypothesis =>
    refine yields_bind.mpr (yields_focus.mpr ((readPiece_yields represents opened rest).mono ?_
      fun _ _ impossible => impossible))
    rintro _ after ⟨rfl, ⟨next, later, still, nextOpened, nextRest⟩, blocks, follows⟩
    by_cases ended : left.take blockSize = []
    · have none : left = [] := (List.take_eq_nil_iff.mp ended).resolve_left (by decide)
      rw [if_pos ended, none, List.append_nil]
      exact ⟨rfl, blocks, follows⟩
    · rw [if_neg ended]
      have fewer : blocksFor (left.drop blockSize).length ≤ chunks := by
        rw [blocksFor_le_iff] at enough ⊢
        rw [List.length_drop]
        simp only [blockSize] at enough ⊢
        omega
      refine yields_bind.mpr ((hypothesis still nextOpened nextRest fewer).mono ?_
        fun _ _ impossible => impossible)
      rintro _ final ⟨output, finalBlocks, finalFollows⟩
      refine ⟨?_, finalBlocks.trans blocks, follows.trans finalFollows⟩
      rw [output, Console.output, List.reverse_cons, List.flatten_append, List.append_assoc,
        List.flatten_singleton, List.take_append_drop]
      rfl

end CommandLine

end FlatVolume
