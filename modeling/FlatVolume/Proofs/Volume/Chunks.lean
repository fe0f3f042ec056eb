/-
**Data that is written in pieces.**

On an intact volume and a device that fails no call it makes no difference whether data is written
by one write, or in pieces by one write after another on the same descriptor. The pieces may be cut
anywhere and may be empty, and the volume may become full in the middle of any of them.

* `write_nil`: an empty write does nothing;
* `write_append`: a write of two parts does what two writes of them do;
* `write_pieces`: so one write of all pieces does what a run of writes does. The counts of the run
  add up to the count of the one write.
-/

import FlatVolume.Proofs.File.Pieces
import FlatVolume.Proofs.Volume.Effect

namespace FlatVolume.Mounted

section Pieces

variable {D : Type} [BlockDevice D] {mounted : Mounted D} {descriptor : Nat} {file : OpenFile}

/-- An empty write does nothing. -/
theorem write_nil (used : mounted.volume.descriptors.get descriptor = .ok file) :
    write descriptor [] mounted = .ok 0 mounted := by
  have none : writeFile mounted.volume.layout file.offset [] (fileStore file.slot mounted) =
      .ok 0 (fileStore file.slot mounted) := rfl
  have still : putFileStore file.slot (fileStore file.slot mounted) mounted = mounted := by
    simp only [putFileStore, fileStore, Directory.set_get_self]
  have stays := Descriptors.set_of_get_eq_ok used
  simp only [write, bind_apply, get_apply, used, settle_apply, focus, none, still, onVolume,
    Volume.setOffset, modify_apply, Nat.add_zero, stays]
  rfl

theorem fileStore_afterWrite {D : Type} (mounted : Mounted D) (descriptor : Nat) (file : OpenFile)
    (store : FileStore D) (count : Nat) :
    fileStore file.slot (mounted.afterWrite descriptor file store count) = store := by
  simp only [fileStore, afterWrite, Directory.get_set_self]

variable [FaithfulDevice D] {chain : List BlockId} {data first second : Bytes}

/-- All that the writes of one descriptor need: the volume is intact, its device fails no call, and
the descriptor stands for an open file. -/
structure Writable (mounted : Mounted D) (descriptor : Nat) (file : OpenFile) : Prop where
  sound : mounted.Sound
  checked : mounted.volume.check = .ok ()
  reliable : Reliable mounted.device
  used : mounted.volume.descriptors.get descriptor = .ok file

/-- A write that is not too long stores its data as far as there is room, and the same descriptor
can be written again. -/
theorem Writable.write_stores (writable : mounted.Writable descriptor file)
    (isChain : (fileStore file.slot mounted).table.IsChain
      (fileStore file.slot mounted).entry.first chain)
    (fits : file.offset + data.length ≤ maxFileSize) :
    ∃ store count,
      write descriptor data mounted = .ok count (mounted.afterWrite descriptor file store count) ∧
      (mounted.afterWrite descriptor file store count).Writable descriptor
        { file with offset := file.offset + count } ∧
      Stored mounted.volume.layout chain file.offset data count (fileStore file.slot mounted)
        store := by
  obtain ⟨sound, checked, reliable, used⟩ := writable
  obtain ⟨blocks, lays⟩ := Volume.check_eq_ok_iff.mp checked
  obtain ⟨occupied, inside⟩ := sound.volume.descriptors descriptor file used
  obtain rfl : blocks file.slot = chain := (lays.chain file.slot occupied).unique isChain
  obtain ⟨store, ended, written, filled, _⟩ := write_succeeds sound lays reliable used fits
  have least : file.offset ≤ writeStop mounted.volume.table (blocks file.slot)
      (file.offset + data.length) :=
    le_writeStop (Nat.le_trans inside (lays.room occupied)) (Nat.le_add_right ..)
  obtain ⟨count, stop⟩ := Nat.exists_eq_add_of_le least
  have size := written.size
  rw [stop, Nat.add_sub_cancel_left] at ended
  rw [stop] at filled
  refine ⟨store, count, ended, ?_, stop.symm, written.unused,
    ⟨written.grown, written.name, stop ▸ size, filled⟩⟩
  have laysAfter : (mounted.afterWrite descriptor file store count).volume.Lays _ :=
    (written_lays lays occupied written).1
  refine
    { sound := (write_sound sound descriptor data).of_ok ended
      checked := Volume.check_eq_ok_iff.mpr ⟨_, laysAfter⟩
      reliable := written.follows.reliable reliable
      used := ?_ }
  exact (Descriptors.get_set_eq_ok_iff (Descriptors.lt_of_get_eq_ok used)).mpr (if_pos rfl ▸ rfl)

/-- A write of two parts does what two writes of them do. -/
theorem Writable.write_append (writable : mounted.Writable descriptor file)
    (fits : file.offset + (first ++ second).length ≤ maxFileSize) :
    ∃ count rest middle after final,
      write descriptor first mounted = .ok count middle ∧ count ≤ first.length ∧
      middle.Writable descriptor { file with offset := file.offset + count } ∧
      write descriptor second middle = .ok rest after ∧
      write descriptor (first ++ second) mounted = .ok (count + rest) final ∧
      final.volume = after.volume ∧ content final.device = content after.device := by
  have lengths : (first ++ second).length = first.length + second.length := List.length_append
  obtain ⟨blocks, lays⟩ := Volume.check_eq_ok_iff.mp writable.checked
  obtain ⟨occupied, _⟩ := writable.sound.volume.descriptors descriptor file writable.used
  have isChain := lays.chain file.slot occupied
  obtain ⟨part, count, firstEnded, writableMiddle, stored⟩ :=
    writable.write_stores isChain (show file.offset + first.length ≤ maxFileSize by omega)
  have short := stored.count_le
  have continues := fileStore_afterWrite mounted descriptor file part count
  obtain ⟨whole, rest, secondEnded, _, storedMore⟩ :=
    writableMiddle.write_stores (continues ▸ stored.extended.grown.chain)
      (show file.offset + count + second.length ≤ maxFileSize by omega)
  rw [continues] at storedMore
  obtain ⟨again, total, ended, _, storedBoth⟩ := writable.write_stores isChain fits
  obtain ⟨rfl, tables, entries, contents⟩ :=
    (stored.append storedMore).unique writable.sound.small storedBoth
  refine ⟨count, rest, _, _, _, firstEnded, short, writableMiddle, secondEnded, ended, ?_,
    contents⟩
  simp only [afterWrite, tables, entries, Directory.set_set, Descriptors.set_set, Nat.add_assoc]

/-- The run of writes of the pieces does what one write of all of them does. -/
theorem Writable.write_run (writable : mounted.Writable descriptor file) (pieces : List Bytes)
    (fits : file.offset + pieces.flatten.length ≤ maxFileSize) :
    ∃ (counts : List Nat) (final : Mounted D),
      (runAll (write descriptor) pieces mounted).1 = counts.map .ok ∧
      write descriptor pieces.flatten mounted = .ok counts.sum final ∧
      final.volume = (runAll (write descriptor) pieces mounted).2.volume ∧
      content final.device = content (runAll (write descriptor) pieces mounted).2.device := by
  induction pieces generalizing mounted file with
  | nil => exact ⟨[], mounted, rfl, write_nil writable.used, rfl, rfl⟩
  | cons piece pieces hypothesis =>
    rw [List.flatten_cons] at fits ⊢
    obtain ⟨count, rest, middle, after, final, first, short, stillWritable, second, both, volume,
      contents⟩ := writable.write_append fits
    rw [List.length_append] at fits
    obtain ⟨counts, last, results, single, sameVolume, sameContent⟩ := hypothesis stillWritable
      (show file.offset + count + pieces.flatten.length ≤ maxFileSize by omega)
    obtain ⟨rfl, rfl⟩ : rest = counts.sum ∧ after = last := by
      rw [second] at single
      exact EStateM.Result.ok.inj single
    rw [runAll_cons_of_ok first]
    refine ⟨count :: counts, final, ?_, ?_, volume.trans sameVolume, contents.trans sameContent⟩
    · rw [results, List.map_cons]
    · rw [both, List.sum_cons]

/-- One write of all pieces and a run of writes of the pieces end in the same volume and with the
same content of the device, and the counts of the run add up to the count of the one write. On a
descriptor that is not in use all of them fail alike. -/
theorem write_pieces (sound : mounted.Sound) (checked : mounted.volume.check = .ok ())
    (reliable : Reliable mounted.device) (descriptor : Nat) (pieces : List Bytes)
    (fits : ∀ file, mounted.volume.descriptors.get descriptor = .ok file →
      file.offset + pieces.flatten.length ≤ maxFileSize) :
    let single := stateAfter (write descriptor pieces.flatten) mounted
    let run := runAll (write descriptor) pieces mounted
    run.2.volume = single.volume ∧ content run.2.device = content single.device ∧
      ((∃ counts : List Nat, run.1 = counts.map .ok ∧
          resultOf (write descriptor pieces.flatten) mounted = .ok counts.sum) ∨
        ∃ cause, mounted.volume.descriptors.get descriptor = .error cause ∧
          run.1 = pieces.map (fun _ => .error cause) ∧
          resultOf (write descriptor pieces.flatten) mounted = .error cause) := by
  intro single run
  cases used : mounted.volume.descriptors.get descriptor with
  | ok file =>
    have writable : mounted.Writable descriptor file := ⟨sound, checked, reliable, used⟩
    obtain ⟨counts, final, results, ended, volume, contents⟩ :=
      writable.write_run pieces (fits file used)
    have state : single = final := by
      show stateAfter (write descriptor pieces.flatten) mounted = final
      rw [stateAfter, ended]
    rw [state]
    refine ⟨volume.symm, contents.symm, .inl ⟨counts, results, ?_⟩⟩
    rw [resultOf, ended]
  | error cause =>
    have failed : ∀ data, write descriptor data mounted = .error cause mounted :=
      fun data => ((yields_write_of_unused used data).mpr ⟨rfl, rfl⟩).eq_error
    have ended : run = (pieces.map fun _ => .error cause, mounted) := runAll_of_error failed pieces
    have state : single = mounted := by
      show stateAfter (write descriptor pieces.flatten) mounted = mounted
      rw [stateAfter, failed]
    rw [ended, state]
    refine ⟨rfl, rfl, .inr ⟨cause, rfl, rfl, ?_⟩⟩
    rw [resultOf, failed]

end Pieces

/-- A disk becomes full in the middle of the last of three pieces. What the one write stores has
both pieces, one behind the other. -/
theorem write_pieces_almostFull :
    let mounted : Mounted Disk := ⟨almostFull, almostFull.signed 6⟩
    let pieces : List Bytes := [.replicate 5000 7, [], .replicate 4000 8]
    let single := stateAfter (write 0 pieces.flatten) mounted
    let run := runAll (write 0) pieces mounted
    mounted.Sound ∧ mounted.volume.check = .ok () ∧
      run.2.volume = single.volume ∧ content run.2.device = content single.device ∧
      run.1 = [.ok 5000, .ok 0, .ok 3092] ∧
      resultOf (write 0 pieces.flatten) mounted = .ok 8092 ∧
      (single.volume.directory.get ⟨0, by decide⟩).size.toNat = 8192 ∧
      ((single.volume.fileBytes (content single.device) ⟨0, by decide⟩).drop 5098).take 4 =
        [7, 7, 8, 8] := by
  intro mounted pieces
  have checked : mounted.volume.check = .ok () := by decide +kernel
  have reliable : Reliable mounted.device :=
    Disk.reliable_of_neverFails (Disk.neverFails_blank 6)
  have used : mounted.volume.descriptors.get 0 = .ok ⟨⟨0, by decide⟩, 100⟩ := by decide +kernel
  have length : pieces.flatten.length = 9000 := by
    simp only [pieces, List.length_flatten, List.map_cons, List.map_nil, List.length_replicate,
      List.length_nil, List.sum_cons, List.sum_nil, Nat.reduceAdd]
  have fits : ∀ file, mounted.volume.descriptors.get 0 = .ok file →
      file.offset + pieces.flatten.length ≤ maxFileSize := by
    intro file found
    obtain rfl := Except.ok.inj (used.symm.trans found)
    rw [length]
    decide
  have counted : (runAll (write 0) pieces mounted).1 = [.ok 5000, .ok 0, .ok 3092] := by
    decide +kernel
  have size : ((runAll (write 0) pieces mounted).2.volume.directory.get ⟨0, by decide⟩).size.toNat =
      8192 := by decide +kernel
  have joined : (((runAll (write 0) pieces mounted).2.volume.fileBytes
      (content (runAll (write 0) pieces mounted).2.device) ⟨0, by decide⟩).drop 5098).take 4 =
      [7, 7, 8, 8] := by decide +kernel
  have agree := write_pieces almostFull_sound checked reliable 0 pieces fits
  -- The run is evaluated, the one write is not.
  generalize runAll (write 0) pieces mounted = run at counted size joined agree ⊢
  generalize stateAfter (write 0 pieces.flatten) mounted = single at agree ⊢
  obtain ⟨volume, contents, results⟩ := agree
  rw [volume] at size
  rw [volume, contents] at joined
  refine ⟨almostFull_sound, checked, volume, contents, counted, ?_, size, joined⟩
  rcases results with ⟨counts, same, total⟩ | ⟨cause, unused, _⟩
  · obtain rfl : counts = [5000, 0, 3092] :=
      List.map_injective_iff.mpr (fun _ _ => Except.ok.inj) (same.symm.trans counted)
    exact total
  · cases used.symm.trans unused

end FlatVolume.Mounted
