/-
**Reading into a buffer.**

A caller may hand its own buffer to a read, which asks for as many bytes as the buffer has. The
pieces are then put into the buffer one behind the other, each as soon as its block is read
(`fillSpans`, `fillFile`, `Mounted.fill`). This is the same as reading the data and putting it over
the start of the buffer (`fill_yields`): the rest of the buffer is left alone, and a failure is the
same failure.
-/

import FlatVolume.Proofs.File.Content
import FlatVolume.Proofs.File.Frame
import FlatVolume.Volume.Operations

namespace FlatVolume

/-- Bytes that are written one behind the other are written together. -/
theorem overwrite_append {old : Bytes} {offset : Nat} (inside : offset ≤ old.length)
    (first second : Bytes) :
    overwrite (overwrite old offset first) (offset + first.length) second =
      overwrite old offset (first ++ second) := by
  have start : (old.take offset ++ first).length = offset + first.length := by
    rw [List.length_append, List.length_take, Nat.min_eq_left inside]
  have kept : (overwrite old offset first).take (offset + first.length) =
      old.take offset ++ first := by
    rw [overwrite, List.take_append_of_le_length (Nat.le_of_eq start.symm), ← start,
      List.take_length]
  have rest : (overwrite old offset first).drop (offset + first.length + second.length) =
      old.drop (offset + (first ++ second).length) := by
    rw [overwrite, List.drop_append, start, List.drop_eq_nil_of_le (by omega), List.nil_append,
      List.drop_drop, List.length_append]
    congr 1
    omega
  rw [overwrite, kept, rest, overwrite, List.append_assoc (old.take offset)]

theorem length_overwrite {old part : Bytes} {offset : Nat}
    (inside : offset + part.length ≤ old.length) :
    (overwrite old offset part).length = old.length := by
  simp only [overwrite, List.length_append, List.length_take, List.length_drop]
  omega

theorem ByteField.length_slice_of_fits {width skip length : Nat} (field : ByteField width)
    (fits : skip + length ≤ width) : (field.slice skip length).length = length := by
  rw [length_slice]
  omega

section Fill

variable {D : Type} [BlockDevice D]

/-- An action that does not touch the buffer beside its state. -/
def besideBuffer {σ α : Type} (action : EStateM VolumeError σ α) :
    EStateM VolumeError (σ × Bytes) α :=
  focus Prod.fst (fun part whole => (part, whole.2)) action

/-- Puts a part of the data into the buffer. -/
def putPart {σ : Type} (place : Nat) (part : Bytes) : EStateM VolumeError (σ × Bytes) Unit :=
  modify fun whole => (whole.1, overwrite whole.2 place part)

/-- Reads the pieces in order and puts them into the buffer one behind the other, the first of them
at `place`. -/
def fillSpans (layout : SuperBlock) (table : Table) :
    List Span → (place : Nat) → (block : BlockId) → EStateM VolumeError (D × Bytes) Unit
  | [], _, _ => return ()
  | [span], place, block => do
    let content ← besideBuffer (fetchBlock (layout.dataBlock block))
    putPart place (content.slice span.skip span.length)
  | span :: next :: rest, place, block => do
    let content ← besideBuffer (fetchBlock (layout.dataBlock block))
    putPart place (content.slice span.skip span.length)
    let block ← settle (table.following block)
    fillSpans layout table (next :: rest) (place + span.length) block

/-- Fills the buffer with the bytes of a file from `offset` on, as far as the file goes, and returns
how many these are. -/
def fillFile (layout : SuperBlock) (table : Table) (entry : DirEntry) (offset : Nat) :
    EStateM VolumeError (D × Bytes) Nat := do
  let length := (← get).2.length
  if positionLimit ≤ offset + length then throw .invalidArgument
  let stop := min (offset + length) entry.size.toNat
  if stop ≤ offset then return 0
  let block ← settle (table.blockAt entry.first offset)
  fillSpans layout table (spans offset (stop - offset)) 0 block
  return stop - offset

/-- Fills the buffer from an open file, moves its descriptor behind what was read, and returns how
many bytes that is. -/
def Mounted.fill (descriptor : Nat) : EStateM VolumeError (Mounted D × Bytes) Nat := do
  let volume := (← get).1.volume
  let file ← settle (volume.descriptors.get descriptor)
  let entry := volume.directory.get file.slot
  let count ← focus (fun whole => (whole.1.device, whole.2))
    (fun part whole => ({ whole.1 with device := part.1 }, part.2))
    (fillFile volume.layout volume.table entry file.offset)
  besideBuffer (onVolume (Volume.setOffset descriptor file (file.offset + count)))
  return count

variable {layout : SuperBlock} {table : Table}

/-- The pieces that are read are put into the buffer together. -/
theorem fillSpans_yields (pieces : List Span) (block : BlockId) {place : Nat} {buffer : Bytes}
    (fits : ∀ span ∈ pieces, span.skip + span.length ≤ blockSize)
    (room : place + (pieces.map Span.length).sum ≤ buffer.length) (device : D) :
    Yields (readSpans layout table pieces block) device
      (fun data after => data.length = (pieces.map Span.length).sum ∧
        fillSpans layout table pieces place block (device, buffer) =
          .ok () (after, overwrite buffer place data))
      (fun cause after => ∃ left,
        fillSpans layout table pieces place block (device, buffer) =
          .error cause (after, left)) := by
  fun_induction readSpans (D := D) layout table pieces block
    generalizing place buffer device with
  | case1 => exact ⟨rfl, by rw [overwrite_nil]; rfl⟩
  | case2 span block =>
    refine yields_bind.mpr ((yields_self _ device).mono ?_ ?_)
    · intro content after fetched
      have part := ByteField.length_slice_of_fits content (fits span List.mem_cons_self)
      refine ⟨by simpa using part, ?_⟩
      rw [fillSpans, bind_apply, besideBuffer, focus_ok fetched]
      rfl
    · intro cause after failed
      refine ⟨buffer, ?_⟩
      rw [fillSpans, bind_apply, besideBuffer, focus_error failed]
  | case3 span next rest block hypothesis =>
    refine yields_bind.mpr ((yields_self _ device).mono ?_ ?_)
    · intro content fetched read
      have part := ByteField.length_slice_of_fits content (fits span List.mem_cons_self)
      have whole : ((span :: next :: rest).map Span.length).sum =
          span.length + ((next :: rest).map Span.length).sum := rfl
      have first : ∀ others : EStateM VolumeError (D × Bytes) Unit,
          (do
            let content ← besideBuffer (fetchBlock (layout.dataBlock block))
            putPart place (content.slice span.skip span.length)
            others) (device, buffer) =
          others (fetched, overwrite buffer place (content.slice span.skip span.length)) := by
        intro others
        rw [bind_apply, besideBuffer, focus_ok read]
        rfl
      rw [fillSpans, first, yields_bind]
      refine yields_settle (fun following follows => ?_) fun cause broken => ?_
      · rw [follows]
        have room' : place + span.length + ((next :: rest).map Span.length).sum ≤
            (overwrite buffer place (content.slice span.skip span.length)).length := by
          rw [length_overwrite (by omega)]
          omega
        refine yields_bind.mpr ((hypothesis following (fun other member =>
          fits other (List.mem_cons_of_mem _ member)) room' fetched).mono ?_ ?_)
        · intro data after ended
          obtain ⟨length, filled⟩ := ended
          have joined := overwrite_append (show place ≤ buffer.length by omega)
            (content.slice span.skip span.length) data
          rw [part] at joined
          refine ⟨by rw [List.length_append, part, length, whole], filled.trans ?_⟩
          rw [joined]
        · exact fun cause after ended => ended
      · rw [broken]
        exact ⟨_, rfl⟩
    · intro cause after failed
      refine ⟨buffer, ?_⟩
      rw [fillSpans, bind_apply, besideBuffer, focus_error failed]

/-- Filling a buffer from a file is reading as many bytes as it has. -/
theorem fillFile_yields (entry : DirEntry) (offset : Nat) (buffer : Bytes) (device : D) :
    Yields (readFile layout table entry offset buffer.length) device
      (fun data after => fillFile layout table entry offset (device, buffer) =
        .ok data.length (after, overwrite buffer 0 data))
      (fun cause after => ∃ left,
        fillFile layout table entry offset (device, buffer) = .error cause (after, left)) := by
  have start : fillFile layout table entry offset (device, buffer) =
      (do
        if positionLimit ≤ offset + buffer.length then throw .invalidArgument
        let stop := min (offset + buffer.length) entry.size.toNat
        if stop ≤ offset then return 0
        let block ← settle (table.blockAt entry.first offset)
        fillSpans layout table (spans offset (stop - offset)) 0 block
        return stop - offset : EStateM VolumeError (D × Bytes) Nat) (device, buffer) := rfl
  rw [start]
  unfold readFile
  by_cases endless : positionLimit ≤ offset + buffer.length
  · rw [if_pos endless, if_pos endless]
    exact ⟨buffer, rfl⟩
  rw [if_neg endless, if_neg endless]
  dsimp only
  by_cases nothing : min (offset + buffer.length) entry.size.toNat ≤ offset
  · rw [if_pos nothing, if_pos nothing]
    show EStateM.Result.ok 0 (device, buffer) = _
    rw [overwrite_nil]
    rfl
  rw [if_neg nothing, if_neg nothing, yields_bind]
  refine yields_settle (fun block found => ?_) fun cause broken => ?_
  · rw [found]
    have total := length_spans offset
      (min (offset + buffer.length) entry.size.toNat - offset)
    have room : 0 + ((spans offset
        (min (offset + buffer.length) entry.size.toNat - offset)).map Span.length).sum ≤
        buffer.length := by
      rw [total]
      omega
    refine (fillSpans_yields _ block (fun span member => Span.fits member) room device).mono ?_ ?_
    · intro data after ended
      obtain ⟨length, filled⟩ := ended
      rw [length, total]
      show (fillSpans _ _ _ 0 block >>= _) (device, buffer) = _
      rw [bind_apply, filled]
      rfl
    · intro cause after ended
      obtain ⟨left, failed⟩ := ended
      refine ⟨left, ?_⟩
      show (fillSpans _ _ _ 0 block >>= _) (device, buffer) = _
      rw [bind_apply, failed]
  · rw [broken]
    exact ⟨buffer, rfl⟩

/-- Filling a buffer from an open file is a read that puts its data over the start of the buffer. -/
theorem Mounted.fill_yields (descriptor : Nat) (buffer : Bytes) (mounted : Mounted D) :
    Yields (read descriptor buffer.length) mounted
      (fun data after => fill descriptor (mounted, buffer) =
        .ok data.length (after, data ++ buffer.drop data.length))
      (fun cause after => ∃ left,
        fill descriptor (mounted, buffer) = .error cause (after, left)) := by
  unfold read
  rw [yields_bind, yields_get, yields_bind]
  refine yields_settle (fun file used => ?_) fun cause unused => ?_
  · rw [yields_bind, onDevice, yields_focus]
    refine (fillFile_yields _ file.offset buffer mounted.device).mono ?_ ?_
    · intro data device filled
      show fill descriptor (mounted, buffer) = _
      simp only [fill, bind_apply, get_apply, used, settle_apply, focus, filled]
      rw [overwrite, List.take_zero, List.nil_append, Nat.zero_add]
      rfl
    · intro cause device ended
      obtain ⟨left, failed⟩ := ended
      refine ⟨left, ?_⟩
      simp only [fill, bind_apply, get_apply, used, settle_apply, focus, failed]
  · refine ⟨buffer, ?_⟩
    simp only [fill, bind_apply, get_apply, unused, settle_apply]

end Fill

end FlatVolume
