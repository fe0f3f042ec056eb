/-
**What a read does to any image.**

Nothing is assumed of the chain of the file, and the disk may fail any calls. A read that has
something to read goes to the blocks that the walk from the first block comes to, from the block of
the offset to the block of the last byte. It reads each of them once and in order (`readCalls`).

* `ReadsUpTo`: it succeeds, and has the bytes of these blocks;
* `ReadStops`: the walk ends too early or a block cannot be read, and the volume is as before;
* `read_effect`: one of the two happens, after any requests to a volume that was mounted from any
  image. No call is made when the offset is not before the end of the file.
-/

import FlatVolume.Proofs.Calls.Reading
import FlatVolume.Proofs.File.Buffer
import FlatVolume.Proofs.File.Read
import FlatVolume.Proofs.Storage.Saved
import FlatVolume.Proofs.Volume.Transfer

namespace FlatVolume

open BlockDevice

/-! ### Files -/

section File

variable {layout : SuperBlock} {table : Table} {entry : DirEntry} {offset length : Nat}
  {disk : Disk}

/-- The bytes of a range lie in the blocks that the walk comes to. -/
structure HasRange (layout : SuperBlock) (table : Table) (head : BlockId) (disk : Nat → Block)
    (offset stop : Nat) (data : Bytes) : Prop where
  length : data.length = stop - offset
  bytes : ∀ index < stop - offset, ∀ id, table.Reaches head ((offset + index) / blockSize) id →
    data[index]? = (disk (layout.dataBlock id)).bytes[(offset + index) % blockSize]?

/-- The bytes of a path have the range if they reach to its end. -/
theorem hasRange_of_path {head last : BlockId} {blocks : List BlockId} {content : Nat → Block}
    {stop : Nat} (path : table.Path head blocks last) (enough : stop ≤ blocks.length * blockSize) :
    HasRange layout table head content offset stop
      (((blockBytes layout content blocks).drop offset).take (stop - offset)) where
  length := by
    rw [List.length_take, List.length_drop, length_blockBytes]
    omega
  bytes index below id reaches := by
    have inside : (offset + index) / blockSize < blocks.length := by
      rw [Nat.div_lt_iff_lt_mul (by decide)]
      omega
    have found := List.getElem?_eq_getElem inside
    rw [List.getElem?_take_of_lt below, List.getElem?_drop, getElem?_blockBytes, found,
      Option.bind_some, (path.reaches found).unique reaches]

/-- The last byte before `stop` lies in the last of the blocks that these bytes need. -/
theorem div_eq_of_reaches {stop first count : Nat} (some : 0 < stop)
    (reaches : first + (count + 1) = blocksFor stop) : (stop - 1) / blockSize = first + count := by
  simp only [blocksFor, blockSize] at *
  omega

/-- A read of something reads the blocks that the walk comes to, and gives their bytes. It stops
where the chain breaks off or a block cannot be read. -/
theorem readFile_calls (area : ∀ id : BlockId, id.IsLink table.size →
      layout.dataBlock id < disk.numBlocks) (bounded : offset + length < positionLimit)
    {stop : Nat} (ends : stop = min (offset + length) entry.size.toNat) (some : offset < stop)
    {count : Nat} (reaches : offset / blockSize + (count + 1) = blocksFor stop) :
    Yields (readFile layout table entry offset length) disk
      (fun data after =>
        (table.reached entry.first (offset / blockSize) (count + 1)).length = count + 1 ∧
        Disk.Led (Disk.readCalls layout
          (table.reached entry.first (offset / blockSize) (count + 1))) disk after ∧
        HasRange layout table entry.first disk.medium.block offset stop data)
      (fun cause after =>
        Disk.BreaksOff layout (table.reached entry.first (offset / blockSize) (count + 1))
            (count + 1) disk after cause ∨
          Disk.FailsAt layout (table.reached entry.first (offset / blockSize) (count + 1)) disk
            after cause) := by
  have begins : Yields (readFile layout table entry offset length) disk =
      Yields (settle (table.blockAt entry.first offset) >>= fun block =>
        readSpans layout table (spans offset (stop - offset)) block) disk := by
    unfold readFile
    rw [if_neg (Nat.not_le.mpr bounded)]
    dsimp only
    rw [← ends, if_neg (Nat.not_le.mpr some)]
  rw [begins, yields_bind]
  refine yields_settle (fun block found => ?_) fun cause broken => ?_
  · have list : table.reached entry.first (offset / blockSize) (count + 1) =
        table.chainWithin (count + 1) block := by
      have here : table.nth entry.first (offset / blockSize) = .ok block := found
      rw [Table.reached, here]
    have pieces : spans offset (stop - offset) =
        spansFrom offset stop (offset / blockSize) (count + 1) := by
      obtain ⟨other, pieces, again⟩ := spans_eq offset (Nat.sub_pos_of_lt some)
      rw [Nat.add_sub_cancel' (Nat.le_of_lt some)] at pieces again
      obtain rfl : other = count := by omega
      exact pieces
    have total : (spansFrom offset stop (offset / blockSize) (count + 1)).length = count + 1 := by
      rw [spansFrom, List.length_map, List.length_range']
    have calls := Disk.readSpans_calls layout table
      (spansFrom offset stop (offset / blockSize) (count + 1)) block disk
    rw [total, ← list] at calls
    rw [pieces]
    by_cases complete : ∃ id, table.Reaches entry.first (offset / blockSize + count) id
    · -- The walk comes to all blocks of the range, so it is a path to the last of them.
      obtain ⟨last, arrives⟩ := complete
      obtain ⟨before, walked, path⟩ := arrives.exists_path
      have whole : (before ++ [last]).length = blocksFor stop := by
        rw [List.length_append, List.length_singleton, walked]
        omega
      have first : (before ++ [last])[offset / blockSize]? = Option.some block := by
        have below : offset / blockSize < (before ++ [last]).length := by omega
        have visited := List.getElem?_eq_getElem below
        rw [visited, (path.reaches visited).unique (Table.reaches_iff_nth.mpr found)]
      have content := readSpans_yields disk path
        (fun id member => area id (path.isLink_of_mem member)) first
        (by simp only [blockSize]; omega) some reaches (Nat.le_of_eq whole.symm)
      have start : max offset (offset / blockSize * blockSize) = offset := by
        simp only [blockSize]
        omega
      rw [start] at content
      refine (calls.and content).mono ?_ fun _ _ ended => ended.1
      rintro data after ⟨⟨length, led⟩, rfl, _⟩
      refine ⟨length, led, hasRange_of_path path ?_⟩
      rw [whole]
      exact blocksFor_le_iff.mp (Nat.le_refl _)
    · refine calls.mono (fun data after ended => ?_) fun _ _ ended => ended
      exact absurd (Table.length_reached_eq_iff.mp ended.1) complete
  · have list : table.reached entry.first (offset / blockSize) (count + 1) = [] := by
      have here : table.nth entry.first (offset / blockSize) = .error cause := broken
      rw [Table.reached, here]
    rw [list]
    exact .inl ⟨Table.onlyCorrupted_nth _ _ _ _ broken, Nat.succ_pos count, .nil _ disk⟩

end File

/-! ### Open files -/

namespace Mounted

/-- The calls to the disk that an action makes. -/
def callsOf {α : Type} (action : EStateM VolumeError (Mounted Disk) α) (mounted : Mounted Disk) :
    List Call :=
  (stateAfter action mounted).device.log.drop mounted.device.log.length

/-- The range from the file's offset to `stop` was read from the blocks, which are all there. -/
structure ReadsUpTo (mounted : Mounted Disk) (descriptor : Nat) (file : OpenFile) (stop : Nat)
    (blocks : List BlockId) (data : Bytes) (after : Mounted Disk) : Prop where
  reached : ∃ id, mounted.volume.table.Reaches (mounted.volume.directory.get file.slot).first
    ((stop - 1) / blockSize) id
  log : after.device.log =
    mounted.device.log ++ Disk.readCalls mounted.volume.layout blocks
  range : HasRange mounted.volume.layout mounted.volume.table
    (mounted.volume.directory.get file.slot).first mounted.device.medium.block file.offset stop data
  volume : after.volume = { mounted.volume with
    descriptors := mounted.volume.descriptors.set descriptor (some { file with offset := stop }) }

/-- The read ended too early: after all blocks that are there, which are not all that it needs, or
at one that could not be read. -/
structure ReadStops (mounted : Mounted Disk) (file : OpenFile) (stop : Nat) (blocks : List BlockId)
    (cause : VolumeError) (after : Mounted Disk) : Prop where
  volume : after.volume = mounted.volume
  reason :
    cause = .corrupted ∧
        (¬ ∃ id, mounted.volume.table.Reaches (mounted.volume.directory.get file.slot).first
          ((stop - 1) / blockSize) id) ∧
        after.device.log = mounted.device.log ++ Disk.readCalls mounted.volume.layout blocks ∨
      cause = .device .failed ∧ ∃ read id rest, blocks = read ++ id :: rest ∧
        after.device.log = mounted.device.log ++ Disk.readCalls mounted.volume.layout read ++
          [⟨.read, mounted.volume.layout.dataBlock id, true⟩]

section Read

variable {mounted : Mounted Disk} {descriptor length : Nat} {file : OpenFile}

/-- Nothing is read, and no call is made, when the offset is not before the end of the file. -/
theorem read_nothing (used : mounted.volume.descriptors.get descriptor = .ok file)
    (bounded : file.offset + length < positionLimit)
    (nothing : min (file.offset + length) (mounted.volume.directory.get file.slot).size.toNat ≤
      file.offset) : read descriptor length mounted = .ok [] mounted := by
  have none : readFile mounted.volume.layout mounted.volume.table
      (mounted.volume.directory.get file.slot) file.offset length mounted.device =
        .ok [] mounted.device := by
    unfold readFile
    rw [if_neg (Nat.not_le.mpr bounded)]
    dsimp only
    rw [if_pos nothing]
    rfl
  have still := Descriptors.set_of_get_eq_ok used
  simp only [read, bind_apply, get_apply, used, settle_apply, onDevice, focus, none, onVolume,
    Volume.setOffset, modify_apply, List.length_nil, Nat.add_zero, still]
  rfl

/-- A read of something goes to the blocks that the walk comes to, and ends in one of two ways. -/
theorem read_calls (sound : mounted.Sound)
    (used : mounted.volume.descriptors.get descriptor = .ok file)
    (bounded : file.offset + length < positionLimit) {stop : Nat}
    (ends : stop = min (file.offset + length) (mounted.volume.directory.get file.slot).size.toNat)
    (some : file.offset < stop) {count : Nat}
    (reaches : file.offset / blockSize + (count + 1) = blocksFor stop) :
    Yields (read descriptor length) mounted
      (ReadsUpTo mounted descriptor file stop
        (mounted.volume.table.reached (mounted.volume.directory.get file.slot).first
          (file.offset / blockSize) (count + 1)))
      (ReadStops mounted file stop
        (mounted.volume.table.reached (mounted.volume.directory.get file.slot).first
          (file.offset / blockSize) (count + 1))) := by
  have last := div_eq_of_reaches (by omega) reaches
  unfold read
  rw [yields_bind, yields_get, yields_bind, used, yields_settle_ok, yields_bind, onDevice,
    yields_focus]
  refine (readFile_calls (fun id isLink => sound.dataBlock_lt isLink) bounded ends some
    reaches).mono ?_ ?_
  · intro data device ended
    obtain ⟨complete, led, range⟩ := ended
    refine ⟨?_, led.log_eq, range, ?_⟩
    · rw [last]
      exact Table.length_reached_eq_iff.mp complete
    · have position : file.offset + data.length = stop := by
        rw [range.length, Nat.add_sub_cancel' (Nat.le_of_lt some)]
      rw [← position]
  · intro cause device ended
    refine ⟨rfl, ?_⟩
    rcases ended with breaksOff | ⟨read, id, rest, error, list, rfl, led, accounts⟩
    · refine .inl ⟨breaksOff.cause_eq, ?_, breaksOff.led.log_eq⟩
      rw [last, ← Table.length_reached_eq_iff]
      exact Nat.ne_of_lt breaksOff.short
    · -- The disk has all blocks of the data area, so it is its plan that fails the call.
      have member : id ∈ mounted.volume.table.reached
          (mounted.volume.directory.get file.slot).first (file.offset / blockSize) (count + 1) := by
        rw [list]
        exact List.mem_append_right _ List.mem_cons_self
      obtain ⟨index, found⟩ := List.mem_iff_getElem?.mp member
      have inside : mounted.volume.layout.dataBlock id < mounted.device.numBlocks :=
        sound.dataBlock_lt (Table.getElem?_reached.mp found).2.isLink
      rcases accounts.error_eq with rfl | ⟨outside, _⟩
      · refine .inr ⟨rfl, read, id, rest, list, ?_⟩
        rw [led.log_eq, List.append_assoc]
      · exact absurd inside (Nat.not_lt.mpr outside)

/-- The read succeeds exactly if the walk comes to the block of the last byte and no call fails. -/
theorem read_succeeds_iff {stop : Nat} {blocks : List BlockId}
    (yields : Yields (read descriptor length) mounted
      (ReadsUpTo mounted descriptor file stop blocks) (ReadStops mounted file stop blocks)) :
    (∃ data after, read descriptor length mounted = .ok data after) ↔
      (∃ id, mounted.volume.table.Reaches (mounted.volume.directory.get file.slot).first
        ((stop - 1) / blockSize) id) ∧
      ∀ call ∈ callsOf (read descriptor length) mounted, call.failed = false := by
  have fine : ∀ ids : List BlockId, ∀ call ∈ Disk.readCalls mounted.volume.layout ids,
      call.failed = false := by
    intro ids call member
    obtain ⟨id, _, rfl⟩ := List.mem_map.mp member
    rfl
  unfold callsOf stateAfter
  cases ended : read descriptor length mounted with
  | ok data after =>
    have reads := yields.of_ok ended
    simp only [EStateM.Result.ok.injEq, exists_and_left, exists_eq', and_true, true_iff]
    refine ⟨reads.reached, ?_⟩
    rw [reads.log, List.drop_left]
    exact fine blocks
  | error cause after =>
    have stops := yields.of_error ended
    simp only [reduceCtorEq, exists_false, false_iff, not_and]
    intro reached noFailure
    rcases stops.reason with ⟨_, unreached, _⟩ | ⟨_, read, id, rest, _, log⟩
    · exact unreached reached
    · rw [log, List.append_assoc, List.drop_left] at noFailure
      cases noFailure _ (List.mem_append_right _ (List.mem_singleton_self _))

/-- What a read does after any requests to a volume that was mounted from any image, whatever calls
the disk fails. -/
theorem read_effect {device : Disk}
    (accepted : Volume.mount device = .ok mounted.volume mounted.device)
    (requests : List Request) :
    let now := (runAll serve requests mounted).2
    now.volume.descriptors.get descriptor = .ok file →
    file.offset + length < positionLimit →
    let head := (now.volume.directory.get file.slot).first
    let stop := min (file.offset + length) (now.volume.directory.get file.slot).size.toNat
    (stop ≤ file.offset → read descriptor length now = .ok [] now) ∧
    (file.offset < stop → ∃ blocks : List BlockId,
      -- The blocks that the walk comes to, from that of the offset to that of the last byte.
      (∀ index id, blocks[index]? = some id ↔
        file.offset / blockSize + index ≤ (stop - 1) / blockSize ∧
          now.volume.table.Reaches head (file.offset / blockSize + index) id) ∧
      Yields (read descriptor length) now (ReadsUpTo now descriptor file stop blocks)
        (ReadStops now file stop blocks) ∧
      ((∃ data after, read descriptor length now = .ok data after) ↔
        (∃ id, now.volume.table.Reaches head ((stop - 1) / blockSize) id) ∧
        ∀ call ∈ callsOf (read descriptor length) now, call.failed = false)) ∧
    -- A buffer of that length gets the data at its start, and the rest of it stays.
    ∀ buffer : Bytes, buffer.length = length →
      Yields (read descriptor length) now
        (fun data after => fill descriptor (now, buffer) =
          .ok data.length (after, data ++ buffer.drop data.length))
        (fun cause after => ∃ left,
          fill descriptor (now, buffer) = .error cause (after, left)) := by
  intro now used bounded head stop
  have sound : now.Sound := run_sound_of_mount accepted requests
  refine ⟨read_nothing used bounded, fun some => ?_, ?_⟩
  · obtain ⟨count, _, reaches⟩ := spans_eq file.offset (Nat.sub_pos_of_lt some)
    rw [Nat.add_sub_cancel' (Nat.le_of_lt some)] at reaches
    have yields := read_calls sound used bounded rfl some reaches
    refine ⟨_, fun index id => ?_, yields, read_succeeds_iff yields⟩
    rw [Table.getElem?_reached, div_eq_of_reaches (by omega) reaches]
    refine and_congr_left' ?_
    omega
  · rintro buffer rfl
    exact fill_yields descriptor buffer now

end Read

/-! ### A chain that leads back to itself -/

/-- A file of two blocks whose only block is followed by itself, on a disk of six blocks. -/
def looped : Volume where
  layout := .forDataBlocks 3
  table := ⟨#[.endOfChain, ⟨1⟩, .unused]⟩
  directory := Directory.empty.set ⟨0, slotCount_pos⟩
    ⟨.ofBytes nameWidth (utf8Bytes "a"), 8192, ⟨1⟩⟩
  descriptors := .empty

theorem looped_sound : looped.Sound 6 :=
  Volume.sound_of_unopened (by decide) ⟨rfl, by decide⟩ (by decide +kernel) rfl

/-- The file is read to its end, its only block twice. -/
theorem read_effect_looped :
    Volume.mount (looped.saved 6) = .ok (looped.opened 6).volume (looped.opened 6).device ∧
      let now := (runAll serve [.openFile "a"] (looped.opened 6)).2
      now.volume.descriptors.get 0 = .ok ⟨⟨0, by decide⟩, 0⟩ ∧
      ((∃ data after, read 0 8192 now = .ok data after) ↔
        ∀ call ∈ callsOf (read 0 8192) now, call.failed = false) := by
  have accepted := Volume.mount_saved looped_sound
  let now := (runAll serve [.openFile "a"] (looped.opened 6)).2
  have used : now.volume.descriptors.get 0 = .ok ⟨⟨0, by decide⟩, 0⟩ := by decide +kernel
  have entry : now.volume.directory.get ⟨0, by decide⟩ = looped.directory.get ⟨0, by decide⟩ := by
    decide +kernel
  have table : now.volume.table = looped.table := by decide +kernel
  obtain ⟨_, effect, _⟩ := read_effect accepted [.openFile "a"] used
    (show 0 + 8192 < positionLimit by decide)
  rw [entry, table] at effect
  obtain ⟨blocks, _, _, succeeds⟩ := effect (by decide +kernel)
  have isLink : BlockId.IsLink ⟨1⟩ looped.table.size := by decide
  refine ⟨accepted, used, succeeds.trans (and_iff_right ⟨⟨1⟩, ?_⟩)⟩
  have stop : (min (0 + 8192) (looped.directory.get ⟨0, by decide⟩).size.toNat - 1) / blockSize =
      1 := by decide +kernel
  have head : (looped.directory.get ⟨0, by decide⟩).first = ⟨1⟩ := by decide +kernel
  rw [stop, head]
  exact .next (.start isLink) isLink

end Mounted

end FlatVolume
