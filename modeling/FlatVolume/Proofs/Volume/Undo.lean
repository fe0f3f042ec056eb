/-
**When a write that fails undoes its growth.**

A write grows the chain from the end that it finds, and when it fails it cuts the chain back to the
blocks that the size of the file needs. On a chain that does not fit its size the two places differ.

* `writeFile_fails`: what a failed write leaves is decided by growing and cutting alone;
* `Undone` lists why a failed write leaves the table and the entry as they were;
* `Mounted.failed_write_undone_iff`: these are the only reasons, on any image and after any
  requests;
* `Mounted.failed_write_keeps_block`: a write that fails with the device leaves a block attached.
-/

import FlatVolume.Proofs.Chain.Cutting
import FlatVolume.Proofs.Storage.Saved
import FlatVolume.Proofs.Volume.Serve

namespace FlatVolume

/-! ### What is left of the table and of the entry -/

section File

variable {D : Type} [BlockDevice D]

/-- A write that fails leaves what growing and cutting the chain leave. Of the entry only the first
block can be another. -/
theorem writeFile_fails {layout : SuperBlock} {offset : Nat} {data : Bytes} {store : FileStore D}
    {left : Table → BlockId → Prop}
    (refused : maxFileSize < offset + data.length → left store.table store.entry.first)
    (grown : data ≠ [] → offset + data.length ≤ maxFileSize →
      Yields (Table.grow ⟨store.entry.first, blocksFor store.entry.size.toNat⟩
          (blocksFor (offset + data.length))) store.table
        (fun chain after => offset < chain.length * blockSize →
          Yields (Table.truncate chain.head (blocksFor store.entry.size.toNat)) after
            (fun head cut => left cut head) (fun _ cut => left cut chain.head))
        (fun _ after => left after store.entry.first)) :
    Yields (writeFile layout offset data) store (fun _ _ => True)
      (fun _ after => left after.table after.entry.first ∧
        after.entry = store.entry.setFirst after.entry.first) := by
  unfold writeFile
  split
  · trivial
  rename_i some
  split
  · rename_i long
    exact ⟨refused long, rfl⟩
  rename_i fits
  rw [yields_bind, yields_get, yields_bind, FileStore.onTable, yields_focus]
  refine (grown some (Nat.le_of_not_lt fits)).mono (fun chain table cut => ?_)
    fun _ table same => ⟨same, rfl⟩
  rw [yields_bind, FileStore.setFirst, yields_modify]
  dsimp only
  split
  · trivial
  rename_i more
  rw [yields_bind, yields_tryCatch, yields_bind, yields_get, FileStore.onDevice, yields_focus]
  have either : Leaves (writeChain layout table chain.head (blocksFor store.entry.size.toNat) offset
      (data.take (min (offset + data.length) (chain.length * blockSize) - offset))) store.device
      fun _ => True := leaves_of_forall fun _ => trivial
  refine either.mono (fun _ device _ => ?_) fun cause device _ => ?_
  · rw [yields_bind, FileStore.resize, yields_modify, yields_pure]
    trivial
  · rw [yields_bind, FileStore.onTable, yields_focus]
    refine (cut (by omega)).mono (fun head table here => ?_) fun _ table here => ⟨here, rfl⟩
    rw [yields_bind, FileStore.setFirst, yields_modify, yields_throw]
    exact ⟨here, rfl⟩

/-- Why a write that has to reach `stop` leaves the table and the entry as they were if it fails. -/
inductive Undone (table : Table) (entry : DirEntry) (stop : Nat) : Prop
  /-- No file can be so long, and the write is refused at once. -/
  | tooLong (long : maxFileSize < stop)
  /-- The chain would have to grow, and it has no end. -/
  | endless (more : blocksFor entry.size.toNat < blocksFor stop) (some : entry.first ≠ .endOfChain)
      (none : ∀ last, table.last entry.first ≠ .ok last)
  /-- The chain fits the size, so that it is cut where it was grown. -/
  | fits {blocks : List BlockId} (fits : table.Fits entry.first entry.size.toNat blocks)
  /-- Nothing is attached, and the chain is too short to be cut. -/
  | short (nothing : blocksFor stop ≤ blocksFor entry.size.toNat ∨ table.unusedBlocks = [])
      (short : ∀ block, table.nth entry.first (blocksFor entry.size.toNat - 1) ≠ .ok block)

section Undone

variable {table : Table} {entry : DirEntry} {stop : Nat}

/-- Without growth everything depends on the place where the chain is cut. -/
theorem undone_iff_uncut (possible : stop ≤ maxFileSize)
    (enough : blocksFor stop ≤ blocksFor entry.size.toNat) :
    Undone table entry stop ↔ table.Uncut entry.first (blocksFor entry.size.toNat) := by
  constructor
  · intro undone
    cases undone with
    | tooLong long => omega
    | endless more => omega
    | fits fits => exact .inl ⟨_, fits.chain, fits.length_eq⟩
    | short _ short => exact .inr short
  · rintro (⟨blocks, chain, length⟩ | short)
    · exact .fits ⟨chain, length⟩
    · exact .short (.inl enough) short

/-- When the chain was grown, everything depends on its old length. -/
theorem undone_iff_of_grown {blocks added : List BlockId} (possible : stop ≤ maxFileSize)
    (more : blocksFor entry.size.toNat < blocksFor stop) (chain : table.IsChain entry.first blocks)
    (attached : added = table.unusedBlocks.take
      (blocksFor stop - Table.counted entry.first (blocksFor entry.size.toNat)))
    (some : 0 < Table.counted entry.first (blocksFor entry.size.toNat) + added.length) :
    Undone table entry stop ↔ blocks.length = blocksFor entry.size.toNat ∨
      added = [] ∧ blocks.length < blocksFor entry.size.toNat := by
  have counted : Table.counted entry.first (blocksFor entry.size.toNat) ≤
      blocksFor entry.size.toNat := by
    unfold Table.counted
    split <;> omega
  have nothing : added = [] ↔ table.unusedBlocks = [] := by
    rw [attached, List.take_eq_nil_iff]
    exact or_iff_right (by omega)
  constructor
  · intro undone
    cases undone with
    | tooLong long => omega
    | endless _ notEnd none =>
      rcases List.eq_nil_or_concat blocks with rfl | ⟨before, last, rfl⟩
      · exact absurd chain.head_of_nil notEnd
      · rw [List.concat_eq_append] at chain
        exact absurd chain.last_eq (none last)
    | fits fits =>
      rw [chain.unique fits.chain]
      exact .inl fits.length_eq
    | short unused short =>
      have none := nothing.mpr (unused.resolve_left (by omega))
      have outside := mt chain.exists_nth_iff.mpr fun ⟨block, found⟩ => short block found
      subst none
      rw [List.length_nil] at some
      exact .inr ⟨rfl, by omega⟩
  · rintro (fits | ⟨none, short⟩)
    · exact .fits ⟨chain, fits⟩
    · refine .short (.inr (nothing.mp none)) fun block found => ?_
      have inside := chain.exists_nth_iff.mp ⟨block, found⟩
      omega

end Undone

/-- A write that fails leaves the table and the entry as they were for the listed reasons only. -/
theorem writeFile_undone_iff (layout : SuperBlock) (offset : Nat) (data : Bytes)
    (store : FileStore D) (small : store.table.size ≤ 65535) :
    Yields (writeFile layout offset data) store (fun _ _ => True)
      (fun _ after => ((after.table = store.table ∧ after.entry.first = store.entry.first) ↔
          Undone store.table store.entry (offset + data.length)) ∧
        after.entry = store.entry.setFirst after.entry.first) := by
  let left (table : Table) (first : BlockId) : Prop :=
    (table = store.table ∧ first = store.entry.first) ↔
      Undone store.table store.entry (offset + data.length)
  have refused : maxFileSize < offset + data.length → left store.table store.entry.first :=
    fun long => iff_of_true ⟨rfl, rfl⟩ (.tooLong long)
  refine writeFile_fails refused fun some possible => ?_
  by_cases more : blocksFor store.entry.size.toNat < blocksFor (offset + data.length)
  · refine (Table.grow_yields small more).mono ?_ ?_
    · rintro extent after ⟨blocks, added, chain, grown, attached, length⟩ room
      have positive : 0 < extent.length := Nat.pos_of_ne_zero fun none => by
        rw [none] at room
        omega
      have decided := undone_iff_of_grown possible more chain attached (by omega)
      refine (grown.truncate_undoes_iff small chain _).mono ?_ ?_
      · exact fun _ _ same => same.trans decided.symm
      · exact fun _ _ same => same.trans decided.symm
    · rintro _ _ ⟨rfl, notEnd, none⟩
      exact iff_of_true ⟨rfl, rfl⟩ (.endless more notEnd none)
  · have enough := Nat.le_of_not_lt more
    have length : data.length ≠ 0 := by simpa using some
    have kept : blocksFor store.entry.size.toNat ≠ 0 := by
      have positive : blocksFor (offset + data.length) ≠ 0 := by
        rw [ne_eq, blocksFor_eq_zero_iff]
        omega
      omega
    have decided : Undone store.table _ _ ↔ _ := undone_iff_uncut possible enough
    rw [Table.grow, if_pos enough, yields_pure]
    refine fun _ => (Table.truncate_eq_self_iff small kept).mono ?_ ?_
    · rintro head after ⟨rfl, same⟩
      exact (and_iff_left rfl).trans (same.trans decided.symm)
    · exact fun _ after same => (and_iff_left rfl).trans (same.trans decided.symm)

end File

/-! ### What is left of the volume -/

namespace Mounted

/-- The volume with another table and another first block of the file in a slot. -/
def withChain (volume : Volume) (slot : Slot) (table : Table) (first : BlockId) : Volume :=
  { volume with
    table
    directory := volume.directory.set slot ((volume.directory.get slot).setFirst first) }

section Write

variable {D : Type} [BlockDevice D]

/-- A failed write changes at most the table and the first block of its file, and these stay for the
listed reasons only. -/
theorem write_undone_iff {mounted : Mounted D} (small : mounted.volume.table.size ≤ 65535)
    (descriptor : Nat) (data : Bytes) :
    Yields (serve (.write descriptor data)) mounted (fun _ _ => True)
      (fun _ after =>
        (after.volume = mounted.volume ↔
          ∀ file, mounted.volume.descriptors.get descriptor = .ok file →
            Undone mounted.volume.table (mounted.volume.directory.get file.slot)
              (file.offset + data.length)) ∧
        ∀ file, mounted.volume.descriptors.get descriptor = .ok file →
          ∃ table first, after.volume = withChain mounted.volume file.slot table first) := by
  refine yields_bind.mpr ?_
  unfold write
  rw [yields_bind, yields_get, yields_bind]
  refine yields_settle (fun file used => ?_) fun cause unused => ?_
  · have only : ∀ {holds : OpenFile → Prop},
        (∀ other, mounted.volume.descriptors.get descriptor = .ok other → holds other) ↔
          holds file := by
      intro holds
      refine ⟨fun every => every file used, fun here other found => ?_⟩
      rwa [← Except.ok.inj (used.symm.trans found)]
    rw [yields_bind, yields_focus]
    refine (writeFile_undone_iff _ file.offset data (fileStore file.slot mounted) small).mono
      (fun count store _ => trivial) fun cause store ended => ?_
    obtain ⟨undone, entry⟩ := ended
    rw [only, only]
    refine ⟨?_, store.table, store.entry.first, ?_⟩
    · refine Iff.trans ⟨fun same => ?_, fun same => ?_⟩ undone
      · have first := congrArg (fun volume => (volume.directory.get file.slot).first) same
        rw [putFileStore] at first
        dsimp only at first
        rw [Directory.get_set_self] at first
        exact ⟨congrArg Volume.table same, first⟩
      · obtain ⟨table, first⟩ := same
        rw [first] at entry
        rw [putFileStore, table, entry]
        exact congrArg (fun directory => { mounted.volume with directory })
          (Directory.set_get_self _ _)
    · rw [putFileStore, entry]
      rfl
  · refine ⟨iff_of_true rfl fun file found => ?_, fun file found => ?_⟩ <;>
    · cases unused.symm.trans found

end Write

variable {D : Type} [BlockDevice D] [StoringDevice D]

/-- On any image, after any requests and whatever calls the device fails: a write that fails changes
at most the table and the first block of its file, and it leaves these as they were exactly for the
reasons that `Undone` lists. -/
theorem failed_write_undone_iff {device : D} {mounted : Mounted D}
    (accepted : Volume.mount device = .ok mounted.volume mounted.device)
    (requests : List Request) (descriptor : Nat) (data : Bytes) :
    let now := (runAll serve requests mounted).2
    Yields (serve (.write descriptor data)) now (fun _ _ => True)
      (fun _ after =>
        (after.volume = now.volume ↔
          ∀ file, now.volume.descriptors.get descriptor = .ok file →
            Undone now.volume.table (now.volume.directory.get file.slot)
              (file.offset + data.length)) ∧
        ∀ file, now.volume.descriptors.get descriptor = .ok file →
          ∃ table first, after.volume = withChain now.volume file.slot table first) :=
  write_undone_iff (run_sound_of_mount accepted requests).volume.size_le descriptor data

/-! ### A block that stays -/

/-- A file of two blocks whose chain has one, on a disk of six blocks. -/
def scant : Volume where
  layout := .forDataBlocks 3
  table := ⟨#[.endOfChain, .endOfChain, .unused]⟩
  directory := Directory.empty.set ⟨0, slotCount_pos⟩
    ⟨.ofBytes nameWidth (utf8Bytes "a"), 8192, ⟨1⟩⟩
  descriptors := .empty

theorem scant_sound : scant.Sound 6 :=
  Volume.sound_of_unopened (by decide) ⟨rfl, by decide⟩ (by decide +kernel) rfl

/-- The disk of that volume, of which the last block cannot be read. -/
def spoiled : Disk := (scant.saved 6).setFaults .read (.onBlocks [5])

/-- The volume that is mounted from that disk. -/
def spoiledMounted : Mounted Disk := ⟨scant.reopened, stateAfter Volume.mount spoiled⟩

/-- Mounting does not read the last block, and does not mend it. -/
theorem mount_spoiled :
    Volume.mount spoiled = .ok spoiledMounted.volume spoiledMounted.device ∧
      Reads (MountBlock spoiled) spoiled spoiledMounted.device := by
  obtain ⟨holds, size, _⟩ := Volume.saved_holds scant_sound
  have size : spoiled.numBlocks = 6 := size
  have layout : SuperBlock.decode (spoiled.medium.block superBlockIndex) = .ok scant.layout :=
    holds.superBlock
  have harmless : ∀ call, Disk.MountCall spoiled call → ¬ spoiled.Fails call := by
    rintro call ⟨isRead, place⟩ fails
    have early : call.block = 0 ∨ call.block = 1 ∨ call.block = 2 := by
      rcases place with first | ⟨other, decoded, _, inAreas⟩
      · exact .inl first
      · obtain rfl := Except.ok.inj (layout.symm.trans decoded)
        rcases inAreas with inTable | isRoot
        · exact .inr (.inl (List.mem_singleton.mp inTable))
        · exact .inr (.inr isRoot)
    rcases fails with ⟨_, outside⟩ | ⟨count, unreadable⟩
    · rw [size] at outside
      omega
    · rw [isRead] at unreadable
      have last : call.block ∈ [5] := List.contains_iff_mem.mp unreadable
      rw [List.mem_singleton] at last
      omega
  have sound : scant.Sound spoiled.numBlocks := by
    rw [size]
    exact scant_sound
  dsimp only [spoiledMounted]
  exact Volume.mount_of_harmless sound holds harmless

/-- A mounted disk that was only read is known but for the number of reads and the log. -/
theorem eq_of_reads {mounted : Mounted Disk} {disk : Disk} {allowed : Nat → Prop}
    (reads : Reads allowed disk mounted.device) :
    mounted = ⟨mounted.volume,
      disk.afterReads mounted.device.faults.read.calls mounted.device.log⟩ :=
  congrArg (Mounted.mk mounted.volume) (Disk.eq_of_reads reads)

/-- The file is open before its last byte, and two bytes are written there. The first of them is for
a block that has just been attached, and that the file had before if its size is believed. -/
theorem write_spoiled :
    let now := (runAll serve [.openFile "a", .seek 0 8191] spoiledMounted).2
    resultOf (serve (.write 0 [7, 8])) now = .error (.device .failed) ∧
      now.volume.table.entries = #[.endOfChain, .endOfChain, .unused] ∧
      (stateAfter (serve (.write 0 [7, 8])) now).volume.table.entries =
        #[.endOfChain, ⟨2⟩, .endOfChain] := by
  -- Mounting need not be carried out to know the disk that it leaves.
  rw [eq_of_reads mount_spoiled.2]
  decide +kernel

theorem failed_write_undone_iff_spoiled :
    ∃ (device : Disk) (mounted after : Mounted Disk),
      Volume.mount device = .ok mounted.volume mounted.device ∧
      let now := (runAll serve [.openFile "a", .seek 0 8191] mounted).2
      serve (.write 0 [7, 8]) now = .error (.device .failed) after ∧
      (after.volume = now.volume ↔
        ∀ file, now.volume.descriptors.get 0 = .ok file →
          Undone now.volume.table (now.volume.directory.get file.slot) (file.offset + 2)) := by
  obtain ⟨accepted, _⟩ := mount_spoiled
  have failed := eq_error_of_resultOf write_spoiled.1
  have undone := failed_write_undone_iff accepted [.openFile "a", .seek 0 8191] 0 [7, 8]
  exact ⟨spoiled, spoiledMounted, _, accepted, failed, (undone.of_error failed).1⟩

/-- The device fails, the chain is cut to two blocks, and a block that was attached to the only one
stays. -/
theorem failed_write_keeps_block :
    ∃ (device : Disk) (mounted after : Mounted Disk),
      Volume.mount device = .ok mounted.volume mounted.device ∧
      let now := (runAll serve [.openFile "a", .seek 0 8191] mounted).2
      serve (.write 0 [7, 8]) now = .error (.device .failed) after ∧
      now.volume.table.entries = #[.endOfChain, .endOfChain, .unused] ∧
      after.volume.table.entries = #[.endOfChain, ⟨2⟩, .endOfChain] := by
  obtain ⟨accepted, _⟩ := mount_spoiled
  obtain ⟨failed, before, after⟩ := write_spoiled
  exact ⟨spoiled, spoiledMounted, _, accepted, eq_error_of_resultOf failed, before, after⟩

end Mounted

end FlatVolume
