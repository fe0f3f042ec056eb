/-
**The calls for the content of files.**

Reading and writing a file makes calls on blocks of the data area other than its block `0`
(`InData`), whatever the table says: the number of a block is turned into a block of the disk only
after it was found to be a link.

The table, the directory and the descriptors are kept in memory, so what is done to them makes no
call, and no error of theirs is an error of the disk.
-/

import FlatVolume.File.Read
import FlatVolume.File.Write
import FlatVolume.Proofs.Calls.Basic
import FlatVolume.Proofs.Chain.Sound
import FlatVolume.Proofs.Chain.Walk

namespace FlatVolume

/-- The block can belong to a file. -/
def SuperBlock.InData (layout : SuperBlock) (block : Nat) : Prop :=
  layout.dataStart.toNat + 1 ≤ block ∧ block < layout.totalBlocks.toNat

/-- A link names a block that can belong to a file. -/
theorem SuperBlock.Valid.inData_dataBlock {layout : SuperBlock} {deviceBlocks : Nat}
    (valid : layout.Valid deviceBlocks) {id : BlockId}
    (isLink : id.IsLink layout.dataBlocks.toNat) :
    layout.InData (layout.dataBlock id) := by
  obtain ⟨used, _, inside⟩ := isLink
  have positive : id.toNat ≠ 0 := fun zero => used (BlockId.toNat_inj.mp zero)
  have whole := valid.whole
  simp only [InData, dataBlock]
  omega

/-- An outcome that can only be a corrupted chain blames no disk. -/
theorem Table.OnlyCorrupted.blameless {α : Type} {outcome : Except VolumeError α}
    (only : OnlyCorrupted outcome) : Disk.Blameless outcome :=
  fun _ failed => by cases only _ failed

namespace Disk

/-- Reading a file reads blocks of files. -/
def ReadCall (layout : SuperBlock) (call : Call) : Prop :=
  call.kind = .read ∧ layout.InData call.block

/-- Writing a file reads and writes blocks of files. -/
def WriteCall (layout : SuperBlock) (call : Call) : Prop :=
  (call.kind = .read ∨ call.kind = .write) ∧ layout.InData call.block

/-! ### Tables -/

section Table

variable {disk : Disk} {allowed : Call → Prop} {table : Table}

theorem calling_alloc : Calling (beside disk) allowed Table.alloc table := by
  unfold Calling Yields Table.alloc
  dsimp only
  cases table.firstUnused? with
  | none => exact ⟨.refl allowed disk, explains_of_ne nofun⟩
  | some index => exact .refl allowed disk

theorem calling_extend (tail : BlockId) :
    Calling (beside disk) allowed (Table.extend tail) table := by
  refine Calling.get_bind ?_
  refine Calling.settle_bind (Table.onlyCorrupted_link _ _).blameless fun block _ => ?_
  refine calling_alloc.bind fun id after _ => ?_
  exact (calling_modify rfl).bind fun _ _ _ => calling_pure id

theorem Calling.ifSpace {α : Type} {action : EStateM VolumeError Table α}
    (calling : Calling (beside disk) allowed action table) :
    Calling (beside disk) allowed (Table.ifSpace action) table := by
  unfold Calling Yields Table.ifSpace at *
  cases ended : action table with
  | ok result after => exact .refl allowed disk
  | error cause after =>
    rw [ended] at calling
    cases cause <;> first | exact calling | exact .refl allowed disk

theorem calling_attach (wanted : Nat) (tail : BlockId) (length : Nat) :
    Calling (beside disk) allowed (Table.attach wanted tail length) table := by
  induction wanted generalizing table tail length with
  | zero => exact calling_pure length
  | succ wanted hypothesis =>
    refine (calling_extend tail).ifSpace.bind fun found after _ => ?_
    cases found with
    | none => exact calling_pure length
    | some block => exact hypothesis block (length + 1)

theorem calling_grow (extent : Table.Extent) (wanted : Nat) :
    Calling (beside disk) allowed (Table.grow extent wanted) table := by
  unfold Table.grow
  split
  · exact calling_pure extent
  split
  · refine calling_alloc.ifSpace.bind fun found after _ => ?_
    cases found with
    | none => exact calling_pure _
    | some head => exact (calling_attach _ head 1).replied
  · refine Calling.get_bind ?_
    refine Calling.settle_bind (Table.onlyCorrupted_last _ _).blameless fun tail _ => ?_
    exact (calling_attach _ tail extent.length).replied

theorem calling_releaseWithin (budget : Nat) (id : BlockId) :
    Calling (beside disk) allowed (Table.releaseWithin budget id) table := by
  induction budget generalizing table id with
  | zero => exact calling_throw (explains_of_ne nofun)
  | succ budget hypothesis =>
    have exchanged : Calling (beside disk) allowed (Table.exchange id .unused) table :=
      .refl allowed disk
    refine exchanged.bind fun value after _ => ?_
    split
    · exact calling_pure ()
    · refine Calling.get_bind ?_
      exact Calling.settle_bind (Table.onlyCorrupted_link _ _).blameless fun block _ =>
        hypothesis block

theorem calling_release (head : BlockId) :
    Calling (beside disk) allowed (Table.release head) table := by
  unfold Table.release
  split
  · exact calling_pure ()
  · refine Calling.get_bind ?_
    refine Calling.settle_bind (Table.onlyCorrupted_link _ _).blameless fun block _ => ?_
    exact Calling.get_bind (calling_releaseWithin _ block)

theorem calling_truncate (head : BlockId) (kept : Nat) :
    Calling (beside disk) allowed (Table.truncate head kept) table := by
  unfold Table.truncate
  split
  · exact (calling_release head).bind fun _ _ _ => calling_pure _
  · refine Calling.get_bind ?_
    refine Calling.settle_bind (Table.onlyCorrupted_nth _ _ _).blameless fun tail _ => ?_
    have exchanged : Calling (beside disk) allowed (Table.exchange tail .endOfChain)
        table := .refl allowed disk
    refine exchanged.bind fun rest cut _ => ?_
    exact (calling_release rest).bind fun _ _ _ => calling_pure head

end Table

/-! ### Reading -/

section File

variable {layout : SuperBlock} {deviceBlocks : Nat} {table : Table}

theorem calling_readSpans (valid : layout.Valid deviceBlocks)
    (size : table.size = layout.dataBlocks.toNat) (pieces : List Span) {block : BlockId}
    (isLink : block.IsLink table.size) (disk : Disk) :
    Calling id (ReadCall layout) (readSpans layout table pieces block) disk := by
  have permitted : ∀ {id : BlockId}, id.IsLink table.size → ∀ failed,
      ReadCall layout ⟨.read, layout.dataBlock id, failed⟩ :=
    fun isLink _ => ⟨rfl, valid.inData_dataBlock (size ▸ isLink)⟩
  fun_induction readSpans (D := Disk) layout table pieces block generalizing disk with
  | case1 => exact calling_pure []
  | case2 block span =>
    exact (calling_fetchBlock (permitted isLink) disk).bind fun _ _ _ => calling_pure _
  | case3 block span next rest hypothesis =>
    refine (calling_fetchBlock (permitted isLink) disk).bind fun content fetched _ => ?_
    refine Calling.settle_bind (Table.onlyCorrupted_following _ _).blameless ?_
    intro following follows
    obtain ⟨_, _, nextLink⟩ := Table.next?_eq_some_iff.mp (Table.following_eq_ok_iff.mp follows)
    exact (hypothesis following nextLink fetched).bind fun _ _ _ => calling_pure _

/-- Reading a file makes no other calls, whatever its chain is like. -/
theorem calling_readFile (valid : layout.Valid deviceBlocks)
    (size : table.size = layout.dataBlocks.toNat) (entry : DirEntry) (offset length : Nat)
    (disk : Disk) :
    Calling id (ReadCall layout) (readFile layout table entry offset length) disk := by
  unfold readFile
  split
  · exact calling_throw (explains_of_ne nofun)
  dsimp only
  split
  · exact calling_pure []
  · refine Calling.settle_bind (Table.onlyCorrupted_nth _ _ _).blameless fun block found => ?_
    exact calling_readSpans valid size _ (Table.isLink_of_nth found) disk

/-! ### Writing -/

theorem calling_writeSpan (valid : layout.Valid deviceBlocks) (fresh : Nat) (span : Span)
    (part : Bytes) {block : BlockId} (isLink : block.IsLink layout.dataBlocks.toNat)
    (disk : Disk) :
    Calling id (WriteCall layout) (writeSpan layout fresh span part block) disk := by
  have inData := valid.inData_dataBlock isLink
  have stored : ∀ value middle,
      Calling id (WriteCall layout) (storeBlock (layout.dataBlock block) value) middle :=
    fun value middle => calling_storeBlock (fun _ => ⟨.inr rfl, inData⟩) value middle
  unfold writeSpan
  dsimp only
  split
  · exact (calling_pure _).bind fun _ after _ => stored _ after
  · refine (calling_fetchBlock (fun _ => ⟨.inl rfl, inData⟩) disk).bind fun old fetched _ => ?_
    exact stored _ fetched

theorem calling_writeSpans (valid : layout.Valid deviceBlocks)
    (size : table.size = layout.dataBlocks.toNat) (fresh : Nat) (pieces : List Span) (data : Bytes)
    {block : BlockId} (isLink : block.IsLink table.size) (disk : Disk) :
    Calling id (WriteCall layout) (writeSpans layout table fresh pieces data block) disk := by
  fun_induction writeSpans (D := Disk) layout table fresh pieces data block generalizing disk with
  | case1 => exact calling_pure ()
  | case2 span data block => exact calling_writeSpan valid fresh span _ (size ▸ isLink) disk
  | case3 span next rest data block hypothesis =>
    refine (calling_writeSpan valid fresh span _ (size ▸ isLink) disk).bind fun _ stored _ => ?_
    refine Calling.settle_bind (Table.onlyCorrupted_following _ _).blameless ?_
    intro following follows
    obtain ⟨_, _, nextLink⟩ := Table.next?_eq_some_iff.mp (Table.following_eq_ok_iff.mp follows)
    exact hypothesis following nextLink stored

theorem calling_writeChain (valid : layout.Valid deviceBlocks)
    (size : table.size = layout.dataBlocks.toNat) (first : BlockId) (fresh offset : Nat)
    (data : Bytes) (disk : Disk) :
    Calling id (WriteCall layout) (writeChain layout table first fresh offset data) disk := by
  refine Calling.settle_bind (Table.onlyCorrupted_nth _ _ _).blameless fun block found => ?_
  exact calling_writeSpans valid size fresh _ data (Table.isLink_of_nth found) disk

/-- Writing a file makes no other calls, whatever its chain is like. When it takes back the blocks
that it had attached, it makes none. -/
theorem calling_writeFile (valid : layout.Valid deviceBlocks) (offset : Nat) (data : Bytes)
    {store : FileStore Disk} (small : layout.dataBlocks.toNat ≤ 65535)
    (table : store.table.Sound layout.dataBlocks.toNat)
    (head : store.entry.first.IsHead layout.dataBlocks.toNat) :
    Calling FileStore.device (WriteCall layout) (writeFile layout offset data) store := by
  unfold writeFile
  split
  · exact calling_pure 0
  split
  · exact calling_throw (explains_of_ne nofun)
  refine Calling.get_bind (Calling.bind (Calling.focus rfl (calling_grow _ _)) ?_)
  intro extent grown ended
  have sound : grown.table.Sound layout.dataBlocks.toNat := by
    have grows : ∀ chain : Table.Extent, chain.head.IsHead layout.dataBlocks.toNat → ∀ wanted,
        Leaves (FileStore.onTable (Table.grow chain wanted)) store fun after =>
          after.table.Sound layout.dataBlocks.toNat := fun chain isHead wanted =>
      yields_focus.mpr ((Table.grow_sound table small isHead wanted).leaves
        (fun _ _ grown => grown.1) fun _ _ still => still)
    exact (grows ⟨store.entry.first, _⟩ head _).of_ok ended
  refine Calling.bind (calling_modify rfl) fun _ started ended => ?_
  obtain ⟨_, rfl⟩ := EStateM.Result.ok.inj ended
  dsimp only
  split
  · exact calling_pure 0
  refine Calling.bind (Calling.tryCatch ?_ fun cause failed explains => ?_) fun _ written _ => ?_
  · exact Calling.get_bind (Calling.focus rfl (calling_writeChain valid sound.size_eq _ _ _ _ _))
  · refine Calling.bind (Calling.focus rfl (calling_truncate _ _)) fun newHead cut ended => ?_
    have kept : cut.device = failed.device := by
      have leaves : Leaves (FileStore.onTable (Table.truncate extent.head
          (blocksFor store.entry.size.toNat))) failed fun after => after.device = failed.device :=
        yields_focus.mpr (leaves_of_forall fun _ => rfl)
      exact leaves.of_ok ended
    refine Calling.bind (calling_modify rfl) fun _ after ended => ?_
    obtain ⟨_, rfl⟩ := EStateM.Result.ok.inj ended
    refine calling_throw ?_
    show Explains (WriteCall layout) cut.device cause
    rwa [kept]
  · exact Calling.bind (calling_modify rfl) fun _ _ _ => calling_pure _

end File

end Disk

end FlatVolume
