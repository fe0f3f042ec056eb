/-
**What reading and writing a file leave alone.**

Nothing is assumed of the file's chain here, which may be broken in any way, nor of the device,
which may fail at any call.

* `readFile_frame`: a read changes no block and returns no byte from behind the end of the file;
* `writeFile_frame`: a write, successful or not, changes no block before the data area, keeps the
  table sound and the name of the file, and never makes the file shorter.
-/

import Mathlib.Algebra.GroupWithZero.Nat
import FlatVolume.File.Read
import FlatVolume.File.Write
import FlatVolume.Proofs.Chain.Sound
import FlatVolume.Proofs.Device
import FlatVolume.Directory.Storage

namespace FlatVolume

open BlockDevice

/-! ### Pieces -/

/-- The pieces in the blocks up to `count` after the first reach to the end of the last of them. -/
theorem sum_cut (offset stop count : Nat) :
    ((List.range' (offset / blockSize) count).map
      fun index => (Span.cut offset stop index).length).sum =
      min stop ((offset / blockSize + count) * blockSize) - offset := by
  induction count with
  | zero =>
    simp only [List.range'_zero, List.map_nil, List.sum_nil, blockSize]
    omega
  | succ count hypothesis =>
    rw [List.range'_concat, List.map_append, List.sum_append, hypothesis]
    simp only [List.map_cons, List.map_nil, List.sum_cons, List.sum_nil, Span.cut, blockSize]
    omega

/-- The pieces have as many bytes together as the range. -/
theorem length_spans (offset length : Nat) :
    ((spans offset length).map Span.length).sum = length := by
  unfold spans
  split
  · simp_all
  · have reached := sum_cut offset (offset + length)
      (blocksFor (offset + length) - offset / blockSize)
    simp only [List.map_map, Function.comp_def]
    rw [reached]
    simp only [blocksFor, blockSize]
    omega

/-- A piece ends with its block at the latest. -/
theorem Span.fits {offset length : Nat} {span : Span} (member : span ∈ spans offset length) :
    span.skip + span.length ≤ blockSize := by
  unfold spans at member
  split at member
  · cases member
  · obtain ⟨index, inside, rfl⟩ := List.mem_map.mp member
    have bounds := List.mem_range'_1.mp inside
    simp only [Span.cut, blocksFor, blockSize] at bounds ⊢
    omega

/-! ### Reading -/

section Read

variable {D : Type} [BlockDevice D] [StoringDevice D]

theorem readSpans_frame (layout : SuperBlock) (table : Table) (pieces : List Span)
    (block : BlockId) (device : D) :
    Yields (readSpans layout table pieces block) device
      (fun data after => data.length ≤ (pieces.map Span.length).sum ∧
        content after = content device ∧ Follows device after)
      (fun _ after => content after = content device ∧ Follows device after) := by
  fun_induction readSpans (D := D) layout table pieces block generalizing device with
  | case1 => exact ⟨Nat.zero_le _, rfl, .refl device⟩
  | case2 block span =>
    refine yields_bind.mpr ((fetchBlock_yields _ device).mono ?_ fun _ _ ended => ended.2)
    intro result after ended
    obtain ⟨rfl, same, follows⟩ := ended
    refine ⟨?_, same, follows⟩
    simp only [ByteField.length_slice, List.map_cons, List.map_nil, List.sum_cons, List.sum_nil]
    omega
  | case3 block span next rest hypothesis =>
    refine yields_bind.mpr ((fetchBlock_yields _ device).mono ?_ fun _ _ ended => ended.2)
    intro result fetched ended
    obtain ⟨rfl, same, follows⟩ := ended
    rw [yields_bind]
    refine yields_settle (fun following _ => ?_) fun _ _ => ⟨same, follows⟩
    rw [yields_bind]
    refine (hypothesis following fetched).mono ?_ ?_
    · intro data after ended
      obtain ⟨short, still, later⟩ := ended
      refine ⟨?_, still.trans same, follows.trans later⟩
      simp only [List.length_append, ByteField.length_slice, List.map_cons, List.sum_cons] at *
      omega
    · intro cause after ended
      obtain ⟨still, later⟩ := ended
      exact ⟨still.trans same, follows.trans later⟩

/-- A read changes no block and does not reach behind the end of the file. -/
theorem readFile_frame (layout : SuperBlock) (table : Table) (entry : DirEntry)
    (offset length : Nat) (device : D) :
    Yields (readFile layout table entry offset length) device
      (fun data after => (offset ≤ entry.size.toNat → offset + data.length ≤ entry.size.toNat) ∧
        content after = content device ∧ Follows device after)
      (fun _ after => content after = content device ∧ Follows device after) := by
  unfold readFile
  split
  · exact ⟨rfl, .refl device⟩
  dsimp only
  split
  · exact ⟨fun inside => inside, rfl, .refl device⟩
  · rw [yields_bind]
    refine yields_settle (fun block _ => ?_) fun _ _ => ⟨rfl, .refl device⟩
    refine (readSpans_frame layout table _ block device).mono ?_ fun _ _ ended => ended
    intro data after ended
    obtain ⟨short, same, follows⟩ := ended
    refine ⟨fun inside => ?_, same, follows⟩
    rw [length_spans] at short
    omega

end Read

/-! ### Writing -/

section Write

variable {D : Type} [BlockDevice D] [StoringDevice D]

/-- The blocks before the data area are the same, and the device can still do what it could. -/
def SameAreas (layout : SuperBlock) (before after : D) : Prop :=
  (∀ block < layout.dataStart.toNat, content after block = content before block) ∧
    Follows before after

theorem SameAreas.refl (layout : SuperBlock) (device : D) : SameAreas layout device device :=
  ⟨fun _ _ => rfl, .refl device⟩

theorem SameAreas.trans {layout : SuperBlock} {first second third : D}
    (left : SameAreas layout first second) (right : SameAreas layout second third) :
    SameAreas layout first third :=
  ⟨fun block before => (right.1 block before).trans (left.1 block before), left.2.trans right.2⟩

theorem writeSpan_frame (layout : SuperBlock) (fresh : Nat) (span : Span) (part : Bytes)
    (block : BlockId) (device : D) :
    Leaves (writeSpan layout fresh span part block) device (SameAreas layout device) := by
  have stored : ∀ (old : Block) (middle : D), SameAreas layout device middle →
      Leaves (storeBlock (layout.dataBlock block) (old.overlay span.skip part)) middle
        (SameAreas layout device) := by
    intro old middle same
    refine (storeBlock_yields _ _ middle).mono ?_ ?_
    · intro _ after ended
      obtain ⟨written, follows⟩ := ended
      refine same.trans ⟨fun other before => ?_, follows⟩
      rw [written, Function.update_of_ne]
      simp only [SuperBlock.dataBlock]
      omega
    · intro cause after ended
      obtain ⟨_, others, follows⟩ := ended
      refine same.trans ⟨fun other before => others other ?_, follows⟩
      simp only [SuperBlock.dataBlock]
      omega
  unfold Leaves writeSpan
  dsimp only
  split
  · exact stored _ device (.refl layout device)
  · refine yields_bind.mpr ((fetchBlock_yields _ device).mono ?_ ?_)
    · intro old middle ended
      obtain ⟨_, same, follows⟩ := ended
      exact stored old middle ⟨fun other _ => congrFun same other, follows⟩
    · intro cause after ended
      obtain ⟨_, same, follows⟩ := ended
      exact ⟨fun other _ => congrFun same other, follows⟩

theorem writeSpans_frame (layout : SuperBlock) (table : Table) (fresh : Nat) (pieces : List Span)
    (data : Bytes) (block : BlockId) (device : D) :
    Leaves (writeSpans layout table fresh pieces data block) device (SameAreas layout device) := by
  fun_induction writeSpans (D := D) layout table fresh pieces data block generalizing device with
  | case1 => exact .refl layout device
  | case2 span data block => exact writeSpan_frame layout fresh span _ block device
  | case3 span next rest data block hypothesis =>
    refine yields_bind.mpr ((writeSpan_frame layout fresh span _ block device).mono ?_ ?_)
    · intro _ written same
      rw [yields_bind]
      refine yields_settle (fun following _ => ?_) fun _ _ => same
      refine (hypothesis following written).mono ?_ ?_
      · exact fun _ _ later => same.trans later
      · exact fun _ _ later => same.trans later
    · exact fun _ _ same => same

theorem writeChain_frame (layout : SuperBlock) (table : Table) (first : BlockId)
    (fresh offset : Nat) (data : Bytes) (device : D) :
    Leaves (writeChain layout table first fresh offset data) device (SameAreas layout device) := by
  unfold Leaves writeChain
  rw [yields_bind]
  refine yields_settle (fun block _ => ?_) fun _ _ => .refl layout device
  exact writeSpans_frame layout table fresh _ data block device

/-- What a write keeps, whatever the chain of the file is like. -/
structure WriteKeeps (layout : SuperBlock) (before after : FileStore D) : Prop where
  table : after.table.Sound layout.dataBlocks.toNat
  head : after.entry.first.IsHead layout.dataBlocks.toNat
  name : after.entry.nameField = before.entry.nameField
  size : before.entry.size ≤ after.entry.size
  areas : SameAreas layout before.device after.device

/-- A write keeps all that must be true of the volume. What it has written lies inside the file. -/
theorem writeFile_frame (layout : SuperBlock) (offset : Nat) (data : Bytes) (store : FileStore D)
    (small : layout.dataBlocks.toNat ≤ 65535)
    (table : store.table.Sound layout.dataBlocks.toNat)
    (head : store.entry.first.IsHead layout.dataBlocks.toNat) :
    Yields (writeFile layout offset data) store
      (fun count after => WriteKeeps layout store after ∧
        (offset ≤ store.entry.size.toNat → offset + count ≤ after.entry.size.toNat))
      (fun _ after => WriteKeeps layout store after) := by
  have nothing : WriteKeeps layout store store :=
    ⟨table, head, rfl, UInt32.le_refl _, .refl layout _⟩
  unfold writeFile
  split
  · exact ⟨nothing, fun inside => inside⟩
  split
  · exact nothing
  rename_i fits
  rw [yields_bind, yields_get, yields_bind, FileStore.onTable, yields_focus]
  refine (Table.grow_sound table small head _).mono (fun extent grown growth => ?_)
    fun _ after still => ?_
  · rw [yields_bind, FileStore.setFirst, yields_modify]
    dsimp only
    split
    · exact ⟨⟨growth.1, growth.2, rfl, UInt32.le_refl _, .refl layout _⟩, fun inside => inside⟩
    · rename_i more
      rw [yields_bind, yields_tryCatch, yields_bind, yields_get, FileStore.onDevice, yields_focus]
      refine (writeChain_frame layout _ _ _ _ _ _).mono (fun _ device same => ?_)
        fun _ device same => ?_
      · rw [yields_bind, FileStore.resize, yields_modify, yields_pure]
        have bound : max store.entry.size.toNat
            (min (offset + data.length) (extent.length * blockSize)) < 4294967296 := by
          have := store.entry.size.toNat_lt
          simp only [maxFileSize] at fits
          omega
        have size : (UInt32.ofNat (max store.entry.size.toNat
            (min (offset + data.length) (extent.length * blockSize)))).toNat =
            max store.entry.size.toNat
              (min (offset + data.length) (extent.length * blockSize)) := by
          rw [UInt32.toNat_ofNat', Nat.mod_eq_of_lt bound]
        refine ⟨⟨growth.1, growth.2, rfl, UInt32.le_iff_toNat_le.mpr ?_, same⟩, fun _ => ?_⟩
        · exact Nat.le_trans (Nat.le_max_left _ _) (Nat.le_of_eq size.symm)
        · refine Nat.le_trans ?_ (Nat.le_of_eq size.symm)
          omega
      · rw [yields_bind, FileStore.onTable, yields_focus]
        refine (Table.truncate_sound growth.1 growth.2 _).mono (fun newHead _ cut => ?_)
          fun _ _ cut => ?_
        · rw [yields_bind, FileStore.setFirst, yields_modify, yields_throw]
          exact ⟨cut.1, cut.2, rfl, UInt32.le_refl _, same⟩
        · exact ⟨cut, growth.2, rfl, UInt32.le_refl _, same⟩
  · exact ⟨still, head, rfl, UInt32.le_refl _, .refl layout _⟩

end Write

end FlatVolume
