/-
**What is on a device after it was written.**

`Holds disk volume`: the blocks of the disk hold the division, the table and the directory of the
volume. `Volume.ofDisk` reads a volume from the blocks of a disk.

* `Volume.sync_yields`: a sync that succeeds leaves a disk that holds the volume, and neither a
  successful one nor a failed one touches the superblock or the data area;
* `Volume.mount_yields`: mounting gives the volume that is on the disk, or the device fails;
* `ofDisk_eq_ok_iff`: what a disk must have for a volume to be read from it.
-/

import FlatVolume.Proofs.Device
import FlatVolume.Proofs.Directory.Names
import FlatVolume.Proofs.Storage.Division
import FlatVolume.Proofs.Storage.Images
import FlatVolume.Volume.Basic

namespace FlatVolume

open BlockDevice

/-- The blocks hold what is kept in memory of the volume, its open files aside. -/
structure Holds (disk : Nat → Block) (volume : Volume) : Prop where
  superBlock : SuperBlock.decode (disk superBlockIndex) = .ok volume.layout
  table : ∀ position < volume.layout.tableBlocks.toNat,
    disk (1 + position) = volume.table.encodeBlock position
  root : disk volume.layout.rootBlock.toNat = volume.directory.encode

/-! ### The areas of a layout -/

namespace SuperBlock

variable {layout : SuperBlock} {deviceBlocks block : Nat}

/-- A device that can be divided has a superblock. -/
theorem Valid.superBlockIndex_lt (valid : layout.Valid deviceBlocks) :
    superBlockIndex < deviceBlocks := by
  have total := valid.total
  have whole := valid.whole
  have start := valid.start
  rw [superBlockIndex]
  omega

/-- The block belongs to the table or to the directory. -/
def InAreas (layout : SuperBlock) (block : Nat) : Prop :=
  block ∈ layout.tableArea ∨ block = layout.rootBlock.toNat

theorem inAreas_table {position : Nat} (below : position < layout.tableBlocks.toNat) :
    layout.InAreas (1 + position) :=
  .inl (List.mem_range'_1.mpr ⟨by omega, by omega⟩)

theorem inAreas_root : layout.InAreas layout.rootBlock.toNat := .inr rfl

/-- The areas lie between the superblock and the data area. -/
theorem Valid.inAreas_iff (valid : layout.Valid deviceBlocks) :
    layout.InAreas block ↔ superBlockIndex < block ∧ block < layout.dataStart.toNat := by
  have root := valid.root
  have start := valid.start
  rw [InAreas, tableArea, List.mem_range'_1, superBlockIndex]
  omega

theorem Valid.inAreas_lt (valid : layout.Valid deviceBlocks) (inAreas : layout.InAreas block) :
    block < deviceBlocks := by
  have whole := valid.whole
  have total := valid.total
  have below := (valid.inAreas_iff.mp inAreas).2
  omega

theorem Valid.ne_of_inAreas {other : Nat} (valid : layout.Valid deviceBlocks)
    (inAreas : layout.InAreas block)
    (place : other = superBlockIndex ∨ layout.dataStart.toNat ≤ other) : other ≠ block := by
  have bounds := valid.inAreas_iff.mp inAreas
  omega

end SuperBlock

/-- The superblock and the data area are the same. -/
def SameData (layout : SuperBlock) (before after : Nat → Block) : Prop :=
  ∀ block, block = superBlockIndex ∨ layout.dataStart.toNat ≤ block → after block = before block

theorem SameData.trans {layout : SuperBlock} {first second third : Nat → Block}
    (left : SameData layout first second) (right : SameData layout second third) :
    SameData layout first third :=
  fun block place => (right block place).trans (left block place)

/-! ### Writing the areas -/

section Store

variable {D : Type} [BlockDevice D] [StoringDevice D]

/-- Blocks that are stored one after another hold their values, and no other block changes. -/
theorem storeBlocks_yields (value : Nat → Block) (positions : List Nat) (device : D)
    (inside : ∀ position ∈ positions, 1 + position < numBlocks device) :
    Yields (positions.forM fun position => storeBlock (1 + position) (value position)) device
      (fun _ after => (∀ position ∈ positions, content after (1 + position) = value position) ∧
        (∀ block, (∀ position ∈ positions, block ≠ 1 + position) →
          content after block = content device block) ∧ Follows device after)
      (fun cause after => DeviceFault device cause ∧
        (∀ block, (∀ position ∈ positions, block ≠ 1 + position) →
          content after block = content device block) ∧ Follows device after) := by
  induction positions generalizing device with
  | nil => exact ⟨fun _ member => (List.not_mem_nil member).elim, fun _ _ => rfl, .refl device⟩
  | cons position rest hypothesis =>
    refine yields_bind.mpr ((storeBlock_yields _ _ device).mono ?_ ?_)
    · intro _ middle ended
      obtain ⟨written, follows⟩ := ended
      have step := hypothesis middle fun other member => by
        rw [follows.numBlocks_eq]
        exact inside other (List.mem_cons_of_mem _ member)
      have frame : ∀ {block}, block ≠ 1 + position → content middle block = content device block :=
        fun apart => by rw [written, Function.update_of_ne apart]
      refine step.mono ?_ ?_
      · intro _ after ended
        obtain ⟨holds, same, later⟩ := ended
        refine ⟨fun other member => ?_, fun block apart => ?_, follows.trans later⟩
        · by_cases again : other ∈ rest
          · exact holds other again
          · obtain rfl : other = position := (List.mem_cons.mp member).resolve_right again
            rw [same _ fun later member => ?_, written, Function.update_self]
            rintro equal
            exact again (Nat.add_left_cancel equal ▸ member)
        · rw [same block fun other member => apart other (List.mem_cons_of_mem _ member),
            frame (apart position List.mem_cons_self)]
      · intro cause after ended
        obtain ⟨fault, same, later⟩ := ended
        refine ⟨fault.of_follows follows, fun block apart => ?_, follows.trans later⟩
        rw [same block fun other member => apart other (List.mem_cons_of_mem _ member),
          frame (apart position List.mem_cons_self)]
    · intro cause after ended
      obtain ⟨failure, same, follows⟩ := ended
      refine ⟨failure.fault (inside position List.mem_cons_self), fun block apart => ?_, follows⟩
      exact same block (apart position List.mem_cons_self)

variable {layout : SuperBlock} {device : D}

/-- The table's area holds the table after it was stored. -/
theorem Table.store_yields (table : Table) (valid : layout.Valid (numBlocks device)) :
    Yields (table.store layout) device
      (fun _ after =>
        (∀ position < layout.tableBlocks.toNat,
          content after (1 + position) = table.encodeBlock position) ∧
        SameData layout (content device) (content after) ∧ Follows device after)
      (fun cause after => DeviceFault device cause ∧
        SameData layout (content device) (content after) ∧ Follows device after) := by
  have inAreas : ∀ position ∈ List.range layout.tableBlocks.toNat, layout.InAreas (1 + position) :=
    fun position member => SuperBlock.inAreas_table (List.mem_range.mp member)
  have apart : ∀ block, block = superBlockIndex ∨ layout.dataStart.toNat ≤ block →
      ∀ position ∈ List.range layout.tableBlocks.toNat, block ≠ 1 + position :=
    fun block place position member => valid.ne_of_inAreas (inAreas position member) place
  refine (storeBlocks_yields table.encodeBlock _ device fun position member =>
    valid.inAreas_lt (inAreas position member)).mono ?_ ?_
  · intro _ after ended
    obtain ⟨holds, same, follows⟩ := ended
    exact ⟨fun position below => holds position (List.mem_range.mpr below),
      fun block place => same block (apart block place), follows⟩
  · intro cause after ended
    obtain ⟨fault, same, follows⟩ := ended
    exact ⟨fault, fun block place => same block (apart block place), follows⟩

/-- Only the block of the directory changes when the directory is stored. -/
theorem Directory.store_yields (directory : Directory) (valid : layout.Valid (numBlocks device)) :
    Yields (directory.store layout) device
      (fun _ after => content after =
          Function.update (content device) layout.rootBlock.toNat directory.encode ∧
        Follows device after)
      (fun cause after => DeviceFault device cause ∧
        SameData layout (content device) (content after) ∧ Follows device after) := by
  refine (storeBlock_yields _ _ device).mono (fun _ _ ended => ended) ?_
  intro cause after ended
  obtain ⟨failure, same, follows⟩ := ended
  refine ⟨failure.fault (valid.inAreas_lt SuperBlock.inAreas_root), fun block place => ?_, follows⟩
  exact same block (valid.ne_of_inAreas SuperBlock.inAreas_root place)

/-- A sync makes the device hold the volume. It leaves the superblock and the data area alone, also
when it fails. -/
theorem Volume.sync_yields (volume : Volume) (valid : volume.layout.Valid (numBlocks device))
    (superBlock : SuperBlock.decode (content device superBlockIndex) = .ok volume.layout) :
    Yields volume.sync device
      (fun _ after => Holds (content after) volume ∧
        SameData volume.layout (content device) (content after) ∧ Follows device after)
      (fun cause after => DeviceFault device cause ∧
        SameData volume.layout (content device) (content after) ∧ Follows device after) := by
  have root := valid.root
  refine yields_bind.mpr ((volume.table.store_yields valid).mono ?_ fun _ _ ended => ended)
  intro _ tableStored ended
  obtain ⟨tableHolds, tableSame, tableFollows⟩ := ended
  have still : volume.layout.Valid (numBlocks tableStored) := by
    rw [tableFollows.numBlocks_eq]
    exact valid
  refine yields_bind.mpr ((volume.directory.store_yields still).mono ?_ ?_)
  · intro _ rootStored ended
    obtain ⟨rootWritten, rootFollows⟩ := ended
    have rootSame : SameData volume.layout (content device) (content rootStored) := by
      refine tableSame.trans fun block place => ?_
      rw [rootWritten, Function.update_of_ne (valid.ne_of_inAreas SuperBlock.inAreas_root place)]
    have follows := tableFollows.trans rootFollows
    refine (flushDevice_yields rootStored).mono ?_ ?_
    · intro _ after ended
      obtain ⟨same, flushed⟩ := ended
      rw [same]
      refine ⟨⟨?_, fun position below => ?_, ?_⟩, rootSame, follows.trans flushed⟩
      · rw [rootSame _ (.inl rfl)]
        exact superBlock
      · rw [rootWritten, Function.update_of_ne (by omega)]
        exact tableHolds position below
      · rw [rootWritten, Function.update_self]
    · intro cause after ended
      obtain ⟨fault, same, flushed⟩ := ended
      rw [same]
      exact ⟨fault.of_follows follows, rootSame, follows.trans flushed⟩
  · intro cause after ended
    obtain ⟨fault, same, follows⟩ := ended
    exact ⟨fault.of_follows tableFollows, tableSame.trans same, tableFollows.trans follows⟩

end Store

/-! ### Reading the areas -/

/-- The volume in the areas of a layout. -/
def Volume.ofAreas (disk : Nat → Block) (layout : SuperBlock) : Except VolumeError Volume :=
  let table := Table.decode (layout.tableArea.map disk) layout.dataBlocks.toNat
  let directory := Directory.decode (disk layout.rootBlock.toNat)
  if table.Acceptable ∧ directory.Acceptable layout.dataBlocks.toNat then
    .ok { layout, table, directory, descriptors := .empty }
  else .error .invalidFormat

/-- The volume on a disk of `deviceBlocks` blocks. -/
def Volume.ofDisk (disk : Nat → Block) (deviceBlocks : Nat) : Except VolumeError Volume :=
  match SuperBlock.decode (disk superBlockIndex) with
  | .error cause => .error cause
  | .ok layout =>
    if layout.Valid deviceBlocks then Volume.ofAreas disk layout else .error .invalidFormat

section OfDisk

variable {disk : Nat → Block} {layout : SuperBlock} {volume : Volume} {deviceBlocks : Nat}

theorem ofAreas_eq_ok_iff :
    Volume.ofAreas disk layout = .ok volume ↔
      volume.layout = layout ∧
      volume.table = Table.decode (layout.tableArea.map disk) layout.dataBlocks.toNat ∧
      volume.directory = Directory.decode (disk layout.rootBlock.toNat) ∧
      volume.descriptors = .empty ∧
      volume.table.Acceptable ∧ volume.directory.Acceptable layout.dataBlocks.toNat := by
  unfold Volume.ofAreas
  generalize Table.decode (layout.tableArea.map disk) layout.dataBlocks.toNat = table
  generalize Directory.decode (disk layout.rootBlock.toNat) = directory
  dsimp only
  split
  · rename_i accepted
    rw [Except.ok.injEq]
    constructor
    · rintro rfl
      exact ⟨rfl, rfl, rfl, rfl, accepted⟩
    · obtain ⟨_, _, _, _⟩ := volume
      rintro ⟨rfl, rfl, rfl, rfl, _⟩
      rfl
  · rename_i refused
    simp only [reduceCtorEq, false_iff]
    rintro ⟨_, rfl, rfl, _, accepted⟩
    exact refused accepted

theorem ofDisk_eq_ok_iff :
    Volume.ofDisk disk deviceBlocks = .ok volume ↔
      SuperBlock.decode (disk superBlockIndex) = .ok volume.layout ∧
      volume.layout.Valid deviceBlocks ∧ Volume.ofAreas disk volume.layout = .ok volume := by
  unfold Volume.ofDisk
  cases SuperBlock.decode (disk superBlockIndex) with
  | error cause => simp
  | ok layout =>
    dsimp only
    split
    · rename_i valid
      constructor
      · intro read
        obtain rfl := (ofAreas_eq_ok_iff.mp read).1
        exact ⟨rfl, valid, read⟩
      · rintro ⟨same, _, read⟩
        rwa [Except.ok.inj same]
    · rename_i invalid
      simp only [reduceCtorEq, false_iff]
      rintro ⟨same, valid, _⟩
      rw [Except.ok.inj same] at invalid
      exact invalid valid

/-- A volume is read from the blocks of its device alone. -/
theorem Volume.ofDisk_congr {other : Nat → Block}
    (read : Volume.ofDisk disk deviceBlocks = .ok volume)
    (same : ∀ block < deviceBlocks, other block = disk block) :
    Volume.ofDisk other deviceBlocks = .ok volume := by
  obtain ⟨decoded, valid, areas⟩ := ofDisk_eq_ok_iff.mp read
  obtain ⟨_, table, directory, fine⟩ := ofAreas_eq_ok_iff.mp areas
  have area : volume.layout.tableArea.map other = volume.layout.tableArea.map disk :=
    List.map_congr_left fun block member => same block (valid.inAreas_lt (.inl member))
  refine ofDisk_eq_ok_iff.mpr ⟨?_, valid, ofAreas_eq_ok_iff.mpr ⟨rfl, ?_, ?_, fine⟩⟩
  · rwa [same _ valid.superBlockIndex_lt]
  · rwa [area]
  · rwa [same _ (valid.inAreas_lt SuperBlock.inAreas_root)]

end OfDisk

section Load

variable {D : Type} [BlockDevice D] [StoringDevice D]

/-- Blocks that are fetched one after another are what the device has. -/
theorem fetchBlocks_yields (blocks : List Nat) (device : D)
    (inside : ∀ block ∈ blocks, block < numBlocks device) :
    Yields (blocks.mapM fetchBlock) device
      (fun results after => results = blocks.map (content device) ∧
        content after = content device ∧ Follows device after)
      (fun cause after => DeviceFault device cause ∧
        content after = content device ∧ Follows device after) := by
  induction blocks generalizing device with
  | nil => exact ⟨rfl, rfl, .refl device⟩
  | cons block rest hypothesis =>
    rw [List.mapM_cons]
    refine yields_bind.mpr ((fetchBlock_yields block device).mono ?_ ?_)
    · intro result middle ended
      obtain ⟨rfl, same, follows⟩ := ended
      have step := hypothesis middle fun other member => by
        rw [follows.numBlocks_eq]
        exact inside other (List.mem_cons_of_mem _ member)
      rw [same] at step
      refine yields_bind.mpr (step.mono ?_ ?_)
      · intro results after ended
        obtain ⟨rfl, still, later⟩ := ended
        exact ⟨rfl, still, follows.trans later⟩
      · intro cause after ended
        obtain ⟨fault, still, later⟩ := ended
        exact ⟨fault.of_follows follows, still, follows.trans later⟩
    · intro cause after ended
      obtain ⟨failure, same, follows⟩ := ended
      exact ⟨failure.fault (inside block List.mem_cons_self), same, follows⟩

variable {layout : SuperBlock} {device : D}

/-- The table on the device is loaded if it is acceptable. -/
theorem Table.load_yields (valid : layout.Valid (numBlocks device)) :
    Yields (Table.load layout) device
      (fun table after =>
        table = Table.decode (layout.tableArea.map (content device)) layout.dataBlocks.toNat ∧
        table.Acceptable ∧ content after = content device ∧ Follows device after)
      (fun cause after =>
        (cause = .invalidFormat ∧
            ¬ (Table.decode (layout.tableArea.map (content device))
              layout.dataBlocks.toNat).Acceptable ∨ DeviceFault device cause) ∧
          content after = content device ∧ Follows device after) := by
  have inside : ∀ block ∈ layout.tableArea, block < numBlocks device :=
    fun block member => valid.inAreas_lt (.inl member)
  refine yields_bind.mpr ((fetchBlocks_yields _ device inside).mono ?_ ?_)
  · intro results after ended
    obtain ⟨rfl, same, follows⟩ := ended
    dsimp only
    split <;> rename_i fine
    · exact ⟨rfl, fine, same, follows⟩
    · exact ⟨.inl ⟨rfl, fine⟩, same, follows⟩
  · intro cause after ended
    obtain ⟨fault, same, follows⟩ := ended
    exact ⟨.inr fault, same, follows⟩

/-- The directory on the device is loaded if it is acceptable. -/
theorem Directory.load_yields (valid : layout.Valid (numBlocks device)) :
    Yields (Directory.load layout) device
      (fun directory after =>
        directory = Directory.decode (content device layout.rootBlock.toNat) ∧
        directory.Acceptable layout.dataBlocks.toNat ∧
        content after = content device ∧ Follows device after)
      (fun cause after =>
        (cause = .invalidFormat ∧
            ¬ (Directory.decode (content device layout.rootBlock.toNat)).Acceptable
              layout.dataBlocks.toNat ∨ DeviceFault device cause) ∧
          content after = content device ∧ Follows device after) := by
  refine yields_bind.mpr ((fetchBlock_yields _ device).mono (fun result after ended => ?_) ?_)
  · rw [ended.1]
    generalize Directory.decode (content device layout.rootBlock.toNat) = directory
    show Yields (ite _ _ _) _ _ _
    by_cases fine : directory.Acceptable layout.dataBlocks.toNat
    · rw [if_pos fine]
      exact ⟨rfl, fine, ended.2⟩
    · rw [if_neg fine]
      exact ⟨.inl ⟨rfl, fine⟩, ended.2⟩
  · intro cause after ended
    obtain ⟨failure, same, follows⟩ := ended
    exact ⟨.inr (failure.fault (valid.inAreas_lt SuperBlock.inAreas_root)), same, follows⟩

/-- The table and the directory are read from the areas of a valid layout. -/
theorem loadAreas_yields (valid : layout.Valid (numBlocks device)) :
    Yields (do
        let table ← Table.load layout
        let directory ← Directory.load layout
        return ({ layout, table, directory, descriptors := .empty } : Volume)) device
      (fun volume after => Volume.ofAreas (content device) layout = .ok volume ∧
        content after = content device ∧ Follows device after)
      (fun cause after =>
        (Volume.ofAreas (content device) layout = .error cause ∨ DeviceFault device cause) ∧
          content after = content device ∧ Follows device after) := by
  unfold Volume.ofAreas
  refine yields_bind.mpr ((Table.load_yields valid).mono ?_ ?_)
  · intro table loaded ended
    obtain ⟨rfl, tableFine, tableSame, tableFollows⟩ := ended
    have stillValid : layout.Valid (numBlocks loaded) := by
      rw [tableFollows.numBlocks_eq]
      exact valid
    refine yields_bind.mpr ((Directory.load_yields stillValid).mono ?_ ?_)
    · rw [tableSame]
      intro directory after ended
      obtain ⟨rfl, rootFine, rootSame, rootFollows⟩ := ended
      exact ⟨if_pos ⟨tableFine, rootFine⟩, rootSame, tableFollows.trans rootFollows⟩
    · rw [tableSame]
      intro cause after ended
      obtain ⟨reason, rootSame, rootFollows⟩ := ended
      refine ⟨?_, rootSame, tableFollows.trans rootFollows⟩
      rcases reason with ⟨rfl, refused⟩ | fault
      · exact .inl (if_neg fun accepted => refused accepted.2)
      · exact .inr (fault.of_follows tableFollows)
  · intro cause after ended
    obtain ⟨reason, tableSame, tableFollows⟩ := ended
    refine ⟨?_, tableSame, tableFollows⟩
    rcases reason with ⟨rfl, refused⟩ | fault
    · exact .inl (if_neg fun accepted => refused accepted.1)
    · exact .inr fault

/-- Mounting gives the volume that is on the device or the reason why there is none, unless the
device fails. It changes no block. -/
theorem Volume.mount_yields (device : D) :
    Yields Volume.mount device
      (fun volume after => Volume.ofDisk (content device) (numBlocks device) = .ok volume ∧
        content after = content device ∧ Follows device after)
      (fun cause after =>
        (Volume.ofDisk (content device) (numBlocks device) = .error cause ∨
          DeviceFailure device superBlockIndex cause) ∧
          content after = content device ∧ Follows device after) := by
  unfold Volume.ofDisk
  refine yields_bind.mpr ((fetchBlock_yields _ device).mono ?_ ?_)
  · intro block fetched ended
    obtain ⟨rfl, same, follows⟩ := ended
    rw [yields_bind]
    refine yields_settle (fun layout decoded => ?_) fun cause decoded => ?_
    · rw [yields_bind, yields_get, yields_bind, follows.numBlocks_eq, decoded]
      unfold SuperBlock.validate
      by_cases valid : layout.Valid (numBlocks device)
      · have still : layout.Valid (numBlocks fetched) := by
          rw [follows.numBlocks_eq]
          exact valid
        rw [if_pos valid, yields_settle_ok]
        simp only [if_pos valid]
        refine (loadAreas_yields still).mono ?_ ?_
        · rw [same]
          intro volume after ended
          obtain ⟨read, still, later⟩ := ended
          exact ⟨read, still, follows.trans later⟩
        · rw [same]
          intro cause after ended
          obtain ⟨reason, still, later⟩ := ended
          refine ⟨reason.imp_right fun fault => ?_, still, follows.trans later⟩
          exact ⟨fault.isDevice, fun _ => (fault.of_follows follows).unreliable⟩
      · rw [if_neg valid, yields_settle_error]
        exact ⟨.inl (if_neg valid), same, follows⟩
    · rw [decoded]
      exact ⟨.inl rfl, same, follows⟩
  · intro cause after ended
    obtain ⟨failure, same, follows⟩ := ended
    exact ⟨.inr failure, same, follows⟩

end Load

end FlatVolume
