/-
**A formatted disk.**

`format_gives_empty_volume`: whatever a disk holds, formatting it writes the superblock, the table
and the directory once each, in the order of their blocks, flushes the disk, and touches no block of
the data area. What is mounted afterwards is a volume without files in which every data block but
block `0` is free. A disk whose size is not that of a division is refused before any call.
-/

import FlatVolume.Proofs.Calls.Exact
import FlatVolume.Proofs.Session.Remount
import FlatVolume.Proofs.Volume.Allocation

namespace FlatVolume

/-! ### The calls -/

namespace Disk

/-- Formatting writes the blocks before the data area in ascending order and flushes the disk. -/
theorem performs_format {disk : Disk} {layout : SuperBlock}
    (divided : SuperBlock.forDisk disk.numBlocks = .ok layout) :
    Performs (((List.range layout.dataStart.toNat).map fun block => ⟨.write, block, false⟩) ++
      [⟨.flush, 0, false⟩]) Volume.format disk := by
  have valid := SuperBlock.forDisk_valid divided
  -- The superblock, the table's area, and the block of the directory.
  have areas : (List.range layout.dataStart.toNat).map (fun block => Call.mk .write block false) ++
        [⟨.flush, 0, false⟩] =
      [⟨.write, superBlockIndex, false⟩] ++
        (((List.range layout.tableBlocks.toNat).map fun position =>
          ⟨.write, 1 + position, false⟩) ++
        ([⟨.write, layout.rootBlock.toNat, false⟩] ++ [⟨.flush, 0, false⟩])) := by
    rw [valid.start, valid.root, List.range_succ, List.range_succ_eq_map]
    simp [superBlockIndex, Nat.add_comm 1]
  rw [areas]
  refine Performs.get_bind (Performs.settle_bind fun other same => ?_)
  obtain rfl := Except.ok.inj (divided.symm.trans same)
  refine (performs_storeBlock _ _).bind fun _ signed _ => ?_
  refine (performs_storeBlocks _ _).bind fun _ tableStored _ => ?_
  exact (performs_storeBlock _ _).bind fun _ rootStored _ => performs_flushDevice

end Disk

/-! ### What is mounted -/

namespace Volume

variable {layout : SuperBlock} {deviceBlocks : Nat}

/-- All slots of an empty directory are free. -/
theorem freeCount_empty : Directory.empty.freeCount = slotCount := by
  rw [Directory.freeCount_eq, List.countP_eq_length.mpr, List.length_finRange]
  exact fun slot _ => decide_eq_true (Directory.isFree_get_empty slot)

theorem files_empty : Directory.empty.files = [] := by
  apply List.filterMap_eq_nil_iff.mpr
  intro slot _
  simp only [Directory.isFree_get_empty slot, ↓reduceIte]

theorem openFiles_empty : Descriptors.empty.openFiles = [] := by decide

/-- Every block but block `0` of a volume without files is free. -/
theorem freeCount_fresh (valid : layout.Valid deviceBlocks) :
    (fresh layout).table.freeCount = layout.dataBlocks.toNat - 1 := by
  have all : (fresh layout).table.unusedBlocks = (fresh layout).table.links :=
    List.filter_eq_self.mpr fun id member => decide_eq_true (fresh_unused valid member)
  have size : (fresh layout).table.size = layout.dataBlocks.toNat := Table.size_empty _
  rw [(fresh_sound valid).freeCount_eq, all, Table.length_links, size]

theorem info_fresh (valid : layout.Valid deviceBlocks) :
    (fresh layout).info =
      { totalBlocks := deviceBlocks
        tableBlocks := tableBlocksFor layout.dataBlocks.toNat
        rootBlock := tableBlocksFor layout.dataBlocks.toNat + 1
        dataStart := tableBlocksFor layout.dataBlocks.toNat + 2
        dataBlocks := layout.dataBlocks.toNat
        freeBlocks := layout.dataBlocks.toNat - 1
        freeSlots := slotCount } := by
  have free := freeCount_fresh valid
  have start := valid.start
  rw [valid.root, valid.table] at start
  have root := valid.root
  rw [valid.table] at root
  have slots : (fresh layout).directory.freeCount = slotCount := freeCount_empty
  rw [info, free, slots]
  show VolumeInfo.mk layout.totalBlocks.toNat layout.tableBlocks.toNat layout.rootBlock.toNat
    layout.dataStart.toNat _ _ _ = _
  rw [valid.total, valid.table, root, start]
  rfl

/-- On a disk that fails no call, formatting gives an empty volume if some number of data blocks
fills the disk, and otherwise refuses it without a call. -/
theorem format_gives_empty_volume {disk : Disk} (never : disk.NeverFails) :
    (∀ dataBlocks, 1 ≤ dataBlocks →
      2 + (dataBlocks + 2047) / 2048 + dataBlocks = disk.numBlocks → disk.numBlocks ≤ 65535 →
      ∃ device, format disk = .ok () device ∧
        -- The blocks before the data area are written once each, and no other block.
        device.log = disk.log ++
          ((List.range ((dataBlocks + 2047) / 2048 + 2)).map fun block => ⟨.write, block, false⟩) ++
          [⟨.flush, 0, false⟩] ∧
        (∀ block, (dataBlocks + 2047) / 2048 + 2 ≤ block →
          device.medium.block block = disk.medium.block block) ∧
        ∃ volume after, mount device = .ok volume after ∧
          volume.info =
            { totalBlocks := disk.numBlocks
              tableBlocks := (dataBlocks + 2047) / 2048
              rootBlock := (dataBlocks + 2047) / 2048 + 1
              dataStart := (dataBlocks + 2047) / 2048 + 2
              dataBlocks := dataBlocks
              freeBlocks := dataBlocks - 1
              freeSlots := 128 } ∧
          volume.directory.files = [] ∧ volume.check = .ok () ∧
          volume.descriptors.openFiles = []) ∧
    ((¬ ∃ dataBlocks, 1 ≤ dataBlocks ∧
        2 + (dataBlocks + 2047) / 2048 + dataBlocks = disk.numBlocks ∧ disk.numBlocks ≤ 65535) →
      format disk = .error .invalidArgument disk) := by
  refine ⟨fun dataBlocks positive fills fits => ?_, fun none => ?_⟩
  · obtain ⟨layout, divided, rfl⟩ :=
      SuperBlock.forDisk_eq_ok_iff.mpr ⟨positive, fills, fits⟩
    have valid := SuperBlock.forDisk_valid divided
    have start : layout.dataStart.toNat = (layout.dataBlocks.toNat + 2047) / 2048 + 2 := by
      rw [valid.start, valid.root, valid.table]
      rfl
    obtain ⟨device, after, formatted, mounted, _⟩ :=
      mount_of_format (Disk.reliable_of_neverFails never) divided
    have led := (Disk.performs_format divided).of_ok formatted
    rw [start] at led
    refine ⟨device, formatted, ?_, fun block inData => led.block_eq block ?_,
      fresh layout, after, mounted, info_fresh valid, files_empty,
      check_eq_ok_iff.mpr ⟨_, fresh_lays layout⟩, openFiles_empty⟩
    · rw [led.log_eq, List.append_assoc]
    · simp only [List.mem_append, List.mem_map, List.mem_range, List.mem_singleton]
      rintro (⟨written, below, same⟩ | same) <;> cases same
      omega
  · cases divided : SuperBlock.forDisk disk.numBlocks with
    | ok layout =>
      have fills := SuperBlock.forDisk_eq_ok_iff.mp ⟨layout, divided, rfl⟩
      exact absurd ⟨_, fills⟩ none
    | error cause =>
      obtain rfl := SuperBlock.eq_invalidArgument_of_forDisk divided
      show (settle (SuperBlock.forDisk disk.numBlocks) >>= _) disk = _
      rw [divided]
      rfl

/-- A disk of five blocks with old bytes in its table, and one whose size is between those of two
divisions. -/
theorem format_gives_empty_volume_stale :
    let stale : Disk :=
      { Disk.blank 5 with medium := Medium.blank.setBlock 1 (.ofBytes blockSize [1, 0, 2]) }
    (∃ device volume after, format stale = .ok () device ∧ mount device = .ok volume after ∧
      volume.info.freeBlocks = 1 ∧ volume.check = .ok ()) ∧
    format (Disk.blank 2052) = .error .invalidArgument (Disk.blank 2052) := by
  intro stale
  have never : stale.NeverFails := Disk.neverFails_blank 5
  have formatted := (format_gives_empty_volume never).1 2 (by decide) rfl (by decide)
  obtain ⟨device, formatted, _, _, volume, after, mounted, info, _, checked, _⟩ := formatted
  refine ⟨⟨device, volume, after, formatted, mounted, congrArg VolumeInfo.freeBlocks info,
    checked⟩, (format_gives_empty_volume (Disk.neverFails_blank 2052)).2 ?_⟩
  rintro ⟨dataBlocks, _, fills, _⟩
  have size : (Disk.blank 2052).numBlocks = 2052 := rfl
  omega

end Volume

end FlatVolume
