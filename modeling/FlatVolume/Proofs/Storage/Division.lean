/-
**How a disk is divided.**

A division is worked out in three ways: from the size of a disk, from the size of a data area, and
by a check of what a superblock states. All three solve one equation, that the data area, its table
and two more blocks fill the disk (`Fills`):

* `Fills.unique`: a disk has one solution at most, and sizes such as 2052 have none;
* `Fills.states`: a solution is stated without loss in the widths of the fields;
* `tableBlocksOf?_eq_some_iff`: the search for a table finds the solution if there is one;
* `valid_iff_fills`, `forDisk_eq_iff`: the valid superblocks and those that are planned are the
  ones that state a solution;
* `divisions_agree`: so the three ways agree, and no superblock is accepted but the one that is
  planned for the disk.
-/

import FlatVolume.SuperBlock

namespace FlatVolume.SuperBlock

variable {layout planned : SuperBlock} {totalBlocks dataBlocks deviceBlocks : Nat}

/-! ### The equation -/

/-- The data area, a table of 2048 entries in a block for it, the superblock and the directory fill
the disk, and sixteen bits can state the size of the disk. -/
structure Fills (dataBlocks totalBlocks : Nat) : Prop where
  positive : 1 ≤ dataBlocks
  whole : totalBlocks = 2 + (dataBlocks + 2047) / 2048 + dataBlocks
  stated : totalBlocks ≤ 65535

/-- The fields state the division of a disk with this data area. -/
structure States (layout : SuperBlock) (dataBlocks totalBlocks : Nat) : Prop where
  data : layout.dataBlocks.toNat = dataBlocks
  table : layout.tableBlocks.toNat = (dataBlocks + 2047) / 2048
  root : layout.rootBlock.toNat = (dataBlocks + 2047) / 2048 + 1
  start : layout.dataStart.toNat = (dataBlocks + 2047) / 2048 + 2
  total : layout.totalBlocks.toNat = totalBlocks

theorem tableBlocksFor_eq (dataBlocks : Nat) :
    tableBlocksFor dataBlocks = (dataBlocks + 2047) / 2048 := rfl

/-- A disk is filled in one way at most. -/
theorem Fills.unique {other : Nat} (first : Fills dataBlocks totalBlocks)
    (second : Fills other totalBlocks) : other = dataBlocks := by
  have whole := first.whole
  rw [second.whole] at whole
  omega

/-- No field of a solution is too large for its width. -/
theorem Fills.states (fills : Fills dataBlocks totalBlocks) :
    (forDataBlocks dataBlocks).States dataBlocks totalBlocks := by
  have whole := fills.whole
  have stated := fills.stated
  refine ⟨?_, ?_, ?_, ?_, ?_⟩ <;>
    simp only [forDataBlocks, tableBlocksFor_eq, UInt16.toNat_ofNat', UInt8.toNat_ofNat'] <;> omega

/-- A division is stated in one way only. -/
theorem States.unique (first : layout.States dataBlocks totalBlocks)
    (second : planned.States dataBlocks totalBlocks) : layout = planned := by
  have total := UInt16.toNat_inj.mp (first.total.trans second.total.symm)
  have root := UInt16.toNat_inj.mp (first.root.trans second.root.symm)
  have start := UInt16.toNat_inj.mp (first.start.trans second.start.symm)
  have data := UInt16.toNat_inj.mp (first.data.trans second.data.symm)
  have table := UInt8.toNat_inj.mp (first.table.trans second.table.symm)
  cases layout
  cases planned
  simp only at total root start data table
  subst total root start data table
  rfl

/-! ### The check -/

/-- What is checked is that the superblock states a division. -/
theorem valid_iff_fills :
    layout.Valid totalBlocks ↔
      ∃ dataBlocks, Fills dataBlocks totalBlocks ∧ layout = forDataBlocks dataBlocks := by
  constructor
  · rintro ⟨total, positive, _, table, root, start, whole⟩
    have stated := layout.totalBlocks.toNat_lt
    have fills : Fills layout.dataBlocks.toNat totalBlocks := by
      refine ⟨positive, ?_, by omega⟩
      rw [tableBlocksFor_eq] at table
      omega
    refine ⟨layout.dataBlocks.toNat, fills, States.unique ⟨rfl, table, ?_, ?_, total⟩ fills.states⟩
    · rw [root, table, tableBlocksFor_eq]
    · rw [start, root, table, tableBlocksFor_eq]
  · rintro ⟨dataBlocks, fills, rfl⟩
    obtain ⟨data, table, root, start, total⟩ := fills.states
    have whole := fills.whole
    have stated := fills.stated
    have last : BlockId.endOfChain.toNat = 65535 := rfl
    refine ⟨total, ?_, ?_, ?_, ?_, ?_, ?_⟩
    · rw [data]
      exact fills.positive
    · rw [data, last]
      omega
    · rw [table, data, tableBlocksFor_eq]
    · rw [root, table]
    · rw [start, root]
    · rw [total, start, data]
      omega

theorem validate_eq_ok_iff : layout.validate deviceBlocks = .ok () ↔ layout.Valid deviceBlocks := by
  unfold validate
  split <;> simp_all

/-! ### The search -/

/-- What the search finds leaves some blocks for data and covers just these. -/
theorem covers_of_tableBlocksOf? {tableBlocks : Nat}
    (found : tableBlocksOf? totalBlocks = some tableBlocks) :
    1 ≤ tableBlocks ∧ tableBlocks < totalBlocks - 2 ∧
      (totalBlocks - 2 - tableBlocks + 2047) / 2048 = tableBlocks := by
  unfold tableBlocksOf? at found
  have range := List.mem_range'_1.mp (List.mem_of_find?_eq_some found)
  have covers := List.find?_some found
  rw [decide_eq_true_eq, tableBlocksFor_eq] at covers
  omega

/-- The search stops at the table of the solution. -/
theorem tableBlocksOf?_eq_some_iff {tableBlocks : Nat} :
    tableBlocksOf? totalBlocks = some tableBlocks ↔
      1 ≤ tableBlocks ∧ tableBlocks < totalBlocks - 2 ∧
        (totalBlocks - 2 - tableBlocks + 2047) / 2048 = tableBlocks := by
  refine ⟨covers_of_tableBlocksOf?, ?_⟩
  rintro ⟨positive, below, covers⟩
  cases found : tableBlocksOf? totalBlocks with
  | none =>
    -- The solution is within the bound of the search.
    have missed := List.find?_eq_none.mp found tableBlocks (List.mem_range'_1.mpr
      ⟨positive, by rw [tableBlocksFor_eq]; omega⟩)
    exact absurd (decide_eq_true covers) missed
  | some other =>
    have otherCovers := covers_of_tableBlocksOf? found
    exact congrArg some (by omega)

/-- A disk is divided exactly as it is filled. -/
theorem forDisk_eq_iff :
    forDisk totalBlocks = .ok layout ↔
      ∃ dataBlocks, Fills dataBlocks totalBlocks ∧ layout = forDataBlocks dataBlocks := by
  unfold forDisk
  split
  · rename_i size
    simp only [reduceCtorEq, false_iff]
    rintro ⟨dataBlocks, ⟨positive, whole, stated⟩, _⟩
    rw [maxTotalBlocks] at size
    omega
  rename_i size
  rw [maxTotalBlocks, not_or, Nat.not_lt, Nat.not_lt] at size
  split
  · rename_i tableBlocks found
    obtain ⟨_, below, covers⟩ := tableBlocksOf?_eq_some_iff.mp found
    have fills : Fills (totalBlocks - 2 - tableBlocks) totalBlocks :=
      ⟨by omega, by omega, size.2⟩
    constructor
    · intro divided
      exact ⟨_, fills, (Except.ok.inj divided).symm⟩
    · rintro ⟨dataBlocks, other, rfl⟩
      rw [fills.unique other]
  · rename_i missed
    simp only [reduceCtorEq, false_iff]
    rintro ⟨dataBlocks, ⟨positive, whole, _⟩, _⟩
    have found : tableBlocksOf? totalBlocks = some ((dataBlocks + 2047) / 2048) :=
      tableBlocksOf?_eq_some_iff.mpr (by omega)
    rw [missed] at found
    cases found

/-- A disk that cannot be divided is refused for its size. -/
theorem eq_invalidArgument_of_forDisk {cause : VolumeError}
    (refused : forDisk totalBlocks = .error cause) : cause = .invalidArgument := by
  unfold forDisk at refused
  split at refused
  · exact (Except.error.inj refused).symm
  split at refused
  · cases refused
  · exact (Except.error.inj refused).symm

/-- The division of a disk is a valid one. -/
theorem forDisk_valid (divided : forDisk totalBlocks = .ok layout) : layout.Valid totalBlocks :=
  valid_iff_fills.mpr (forDisk_eq_iff.mp divided)

/-- The size of the data area follows from the size of the disk. -/
theorem Valid.dataBlocks_eq
    (valid : layout.Valid (2 + tableBlocksFor dataBlocks + dataBlocks)) :
    layout.dataBlocks.toNat = dataBlocks := by
  obtain ⟨other, fills, rfl⟩ := valid_iff_fills.mp valid
  have whole := fills.whole
  rw [tableBlocksFor_eq] at whole
  rw [fills.states.data]
  omega

/-- A disk that was sized for a data area can be divided. -/
theorem exists_forDisk (positive : 1 ≤ dataBlocks)
    (fits : 2 + tableBlocksFor dataBlocks + dataBlocks ≤ maxTotalBlocks) :
    ∃ layout, forDisk (2 + tableBlocksFor dataBlocks + dataBlocks) = .ok layout :=
  ⟨_, forDisk_eq_iff.mpr ⟨dataBlocks, ⟨positive, rfl, fits⟩, rfl⟩⟩

/-- A disk is divided with a number of data blocks exactly if that number, its table and two more
blocks fill the disk. -/
theorem forDisk_eq_ok_iff :
    (∃ layout, forDisk totalBlocks = .ok layout ∧ layout.dataBlocks.toNat = dataBlocks) ↔
      1 ≤ dataBlocks ∧ 2 + tableBlocksFor dataBlocks + dataBlocks = totalBlocks ∧
        totalBlocks ≤ maxTotalBlocks := by
  constructor
  · rintro ⟨layout, divided, rfl⟩
    obtain ⟨dataBlocks, fills, rfl⟩ := forDisk_eq_iff.mp divided
    rw [fills.states.data]
    exact ⟨fills.positive, fills.whole.symm, fills.stated⟩
  · rintro ⟨positive, rfl, fits⟩
    obtain ⟨layout, divided⟩ := exists_forDisk positive fits
    exact ⟨layout, divided, (forDisk_valid divided).dataBlocks_eq⟩

/-! ### Agreement -/

/-- The size of a disk for a data area is the size that the area fills. -/
theorem totalBlocksFor?_eq_some_iff :
    totalBlocksFor? dataBlocks = some totalBlocks ↔ Fills dataBlocks totalBlocks := by
  unfold totalBlocksFor?
  constructor
  · intro sized
    obtain ⟨⟨positive, fits⟩, whole⟩ := Option.ite_none_right_eq_some.mp sized
    obtain rfl := Option.some.inj whole
    exact ⟨positive, rfl, fits⟩
  · rintro ⟨positive, rfl, fits⟩
    exact if_pos ⟨positive, fits⟩

/-- A disk is divided exactly if some data area fills it. The area is the only one, and all fields
state the division without loss. The disk that is sized for a data area is divided with that area,
and a superblock is accepted on a disk exactly if it is the one that is planned for the disk. -/
theorem divisions_agree (totalBlocks dataBlocks : Nat) (layout : SuperBlock) :
    ((∃ planned, forDisk totalBlocks = .ok planned) ↔ ∃ data, Fills data totalBlocks) ∧
    (∀ planned, forDisk totalBlocks = .ok planned →
      ∃ data, Fills data totalBlocks ∧ planned.States data totalBlocks ∧
        ∀ other, Fills other totalBlocks → other = data) ∧
    ((¬ ∃ data, Fills data totalBlocks) → forDisk totalBlocks = .error .invalidArgument) ∧
    (totalBlocksFor? dataBlocks = some totalBlocks ↔ Fills dataBlocks totalBlocks) ∧
    (totalBlocksFor? dataBlocks = some totalBlocks →
      forDisk totalBlocks = .ok (forDataBlocks dataBlocks)) ∧
    (layout.validate totalBlocks = .ok () ↔ forDisk totalBlocks = .ok layout) := by
  refine ⟨⟨?_, ?_⟩, fun planned divided => ?_, fun none => ?_, totalBlocksFor?_eq_some_iff,
    fun sized => ?_, ?_⟩
  · rintro ⟨planned, divided⟩
    obtain ⟨data, fills, _⟩ := forDisk_eq_iff.mp divided
    exact ⟨data, fills⟩
  · rintro ⟨data, fills⟩
    exact ⟨_, forDisk_eq_iff.mpr ⟨data, fills, rfl⟩⟩
  · obtain ⟨data, fills, rfl⟩ := forDisk_eq_iff.mp divided
    exact ⟨data, fills, fills.states, fun _ other => fills.unique other⟩
  · cases divided : forDisk totalBlocks with
    | ok planned =>
      obtain ⟨data, fills, _⟩ := forDisk_eq_iff.mp divided
      exact absurd ⟨data, fills⟩ none
    | error cause => rw [eq_invalidArgument_of_forDisk divided]
  · exact forDisk_eq_iff.mpr ⟨dataBlocks, totalBlocksFor?_eq_some_iff.mp sized, rfl⟩
  · rw [validate_eq_ok_iff, valid_iff_fills, forDisk_eq_iff]

/-- With 2048 data blocks a disk has 2051 blocks, and with one more it has 2053. -/
example : forDisk 2051 = .ok ⟨2051, 2, 3, 2048, 1⟩ ∧ forDisk 2052 = .error .invalidArgument ∧
    forDisk 2053 = .ok ⟨2053, 3, 4, 2049, 2⟩ := ⟨rfl, rfl, rfl⟩

end FlatVolume.SuperBlock
