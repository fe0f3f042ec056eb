/-
**The blocks that can be given away.**

`links` lists the blocks of a table that a chain can visit, in ascending order, and `unusedBlocks`
those of them that no chain holds.

* `alloc_eq`: giving a block away takes the first of the unused blocks;
* `unusedBlocks_setEntry`: a block that is put to use leaves the list, and the others stay in order;
* `lowest_take`: a start of the list has the lowest unused blocks;
* `freeCount_eq`: they are as many as the table counts, unless block `0` is unused too.
-/

import FlatVolume.Proofs.Chain.Path
import FlatVolume.Table.Allocation

namespace FlatVolume.Table

/-- The blocks of the table that a chain can visit, in ascending order. -/
def links (table : Table) : List BlockId :=
  (List.range' 1 (table.size - 1)).map BlockId.ofNat

/-- The blocks that can be given away, in ascending order. -/
def unusedBlocks (table : Table) : List BlockId :=
  table.links.filter fun id => decide (table.entry id = .unused)

/-! ### Entries -/

section Entries

variable {table other : Table} {id : BlockId}

/-- Tables are equal if they have the same entries and no entry is out of reach of a number. -/
theorem ext_entry (small : table.size ≤ 65536) (size : other.size = table.size)
    (same : ∀ id : BlockId, id.toNat < table.size → other.entry id = table.entry id) :
    other = table := by
  obtain ⟨entries⟩ := table
  obtain ⟨others⟩ := other
  congr 1
  refine Array.ext size fun index inOther inside => ?_
  have below : index < 65536 := Nat.lt_of_lt_of_le inside small
  have number : (BlockId.ofNat index).toNat = index := by
    rw [BlockId.toNat_ofNat, Nat.mod_eq_of_lt below]
  have agree := same (.ofNat index) (by rwa [number])
  simpa [entry, number, Array.getD_eq_getD_getElem?, inOther, inside] using agree

theorem setEntry_entry_self (inside : id.toNat < table.size) (value : BlockId) :
    (table.setEntry id value).entry id = value := by
  rw [entry_setEntry table value id inside, if_pos rfl]

theorem setEntry_entry_of_ne {other : BlockId} (inside : id.toNat < table.size) (value : BlockId)
    (apart : other ≠ id) : (table.setEntry id value).entry other = table.entry other := by
  rw [entry_setEntry table value other inside, if_neg apart.symm]

end Entries

/-! ### The lists -/

section Lists

variable {table : Table} {id : BlockId}

theorem mem_links (small : table.size ≤ 65535) : id ∈ table.links ↔ id.IsLink table.size := by
  simp only [links, List.mem_map, List.mem_range'_1, BlockId.IsLink]
  constructor
  · rintro ⟨number, ⟨positive, below⟩, rfl⟩
    have same : (BlockId.ofNat number).toNat = number := by
      rw [BlockId.toNat_ofNat, Nat.mod_eq_of_lt (by omega)]
    refine ⟨?_, ?_, by omega⟩ <;> rintro equal <;> rw [equal] at same
    · have zero : BlockId.unused.toNat = 0 := rfl
      omega
    · have last : BlockId.endOfChain.toNat = 65535 := rfl
      omega
  · rintro ⟨isUsed, _, below⟩
    refine ⟨id.toNat, ⟨?_, by omega⟩, BlockId.ofNat_toNat id⟩
    have zero : BlockId.unused.toNat = 0 := rfl
    have apart : id.toNat ≠ 0 := fun equal => isUsed (BlockId.toNat_inj.mp (equal.trans zero.symm))
    omega

theorem nodup_links (small : table.size ≤ 65535) : table.links.Nodup := by
  refine List.Nodup.map_on ?_ List.nodup_range'
  intro first firstIn second secondIn same
  rw [List.mem_range'_1] at firstIn secondIn
  have numbers := congrArg BlockId.toNat same
  rwa [BlockId.toNat_ofNat, BlockId.toNat_ofNat, Nat.mod_eq_of_lt (by omega),
    Nat.mod_eq_of_lt (by omega)] at numbers

@[simp] theorem length_links (table : Table) : table.links.length = table.size - 1 := by
  simp [links]

theorem mem_unusedBlocks (small : table.size ≤ 65535) :
    id ∈ table.unusedBlocks ↔ id.IsLink table.size ∧ table.entry id = .unused := by
  rw [unusedBlocks, List.mem_filter, mem_links small, decide_eq_true_eq]

theorem nodup_unusedBlocks (small : table.size ≤ 65535) : table.unusedBlocks.Nodup :=
  (nodup_links small).filter _

theorem links_congr {other : Table} (size : other.size = table.size) :
    other.links = table.links := by
  rw [links, links, size]

/-- The blocks are the lowest unused ones, in ascending order. -/
structure Lowest (table : Table) (count : Nat) (blocks : List BlockId) : Prop where
  length : blocks.length = count
  ascending : blocks.Pairwise fun first second => first.toNat < second.toNat
  unused : ∀ id ∈ blocks, id.IsLink table.size ∧ table.entry id = .unused
  least : ∀ id : BlockId, id.IsLink table.size → table.entry id = .unused → id ∉ blocks →
    ∀ other ∈ blocks, other.toNat < id.toNat

theorem ascending_links (small : table.size ≤ 65535) :
    table.links.Pairwise fun first second => first.toNat < second.toNat := by
  refine List.pairwise_map.mpr (List.Pairwise.imp_of_mem ?_ List.pairwise_lt_range')
  intro first second firstIn secondIn less
  rw [List.mem_range'_1] at firstIn secondIn
  rwa [BlockId.toNat_ofNat, BlockId.toNat_ofNat, Nat.mod_eq_of_lt (by omega),
    Nat.mod_eq_of_lt (by omega)]

/-- The list of unused blocks starts with the lowest ones. -/
theorem lowest_take (small : table.size ≤ 65535) {count : Nat}
    (enough : count ≤ table.unusedBlocks.length) :
    table.Lowest count (table.unusedBlocks.take count) := by
  have ascending := (ascending_links small).filter fun id => decide (table.entry id = .unused)
  change table.unusedBlocks.Pairwise _ at ascending
  refine ⟨by rw [List.length_take, Nat.min_eq_left enough],
    ascending.sublist (List.take_sublist ..),
    fun id member => (mem_unusedBlocks small).mp (List.mem_of_mem_take member),
    fun id isLink unused notIn other member => ?_⟩
  have later : id ∈ table.unusedBlocks.drop count := by
    have here := (mem_unusedBlocks small).mpr ⟨isLink, unused⟩
    rw [← List.take_append_drop count table.unusedBlocks] at here
    exact (List.mem_append.mp here).resolve_left notIn
  rw [← List.take_append_drop count table.unusedBlocks] at ascending
  exact (List.pairwise_append.mp ascending).2.2 other member id later

/-- A block that is put to use leaves the list of unused blocks. -/
theorem unusedBlocks_setEntry {value : BlockId} (inside : id.toNat < table.size)
    (used : value ≠ .unused) :
    (table.setEntry id value).unusedBlocks = table.unusedBlocks.filter fun other => other ≠ id := by
  rw [unusedBlocks, unusedBlocks, List.filter_filter, links_congr (size_setEntry ..)]
  refine List.filter_congr fun other _ => ?_
  by_cases same : other = id
  · subst same
    simp [setEntry_entry_self inside, used]
  · simp [setEntry_entry_of_ne inside value same, same]

/-- The list of unused blocks is not changed by the entry of a block that is in use and stays so. -/
theorem unusedBlocks_setEntry_of_used {value : BlockId} (inside : id.toNat < table.size)
    (used : value ≠ .unused) (before : table.entry id ≠ .unused) :
    (table.setEntry id value).unusedBlocks = table.unusedBlocks := by
  rw [unusedBlocks_setEntry inside used]
  refine List.filter_eq_self.mpr fun other member => ?_
  rw [unusedBlocks, List.mem_filter, decide_eq_true_eq] at member
  simp only [ne_eq, decide_not, Bool.not_eq_eq_eq_not, Bool.not_true, decide_eq_false_iff_not]
  rintro rfl
  exact before member.2

end Lists

/-! ### Giving a block away -/

section Alloc

variable {table : Table}

theorem firstUnusedWithin_eq (table : Table) (index count : Nat) :
    table.firstUnusedWithin index count = (List.range' index count).find? fun index =>
      decide (table.entries.getD index .endOfChain = .unused) := by
  induction count generalizing index with
  | zero => rfl
  | succ count hypothesis =>
    rw [firstUnusedWithin, List.range'_succ, List.find?_cons, hypothesis]
    by_cases isUnused : table.entries.getD index .endOfChain = .unused
    · rw [if_pos isUnused, decide_eq_true isUnused]
    · rw [if_neg isUnused, decide_eq_false isUnused]

/-- The first of the unused blocks is the one that is given away. -/
theorem firstUnused?_eq (small : table.size ≤ 65535) :
    table.firstUnused?.map BlockId.ofNat = table.unusedBlocks.head? := by
  rw [unusedBlocks, links, List.filter_map, List.head?_map, firstUnused?, firstUnusedWithin_eq,
    ← List.head?_filter]
  congr 2
  refine List.filter_congr fun index member => ?_
  have bounds := List.mem_range'_1.mp member
  have least : BlockId.least.toNat = 1 := rfl
  have number : (BlockId.ofNat index).toNat = index := by
    rw [BlockId.toNat_ofNat, Nat.mod_eq_of_lt (by omega)]
  have inside : index < table.entries.size := by
    have : table.size = table.entries.size := rfl
    omega
  simp [entry, number, Array.getD_eq_getD_getElem?, inside]

/-- The unused blocks are given away in ascending order, each as the end of a chain. -/
theorem alloc_eq (small : table.size ≤ 65535) :
    alloc table =
      match table.unusedBlocks with
      | [] => .error .outOfSpace table
      | id :: _ => .ok id (table.setEntry id .endOfChain) := by
  have first := firstUnused?_eq small
  unfold alloc
  cases found : table.firstUnused? with
  | none =>
    rw [found, Option.map_none] at first
    rw [List.head?_eq_none_iff.mp first.symm]
  | some index =>
    rw [found, Option.map_some] at first
    obtain ⟨rest, list⟩ := List.head?_eq_some_iff.mp first.symm
    rw [list]
    have member : BlockId.ofNat index ∈ table.unusedBlocks := list ▸ List.mem_cons_self
    have bounds : 1 ≤ index ∧ index < table.size := by
      rw [firstUnused?, firstUnusedWithin_eq] at found
      have range := List.mem_range'_1.mp (List.mem_of_find?_eq_some found)
      have least : BlockId.least.toNat = 1 := rfl
      omega
    have number : (BlockId.ofNat index).toNat = index := by
      rw [BlockId.toNat_ofNat, Nat.mod_eq_of_lt (by omega)]
    simp only [setEntry, number]

/-- The first of the unused blocks leaves the list when it is put to use. -/
theorem unusedBlocks_setEntry_head {id value : BlockId} {rest : List BlockId}
    (small : table.size ≤ 65535) (list : table.unusedBlocks = id :: rest)
    (used : value ≠ .unused) : (table.setEntry id value).unusedBlocks = rest := by
  have member : id ∈ table.unusedBlocks := list ▸ List.mem_cons_self
  have inside := ((mem_unusedBlocks small).mp member).1.toNat_lt
  have distinct := nodup_unusedBlocks small
  rw [list] at distinct
  rw [unusedBlocks_setEntry inside used, list, List.filter_cons_of_neg (by simp)]
  refine List.filter_eq_self.mpr fun other inRest => ?_
  simp only [ne_eq, decide_not, Bool.not_eq_eq_eq_not, Bool.not_true, decide_eq_false_iff_not]
  rintro rfl
  exact (List.nodup_cons.mp distinct).1 inRest

end Alloc

/-- The entries in the order of the numbers. -/
theorem toList_entries (table : Table) (small : table.size ≤ 65536) :
    table.entries.toList = (List.range table.size).map fun index => table.entry (.ofNat index) := by
  refine List.ext_getElem (by simp [size]) fun index inside _ => ?_
  rw [Array.length_toList] at inside
  have number : (BlockId.ofNat index).toNat = index := by
    rw [BlockId.toNat_ofNat, Nat.mod_eq_of_lt (Nat.lt_of_lt_of_le inside small)]
  simp [entry, number, Array.getD_eq_getD_getElem?, inside]

/-- The unused blocks are as many as the table counts when block `0` is in use. -/
theorem freeCount_eq {table : Table} (small : table.size ≤ 65535)
    (reserved : table.entry .unused ≠ .unused) :
    table.freeCount = table.unusedBlocks.length := by
  have positive : 0 < table.size := by
    by_contra empty
    refine reserved ?_
    have none : table.entries.size = 0 := by
      have : table.size = table.entries.size := rfl
      omega
    simp [entry, Array.getD_eq_getD_getElem?, none]
  have zero : BlockId.ofNat 0 = .unused := rfl
  obtain ⟨rest, size⟩ := Nat.exists_eq_add_of_lt positive
  rw [Nat.zero_add] at size
  rw [freeCount, ← Array.countP_toList, toList_entries table (by omega), List.countP_map,
    unusedBlocks, links, List.filter_map, List.length_map, ← List.countP_eq_length_filter,
    size, List.range_eq_range', List.range'_succ, List.countP_cons_of_neg]
  · rfl
  · simpa [zero] using reserved

end FlatVolume.Table
