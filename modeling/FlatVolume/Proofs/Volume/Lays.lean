/-
**Which blocks belong to which file.**

`volume.Lays blocks`: every file has a chain of the length that its size needs, `blocks` lists the
chain of each slot, and no block is in two of them. A check accepts a volume exactly when there are
such lists (`check_eq_ok_iff`).

* `Lays.insert`, `Lays.remove`, `Lays.grow`: what creating, deleting and writing do to the lists;
* `strays`: the blocks that are in use and in no chain, which none of the three changes;
* `Lays.count`: unused blocks, blocks of files and stray blocks are together all but block `0`.
-/

import FlatVolume.Proofs.Chain.Check
import FlatVolume.Proofs.Chain.Growth
import FlatVolume.Proofs.Directory.Names
import FlatVolume.Proofs.File.Content
import FlatVolume.Volume.Operations
import Mathlib.Data.List.FinRange
import Mathlib.Data.List.Nodup
import Mathlib.Data.List.Pairwise

namespace FlatVolume.Volume

/-- The lists are the chains of the files, fit their sizes, and share no block. -/
structure Lays (volume : Volume) (blocks : Slot → List BlockId) : Prop where
  chain : ∀ slot, ¬ (volume.directory.get slot).IsFree →
    volume.table.IsChain (volume.directory.get slot).first (blocks slot)
  length : ∀ slot, ¬ (volume.directory.get slot).IsFree →
    (blocks slot).length = blocksFor (volume.directory.get slot).size.toNat
  free : ∀ slot, (volume.directory.get slot).IsFree → blocks slot = []
  disjoint : ∀ first second, first ≠ second → (blocks first).Disjoint (blocks second)

/-- The blocks in use that are in no file's chain, in ascending order. -/
def strays (volume : Volume) : List BlockId :=
  volume.table.links.filter fun id => decide
    (volume.table.entry id ≠ .unused ∧
      ∀ file ∈ volume.directory.files, id ∉ volume.table.chain file.2.first)

/-- The blocks of the file in a slot, as far as its chain goes. -/
def blocksOf (volume : Volume) (slot : Slot) : List BlockId :=
  if (volume.directory.get slot).IsFree then []
  else volume.table.chain (volume.directory.get slot).first

/-- The content of the file in a slot: the bytes of its blocks, as many as its size says. -/
def fileBytes (volume : Volume) (disk : Nat → Block) (slot : Slot) : Bytes :=
  (blockBytes volume.layout disk (volume.blocksOf slot)).take
    (volume.directory.get slot).size.toNat

section Lists

variable {volume : Volume} {blocks : Slot → List BlockId}

theorem mem_files {slot : Slot} {entry : DirEntry} :
    (slot, entry) ∈ volume.directory.files ↔
      volume.directory.get slot = entry ∧ ¬ (volume.directory.get slot).IsFree := by
  simp only [Directory.files, List.mem_filterMap, List.mem_finRange, true_and]
  constructor
  · rintro ⟨other, found⟩
    by_cases free : (volume.directory.get other).IsFree
    · rw [if_pos free] at found
      cases found
    · rw [if_neg free, Option.some.injEq, Prod.mk.injEq] at found
      obtain ⟨rfl, rfl⟩ := found
      exact ⟨rfl, free⟩
  · rintro ⟨rfl, occupied⟩
    exact ⟨slot, if_neg occupied⟩

/-- The chains in the order of the files are those in the order of the slots. -/
theorem flatMap_files (volume : Volume) :
    (volume.directory.files.flatMap fun file => volume.table.chain file.2.first) =
      (List.finRange slotCount).flatMap volume.blocksOf := by
  rw [Directory.files, List.filterMap_eq_flatMap_toList, List.flatMap_assoc]
  refine List.flatMap_congr fun slot _ => ?_
  by_cases free : (volume.directory.get slot).IsFree <;> simp [free, blocksOf]

/-- There is only one way to give blocks to the files. -/
theorem Lays.eq_blocksOf (lays : volume.Lays blocks) : blocks = volume.blocksOf := by
  funext slot
  unfold blocksOf
  by_cases free : (volume.directory.get slot).IsFree
  · rw [if_pos free, lays.free slot free]
  · rw [if_neg free, (lays.chain slot free).chain_eq]

theorem Lays.fileBytes_eq (lays : volume.Lays blocks) (disk : Nat → Block) (slot : Slot) :
    volume.fileBytes disk slot =
      (blockBytes volume.layout disk (blocks slot)).take
        (volume.directory.get slot).size.toNat := by
  rw [fileBytes, ← lays.eq_blocksOf]

/-- The blocks of a file have room for its bytes. -/
theorem Lays.room (lays : volume.Lays blocks) {slot : Slot}
    (occupied : ¬ (volume.directory.get slot).IsFree) :
    (volume.directory.get slot).size.toNat ≤ (blocks slot).length * blockSize :=
  blocksFor_le_iff.mp (Nat.le_of_eq (lays.length slot occupied).symm)

/-- A file has as many bytes as its size says. -/
theorem Lays.length_fileBytes (lays : volume.Lays blocks) {slot : Slot}
    (occupied : ¬ (volume.directory.get slot).IsFree) (disk : Nat → Block) :
    (volume.fileBytes disk slot).length = (volume.directory.get slot).size.toNat := by
  rw [lays.fileBytes_eq, List.length_take, length_blockBytes]
  exact Nat.min_eq_left (lays.room occupied)

/-- A file whose entry and blocks are the same has the same bytes. -/
theorem Lays.fileBytes_congr (lays : volume.Lays blocks) {after : Volume}
    {blocksAfter : Slot → List BlockId} (laysAfter : after.Lays blocksAfter) {disk : Nat → Block}
    {slot : Slot} (layout : after.layout = volume.layout)
    (entry : after.directory.get slot = volume.directory.get slot)
    (same : blocksAfter slot = blocks slot) :
    after.fileBytes disk slot = volume.fileBytes disk slot := by
  rw [lays.fileBytes_eq, laysAfter.fileBytes_eq, layout, entry, same]

/-- No block is in the lists twice. -/
theorem Lays.nodup (lays : volume.Lays blocks) :
    ((List.finRange slotCount).flatMap blocks).Nodup := by
  refine List.nodup_flatMap.mpr ⟨fun slot _ => ?_, ?_⟩
  · by_cases free : (volume.directory.get slot).IsFree
    · rw [lays.free slot free]
      exact List.nodup_nil
    · exact (lays.chain slot free).nodup
  · exact (List.nodup_finRange slotCount).imp fun apart => lays.disjoint _ _ apart

/-- A check accepts a volume exactly when its files have chains of the right lengths that share no
block. -/
theorem check_eq_ok_iff : volume.check = .ok () ↔ ∃ blocks, volume.Lays blocks := by
  rw [check, Table.check_eq_ok_iff, List.flatMap_map, flatMap_files]
  constructor
  · rintro ⟨fits, nodup⟩
    have each : ∀ slot, ¬ (volume.directory.get slot).IsFree →
        volume.table.IsChain (volume.directory.get slot).first (volume.blocksOf slot) ∧
          (volume.blocksOf slot).length = blocksFor (volume.directory.get slot).size.toNat := by
      intro slot occupied
      rw [blocksOf, if_neg occupied]
      exact fits _ (List.mem_map_of_mem (mem_files.mpr ⟨rfl, occupied⟩))
    refine ⟨volume.blocksOf, fun slot occupied => (each slot occupied).1,
      fun slot occupied => (each slot occupied).2, fun slot free => if_pos free, ?_⟩
    intro first second apart
    have symmetric : Std.Symm (Function.onFun List.Disjoint volume.blocksOf) :=
      ⟨fun _ _ disjoint _ member other => disjoint other member⟩
    exact (List.nodup_flatMap.mp nodup).2.forall (List.mem_finRange first)
      (List.mem_finRange second) apart
  · rintro ⟨blocks, lays⟩
    rw [← lays.eq_blocksOf]
    refine ⟨fun file member => ?_, lays.nodup⟩
    obtain ⟨⟨slot, entry⟩, listed, rfl⟩ := List.mem_map.mp member
    obtain ⟨rfl, occupied⟩ := mem_files.mp listed
    have chain := lays.chain slot occupied
    rw [chain.chain_eq]
    exact ⟨chain, lays.length slot occupied⟩

/-- Stray blocks are in use and in none of the lists. -/
theorem Lays.strays_eq (lays : volume.Lays blocks) :
    volume.strays = volume.table.links.filter fun id => decide
      (volume.table.entry id ≠ .unused ∧ ∀ slot, id ∉ blocks slot) := by
  refine List.filter_congr fun id _ => ?_
  rw [decide_eq_decide]
  refine and_congr_right fun _ => ⟨fun none slot member => ?_, fun none file listed member => ?_⟩
  · by_cases free : (volume.directory.get slot).IsFree
    · rw [lays.free slot free] at member
      cases member
    · refine none _ (mem_files.mpr ⟨rfl, free⟩) ?_
      rwa [(lays.chain slot free).chain_eq]
  · obtain ⟨slot, entry⟩ := file
    obtain ⟨rfl, occupied⟩ := mem_files.mp listed
    rw [(lays.chain slot occupied).chain_eq] at member
    exact none slot member

/-- The blocks of files are links of the table. -/
theorem Lays.isLink (lays : volume.Lays blocks) {slot : Slot} {id : BlockId}
    (member : id ∈ blocks slot) :
    id.IsLink volume.table.size ∧ volume.table.entry id ≠ .unused := by
  by_cases free : (volume.directory.get slot).IsFree
  · rw [lays.free slot free] at member
    cases member
  · exact ⟨(lays.chain slot free).isLink_of_mem member,
      (lays.chain slot free).entry_ne_unused member⟩

/-- The blocks that a file has or gets lie apart from those of any other file. -/
theorem Lays.dataBlock_ne (lays : volume.Lays blocks) {slot other : Slot} (apart : other ≠ slot)
    {added : List BlockId} (unused : ∀ id ∈ added, volume.table.entry id = .unused) {id : BlockId}
    (member : id ∈ blocks other) :
    ∀ own ∈ blocks slot ++ added,
      volume.layout.dataBlock id ≠ volume.layout.dataBlock own := by
  intro own inOwn same
  obtain rfl := SuperBlock.dataBlock_inj.mp same
  rcases List.mem_append.mp inOwn with here | new
  · exact lays.disjoint other slot apart member here
  · exact (lays.isLink member).2 (unused id new)

/-- A list is divided by properties of which every element has just one. -/
theorem length_filter_divided {α : Type} {first second third : α → Bool}
    (one : ∀ item, (first item).toNat + (second item).toNat + (third item).toNat = 1)
    (items : List α) :
    (items.filter first).length + (items.filter second).length + (items.filter third).length =
      items.length := by
  induction items with
  | nil => rfl
  | cons item rest hypothesis =>
    have here := one item
    have length : ∀ test : α → Bool, ((item :: rest).filter test).length =
        (test item).toNat + (rest.filter test).length := by
      intro test
      cases holds : test item
      · rw [List.filter_cons_of_neg (by simp [holds])]
        exact (Nat.zero_add _).symm
      · rw [List.filter_cons_of_pos holds, List.length_cons, Nat.add_comm]
        rfl
    rw [length, length, length, List.length_cons]
    omega

/-- Every block but block `0` is unused, belongs to a file, or is a stray one. -/
theorem Lays.count (lays : volume.Lays blocks) (small : volume.table.size ≤ 65535) :
    volume.table.unusedBlocks.length + ((List.finRange slotCount).flatMap blocks).length +
      volume.strays.length = volume.table.size - 1 := by
  have owned : ((List.finRange slotCount).flatMap blocks).length =
      (volume.table.links.filter fun id => decide (∃ slot, id ∈ blocks slot)).length := by
    refine List.Perm.length_eq ((List.perm_ext_iff_of_nodup lays.nodup
      ((Table.nodup_links small).filter _)).mpr fun id => ?_)
    simp only [List.mem_flatMap, List.mem_finRange, true_and, List.mem_filter, decide_eq_true_eq,
      Table.mem_links small]
    exact ⟨fun ⟨slot, member⟩ => ⟨(lays.isLink member).1, slot, member⟩, fun found => found.2⟩
  rw [owned, lays.strays_eq, Table.unusedBlocks, ← Table.length_links]
  refine length_filter_divided (fun id => ?_) volume.table.links
  by_cases unused : volume.table.entry id = .unused
  · have none : ¬ ∃ slot, id ∈ blocks slot := fun ⟨slot, member⟩ => (lays.isLink member).2 unused
    simp [unused, none]
  · by_cases some : ∃ slot, id ∈ blocks slot
    · have notStray : ¬ ∀ slot, id ∉ blocks slot := fun none => some.elim none
      rw [decide_eq_false unused, decide_eq_true some,
        decide_eq_false fun stray => notStray stray.2]
      rfl
    · have isStray : ∀ slot, id ∉ blocks slot := fun slot member => some ⟨slot, member⟩
      rw [decide_eq_false unused, decide_eq_false some, decide_eq_true ⟨unused, isStray⟩]
      rfl

end Lists

/-! ### What the operations do -/

section Change

variable {volume : Volume} {blocks : Slot → List BlockId} {slot : Slot}

/-- Lists and entries may change in one slot if the new list is the chain of the new entry and no
other chain has its blocks. -/
theorem Lays.update (lays : volume.Lays blocks) {table : Table} {entry : DirEntry}
    {own : List BlockId} {descriptors : Descriptors}
    (chain : ¬ entry.IsFree → table.IsChain entry.first own)
    (length : ¬ entry.IsFree → own.length = blocksFor entry.size.toNat)
    (free : entry.IsFree → own = [])
    (apart : ∀ other, other ≠ slot → (blocks other).Disjoint own)
    (frame : ∀ other, other ≠ slot → ∀ id ∈ blocks other, table.entry id = volume.table.entry id)
    (size : table.size = volume.table.size) :
    Lays { volume with table, directory := volume.directory.set slot entry, descriptors }
      (Function.update blocks slot own) := by
  refine ⟨fun other occupied => ?_, fun other occupied => ?_, fun other isFree => ?_,
    fun first second different => ?_⟩
  · by_cases here : other = slot
    · subst here
      rw [Directory.get_set_self] at occupied ⊢
      rw [Function.update_self]
      exact chain occupied
    · rw [Directory.get_set_of_ne here] at occupied ⊢
      rw [Function.update_of_ne here]
      exact (lays.chain other occupied).congr size (frame other here)
  · by_cases here : other = slot
    · subst here
      rw [Directory.get_set_self] at occupied ⊢
      rw [Function.update_self]
      exact length occupied
    · rw [Directory.get_set_of_ne here] at occupied ⊢
      rw [Function.update_of_ne here]
      exact lays.length other occupied
  · by_cases here : other = slot
    · subst here
      rw [Directory.get_set_self] at isFree
      rw [Function.update_self]
      exact free isFree
    · rw [Directory.get_set_of_ne here] at isFree
      rw [Function.update_of_ne here]
      exact lays.free other isFree
  · by_cases firstHere : first = slot <;> by_cases secondHere : second = slot
    · exact absurd (firstHere.trans secondHere.symm) different
    · rw [firstHere, Function.update_self, Function.update_of_ne secondHere]
      exact fun _ inOwn inOther => apart second secondHere inOther inOwn
    · rw [secondHere, Function.update_self, Function.update_of_ne firstHere]
      exact apart first firstHere
    · rw [Function.update_of_ne firstHere, Function.update_of_ne secondHere]
      exact lays.disjoint first second different

/-- The blocks of a file are changed without making or losing a stray block if no other block comes
into use or goes out of it. -/
theorem Lays.strays_update (lays : volume.Lays blocks) {after : Volume} {own : List BlockId}
    (laysAfter : after.Lays (Function.update blocks slot own))
    (size : after.table.size = volume.table.size)
    (outside : ∀ id, id ∉ blocks slot → id ∉ own →
      (after.table.entry id = .unused ↔ volume.table.entry id = .unused))
    (lost : ∀ id ∈ blocks slot, id ∉ own → after.table.entry id = .unused)
    (won : ∀ id ∈ own, id ∉ blocks slot → volume.table.entry id = .unused) :
    after.strays = volume.strays := by
  rw [lays.strays_eq, laysAfter.strays_eq, Table.links_congr size]
  have others : ∀ id, (∀ other, id ∉ Function.update blocks slot own other) ↔
      id ∉ own ∧ ∀ other, other ≠ slot → id ∉ blocks other := by
    intro id
    constructor
    · intro none
      refine ⟨by simpa using none slot, fun other apart => ?_⟩
      have notIn := none other
      rwa [Function.update_of_ne apart] at notIn
    · rintro ⟨notOwn, none⟩ other
      by_cases here : other = slot
      · rw [here, Function.update_self]
        exact notOwn
      · rw [Function.update_of_ne here]
        exact none other here
  refine List.filter_congr fun id _ => ?_
  rw [decide_eq_decide, others]
  constructor
  · rintro ⟨used, notOwn, none⟩
    have notHere : id ∉ blocks slot := fun member => used (lost id member notOwn)
    refine ⟨mt (outside id notHere notOwn).mpr used, fun other => ?_⟩
    by_cases here : other = slot
    · rwa [here]
    · exact none other here
  · rintro ⟨used, none⟩
    have notOwn : id ∉ own := fun member => used (won id member (none slot))
    exact ⟨mt (outside id (none slot) notOwn).mp used, notOwn, fun other _ => none other⟩

/-- A new file has no blocks. -/
theorem Lays.insert (lays : volume.Lays blocks) {directory : Directory} {name : String}
    (inserted : volume.directory.insert name = .ok (slot, directory)) :
    Lays { volume with directory } blocks ∧
      strays { volume with directory } = volume.strays := by
  obtain ⟨_, found, rfl⟩ := Directory.insert_eq_ok_iff.mp inserted
  have none : blocks slot = [] := lays.free slot (Directory.of_freeSlot?_eq_some found)
  have same : Function.update blocks slot [] = blocks := by
    rw [← none, Function.update_eq_self]
  have after : Lays { volume with directory := volume.directory.set slot (.new name) }
      (Function.update blocks slot []) := by
    refine lays.update (fun _ => .nil _) (fun _ => ?_) (fun _ => rfl)
      (fun _ _ _ _ member => by cases member) (fun _ _ _ _ => rfl) rfl
    exact (blocksFor_eq_zero_iff.mpr rfl).symm
  refine ⟨same ▸ after, lays.strays_update after rfl (fun _ _ _ => .rfl) ?_ ?_⟩
  · rw [none]
    exact fun _ member => by cases member
  · exact fun _ member => by cases member

/-- A deleted file gives its blocks back. -/
theorem Lays.remove (lays : volume.Lays blocks) (slot : Slot) :
    Lays { volume with
        table := volume.table.discard (blocks slot)
        directory := volume.directory.remove slot } (Function.update blocks slot []) ∧
      strays { volume with
        table := volume.table.discard (blocks slot)
        directory := volume.directory.remove slot } = volume.strays := by
  have links : ∀ id ∈ blocks slot, id.IsLink volume.table.size :=
    fun id member => (lays.isLink member).1
  have after : Lays { volume with
      table := volume.table.discard (blocks slot)
      directory := volume.directory.remove slot } (Function.update blocks slot []) := by
    refine lays.update (fun occupied => absurd DirEntry.isFree_empty occupied)
      (fun occupied => absurd DirEntry.isFree_empty occupied) (fun _ => rfl)
      (fun _ _ _ _ member => by cases member) (fun other apart id member => ?_)
      (Table.size_discard ..)
    rw [Table.entry_discard links, if_neg (lays.disjoint other slot apart member)]
  refine ⟨after, lays.strays_update after (Table.size_discard ..) ?_ ?_ ?_⟩
  · intro id notHere _
    show (volume.table.discard (blocks slot)).entry id = .unused ↔ _
    rw [Table.entry_discard links, if_neg notHere]
  · intro id member _
    show (volume.table.discard (blocks slot)).entry id = .unused
    rw [Table.entry_discard links, if_pos member]
  · exact fun _ member => by cases member

/-- A file that grows gets blocks that were unused. -/
theorem Lays.grow (lays : volume.Lays blocks) {table : Table} {entry : DirEntry}
    {added : List BlockId} {descriptors : Descriptors}
    (occupied : ¬ (volume.directory.get slot).IsFree)
    (name : entry.nameField = (volume.directory.get slot).nameField)
    (grown : volume.table.Grown table (volume.directory.get slot).first (blocks slot) entry.first
      added)
    (length : (blocks slot ++ added).length = blocksFor entry.size.toNat) :
    Lays { volume with table, directory := volume.directory.set slot entry, descriptors }
        (Function.update blocks slot (blocks slot ++ added)) ∧
      strays { volume with table, directory := volume.directory.set slot entry, descriptors } =
        volume.strays := by
  have stillOccupied : ¬ entry.IsFree := mt (DirEntry.isFree_congr name).mp occupied
  have frame : ∀ id, id ∉ blocks slot → id ∉ added → table.entry id = volume.table.entry id :=
    fun id notHere notAdded => grown.frame id notAdded fun last =>
      notHere (List.mem_of_getLast? last)
  have notAdded : ∀ other, ∀ id ∈ blocks other, id ∉ added :=
    fun other id member inAdded => (lays.isLink member).2 (grown.unused id inAdded).2
  have after : Lays { volume with
      table, directory := volume.directory.set slot entry, descriptors }
      (Function.update blocks slot (blocks slot ++ added)) := by
    refine lays.update (fun _ => grown.chain) (fun _ => length) (absurd · stillOccupied)
      (fun other apart id inOther inOwn => ?_) (fun other apart id member => ?_) grown.size
    · rcases List.mem_append.mp inOwn with here | inAdded
      · exact lays.disjoint other slot apart inOther here
      · exact notAdded other id inOther inAdded
    · exact frame id (lays.disjoint other slot apart member) (notAdded other id member)
  refine ⟨after, lays.strays_update after grown.size ?_ ?_ ?_⟩
  · intro id notHere notOwn
    rw [List.mem_append, not_or] at notOwn
    show table.entry id = .unused ↔ _
    rw [frame id notHere notOwn.2]
  · exact fun id member notOwn => absurd (List.mem_append_left _ member) notOwn
  · intro id member notHere
    exact (grown.unused id ((List.mem_append.mp member).resolve_left notHere)).2

end Change

end FlatVolume.Volume
