/-
**Archives as dictionaries.**

`Archive.Keeps`: the named byte strings in the slots are those of a dictionary in some order, the
blocks add up, and no descriptor is in use. Names then lead to the same byte strings in both
(`Keeps.lookup`), and filling a slot or emptying it is adding or removing a name (`Keeps.insert`,
`Keeps.remove`).
-/

import FlatVolume.Proofs.Dictionary.Basic
import FlatVolume.Proofs.Isolation.Serve

namespace FlatVolume

/-- In a list of distinct names each name leads to what stands beside it. -/
theorem lookup_eq_some_iff_mem {files : List (String × Bytes)}
    (distinct : (files.map Prod.fst).Nodup) {name : String} {bytes : Bytes} :
    files.lookup name = some bytes ↔ (name, bytes) ∈ files := by
  induction files with
  | nil => exact iff_of_false nofun nofun
  | cons file rest hypothesis =>
    obtain ⟨other, content⟩ := file
    rw [List.map_cons, List.nodup_cons] at distinct
    rw [List.lookup_cons, List.mem_cons, Prod.mk.injEq]
    by_cases same : name = other
    · subst same
      have fresh : (name, bytes) ∉ rest := fun member =>
        distinct.1 (List.mem_map.mpr ⟨_, member, rfl⟩)
      simp [fresh, eq_comm]
    · have differs : (name == other) = false := beq_eq_false_iff_ne.mpr same
      simp [differs, same, hypothesis distinct.2]

namespace Archive

variable {archive : Archive} {slot : Slot} {name : String} {bytes : Bytes}

/-- The named byte strings in the order of their slots. -/
def entries (archive : Archive) : List (String × Bytes) :=
  (List.finRange slotCount).filterMap fun slot =>
    (archive.files slot).map fun file => (file.name, file.bytes)

theorem mem_entries :
    (name, bytes) ∈ archive.entries ↔ ∃ slot, archive.files slot = some ⟨name, bytes⟩ := by
  rw [entries, List.mem_filterMap]
  refine exists_congr fun slot => ?_
  rw [Option.map_eq_some_iff]
  constructor
  · rintro ⟨_, file, held, same⟩
    obtain ⟨rfl, rfl⟩ := Prod.mk.inj same
    exact held
  · exact fun held => ⟨List.mem_finRange slot, _, held, rfl⟩

/-- No two slots have one name. -/
theorem Tidy.names_nodup (tidy : archive.Tidy) : (archive.entries.map Prod.fst).Nodup := by
  rw [entries, List.map_filterMap]
  refine (List.nodup_finRange slotCount).filterMap fun first second name firstHas secondHas => ?_
  simp only [Option.map_map, Option.mem_def, Option.map_eq_some_iff] at firstHas secondHas
  obtain ⟨file, held, rfl⟩ := firstHas
  obtain ⟨other, otherHeld, same⟩ := secondHas
  exact tidy.distinct held otherHeld same.symm

/-- A slot that is filled adds its byte string to those of the other slots. -/
theorem entries_setFile_some (archive : Archive) (slot : Slot) (file : File) :
    (archive.setFile slot (some file)).entries.Perm
      ((file.name, file.bytes) :: (archive.setFile slot none).entries) := by
  have first := List.perm_cons_erase (List.mem_finRange slot)
  have apart : ∀ other ∈ (List.finRange slotCount).erase slot, other ≠ slot := by
    rintro other member rfl
    exact (List.nodup_finRange slotCount).not_mem_erase member
  have others : ∀ held : Option File, ((List.finRange slotCount).erase slot).filterMap
      (fun other => ((archive.setFile slot held).files other).map
        fun file => (file.name, file.bytes)) =
      ((List.finRange slotCount).erase slot).filterMap
        fun other => (archive.files other).map fun file => (file.name, file.bytes) :=
    fun held => List.filterMap_congr fun other member =>
      congrArg (Option.map _) (Function.update_of_ne (apart other member) ..)
  have filled := first.filterMap fun other =>
    ((archive.setFile slot (some file)).files other).map fun file => (file.name, file.bytes)
  have emptied := first.filterMap fun other =>
    ((archive.setFile slot none).files other).map fun file => (file.name, file.bytes)
  rw [List.filterMap_cons_some (b := (file.name, file.bytes)) (by simp [setFile]), others] at filled
  rw [List.filterMap_cons_none (by simp [setFile]), others] at emptied
  exact filled.trans (emptied.symm.cons _)

/-- All slots are taken when there are as many byte strings as slots. -/
theorem freeSlot?_eq_none_iff : archive.freeSlot? = none ↔ slotCount ≤ archive.entries.length := by
  have count : archive.entries.length = (List.finRange slotCount).countP fun slot =>
      (archive.files slot).isSome := by
    rw [entries, List.length_filterMap_eq_countP]
    simp only [Option.isSome_map]
  have full := List.countP_eq_length (p := fun slot => (archive.files slot).isSome)
    (l := List.finRange slotCount)
  have most := List.countP_le_length (p := fun slot => (archive.files slot).isSome)
    (l := List.finRange slotCount)
  rw [List.length_finRange] at full most
  rw [freeSlot?, List.find?_eq_none, count]
  constructor
  · intro taken
    refine Nat.le_of_eq (full.mpr fun slot member => ?_).symm
    simpa [Option.isSome_iff_ne_none] using taken slot member
  · intro enough slot member
    have all := full.mp (Nat.le_antisymm most enough) slot member
    simpa [Option.isSome_iff_ne_none] using all

/-! ### The dictionary of an archive -/

/-- The named byte strings are those of the dictionary, the blocks add up, and nothing is open. -/
structure Keeps (archive : Archive) (dictionary : Dictionary) : Prop where
  entries : archive.entries.Perm dictionary.files
  blocks : archive.free + dictionary.used + 1 = dictionary.dataBlocks
  closed : archive.descriptors = fun _ => none

variable {dictionary : Dictionary}

/-- Nothing is kept by an archive without files, of which all blocks but the first are left. -/
theorem keeps_empty {dataBlocks : Nat} (positive : 1 ≤ dataBlocks) :
    Keeps ⟨fun _ => none, fun _ => none, dataBlocks - 1⟩ (.empty dataBlocks) where
  entries := by
    have none : entries ⟨fun _ => none, fun _ => none, dataBlocks - 1⟩ = [] :=
      List.filterMap_eq_nil_iff.mpr fun _ _ => rfl
    rw [none]
    exact .nil
  blocks := by
    show dataBlocks - 1 + 0 + 1 = dataBlocks
    omega
  closed := rfl

theorem Keeps.free_eq (keeps : archive.Keeps dictionary) : archive.free = dictionary.free := by
  have blocks := keeps.blocks
  rw [Dictionary.free]
  omega

theorem Keeps.names_nodup (keeps : archive.Keeps dictionary) (tidy : archive.Tidy) :
    (dictionary.files.map Prod.fst).Nodup :=
  (keeps.entries.map Prod.fst).nodup_iff.mp tidy.names_nodup

/-- A name leads to the same byte string. -/
theorem Keeps.files_lookup (keeps : archive.Keeps dictionary) (tidy : archive.Tidy)
    (name : String) : dictionary.files.lookup name = (archive.find? name).map archive.bytesIn := by
  show _ = archive.cabinet.files name
  refine Option.ext fun bytes => ?_
  rw [lookup_eq_some_iff_mem (keeps.names_nodup tidy), ← keeps.entries.mem_iff, mem_entries,
    cabinet_files_eq_some_iff tidy]

theorem Keeps.lookup (keeps : archive.Keeps dictionary) (tidy : archive.Tidy) (name : String) :
    dictionary.lookup name = (archive.lookup name).map archive.bytesIn := by
  rw [← cabinet_lookup, Dictionary.lookup]
  exact congrArg (lookupIn · name) (funext (keeps.files_lookup tidy))

/-- A new name takes an empty slot, and its byte string takes blocks that are left. -/
theorem Keeps.insert (keeps : archive.Keeps dictionary) (empty : archive.files slot = none)
    {free : Nat} (blocks : free + blocksFor bytes.length = archive.free) :
    Keeps { archive.setFile slot (some ⟨name, bytes⟩) with free }
      { dictionary with files := dictionary.files ++ [(name, bytes)] } where
  entries := by
    have same : archive.setFile slot none = archive := by
      rw [setFile, ← empty, Function.update_eq_self]
    have filled := archive.entries_setFile_some slot ⟨name, bytes⟩
    rw [same] at filled
    exact (filled.trans (keeps.entries.cons _)).trans (List.perm_append_singleton _ _).symm
  blocks := by
    have total := keeps.blocks
    simp only [Dictionary.used, List.map_append, List.map_cons, List.map_nil,
      List.sum_append, List.sum_cons, List.sum_nil] at total ⊢
    omega
  closed := keeps.closed

/-- A name that is removed leaves its slot and its blocks. -/
theorem Keeps.remove (keeps : archive.Keeps dictionary) (tidy : archive.Tidy)
    (held : archive.files slot = some ⟨name, bytes⟩) :
    Keeps { archive.setFile slot none with free := archive.free + blocksFor bytes.length }
      { dictionary with files := dictionary.files.filter fun file => file.1 ≠ name } := by
  have same : archive.setFile slot (some ⟨name, bytes⟩) = archive := by
    rw [setFile, ← held, Function.update_eq_self]
  have split := archive.entries_setFile_some slot ⟨name, bytes⟩
  rw [same] at split
  -- The other names differ from the one that is removed.
  have distinct := (split.map Prod.fst).nodup_iff.mp tidy.names_nodup
  rw [List.map_cons, List.nodup_cons] at distinct
  have others : ((name, bytes) :: (archive.setFile slot none).entries).filter
      (fun file => file.1 ≠ name) = (archive.setFile slot none).entries := by
    rw [List.filter_cons_of_neg (by simp)]
    refine List.filter_eq_self.mpr fun file member => ?_
    have apart : file.1 ≠ name := fun equal => distinct.1 (List.mem_map.mpr ⟨file, member, equal⟩)
    simpa using apart
  have files := keeps.entries.symm.trans split
  have rest := files.filter fun file => decide (file.1 ≠ name)
  rw [others] at rest
  refine ⟨rest.symm, ?_, keeps.closed⟩
  have before := (files.map fun file => blocksFor file.2.length).sum_nat
  have after := (rest.map fun file => blocksFor file.2.length).sum_nat
  have total := keeps.blocks
  simp only [Dictionary.used, List.map_cons, List.sum_cons] at before after total ⊢
  omega

/-! ### Deleting -/

/-- Deleting a file removes its name, and both fail for the same reason. -/
theorem Keeps.delete (keeps : archive.Keeps dictionary) (tidy : archive.Tidy) (name : String) :
    match archive.delete name with
    | .ok (_, next) => ∃ after, dictionary.remove name = .ok after ∧ next.Keeps after
    | .error cause => dictionary.remove name = .error cause := by
  simp only [Archive.delete, Dictionary.remove, keeps.lookup tidy]
  cases looked : archive.lookup name with
  | error cause => exact rfl
  | ok slot =>
    obtain ⟨bytes, held⟩ := of_lookup_eq_ok looked
    simp only [bind, Except.bind, Except.map, if_neg (not_isOpen_of_closed keeps.closed slot),
      bytesIn_of_files held]
    exact ⟨_, rfl, keeps.remove tidy held⟩

/-! ### Opening -/

/-- Where nothing is open, the first descriptor is the lowest unused one. -/
theorem unused?_of_closed (closed : archive.descriptors = fun _ => none) :
    archive.unused? = some ⟨0, by decide⟩ := by
  rw [unused?, closed]
  decide

/-- Opening a file finds the byte string of the name. -/
theorem Keeps.openFile (keeps : archive.Keeps dictionary) (tidy : archive.Tidy) (name : String) :
    match archive.openFile name with
    | .ok (reply, next) => ∃ slot, dictionary.lookup name = .ok (archive.bytesIn slot) ∧
      reply = .descriptor 0 ∧ next = archive.setDescriptor 0 (some ⟨slot, 0⟩)
    | .error cause => dictionary.lookup name = .error cause := by
  simp only [Archive.openFile, keeps.lookup tidy, unused?_of_closed keeps.closed]
  cases archive.lookup name with
  | error cause => exact rfl
  | ok slot => exact ⟨slot, rfl, rfl, rfl⟩

/-! ### Adding, call by call -/

theorem Keeps.add_of_create_error (keeps : archive.Keeps dictionary) (tidy : archive.Tidy)
    {cause : VolumeError} (refused : archive.create name = .error cause) (data : Bytes) :
    dictionary.add name data = .error cause := by
  unfold create at refused
  rw [Dictionary.add, keeps.files_lookup tidy, Option.isSome_map]
  split at refused
  · rename_i isName
    rw [if_neg (not_not.mpr isName)]
    split at refused
    · rename_i taken
      rw [if_pos taken, Except.error.inj refused]
    · rename_i fresh
      split at refused
      · cases refused
      · rename_i full
        rw [freeSlot?_eq_none_iff, keeps.entries.length_eq] at full
        rw [if_neg fresh, if_pos full, Except.error.inj refused]
  · rename_i noName
    rw [if_pos noName, Except.error.inj refused]

/-- The number of blocks that are taken by as much of a byte string as there is room for. -/
theorem blocksFor_min (length free : Nat) :
    blocksFor (min length (free * blockSize)) = min (blocksFor length) free := by
  simp only [blocksFor, blockSize]
  omega

/-- A new file has an empty slot, and then a dictionary can take the name if the data is not too
long. -/
theorem Keeps.add_of_create (keeps : archive.Keeps dictionary) (tidy : archive.Tidy)
    {reply : Reply} {first : Archive} (created : archive.create name = .ok (reply, first)) :
    ∃ slot, archive.files slot = none ∧ first = archive.setFile slot (some ⟨name, []⟩) ∧
      IsFileName name ∧
      ∀ data : Bytes, dictionary.add name data =
        if maxFileSize < data.length then .error .invalidArgument
        else
          let count := min data.length (archive.free * blockSize)
          .ok (count,
            { dictionary with files := dictionary.files ++ [(name, data.take count)] }) := by
  unfold create at created
  split at created
  · rename_i isName
    split at created
    · cases created
    · rename_i fresh
      split at created
      · rename_i slot found
        refine ⟨slot, of_freeSlot?_eq_some found, (Prod.mk.inj (Except.ok.inj created)).2.symm,
          isName, fun data => ?_⟩
        have roomy : ¬ slotCount ≤ dictionary.files.length := by
          rw [← keeps.entries.length_eq, ← freeSlot?_eq_none_iff, found]
          nofun
        rw [Dictionary.add, if_neg (not_not.mpr isName), keeps.files_lookup tidy,
          Option.isSome_map, if_neg fresh, if_neg roomy, keeps.free_eq]
      · cases created
  · cases created

section New

variable {data : Bytes}

/-- The archive with a new empty file that is open. -/
def withNew (archive : Archive) (slot : Slot) (name : String) : Archive :=
  (archive.setFile slot (some ⟨name, []⟩)).setDescriptor 0 (some ⟨slot, 0⟩)

/-- The archive with a new file of the given bytes, for which there are blocks enough. -/
def withFile (archive : Archive) (slot : Slot) (name : String) (bytes : Bytes) : Archive :=
  { archive.setFile slot (some ⟨name, bytes⟩) with free := archive.free - blocksFor bytes.length }

theorem openFile_new (closed : archive.descriptors = fun _ => none) (isName : IsFileName name)
    (tidy : (archive.setFile slot (some ⟨name, []⟩)).Tidy) :
    (archive.setFile slot (some ⟨name, []⟩)).openFile name =
      .ok (.descriptor 0, archive.withNew slot name) := by
  have found : (archive.setFile slot (some ⟨name, []⟩)).find? name = some slot :=
    (find?_eq_some_iff tidy).mpr ⟨[], Function.update_self ..⟩
  have looked : (archive.setFile slot (some ⟨name, []⟩)).lookup name = .ok slot := by
    rw [lookup, if_pos isName, found]
  have unused : (archive.setFile slot (some ⟨name, []⟩)).unused? = some ⟨0, by decide⟩ :=
    unused?_of_closed closed
  simp only [openFile, looked, unused, bind, Except.bind]
  rfl

/-- Data that is written to a new file is put down as far as there is room. -/
theorem write_new (archive : Archive) (slot : Slot) (name : String) (data : Bytes) :
    (archive.withNew slot name).write 0 data =
      if maxFileSize < data.length then .error .invalidArgument
      else
        let count := min data.length (archive.free * blockSize)
        .ok (.count count, (archive.withFile slot name (data.take count)).setDescriptor 0
          (some ⟨slot, count⟩)) := by
  have held : (archive.withNew slot name).files slot = some ⟨name, []⟩ := Function.update_self ..
  have none : blocksFor ([] : Bytes).length = 0 := rfl
  have added : (archive.withNew slot name).added slot data.length =
      min (blocksFor data.length) archive.free := by
    rw [Archive.added, bytesIn_of_files held, none, Nat.sub_zero]
    rfl
  have stop : (archive.withNew slot name).stop slot data.length =
      min data.length (archive.free * blockSize) := by
    rw [Archive.stop, bytesIn_of_files held, added, none, Nat.zero_add]
    simp only [blocksFor, blockSize]
    omega
  have length : (data.take (min data.length (archive.free * blockSize))).length =
      min data.length (archive.free * blockSize) := by
    rw [List.length_take, Nat.min_eq_left (Nat.min_le_left ..)]
  have opened : (archive.withNew slot name).opened 0 = .ok ⟨slot, 0⟩ := rfl
  simp only [write, opened, bind, Except.bind, Nat.zero_add, stop, added, held, Nat.sub_zero]
  by_cases long : maxFileSize < data.length
  · rw [if_pos long, if_pos long]
  · rw [if_neg long, if_neg long]
    refine congrArg (fun after => Except.ok (Reply.count _, after)) (Archive.ext ?_ ?_ ?_)
    · have whole : ∀ part : Bytes, overwrite [] 0 part = part := by simp [overwrite]
      show Function.update (Function.update archive.files slot _) slot
        (some ⟨name, overwrite [] 0 _⟩) = Function.update archive.files slot _
      rw [Function.update_idem, whole]
    · funext other
      show (if other.val = 0 then _ else if other.val = 0 then _ else archive.descriptors other) =
        if other.val = 0 then _ else archive.descriptors other
      split <;> rfl
    · show archive.free - _ = archive.free - blocksFor (data.take _).length
      rw [length, blocksFor_min]

/-- When the new file is closed again, nothing is open. -/
theorem close_new (closed : archive.descriptors = fun _ => none) (bytes : Bytes) (count : Nat) :
    ((archive.withFile slot name bytes).setDescriptor 0 (some ⟨slot, count⟩)).close 0 =
      .ok (.done, archive.withFile slot name bytes) := by
  have opened : ((archive.withFile slot name bytes).setDescriptor 0
      (some ⟨slot, count⟩)).opened 0 = .ok ⟨slot, count⟩ := rfl
  simp only [close, opened, bind, Except.bind]
  refine congrArg (fun after => Except.ok (Reply.done, after)) (Archive.ext rfl ?_ rfl)
  funext descriptor
  show (if _ then none else if _ then _ else archive.descriptors descriptor) =
    archive.descriptors descriptor
  rw [closed]
  split <;> rfl

theorem Keeps.withFile (keeps : archive.Keeps dictionary) (empty : archive.files slot = none)
    (data : Bytes) :
    let bytes := data.take (min data.length (archive.free * blockSize))
    (archive.withFile slot name bytes).Keeps
      { dictionary with files := dictionary.files ++ [(name, bytes)] } := by
  intro bytes
  refine keeps.insert empty ?_
  have length : bytes.length = min data.length (archive.free * blockSize) := by
    rw [List.length_take, Nat.min_eq_left (Nat.min_le_left ..)]
  rw [length, blocksFor_min]
  omega

end New

end Archive

end FlatVolume
