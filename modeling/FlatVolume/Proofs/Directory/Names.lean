/-
**Files have names of their own.**

* `name_new`: the entry of a new file has the name that it was given, since the UTF-8 form of a text
  has a zero byte only where the text has a zero character;
* `acceptable_iff`: a directory is acceptable when every file has a name and a possible head, and no
  two files have one name;
* `Acceptable.insert`, `Acceptable.remove`, `Acceptable.set`: what an operation does to the
  directory keeps it acceptable.
-/

import FlatVolume.Directory.Storage
import FlatVolume.Proofs.Storage.Images

namespace FlatVolume

/-! ### Texts as bytes -/

theorem utf8Bytes_eq (text : String) :
    utf8Bytes text = text.toList.flatMap String.utf8EncodeChar := by
  unfold utf8Bytes
  rw [String.toUTF8_eq_toByteArray, ← String.utf8Encode_toList, List.utf8Encode]
  simp

theorem length_utf8Bytes (text : String) : (utf8Bytes text).length = text.utf8ByteSize := by
  simp [utf8Bytes]

theorem fromUTF8?_utf8Bytes (text : String) :
    String.fromUTF8? (utf8Bytes text).toByteArray = some text := by
  have back : (utf8Bytes text).toByteArray = text.toByteArray := by
    apply ByteArray.ext
    simp [utf8Bytes]
  rw [back, String.fromUTF8?, dif_pos text.isValidUTF8]
  rfl

/-- Only the zero character has a zero byte. -/
theorem eq_of_zero_mem_utf8EncodeChar {char : Char}
    (member : (0 : UInt8) ∈ String.utf8EncodeChar char) : char = '\x00' := by
  have byte : ∀ number : Nat, (0 : UInt8) = .ofNat number → number % 256 = 0 := by
    intro number same
    rw [← UInt8.toNat_ofNat', ← same]
    rfl
  have small := char.val.toNat_lt
  unfold String.utf8EncodeChar at member
  have zero : char.val.toNat = 0 := by
    dsimp only at member
    split at member
    · have := byte _ (List.mem_singleton.mp member)
      omega
    -- All bytes of the longer forms have their highest bit set.
    split at member
    · simp only [List.mem_cons, List.not_mem_nil, or_false] at member
      rcases member with same | same <;> (have equal := byte _ same; omega)
    split at member
    · simp only [List.mem_cons, List.not_mem_nil, or_false] at member
      rcases member with same | same | same <;> (have equal := byte _ same; omega)
    · simp only [List.mem_cons, List.not_mem_nil, or_false] at member
      rcases member with same | same | same | same <;> (have equal := byte _ same; omega)
  apply Char.ext
  apply UInt32.toNat_inj.mp
  rw [zero]
  rfl

theorem zero_notMem_utf8Bytes {text : String} (none : '\x00' ∉ text.toList) :
    (0 : UInt8) ∉ utf8Bytes text := by
  rw [utf8Bytes_eq]
  intro member
  obtain ⟨char, found, inChar⟩ := List.mem_flatMap.mp member
  exact none (eq_of_zero_mem_utf8EncodeChar inChar ▸ found)

/-! ### New entries -/

namespace DirEntry

/-- The raw name of a new entry is the name as it was given. -/
theorem rawName_new {name : String} (isName : IsFileName name) :
    (new name).rawName = utf8Bytes name := by
  have short : (utf8Bytes name).length < nameWidth := by
    rw [length_utf8Bytes]
    exact isName.2.1
  have clean : ∀ byte ∈ utf8Bytes name, (decide (byte ≠ 0)) = true := by
    intro byte member
    rw [decide_eq_true_eq]
    rintro rfl
    exact zero_notMem_utf8Bytes isName.2.2 member
  obtain ⟨count, padding⟩ := Nat.exists_eq_add_of_lt short
  have rest : nameWidth - (utf8Bytes name).length = count + 1 := by omega
  show ((utf8Bytes name).take nameWidth ++ _).takeWhile _ = _
  rw [List.take_of_length_le (by omega), rest, List.replicate_succ,
    List.takeWhile_append_of_pos clean, List.takeWhile_cons_of_neg (by decide), List.append_nil]

theorem name_new {name : String} (isName : IsFileName name) : (new name).name = name := by
  rw [DirEntry.name, rawName_new isName, fromUTF8?_utf8Bytes]
  rfl

/-- A free entry has no name. -/
theorem name_of_isFree {entry : DirEntry} (free : entry.IsFree) : entry.name = "" := by
  have none : entry.rawName = [] := by
    unfold IsFree at free
    unfold rawName
    cases list : entry.nameField.bytes with
    | nil => rfl
    | cons byte rest =>
      rw [list, List.head?_cons, Option.some.injEq] at free
      rw [List.takeWhile_cons_of_neg (by simpa using free)]
  rw [DirEntry.name, none]
  decide

/-- The entry of a new file is not free. -/
theorem not_isFree_new {name : String} (isName : IsFileName name) : ¬ (new name).IsFree :=
  fun free => isName.1 ((name_new isName).symm.trans (name_of_isFree free))

theorem isFree_empty : DirEntry.empty.IsFree := rfl

section NameField

variable {first second : DirEntry}

theorem name_congr (same : first.nameField = second.nameField) : first.name = second.name := by
  rw [name, name, rawName, rawName, same]

theorem isFree_congr (same : first.nameField = second.nameField) :
    first.IsFree ↔ second.IsFree := by
  rw [IsFree, IsFree, same]

end NameField

end DirEntry

/-! ### Directories -/

namespace Directory

variable {directory : Directory} {dataBlocks : Nat} {slot : Slot} {name : String}
  {entry : DirEntry}

theorem get_set_self : (directory.set slot entry).get slot = entry := by
  rw [get_set, if_pos rfl]

theorem get_set_of_ne {other : Slot} (apart : other ≠ slot) :
    (directory.set slot entry).get other = directory.get other := by
  rw [get_set, if_neg apart.symm]

/-- Only the entry that is put into a slot last counts. -/
theorem set_set (directory : Directory) (slot : Slot) (first second : DirEntry) :
    (directory.set slot first).set slot second = directory.set slot second := by
  rw [set, set, set]
  exact congrArg Directory.mk (Vector.set_set ..)

/-- An entry may be put where it is. -/
theorem set_get_self (directory : Directory) (slot : Slot) :
    directory.set slot (directory.get slot) = directory := by
  obtain ⟨entries⟩ := directory
  refine congrArg Directory.mk (Vector.ext fun index inside => ?_)
  rw [Vector.getElem_set]
  split
  · rename_i same
    subst same
    rfl
  · rfl

/-- The slot that is found holds a file of the name. -/
theorem of_find?_eq_some (found : directory.find? name = some slot) :
    ¬ (directory.get slot).IsFree ∧ (directory.get slot).name = name := by
  simpa only [decide_eq_true_eq] using List.find?_some found

/-- No file has the name if none is found. -/
theorem of_find?_eq_none (missing : directory.find? name = none)
    (occupied : ¬ (directory.get slot).IsFree) : (directory.get slot).name ≠ name := by
  intro same
  have refused := List.find?_eq_none.mp missing slot (List.mem_finRange slot)
  simp only [decide_eq_true_eq, not_and] at refused
  exact refused occupied same

/-- Every file has a name and a possible head, and no two have one name. -/
theorem acceptable_iff :
    directory.Acceptable dataBlocks ↔
      (∀ slot, ¬ (directory.get slot).IsFree →
        (directory.get slot).name ≠ "" ∧ (directory.get slot).HasHead dataBlocks) ∧
      ∀ first second, ¬ (directory.get first).IsFree → ¬ (directory.get second).IsFree →
        (directory.get first).name = (directory.get second).name → first = second := by
  constructor
  · intro acceptable
    refine ⟨fun slot occupied => ?_, fun first second firstIn secondIn same => ?_⟩
    · obtain ⟨named, _, head⟩ := acceptable slot occupied
      exact ⟨named, head⟩
    · have found := (acceptable first firstIn).2.1
      rw [same, (acceptable second secondIn).2.1] at found
      exact (Option.some.inj found).symm
  · rintro ⟨each, distinct⟩ slot occupied
    obtain ⟨named, head⟩ := each slot occupied
    refine ⟨named, ?_, head⟩
    cases found : directory.find? (directory.get slot).name with
    | none => exact absurd rfl (of_find?_eq_none found occupied)
    | some other =>
      obtain ⟨otherIn, same⟩ := of_find?_eq_some found
      rw [distinct other slot otherIn occupied same]

theorem of_freeSlot?_eq_some (found : directory.freeSlot? = some slot) :
    (directory.get slot).IsFree := by
  simpa only [decide_eq_true_eq] using List.find?_some found

/-- A name is checked before it is looked up. -/
theorem lookup_eq (directory : Directory) (name : String) :
    directory.lookup name =
      if IsFileName name then
        match directory.find? name with
        | some slot => .ok slot
        | none => .error .notFound
      else .error .invalidArgument := by
  unfold lookup checkName
  split <;> rfl

/-- A name is checked before it is looked for, and looked for before a slot is. -/
theorem insert_eq (directory : Directory) (name : String) :
    directory.insert name =
      if IsFileName name then
        if (directory.find? name).isSome then .error .alreadyExists
        else
          match directory.freeSlot? with
          | some slot => .ok (slot, directory.set slot (.new name))
          | none => .error .directoryFull
      else .error .invalidArgument := by
  unfold insert checkName
  split <;> rfl

theorem lookup_eq_ok_iff :
    directory.lookup name = .ok slot ↔ IsFileName name ∧ directory.find? name = some slot := by
  rw [lookup_eq]
  split
  · cases directory.find? name <;> simp_all
  · simp_all

/-- A slot that is looked up holds a file. -/
theorem occupied_of_lookup (looked : directory.lookup name = .ok slot) :
    ¬ (directory.get slot).IsFree :=
  (of_find?_eq_some (lookup_eq_ok_iff.mp looked).2).1

/-- A new file gets a free slot when its name is a new one. -/
theorem insert_eq_ok_iff {after : Directory} :
    directory.insert name = .ok (slot, after) ↔
      (IsFileName name ∧ directory.find? name = none) ∧
        directory.freeSlot? = some slot ∧ after = directory.set slot (.new name) := by
  rw [insert_eq]
  by_cases isName : IsFileName name
  · cases directory.find? name with
    | some other => simp [isName]
    | none =>
      cases directory.freeSlot? with
      | none => simp [isName]
      | some lowest =>
        simp only [isName, ↓reduceIte, Option.isSome_none, Bool.false_eq_true, Except.ok.injEq,
          Prod.mk.injEq, and_self, Option.some.injEq, true_and]
        constructor <;> (rintro ⟨rfl, rfl⟩; exact ⟨rfl, rfl⟩)
  · simp [isName]

namespace Acceptable

/-- A slot may get an entry that no file has, or one whose name is unique. -/
theorem set (acceptable : directory.Acceptable dataBlocks)
    (each : ¬ entry.IsFree → entry.name ≠ "" ∧ entry.HasHead dataBlocks)
    (distinct : ¬ entry.IsFree → ∀ other, other ≠ slot → ¬ (directory.get other).IsFree →
      (directory.get other).name ≠ entry.name) :
    (directory.set slot entry).Acceptable dataBlocks := by
  obtain ⟨before, unique⟩ := acceptable_iff.mp acceptable
  refine acceptable_iff.mpr ⟨fun other occupied => ?_, fun first second firstIn secondIn same => ?_⟩
  · by_cases here : other = slot
    · subst here
      rw [get_set_self] at occupied ⊢
      exact each occupied
    · rw [get_set_of_ne here] at occupied ⊢
      exact before other occupied
  · by_cases firstHere : first = slot <;> by_cases secondHere : second = slot
    · rw [firstHere, secondHere]
    · subst firstHere
      rw [get_set_self] at firstIn same
      rw [get_set_of_ne secondHere] at secondIn same
      exact absurd same.symm (distinct firstIn second secondHere secondIn)
    · subst secondHere
      rw [get_set_self] at secondIn same
      rw [get_set_of_ne firstHere] at firstIn same
      exact absurd same (distinct secondIn first firstHere firstIn)
    · rw [get_set_of_ne firstHere] at firstIn same
      rw [get_set_of_ne secondHere] at secondIn same
      exact unique first second firstIn secondIn same

theorem remove (acceptable : directory.Acceptable dataBlocks) (slot : Slot) :
    (directory.remove slot).Acceptable dataBlocks :=
  acceptable.set (fun occupied => absurd DirEntry.isFree_empty occupied)
    fun occupied => absurd DirEntry.isFree_empty occupied

theorem insert {after : Directory} (acceptable : directory.Acceptable dataBlocks)
    (inserted : directory.insert name = .ok (slot, after)) : after.Acceptable dataBlocks := by
  obtain ⟨⟨isName, missing⟩, _, rfl⟩ := insert_eq_ok_iff.mp inserted
  refine acceptable.set (fun _ => ⟨?_, .inl rfl⟩) fun _ other _ occupied => ?_
  · rw [DirEntry.name_new isName]
    exact isName.1
  · rw [DirEntry.name_new isName]
    exact of_find?_eq_none missing occupied

/-- An entry that keeps its name may get another possible head and any size. -/
theorem set_of_nameField (acceptable : directory.Acceptable dataBlocks)
    (sameName : entry.nameField = (directory.get slot).nameField)
    (head : ¬ entry.IsFree → entry.HasHead dataBlocks) :
    (directory.set slot entry).Acceptable dataBlocks := by
  have name : entry.name = (directory.get slot).name := DirEntry.name_congr sameName
  have free : entry.IsFree ↔ (directory.get slot).IsFree := DirEntry.isFree_congr sameName
  refine acceptable.set (fun occupied => ⟨?_, head occupied⟩) fun occupied other apart otherIn => ?_
  · rw [name]
    exact (acceptable slot (mt free.mpr occupied)).1
  · rw [name]
    intro same
    exact apart ((acceptable_iff.mp acceptable).2 other slot otherIn (mt free.mpr occupied) same)

/-- Clearing the free slots keeps the files. -/
theorem cleared (acceptable : directory.Acceptable dataBlocks) :
    directory.cleared.Acceptable dataBlocks := by
  have kept : ∀ slot, ¬ (directory.cleared.get slot).IsFree →
      directory.cleared.get slot = directory.get slot ∧ ¬ (directory.get slot).IsFree := by
    intro slot occupied
    rw [get_cleared] at occupied ⊢
    by_cases free : (directory.get slot).IsFree
    · rw [if_pos free] at occupied
      exact absurd DirEntry.isFree_empty occupied
    · rw [if_neg free]
      exact ⟨rfl, free⟩
  obtain ⟨each, distinct⟩ := acceptable_iff.mp acceptable
  refine acceptable_iff.mpr ⟨fun slot occupied => ?_, fun first second firstIn secondIn same => ?_⟩
  · obtain ⟨entry, before⟩ := kept slot occupied
    rw [entry]
    exact each slot before
  · obtain ⟨firstEntry, firstBefore⟩ := kept first firstIn
    obtain ⟨secondEntry, secondBefore⟩ := kept second secondIn
    rw [firstEntry, secondEntry] at same
    exact distinct first second firstBefore secondBefore same

end Acceptable

end Directory

end FlatVolume
