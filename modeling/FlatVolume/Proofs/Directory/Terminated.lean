/-
**Names that end inside their field.**

The name field of an entry has sixteen bytes, and a caller's names have at most fifteen. Reading a
directory asks only that the bytes before the first zero are UTF-8, so a name can also fill its
field. `isFileName_name_iff`: a readable name is one that a caller may give exactly when a zero ends
it inside the field (`Terminated`). `Acceptable.lookup_name` says what a caller finds who looks up
the name of a file.
-/

import Mathlib.Data.List.TakeWhile
import FlatVolume.Proofs.Directory.Names

namespace FlatVolume

namespace DirEntry

variable {entry other : DirEntry}

/-- A zero ends the name inside its field. -/
def Terminated (entry : DirEntry) : Prop := 0 ∈ entry.nameField.bytes

instance (entry : DirEntry) : Decidable entry.Terminated :=
  inferInstanceAs (Decidable (_ ∈ _))

theorem terminated_congr (same : entry.nameField = other.nameField) :
    entry.Terminated ↔ other.Terminated := by
  rw [Terminated, Terminated, same]

/-- The raw name is shorter than its field if a zero ends it. -/
theorem length_rawName_lt_iff : entry.rawName.length < nameWidth ↔ entry.Terminated := by
  have whole : entry.rawName = entry.nameField.bytes ↔ ¬ entry.Terminated := by
    simp only [rawName, Terminated, List.takeWhile_eq_self_iff, decide_eq_true_eq]
    exact ⟨fun clean member => clean 0 member rfl,
      fun none byte member zero => none (zero ▸ member)⟩
  have start : entry.rawName <+: entry.nameField.bytes := List.takeWhile_prefix _
  have most := start.length_le
  rw [entry.nameField.length_eq] at most
  constructor
  · intro short
    by_contra unended
    rw [whole.mpr unended, entry.nameField.length_eq] at short
    exact Nat.lt_irrefl _ short
  · intro terminated
    refine Nat.lt_of_le_of_ne most fun full => ?_
    exact whole.mp (start.eq_of_length (full.trans entry.nameField.length_eq.symm)) terminated

/-- A name that can be read has the bytes of the raw name. -/
theorem utf8Bytes_name (readable : entry.name ≠ "") : utf8Bytes entry.name = entry.rawName := by
  unfold name at *
  unfold String.fromUTF8? at *
  by_cases valid : entry.rawName.toByteArray.IsValidUTF8
  · rw [dif_pos valid]
    simp [utf8Bytes, String.fromUTF8]
  · rw [dif_neg valid] at readable
    exact absurd rfl readable

/-- A name that can be read has no zero character. -/
theorem zero_notMem_name (readable : entry.name ≠ "") : '\x00' ∉ entry.name.toList := by
  intro member
  have zero : (0 : UInt8) ∈ utf8Bytes entry.name := by
    rw [utf8Bytes_eq]
    exact List.mem_flatMap.mpr ⟨_, member, by decide⟩
  rw [utf8Bytes_name readable, rawName] at zero
  have clean := List.mem_takeWhile_imp zero
  exact absurd clean (by decide)

/-- A readable name may be given by a caller exactly when it ends inside its field. -/
theorem isFileName_name_iff (readable : entry.name ≠ "") :
    IsFileName entry.name ↔ entry.Terminated := by
  rw [IsFileName, ← length_utf8Bytes, utf8Bytes_name readable, length_rawName_lt_iff]
  exact ⟨fun isName => isName.2.1, fun terminated =>
    ⟨readable, terminated, zero_notMem_name readable⟩⟩

/-- The name of a new file ends inside its field. -/
theorem terminated_new {name : String} (isName : IsFileName name) : (new name).Terminated := by
  rw [← length_rawName_lt_iff, rawName_new isName, length_utf8Bytes]
  exact isName.2.1

end DirEntry

namespace Directory

variable {directory : Directory} {dataBlocks : Nat} {slot : Slot}

/-- A file is found under its name, unless no caller may give that name. -/
theorem Acceptable.lookup_name (acceptable : directory.Acceptable dataBlocks)
    (occupied : ¬ (directory.get slot).IsFree) :
    directory.lookup (directory.get slot).name =
      if (directory.get slot).Terminated then .ok slot else .error .invalidArgument := by
  obtain ⟨readable, found, _⟩ := acceptable slot occupied
  rw [lookup_eq, found]
  simp only [DirEntry.isFileName_name_iff readable]

/-- Every name in the second directory ends inside its field, or the first directory has a file with
the same name field in the same slot. -/
def NamesFrom (before after : Directory) : Prop :=
  ∀ slot, ¬ (after.get slot).IsFree → (after.get slot).Terminated ∨
    (after.get slot).nameField = (before.get slot).nameField

namespace NamesFrom

variable {before after : Directory}

theorem refl (directory : Directory) : NamesFrom directory directory := fun _ _ => .inr rfl

theorem insert {name : String} {inserted : Directory} (names : NamesFrom before after)
    (done : after.insert name = .ok (slot, inserted)) : NamesFrom before inserted := by
  obtain ⟨⟨isName, _⟩, _, rfl⟩ := insert_eq_ok_iff.mp done
  intro other occupied
  by_cases here : other = slot
  · subst here
    rw [get_set_self]
    exact .inl (DirEntry.terminated_new isName)
  · rw [get_set_of_ne here] at occupied ⊢
    exact names other occupied

theorem remove (names : NamesFrom before after) (slot : Slot) :
    NamesFrom before (after.remove slot) := by
  intro other occupied
  by_cases here : other = slot
  · subst here
    rw [Directory.remove, get_set_self] at occupied
    exact absurd DirEntry.isFree_empty occupied
  · rw [Directory.remove, get_set_of_ne here] at occupied ⊢
    exact names other occupied

/-- An entry that keeps its name field may change otherwise. -/
theorem set {entry : DirEntry} (names : NamesFrom before after)
    (sameName : entry.nameField = (after.get slot).nameField) :
    NamesFrom before (after.set slot entry) := by
  intro other occupied
  by_cases here : other = slot
  · subst here
    rw [get_set_self] at occupied ⊢
    rw [DirEntry.terminated_congr sameName, sameName]
    exact names other (mt (DirEntry.isFree_congr sameName).mpr occupied)
  · rw [get_set_of_ne here] at occupied ⊢
    exact names other occupied

end NamesFrom

end Directory

end FlatVolume
