/-
**The allocation table.**

The table has one entry for each data block: unused, the end of a chain, or the number of the block
that follows in the same chain. A chain is named by its first block.

Four walks read a chain, each with a stopping rule of its own:

* `nth` follows a given number of links;
* `last` follows links to the end, and gives up after as many blocks as the table has entries;
* `chain` lists the blocks up to the end or to the first broken link, and no more of them than the
  table has entries;
* `check`, in its own module, marks the blocks it visits.
-/

import FlatVolume.BlockId
import FlatVolume.Span

namespace FlatVolume

/-- The entries of all data blocks, in the order of their numbers. -/
structure Table where
  entries : Array BlockId
deriving DecidableEq

namespace Table

/-- How many data blocks the table describes, block `0` included. -/
def size (table : Table) : Nat := table.entries.size

/-- The entry of a block. A block that the table does not have counts as unused. -/
def entry (table : Table) (id : BlockId) : BlockId := table.entries.getD id.toNat .unused

/-- Sets the entry of a block; a block that the table does not have is ignored. -/
def setEntry (table : Table) (id value : BlockId) : Table :=
  ⟨table.entries.setIfInBounds id.toNat value⟩

/-- A table without chains, in which block `0` is never given away. -/
def empty (dataBlocks : Nat) : Table :=
  ⟨(Array.replicate dataBlocks BlockId.unused).setIfInBounds 0 .endOfChain⟩

/-- How many blocks are unused. -/
def freeCount (table : Table) : Nat := table.entries.countP fun value => decide (value = .unused)

@[simp] theorem size_setEntry (table : Table) (id value : BlockId) :
    (table.setEntry id value).size = table.size := by
  simp [setEntry, size]

/-- A block of the table reads back as it was set, and setting it changes no other block. -/
theorem entry_setEntry (table : Table) {id : BlockId} (value other : BlockId)
    (inside : id.toNat < table.size) :
    (table.setEntry id value).entry other = if id = other then value else table.entry other := by
  simp only [entry, setEntry, size, Array.getD_eq_getD_getElem?, Array.getElem?_setIfInBounds] at *
  by_cases same : id = other
  · subst same
    simp [inside]
  · have apart : id.toNat ≠ other.toNat := fun equal => same (BlockId.toNat_inj.mp equal)
    simp [same, apart]

/-! ### Links -/

/-- A number that must be a link of this table. -/
def link (table : Table) (id : BlockId) : Except VolumeError BlockId :=
  match id.validate table.size with
  | .ok block => .ok block
  | .error cause => .error (.ofLink cause)

/-- The block that follows, or nothing at the end of a chain. -/
def next? (table : Table) (id : BlockId) : Except LinkError (Option BlockId) :=
  match id.validate table.size with
  | .error cause => .error cause
  | .ok block =>
    let value := table.entry block
    if value = .endOfChain then .ok none
    else
      match value.validate table.size with
      | .error cause => .error cause
      | .ok following => .ok (some following)

/-- The block that must follow. -/
def following (table : Table) (id : BlockId) : Except VolumeError BlockId :=
  match table.next? id with
  | .ok (some block) => .ok block
  | .ok none => .error .corrupted
  | .error cause => .error (.ofLink cause)

/-- Exactly the links of the table are accepted, each as itself. -/
theorem link_eq_ok_iff {table : Table} {id block : BlockId} :
    table.link id = .ok block ↔ block = id ∧ id.IsLink table.size := by
  rw [← BlockId.validate_eq_ok_iff, link]
  cases id.validate table.size <;> simp

/-- A chain ends at a link whose entry says so. -/
theorem next?_eq_none_iff {table : Table} {id : BlockId} :
    table.next? id = .ok none ↔ id.IsLink table.size ∧ table.entry id = .endOfChain := by
  unfold next?
  cases valid : id.validate table.size with
  | error cause =>
    have noLink : ¬ id.IsLink table.size := fun isLink => by
      simp [BlockId.validate_eq_ok_iff.mpr ⟨rfl, isLink⟩] at valid
    simp [noLink]
  | ok block =>
    obtain ⟨rfl, isLink⟩ := BlockId.validate_eq_ok_iff.mp valid
    by_cases ends : table.entry block = .endOfChain
    · simp [ends, isLink]
    · simp only [ends, and_false, iff_false]
      cases (table.entry block).validate table.size <;> simp

/-- A link is followed by its entry if that is a link too. -/
theorem next?_eq_some_iff {table : Table} {id following : BlockId} :
    table.next? id = .ok (some following) ↔
      id.IsLink table.size ∧ following = table.entry id ∧ following.IsLink table.size := by
  unfold next?
  cases valid : id.validate table.size with
  | error cause =>
    have noLink : ¬ id.IsLink table.size := fun isLink => by
      simp [BlockId.validate_eq_ok_iff.mpr ⟨rfl, isLink⟩] at valid
    simp [noLink]
  | ok block =>
    obtain ⟨rfl, isLink⟩ := BlockId.validate_eq_ok_iff.mp valid
    by_cases ends : table.entry block = .endOfChain
    · have noLink : ¬ BlockId.endOfChain.IsLink table.size := fun ⟨_, apart, _⟩ => apart rfl
      simp only [ends, ↓reduceIte, Except.ok.injEq, reduceCtorEq, isLink, true_and, false_iff]
      rintro ⟨rfl, isLink⟩
      exact noLink isLink
    · cases follows : (table.entry block).validate table.size with
      | error cause =>
        simp only [ends, ↓reduceIte, follows, reduceCtorEq, isLink, true_and, false_iff]
        rintro ⟨rfl, linked⟩
        simp [BlockId.validate_eq_ok_iff.mpr ⟨rfl, linked⟩] at follows
      | ok next =>
        obtain ⟨rfl, linked⟩ := BlockId.validate_eq_ok_iff.mp follows
        simp only [ends, ↓reduceIte, follows, Except.ok.injEq, Option.some.injEq, isLink, true_and]
        constructor
        · rintro rfl
          exact ⟨rfl, linked⟩
        · rintro ⟨rfl, _⟩
          rfl

/-- The block that must follow is the one that does. -/
theorem following_eq_ok_iff {table : Table} {id block : BlockId} :
    table.following id = .ok block ↔ table.next? id = .ok (some block) := by
  unfold following
  cases table.next? id with
  | error cause => simp
  | ok found => cases found <;> simp

/-! ### Walks -/

/-- The block that is reached after a number of links. -/
def advance (table : Table) : (steps : Nat) → BlockId → Except VolumeError BlockId
  | 0, id => .ok id
  | steps + 1, id =>
    match table.following id with
    | .ok block => table.advance steps block
    | .error cause => .error cause

/-- The block at a position of the chain. A chain that is too short is corrupted. -/
def nth (table : Table) (head : BlockId) (position : Nat) : Except VolumeError BlockId :=
  match table.link head with
  | .ok block => table.advance position block
  | .error cause => .error cause

/-- The block of the chain in which a byte offset lies. -/
def blockAt (table : Table) (head : BlockId) (offset : Nat) : Except VolumeError BlockId :=
  table.nth head (offset / blockSize)

/-- The end of the chain, if it is among the next `budget` blocks. -/
def lastWithin (table : Table) : (budget : Nat) → BlockId → Except VolumeError BlockId
  | 0, _ => .error .corrupted
  | budget + 1, id =>
    match table.next? id with
    | .ok none => .ok id
    | .ok (some block) => table.lastWithin budget block
    | .error cause => .error (.ofLink cause)

/-- The last block of the chain. -/
def last (table : Table) (head : BlockId) : Except VolumeError BlockId :=
  match table.link head with
  | .ok block => table.lastWithin table.size block
  | .error cause => .error cause

/-- The next `budget` blocks of the chain, up to its end or its first broken link. -/
def chainWithin (table : Table) : (budget : Nat) → BlockId → List BlockId
  | 0, _ => []
  | budget + 1, id =>
    match table.next? id with
    | .ok (some block) => id :: table.chainWithin budget block
    | _ => [id]

/-- The blocks of the chain in order. A number that is no link names the empty chain. -/
def chain (table : Table) (head : BlockId) : List BlockId :=
  match table.link head with
  | .ok block => table.chainWithin table.size block
  | .error _ => []

end Table

end FlatVolume
