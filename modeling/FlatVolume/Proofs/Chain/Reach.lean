/-
**Which block a walk comes to.**

`Reaches table head steps id`: the walk from `head` comes to `id` after `steps` links, all of them
valid. The chain may be corrupted: the walk may stop at a broken link, or go on for ever.

* `reaches_iff_nth`: this is the block that the table finds at a position;
* `reached`: the blocks that the walk comes to one after another, as far as it goes
  (`getElem?_reached`).
-/

import FlatVolume.Proofs.Chain.Walk

namespace FlatVolume.Table

variable {table : Table} {head id block : BlockId} {steps : Nat}

/-- The walk from `head` comes to the block after a number of valid links. -/
inductive Reaches (table : Table) (head : BlockId) : (steps : Nat) → (id : BlockId) → Prop
  | start (isLink : head.IsLink table.size) : Reaches table head 0 head
  | next {steps : Nat} {id : BlockId} (reaches : Reaches table head steps id)
      (isLink : (table.entry id).IsLink table.size) :
      Reaches table head (steps + 1) (table.entry id)

theorem Reaches.isLink (reaches : table.Reaches head steps id) : id.IsLink table.size := by
  cases reaches with
  | start isLink => exact isLink
  | next _ isLink => exact isLink

/-- The block that is reached is the last of a path. -/
theorem Reaches.exists_path (reaches : table.Reaches head steps id) :
    ∃ before, before.length = steps ∧ table.Path head (before ++ [id]) (table.entry id) := by
  induction reaches with
  | start isLink => exact ⟨[], rfl, .single isLink⟩
  | next _ isLink hypothesis =>
    obtain ⟨before, rfl, path⟩ := hypothesis
    refine ⟨before ++ [_], ?_, path.append (.single isLink)⟩
    rw [List.length_append, List.length_singleton]

/-- Every block of a path is reached. -/
theorem Path.reaches {blocks : List BlockId} {stop : BlockId} (path : table.Path head blocks stop)
    (found : blocks[steps]? = some id) : table.Reaches head steps id := by
  induction steps generalizing id with
  | zero =>
    cases path with
    | nil => cases found
    | cons isLink _ =>
      obtain rfl := Option.some.inj found
      exact .start isLink
  | succ steps hypothesis =>
    obtain ⟨below, _⟩ := List.getElem?_eq_some_iff.mp found
    have before := List.getElem?_eq_getElem (Nat.lt_of_succ_lt below)
    obtain ⟨_, rfl, isLink⟩ :=
      next?_eq_some_iff.mp (following_eq_ok_iff.mp (path.follows before found))
    exact .next (hypothesis before) isLink

/-- The block that is reached is the one that is found at the position. -/
theorem reaches_iff_nth : table.Reaches head steps id ↔ table.nth head steps = .ok id := by
  rw [nth_eq_ok_iff]
  constructor
  · exact Reaches.exists_path
  · rintro ⟨before, rfl, path⟩
    exact path.reaches (by simp)

/-- At most one block is reached after a number of links. -/
theorem Reaches.unique (first : table.Reaches head steps id)
    (second : table.Reaches head steps block) : id = block :=
  Except.ok.inj ((reaches_iff_nth.mp first).symm.trans (reaches_iff_nth.mp second))

/-! ### The blocks one after another -/

theorem advance_add (first later : Nat) (id : BlockId) :
    table.advance (first + later) id = (table.advance first id).bind (table.advance later) := by
  induction first generalizing id with
  | zero =>
    rw [Nat.zero_add]
    rfl
  | succ first hypothesis =>
    rw [Nat.add_right_comm, advance, advance]
    cases table.following id with
    | error cause => rfl
    | ok next => exact hypothesis next

/-- The block at a later position is found by walking on from the one at an earlier position. -/
theorem nth_add (table : Table) (head : BlockId) (first later : Nat) :
    table.nth head (first + later) = (table.nth head first).bind (table.advance later) := by
  unfold nth
  cases table.link head with
  | error cause => rfl
  | ok start => exact advance_add first later start

/-- The walk goes on to the block that follows. -/
theorem chainWithin_of_following {next : BlockId} (follows : table.following block = .ok next)
    (count : Nat) :
    table.chainWithin (count + 1) block = block :: table.chainWithin count next := by
  rw [chainWithin, following_eq_ok_iff.mp follows]

/-- The walk ends with a block that no other follows. -/
theorem chainWithin_of_broken {cause : VolumeError} (broken : table.following block = .error cause)
    (count : Nat) : table.chainWithin (count + 1) block = [block] := by
  rw [chainWithin]
  split
  · rename_i next found
    cases broken.symm.trans (following_eq_ok_iff.mpr found)
  · rfl

/-- The walk starts with its block. -/
theorem exists_chainWithin_eq_cons (table : Table) (block : BlockId) (count : Nat) :
    ∃ rest, table.chainWithin (count + 1) block = block :: rest := by
  cases follows : table.following block with
  | ok next => exact ⟨_, chainWithin_of_following follows count⟩
  | error cause => exact ⟨[], chainWithin_of_broken follows count⟩

theorem chainWithin_one (table : Table) (block : BlockId) :
    table.chainWithin 1 block = [block] := by
  cases follows : table.following block with
  | ok next => exact chainWithin_of_following follows 0
  | error cause => exact chainWithin_of_broken follows 0

/-- The walk from a block lists what is reached from it. -/
theorem getElem?_chainWithin {count index : Nat} :
    (table.chainWithin count block)[index]? = some id ↔
      index < count ∧ table.advance index block = .ok id := by
  induction count generalizing block index with
  | zero => simp [chainWithin]
  | succ count hypothesis =>
    cases index with
    | zero =>
      obtain ⟨rest, list⟩ := exists_chainWithin_eq_cons table block count
      rw [list, advance]
      simp
    | succ index =>
      rw [advance]
      cases follows : table.following block with
      | ok next =>
        rw [chainWithin_of_following follows, List.getElem?_cons_succ, hypothesis,
          Nat.add_lt_add_iff_right]
      | error cause =>
        rw [chainWithin_of_broken follows]
        simp

/-- The blocks that the walk comes to after `first` links and after the next `count - 1` ones, as
far as it goes. -/
def reached (table : Table) (head : BlockId) (first count : Nat) : List BlockId :=
  match table.nth head first with
  | .ok block => table.chainWithin count block
  | .error _ => []

theorem getElem?_reached {first count index : Nat} :
    (table.reached head first count)[index]? = some id ↔
      index < count ∧ table.Reaches head (first + index) id := by
  rw [reaches_iff_nth, reached, nth_add]
  cases table.nth head first with
  | error cause => simp [Except.bind]
  | ok block => exact getElem?_chainWithin

theorem length_reached_le (table : Table) (head : BlockId) (first count : Nat) :
    (table.reached head first count).length ≤ count := by
  by_contra more
  have beyond := List.getElem?_eq_getElem (Nat.lt_of_not_le more)
  exact Nat.lt_irrefl _ (getElem?_reached.mp beyond).1

/-- The list is complete if the walk comes to its last block. -/
theorem length_reached_eq_iff {first count : Nat} :
    (table.reached head first (count + 1)).length = count + 1 ↔
      ∃ id, table.Reaches head (first + count) id := by
  constructor
  · intro length
    have below : count < (table.reached head first (count + 1)).length := by omega
    exact ⟨_, (getElem?_reached.mp (List.getElem?_eq_getElem below)).2⟩
  · rintro ⟨id, reaches⟩
    have last := getElem?_reached.mpr ⟨Nat.lt_add_one count, reaches⟩
    obtain ⟨inside, _⟩ := List.getElem?_eq_some_iff.mp last
    exact Nat.le_antisymm (length_reached_le ..) inside

end FlatVolume.Table
