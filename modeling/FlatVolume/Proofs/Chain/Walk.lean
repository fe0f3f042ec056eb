/-
**Walks on any table.**

A walk that fails says that the chain is corrupted, and nothing else (`OnlyCorrupted`). What a walk
finds when it succeeds is a path:

* `nth_eq_ok_iff`: the block at a position is the last of a path that is one block longer;
* `last_eq_ok_iff`: a last block is found exactly at the end of a chain;
* `check_single_eq_ok_iff`: a single file passes the check when its chain fits its size (`Fits`).

`Visits table head block`: the walk from `head` comes to the block. `sameWalk_discard_iff`: taking
back the blocks of a chain leaves a walk as it is exactly when the walk visits none of them. The
walk may loop, or end in a broken link.
-/

import FlatVolume.Proofs.Chain.Check
import FlatVolume.Proofs.Chain.Release

namespace FlatVolume.Table

variable {table other : Table} {head id block : BlockId} {cause : VolumeError}

/-! ### Failures -/

section Failures

variable {α β : Type}

/-- The only error that the outcome can be is that the chain is corrupted. -/
def OnlyCorrupted (outcome : Except VolumeError α) : Prop :=
  ∀ cause, outcome = .error cause → cause = .corrupted

theorem onlyCorrupted_ok (result : α) : OnlyCorrupted (.ok result) := nofun

theorem onlyCorrupted_corrupted : OnlyCorrupted (.error .corrupted : Except VolumeError α) :=
  fun _ failed => (Except.error.inj failed).symm

/-- An error that is passed on is no other error. -/
theorem OnlyCorrupted.passedOn {outcome : Except VolumeError α} (only : OnlyCorrupted outcome)
    (failed : outcome = .error cause) : OnlyCorrupted (.error cause : Except VolumeError β) := by
  rw [only cause failed]
  exact onlyCorrupted_corrupted

theorem onlyCorrupted_link (table : Table) (id : BlockId) : OnlyCorrupted (table.link id) := by
  unfold link
  split
  · exact onlyCorrupted_ok _
  · exact onlyCorrupted_corrupted

theorem onlyCorrupted_following (table : Table) (id : BlockId) :
    OnlyCorrupted (table.following id) := by
  unfold following
  split
  · exact onlyCorrupted_ok _
  · exact onlyCorrupted_corrupted
  · exact onlyCorrupted_corrupted

theorem onlyCorrupted_advance (table : Table) (steps : Nat) (id : BlockId) :
    OnlyCorrupted (table.advance steps id) := by
  induction steps generalizing id with
  | zero => exact onlyCorrupted_ok id
  | succ steps hypothesis =>
    rw [advance]
    split
    · exact hypothesis _
    · rename_i failed
      exact (onlyCorrupted_following table id).passedOn failed

theorem onlyCorrupted_nth (table : Table) (head : BlockId) (position : Nat) :
    OnlyCorrupted (table.nth head position) := by
  unfold nth
  split
  · exact onlyCorrupted_advance table position _
  · rename_i failed
    exact (onlyCorrupted_link table head).passedOn failed

theorem onlyCorrupted_lastWithin (table : Table) (budget : Nat) (id : BlockId) :
    OnlyCorrupted (table.lastWithin budget id) := by
  induction budget generalizing id with
  | zero => exact onlyCorrupted_corrupted
  | succ budget hypothesis =>
    rw [lastWithin]
    split
    · exact onlyCorrupted_ok _
    · exact hypothesis _
    · exact onlyCorrupted_corrupted

theorem onlyCorrupted_last (table : Table) (head : BlockId) : OnlyCorrupted (table.last head) := by
  unfold last
  split
  · exact onlyCorrupted_lastWithin table _ _
  · rename_i failed
    exact (onlyCorrupted_link table head).passedOn failed

theorem onlyCorrupted_markChain (table : Table) (budget : Nat) (id : BlockId) (length : Nat)
    (marks : Marks) : OnlyCorrupted (table.markChain budget id length marks) := by
  induction budget generalizing id length marks with
  | zero => exact onlyCorrupted_corrupted
  | succ budget hypothesis =>
    rw [markChain]
    split
    · exact onlyCorrupted_corrupted
    · dsimp only
      split
      · exact onlyCorrupted_ok _
      · exact hypothesis _ _ _
      · exact onlyCorrupted_corrupted

theorem onlyCorrupted_markFile (table : Table) (marks : Marks) (head : BlockId) (size : Nat) :
    OnlyCorrupted (table.markFile marks head size) := by
  -- What is counted decides at the end.
  have counted : ∀ (fits : Prop) [Decidable fits] (marks : Marks),
      OnlyCorrupted (if fits then .ok marks else .error .corrupted) := by
    intro fits _ marks
    split
    · exact onlyCorrupted_ok marks
    · exact onlyCorrupted_corrupted
  unfold markFile
  split
  · exact counted _ marks
  split
  · rename_i failed
    exact (onlyCorrupted_link table head).passedOn failed
  split
  · rename_i failed
    exact (onlyCorrupted_markChain table _ _ _ marks).passedOn failed
  · exact counted _ _

theorem onlyCorrupted_markFiles (table : Table) (marks : Marks) (files : List (BlockId × Nat)) :
    OnlyCorrupted (table.markFiles marks files) := by
  induction files generalizing marks with
  | nil => exact onlyCorrupted_ok marks
  | cons file rest hypothesis =>
    rw [markFiles]
    split
    · rename_i failed
      exact (onlyCorrupted_markFile table marks _ _).passedOn failed
    · exact hypothesis _

theorem onlyCorrupted_check (table : Table) (files : List (BlockId × Nat)) :
    OnlyCorrupted (table.check files) := by
  unfold check
  split
  · rename_i failed
    exact (onlyCorrupted_markFiles table _ files).passedOn failed
  · exact onlyCorrupted_ok ()

end Failures

/-! ### What is found -/

/-- A link leads to itself by the path of one block. -/
theorem Path.single (isLink : id.IsLink table.size) : table.Path id [id] (table.entry id) :=
  .cons isLink (.nil _)

/-- What is reached after some links is the last block of a path. -/
theorem Path.of_advance {steps : Nat} (isLink : id.IsLink table.size)
    (found : table.advance steps id = .ok block) :
    ∃ before, before.length = steps ∧ table.Path id (before ++ [block]) (table.entry block) := by
  induction steps generalizing id with
  | zero =>
    obtain rfl := Except.ok.inj found
    exact ⟨[], rfl, .single isLink⟩
  | succ steps hypothesis =>
    rw [advance] at found
    cases follows : table.following id with
    | error reason =>
      rw [follows] at found
      cases found
    | ok next =>
      rw [follows] at found
      obtain ⟨_, rfl, nextLink⟩ := next?_eq_some_iff.mp (following_eq_ok_iff.mp follows)
      obtain ⟨before, length, path⟩ := hypothesis nextLink found
      exact ⟨id :: before, by rw [List.length_cons, length], .cons isLink path⟩

/-- The block at a position is the last of a path that is one block longer. -/
theorem nth_eq_ok_iff {position : Nat} :
    table.nth head position = .ok block ↔
      ∃ before, before.length = position ∧
        table.Path head (before ++ [block]) (table.entry block) := by
  constructor
  · intro found
    unfold nth at found
    cases linked : table.link head with
    | error reason =>
      rw [linked] at found
      cases found
    | ok first =>
      rw [linked] at found
      obtain ⟨rfl, isLink⟩ := link_eq_ok_iff.mp linked
      exact Path.of_advance isLink found
  · rintro ⟨before, rfl, path⟩
    have isLink : head.IsLink table.size := by
      cases before with
      | nil => exact path.head_eq ▸ path.isLink_of_mem List.mem_cons_self
      | cons first rest => exact path.head_eq ▸ path.isLink_of_mem List.mem_cons_self
    rw [nth, link_of_isLink isLink]
    exact path.advance_eq

/-- An end that is found is the end of a chain. -/
theorem IsChain.of_lastWithin {budget : Nat} (found : table.lastWithin budget id = .ok block) :
    ∃ before, table.IsChain id (before ++ [block]) := by
  induction budget generalizing id with
  | zero => cases found
  | succ budget hypothesis =>
    rw [lastWithin] at found
    cases follows : table.next? id with
    | error reason =>
      rw [follows] at found
      cases found
    | ok next =>
      rw [follows] at found
      cases next with
      | none =>
        obtain rfl := Except.ok.inj found
        exact ⟨[], (isChain_iff_of_ends follows).mpr rfl⟩
      | some following =>
        obtain ⟨before, chain⟩ := hypothesis found
        exact ⟨id :: before, (isChain_iff_of_follows follows).mpr ⟨_, rfl, chain⟩⟩

/-- A last block is found exactly at the end of a chain. -/
theorem last_eq_ok_iff :
    table.last head = .ok block ↔ ∃ before, table.IsChain head (before ++ [block]) := by
  constructor
  · intro found
    unfold last at found
    cases linked : table.link head with
    | error reason =>
      rw [linked] at found
      cases found
    | ok first =>
      rw [linked] at found
      obtain ⟨rfl, _⟩ := link_eq_ok_iff.mp linked
      exact IsChain.of_lastWithin found
  · rintro ⟨before, chain⟩
    exact chain.last_eq

/-- The blocks are the chain at `head`, and as many as `size` bytes need. -/
structure Fits (table : Table) (head : BlockId) (size : Nat) (blocks : List BlockId) : Prop where
  chain : table.IsChain head blocks
  length_eq : blocks.length = blocksFor size

/-- The check of a single file looks at nothing but its chain. -/
theorem check_single_eq_ok_iff {size : Nat} :
    table.check [(head, size)] = .ok () ↔ ∃ blocks, table.Fits head size blocks := by
  rw [check_eq_ok_iff, List.flatMap_singleton, List.forall_mem_singleton]
  constructor
  · rintro ⟨⟨chain, length⟩, _⟩
    exact ⟨_, chain, length⟩
  · rintro ⟨blocks, chain, length⟩
    dsimp only
    rw [chain.chain_eq]
    exact ⟨⟨chain, length⟩, chain.nodup⟩

/-! ### Walks beside a chain -/

/-- The walk from `head` comes to the block. -/
def Visits (table : Table) (head block : BlockId) : Prop :=
  ∃ before, table.Path head (before ++ [block]) (table.entry block)

/-- The walks from `head` visit the same blocks and find the same entries there. -/
def SameWalk (table other : Table) (head : BlockId) : Prop :=
  ∀ blocks stop, other.Path head blocks stop ↔ table.Path head blocks stop

theorem visits_head (isLink : head.IsLink table.size) : table.Visits head head :=
  ⟨[], .single isLink⟩

/-- What the walk from the next block visits, the walk visits. -/
theorem Visits.cons (isLink : head.IsLink table.size)
    (visits : table.Visits (table.entry head) block) : table.Visits head block := by
  obtain ⟨before, path⟩ := visits
  exact ⟨head :: before, .cons isLink path⟩

/-- The blocks of a path are visited. -/
theorem Path.visits {stop : BlockId} {blocks : List BlockId} (path : table.Path head blocks stop)
    (member : block ∈ blocks) : table.Visits head block := by
  induction path with
  | nil => cases member
  | cons isLink _ hypothesis =>
    rcases List.mem_cons.mp member with rfl | member
    · exact visits_head isLink
    · exact (hypothesis member).cons isLink

/-- A table with the same entries where the walk goes has the same walk. -/
theorem sameWalk_of_entries (size : other.size = table.size)
    (same : ∀ block, table.Visits head block → other.entry block = table.entry block) :
    SameWalk table other head := by
  intro blocks stop
  refine ⟨fun path => ?_, fun path => path.congr size fun block member => same block
    (path.visits member)⟩
  -- Along the other table's path every block is one that the walk visits.
  induction path with
  | nil id => exact .nil id
  | cons isLink _ hypothesis =>
    rw [size] at isLink
    rw [same _ (visits_head isLink)] at hypothesis
    exact .cons isLink (hypothesis fun block visits => same block (visits.cons isLink))

/-- Taking back a chain leaves a walk as it is exactly when the walk visits no block of it. -/
theorem sameWalk_discard_iff {own : BlockId} {blocks : List BlockId}
    (chain : table.IsChain own blocks) :
    SameWalk table (table.discard blocks) head ↔ ∀ block ∈ blocks, ¬ table.Visits head block := by
  have links : ∀ block ∈ blocks, block.IsLink table.size := fun _ member =>
    chain.isLink_of_mem member
  constructor
  · rintro same block member ⟨before, path⟩
    have entry := ((same _ _).mpr path).entry_last
    rw [entry_discard links, if_pos member] at entry
    exact chain.entry_ne_unused member entry.symm
  · intro apart
    refine sameWalk_of_entries (size_discard ..) fun block visits => ?_
    rw [entry_discard links, if_neg fun member => apart block member visits]

end FlatVolume.Table
