/-
**Chains as paths.**

`Path table id blocks stop`: following the entries from `id` visits `blocks`, each of them a link,
and then comes to `stop`. A chain is a path that comes to the end mark (`IsChain`); the end mark
itself heads the empty chain.

* `IsChain.unique`: a head has at most one chain;
* `IsChain.nodup`: a chain visits no block twice, and so it is not longer than the table
  (`IsChain.length_le`);
* `Path.congr`: a path depends only on the entries of the blocks that it visits;
* `isChain_iff_of_ends`, `isChain_iff_of_follows`, `not_isChain_of_broken`: the chain from a block
  on, by what follows the block;
* `IsChain.nth_eq`, `IsChain.last_eq`, `IsChain.chain_eq`: what the walks of a table find on a
  chain.
-/

import Mathlib.Data.List.Nodup
import Mathlib.Data.List.Perm.Subperm
import FlatVolume.Table.Basic

namespace FlatVolume

theorem BlockId.not_isLink_unused (dataBlocks : Nat) : ¬ BlockId.unused.IsLink dataBlocks :=
  fun isLink => isLink.1 rfl

theorem BlockId.not_isLink_endOfChain (dataBlocks : Nat) :
    ¬ BlockId.endOfChain.IsLink dataBlocks :=
  fun isLink => isLink.2.1 rfl

theorem BlockId.IsLink.toNat_lt {id : BlockId} {dataBlocks : Nat} (isLink : id.IsLink dataBlocks) :
    id.toNat < dataBlocks := isLink.2.2

namespace Table

/-- Following the entries from `id` visits the blocks, which are links, and comes to `stop`. -/
inductive Path (table : Table) : (id : BlockId) → (blocks : List BlockId) → (stop : BlockId) → Prop
  | nil (id : BlockId) : Path table id [] id
  | cons {id stop : BlockId} {rest : List BlockId} (isLink : id.IsLink table.size)
      (tail : Path table (table.entry id) rest stop) : Path table id (id :: rest) stop

/-- The blocks of the chain that starts at `head`, in order. -/
def IsChain (table : Table) (head : BlockId) (blocks : List BlockId) : Prop :=
  table.Path head blocks .endOfChain

namespace Path

variable {table other : Table} {id stop middle : BlockId} {blocks rest : List BlockId}

theorem head_eq {head : BlockId} (path : table.Path id (head :: rest) stop) : head = id := by
  cases path
  rfl

theorem append (first : table.Path id blocks middle) (second : table.Path middle rest stop) :
    table.Path id (blocks ++ rest) stop := by
  induction first with
  | nil => exact second
  | cons isLink _ hypothesis => exact .cons isLink (hypothesis second)

/-- A path can be cut anywhere. -/
theorem of_append (path : table.Path id (blocks ++ rest) stop) :
    ∃ middle, table.Path id blocks middle ∧ table.Path middle rest stop := by
  induction blocks generalizing id with
  | nil => exact ⟨id, .nil id, path⟩
  | cons head tail hypothesis =>
    cases path with
    | cons isLink path =>
      obtain ⟨middle, first, second⟩ := hypothesis path
      exact ⟨middle, .cons isLink first, second⟩

theorem isLink_of_mem (path : table.Path id blocks stop) {block : BlockId}
    (member : block ∈ blocks) : block.IsLink table.size := by
  induction path with
  | nil => cases member
  | cons isLink _ hypothesis =>
    rcases List.mem_cons.mp member with rfl | member
    · exact isLink
    · exact hypothesis member

/-- A path depends only on the entries of the blocks that it visits. -/
theorem congr (path : table.Path id blocks stop) (size : other.size = table.size)
    (same : ∀ block ∈ blocks, other.entry block = table.entry block) :
    other.Path id blocks stop := by
  induction path with
  | nil id => exact .nil id
  | cons isLink _ hypothesis =>
    refine .cons (by rwa [size]) ?_
    rw [same _ List.mem_cons_self]
    exact hypothesis fun block member => same block (List.mem_cons_of_mem _ member)

/-- Where a path starts and what the entries of its blocks are can be told from its blocks. -/
theorem entry_eq {start : BlockId} (first : table.Path id blocks stop)
    (second : other.Path start blocks stop) :
    start = id ∧ ∀ block ∈ blocks, other.entry block = table.entry block := by
  induction blocks generalizing id start with
  | nil =>
    cases first
    cases second
    exact ⟨rfl, fun _ member => (List.not_mem_nil member).elim⟩
  | cons block rest hypothesis =>
    cases first with
    | cons _ path =>
      cases second with
      | cons _ tail =>
        obtain ⟨next, entries⟩ := hypothesis path tail
        refine ⟨rfl, fun other member => ?_⟩
        rcases List.mem_cons.mp member with rfl | member
        · exact next
        · exact entries other member

/-- The last block of a path leads to where the path stops. -/
theorem entry_last {last : BlockId} (path : table.Path id (blocks ++ [last]) stop) :
    table.entry last = stop := by
  obtain ⟨middle, _, path⟩ := path.of_append
  cases path with
  | cons _ path =>
    cases path
    rfl

end Path

namespace IsChain

variable {table other : Table} {head : BlockId} {blocks others : List BlockId}

theorem nil (table : Table) : table.IsChain .endOfChain [] := Path.nil _

/-- The end mark heads only the empty chain. -/
theorem eq_nil (chain : table.IsChain .endOfChain blocks) : blocks = [] := by
  cases blocks with
  | nil => rfl
  | cons first rest =>
    have isLink := chain.isLink_of_mem List.mem_cons_self
    rw [Path.head_eq chain] at isLink
    exact absurd isLink (BlockId.not_isLink_endOfChain _)

/-- A chain without blocks is headed by the end mark. -/
theorem head_of_nil (chain : table.IsChain head []) : head = .endOfChain := by
  cases chain
  rfl

/-- A head has at most one chain. -/
theorem unique (first : table.IsChain head blocks) (second : table.IsChain head others) :
    blocks = others := by
  induction blocks generalizing head others with
  | nil =>
    cases first
    exact (eq_nil second).symm
  | cons block rest hypothesis =>
    cases first with
    | cons isLink path =>
      cases others with
      | nil =>
        rw [head_of_nil second] at isLink
        exact absurd isLink (BlockId.not_isLink_endOfChain _)
      | cons _ _ =>
        cases second with
        | cons _ tail => rw [hypothesis path tail]

/-- Each block of a chain heads the part of the chain that starts with it. -/
theorem suffix {block : BlockId} (chain : table.IsChain head blocks) (member : block ∈ blocks) :
    ∃ before rest, blocks = before ++ block :: rest ∧ table.IsChain block (block :: rest) := by
  obtain ⟨before, rest, rfl⟩ := List.append_of_mem member
  obtain ⟨middle, _, path⟩ := Path.of_append chain
  obtain rfl := path.head_eq
  exact ⟨before, rest, rfl, path⟩

/-- A chain visits no block twice. -/
theorem nodup (chain : table.IsChain head blocks) : blocks.Nodup := by
  induction blocks generalizing head with
  | nil => exact List.nodup_nil
  | cons block rest hypothesis =>
    cases chain with
    | cons isLink path =>
      refine List.nodup_cons.mpr ⟨fun member => ?_, hypothesis path⟩
      -- A second visit would head a chain that is shorter than itself.
      obtain ⟨before, after, split, again⟩ := suffix path member
      have same := unique (Path.cons isLink path) again
      have lengths := congrArg List.length same
      simp only [split, List.length_cons, List.length_append] at lengths
      omega

theorem isLink_of_mem (chain : table.IsChain head blocks) {block : BlockId}
    (member : block ∈ blocks) : block.IsLink table.size :=
  Path.isLink_of_mem chain member

/-- No block of a chain is unused. -/
theorem entry_ne_unused (chain : table.IsChain head blocks) {block : BlockId}
    (member : block ∈ blocks) : table.entry block ≠ .unused := by
  obtain ⟨_, rest, _, path⟩ := chain.suffix member
  cases path with
  | cons _ path =>
    intro isUnused
    rw [isUnused] at path
    cases path with
    | cons isLink _ => exact BlockId.not_isLink_unused _ isLink

theorem congr (chain : table.IsChain head blocks) (size : other.size = table.size)
    (same : ∀ block ∈ blocks, other.entry block = table.entry block) :
    other.IsChain head blocks :=
  Path.congr chain size same

/-- Block `0` is on no chain. -/
theorem unused_notMem (chain : table.IsChain head blocks) : BlockId.unused ∉ blocks :=
  fun member => BlockId.not_isLink_unused _ (chain.isLink_of_mem member)

/-- The head of a chain is the end mark or a link. -/
theorem head_cases (chain : table.IsChain head blocks) :
    head = .endOfChain ∧ blocks = [] ∨ head.IsLink table.size ∧ blocks ≠ [] := by
  cases chain with
  | nil => exact .inl ⟨rfl, rfl⟩
  | cons isLink _ => exact .inr ⟨isLink, List.cons_ne_nil _ _⟩

theorem isLink_head (chain : table.IsChain head blocks) (some : blocks ≠ []) :
    head.IsLink table.size :=
  (chain.head_cases.resolve_left fun ends => some ends.2).1

end IsChain

/-- Different links of a table are not more than the table has entries. -/
theorem length_le_of_nodup {table : Table} {blocks : List BlockId} (nodup : blocks.Nodup)
    (links : ∀ block ∈ blocks, block.IsLink table.size) : blocks.length ≤ table.size := by
  have numbers : (blocks.map BlockId.toNat).Nodup :=
    nodup.map fun first second same => BlockId.toNat_inj.mp same
  have inside : blocks.map BlockId.toNat ⊆ List.range table.size := by
    intro number member
    obtain ⟨block, found, rfl⟩ := List.mem_map.mp member
    exact List.mem_range.mpr (links block found).toNat_lt
  have bound := (List.subperm_of_subset numbers inside).length_le
  simpa only [List.length_map, List.length_range] using bound

theorem IsChain.length_le {table : Table} {head : BlockId} {blocks : List BlockId}
    (chain : table.IsChain head blocks) : blocks.length ≤ table.size :=
  length_le_of_nodup chain.nodup fun _ member => chain.isLink_of_mem member

/-! ### What the walks find -/

section Walks

variable {table : Table} {head id stop : BlockId} {blocks before rest : List BlockId}

theorem link_of_isLink (isLink : id.IsLink table.size) : table.link id = .ok id :=
  link_eq_ok_iff.mpr ⟨rfl, isLink⟩

/-- On a path a block is followed by the one in its entry, unless it is the last. -/
theorem Path.next?_eq (path : table.Path id (head :: rest) stop) (more : rest ≠ []) :
    table.next? head = .ok (some (table.entry head)) ∧
      table.Path (table.entry head) rest stop := by
  cases path with
  | cons isLink path =>
    refine ⟨next?_eq_some_iff.mpr ⟨isLink, rfl, ?_⟩, path⟩
    cases path with
    | nil => exact absurd rfl more
    | cons isLink _ => exact isLink

theorem Path.following_eq (path : table.Path id (head :: rest) stop) (more : rest ≠ []) :
    table.following head = .ok (table.entry head) :=
  following_eq_ok_iff.mpr (path.next?_eq more).1

/-- From the end of a chain on, the chain is that block alone. -/
theorem isChain_iff_of_ends (ends : table.next? id = .ok none) :
    table.IsChain id blocks ↔ blocks = [id] := by
  obtain ⟨isLink, value⟩ := next?_eq_none_iff.mp ends
  have single : table.IsChain id [id] := by
    refine .cons isLink ?_
    rw [value]
    exact .nil _
  constructor
  · exact fun chain => chain.unique single
  · rintro rfl
    exact single

/-- A block that another follows heads the chain of the other with itself in front. -/
theorem isChain_iff_of_follows {next : BlockId} (follows : table.next? id = .ok (some next)) :
    table.IsChain id blocks ↔ ∃ rest, blocks = id :: rest ∧ table.IsChain next rest := by
  obtain ⟨isLink, rfl, _⟩ := next?_eq_some_iff.mp follows
  constructor
  · intro chain
    cases chain with
    | nil => exact absurd isLink (BlockId.not_isLink_endOfChain _)
    | cons _ path => exact ⟨_, rfl, path⟩
  · rintro ⟨rest, rfl, path⟩
    exact .cons isLink path

/-- A broken link heads no chain. -/
theorem not_isChain_of_broken {cause : LinkError} (isLink : id.IsLink table.size)
    (broken : table.next? id = .error cause) : ¬ table.IsChain id blocks := by
  intro chain
  cases chain with
  | nil => exact BlockId.not_isLink_endOfChain _ isLink
  | cons _ path =>
    rcases IsChain.head_cases path with ⟨ends, _⟩ | ⟨following, _⟩
    · cases broken.symm.trans (next?_eq_none_iff.mpr ⟨isLink, ends⟩)
    · cases broken.symm.trans (next?_eq_some_iff.mpr ⟨isLink, rfl, following⟩)

/-- Nothing follows the last block of a chain. -/
theorem IsChain.next?_last (chain : table.IsChain id [id]) : table.next? id = .ok none := by
  cases chain with
  | cons isLink path =>
    cases ends : table.entry id
    rw [ends] at path
    cases path
    exact next?_eq_none_iff.mpr ⟨isLink, ends⟩

theorem Path.advance_eq (path : table.Path id (before ++ head :: rest) stop) :
    table.advance before.length id = .ok head := by
  induction before generalizing id with
  | nil => rw [path.head_eq, List.length_nil, advance]
  | cons block before hypothesis =>
    obtain rfl := path.head_eq
    have more : before ++ head :: rest ≠ [] := by simp
    rw [List.length_cons, advance, path.following_eq more]
    exact hypothesis (path.next?_eq more).2

/-- What is found in a list divides it into what comes before and what comes after. -/
theorem exists_split_of_found {α : Type} {list : List α} {position : Nat} {element : α}
    (found : list[position]? = some element) :
    ∃ before rest, list = before ++ element :: rest ∧ before.length = position := by
  obtain ⟨inside, rfl⟩ := List.getElem?_eq_some_iff.mp found
  refine ⟨list.take position, list.drop (position + 1), ?_, ?_⟩
  · rw [← List.drop_eq_getElem_cons inside, List.take_append_drop]
  · rw [List.length_take, Nat.min_eq_left (Nat.le_of_lt inside)]

/-- The block at a position of a chain. -/
theorem IsChain.nth_eq (chain : table.IsChain head blocks) {position : Nat} {block : BlockId}
    (found : blocks[position]? = some block) : table.nth head position = .ok block := by
  obtain ⟨before, rest, rfl, rfl⟩ := exists_split_of_found found
  have isLink := chain.isLink_head (by simp)
  rw [nth, link_of_isLink isLink]
  exact Path.advance_eq chain

/-- The block after a position of a path is the one that must follow. -/
theorem Path.follows (whole : table.Path head blocks stop) {position : Nat}
    {block next : BlockId} (found : blocks[position]? = some block)
    (more : blocks[position + 1]? = some next) : table.following block = .ok next := by
  obtain ⟨before, rest, rfl, rfl⟩ := exists_split_of_found found
  obtain ⟨middle, _, path⟩ := whole.of_append
  cases rest with
  | nil => simp at more
  | cons other rest =>
    obtain rfl : other = next := by simpa using more
    have later := path.next?_eq (List.cons_ne_nil _ _)
    rw [path.following_eq (List.cons_ne_nil _ _), ← later.2.head_eq]

theorem IsChain.lastWithin_eq {budget : Nat} (chain : table.IsChain head (before ++ [id]))
    (enough : before.length < budget) : table.lastWithin budget head = .ok id := by
  induction before generalizing head budget with
  | nil =>
    obtain ⟨budget, rfl⟩ := Nat.exists_eq_add_of_lt enough
    obtain rfl := Path.head_eq chain
    rw [lastWithin, chain.next?_last]
  | cons block before hypothesis =>
    obtain ⟨budget, rfl⟩ := Nat.exists_eq_add_of_lt enough
    obtain rfl := Path.head_eq chain
    obtain ⟨follows, tail⟩ := Path.next?_eq chain (by simp)
    rw [lastWithin, follows]
    exact hypothesis tail (by simp only [List.length_cons]; omega)

/-- The last block of a chain that has one. -/
theorem IsChain.last_eq (chain : table.IsChain head (before ++ [id])) :
    table.last head = .ok id := by
  have isLink := chain.isLink_head (by simp)
  have bound := chain.length_le
  rw [List.length_append, List.length_singleton] at bound
  rw [last, link_of_isLink isLink]
  exact chain.lastWithin_eq (by omega)

theorem IsChain.chainWithin_eq {budget : Nat} (chain : table.IsChain head blocks)
    (some : blocks ≠ []) (enough : blocks.length ≤ budget) :
    table.chainWithin budget head = blocks := by
  induction blocks generalizing head budget with
  | nil => exact absurd rfl some
  | cons block rest hypothesis =>
    obtain rfl := Path.head_eq chain
    rw [List.length_cons] at enough
    obtain ⟨budget, rfl⟩ := Nat.exists_eq_add_of_lt enough
    by_cases more : rest = []
    · subst more
      rw [chainWithin, chain.next?_last]
    · obtain ⟨follows, tail⟩ := Path.next?_eq chain more
      rw [chainWithin, follows]
      exact congrArg (block :: ·) (hypothesis tail more (by omega))

/-- The blocks of a chain are listed as they are. -/
theorem IsChain.chain_eq (chain : table.IsChain head blocks) : table.chain head = blocks := by
  rw [Table.chain]
  rcases chain.head_cases with ⟨rfl, rfl⟩ | ⟨isLink, some⟩
  · cases linked : table.link .endOfChain with
    | error cause => rfl
    | ok block => exact absurd (link_eq_ok_iff.mp linked).2 (BlockId.not_isLink_endOfChain _)
  · rw [link_of_isLink isLink]
    exact chain.chainWithin_eq some chain.length_le

end Walks

end Table

end FlatVolume
