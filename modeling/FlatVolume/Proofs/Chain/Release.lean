/-
**Taking back the blocks of a chain.**

`discard` sets the entries of some blocks to unused. Releasing a chain discards its blocks
(`release_eq`), and truncating it discards the blocks after those that are kept and ends the chain
there (`truncate_all_eq`, `truncate_eq`). Neither fails on a chain. The discarded blocks are counted
as unused (`freeCount_discard`).
-/

import FlatVolume.Proofs.Chain.Unused

namespace FlatVolume.Table

/-- The table with the given blocks unused. -/
def discard (table : Table) (blocks : List BlockId) : Table :=
  blocks.foldl (fun table id => table.setEntry id .unused) table

@[simp] theorem discard_nil (table : Table) : table.discard [] = table := rfl

@[simp] theorem discard_cons (table : Table) (id : BlockId) (rest : List BlockId) :
    table.discard (id :: rest) = (table.setEntry id .unused).discard rest := rfl

@[simp] theorem size_discard (table : Table) (blocks : List BlockId) :
    (table.discard blocks).size = table.size := by
  induction blocks generalizing table with
  | nil => rfl
  | cons id rest hypothesis => rw [discard_cons, hypothesis, size_setEntry]

/-- Just the given blocks become unused. -/
theorem entry_discard {table : Table} {blocks : List BlockId}
    (links : ∀ block ∈ blocks, block.IsLink table.size) (other : BlockId) :
    (table.discard blocks).entry other =
      if other ∈ blocks then .unused else table.entry other := by
  induction blocks generalizing table with
  | nil => simp
  | cons id rest hypothesis =>
    have inside := (links id List.mem_cons_self).toNat_lt
    rw [discard_cons, hypothesis fun block member => by
      rw [size_setEntry]
      exact links block (List.mem_cons_of_mem _ member)]
    by_cases inRest : other ∈ rest
    · rw [if_pos inRest, if_pos (List.mem_cons_of_mem _ inRest)]
    · rw [if_neg inRest, entry_setEntry table _ other inside]
      by_cases same : id = other
      · rw [if_pos same, if_pos (same ▸ List.mem_cons_self)]
      · rw [if_neg same, if_neg fun member => (List.mem_cons.mp member).elim
          (fun equal => same equal.symm) inRest]

/-- Blocks that were in use are unused as well after they were discarded. -/
theorem length_unusedBlocks_discard {table : Table} {blocks : List BlockId}
    (small : table.size ≤ 65535) (distinct : blocks.Nodup)
    (used : ∀ block ∈ blocks, block.IsLink table.size ∧ table.entry block ≠ .unused) :
    (table.discard blocks).unusedBlocks.length = table.unusedBlocks.length + blocks.length := by
  have links : ∀ block ∈ blocks, block.IsLink table.size :=
    fun block member => (used block member).1
  have smallAfter : (table.discard blocks).size ≤ 65535 := by rwa [size_discard]
  have apart : table.unusedBlocks.Disjoint blocks := fun block unused member =>
    (used block member).2 ((mem_unusedBlocks small).mp unused).2
  have nodup : (table.unusedBlocks ++ blocks).Nodup :=
    (nodup_unusedBlocks small).append distinct apart
  rw [← List.length_append]
  refine List.Perm.length_eq ((List.perm_ext_iff_of_nodup (nodup_unusedBlocks smallAfter)
    nodup).mpr fun block => ?_)
  rw [mem_unusedBlocks smallAfter, size_discard, entry_discard links, List.mem_append,
    mem_unusedBlocks small]
  by_cases member : block ∈ blocks
  · simp [member, links block member]
  · simp [member]

/-- Blocks that were in use are counted as unused after they were discarded. -/
theorem freeCount_discard {table : Table} {blocks : List BlockId}
    (small : table.size ≤ 65535) (reserved : table.entry .unused ≠ .unused)
    (distinct : blocks.Nodup)
    (used : ∀ block ∈ blocks, block.IsLink table.size ∧ table.entry block ≠ .unused) :
    (table.discard blocks).freeCount = table.freeCount + blocks.length := by
  have still : (table.discard blocks).entry .unused ≠ .unused := by
    rw [entry_discard fun block member => (used block member).1, if_neg]
    · exact reserved
    · exact fun member => BlockId.not_isLink_unused _ (used _ member).1
  rw [freeCount_eq (by rwa [size_discard]) still, freeCount_eq small reserved,
    length_unusedBlocks_discard small distinct used]

section Release

variable {table : Table} {head id : BlockId} {blocks : List BlockId}

/-- Releasing with a budget that the chain fits discards the chain. -/
theorem releaseWithin_eq {budget : Nat} (chain : table.IsChain id (id :: blocks))
    (enough : blocks.length < budget) :
    releaseWithin budget id table = .ok () (table.discard (id :: blocks)) := by
  induction blocks generalizing table id budget with
  | nil =>
    obtain ⟨budget, rfl⟩ := Nat.exists_eq_add_of_lt enough
    have single : table.IsChain id ([] ++ [id]) := chain
    have ends := Path.entry_last single
    simp only [releaseWithin, bind_apply, exchange, ends, ↓reduceIte, pure_apply, discard_cons,
      discard_nil]
  | cons next rest hypothesis =>
    obtain ⟨budget, rfl⟩ := Nat.exists_eq_add_of_lt enough
    have distinct := chain.nodup
    cases chain with
    | cons isLink path =>
      obtain rfl := path.head_eq
      have nextLink := path.isLink_of_mem List.mem_cons_self
      have more : table.entry id ≠ .endOfChain := nextLink.2.1
      have linked : (table.setEntry id .unused).link (table.entry id) = .ok (table.entry id) :=
        link_of_isLink (by rwa [size_setEntry])
      -- The rest of the chain does not depend on the entry that is discarded first.
      have tail : (table.setEntry id .unused).IsChain (table.entry id)
          (table.entry id :: rest) := by
        refine IsChain.congr path (size_setEntry ..) fun block member => ?_
        refine setEntry_entry_of_ne isLink.toNat_lt _ ?_
        rintro rfl
        exact (List.nodup_cons.mp distinct).1 member
      have fits : rest.length < rest.length + 1 + budget := by omega
      have released := hypothesis tail fits
      simp only [releaseWithin, bind_apply, exchange, more, ↓reduceIte, get_apply, linked,
        settle_apply, List.length_cons]
      exact released

/-- Releasing a chain discards its blocks. -/
theorem release_eq (chain : table.IsChain head blocks) :
    release head table = .ok () (table.discard blocks) := by
  rcases chain.head_cases with ⟨rfl, rfl⟩ | ⟨isLink, some⟩
  · simp only [release, ↓reduceIte, pure_apply, discard_nil]
  · cases blocks with
    | nil => exact absurd rfl some
    | cons block rest =>
      obtain rfl := Path.head_eq chain
      have more : block ≠ .endOfChain := isLink.2.1
      have fits := chain.length_le
      rw [List.length_cons] at fits
      have enough : rest.length < table.size := by omega
      have released := releaseWithin_eq chain enough
      simp only [release, more, ↓reduceIte, bind_apply, get_apply, link_of_isLink isLink,
        settle_apply]
      exact released

/-- Keeping no block discards the whole chain. -/
theorem truncate_all_eq (chain : table.IsChain head blocks) :
    truncate head 0 table = .ok .endOfChain (table.discard blocks) := by
  simp only [truncate, ↓reduceIte, bind_apply, release_eq chain, pure_apply]

/-- Keeping the blocks up to `last` discards those after it and ends the chain there. -/
theorem truncate_eq {before rest : List BlockId} {last : BlockId}
    (chain : table.IsChain head (before ++ last :: rest)) :
    truncate head (before.length + 1) table =
      .ok head ((table.setEntry last .endOfChain).discard rest) := by
  have found : table.nth head before.length = .ok last :=
    chain.nth_eq (by rw [List.getElem?_append_right (Nat.le_refl _)]; simp)
  have lastLink : last.IsLink table.size := chain.isLink_of_mem (by simp)
  have distinct := chain.nodup
  obtain ⟨middle, _, path⟩ := Path.of_append chain
  obtain rfl := path.head_eq
  cases path with
  | cons _ path =>
    have tail : (table.setEntry last .endOfChain).IsChain (table.entry last) rest := by
      refine IsChain.congr path (size_setEntry ..) fun block member => ?_
      refine setEntry_entry_of_ne lastLink.toNat_lt _ ?_
      rintro rfl
      have apart := (List.nodup_append'.mp distinct).2.1
      exact (List.nodup_cons.mp apart).1 member
    have some : ¬ before.length + 1 = 0 := Nat.succ_ne_zero _
    simp only [truncate, some, ↓reduceIte, bind_apply, get_apply, Nat.add_sub_cancel, found,
      settle_apply, exchange, release_eq tail, pure_apply]

end Release

end FlatVolume.Table
