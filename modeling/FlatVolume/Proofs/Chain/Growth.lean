/-
**Growing a chain.**

`attach` links unused blocks in ascending order after the end of a chain (`attach_eq`), and `grow`
starts or continues a chain that way. `Grown before after head blocks newHead added` says what has
happened when a chain was grown by `added`; `grow_eq` says that growth does just that, by as many
blocks as are wanted and unused. It tells the new table and the new head (`Grown.unique`), and
growing twice is growing once by the blocks of both (`Grown.trans`).

`Grown.truncate_eq`: cutting the chain back to its old length gives the old table back, entry by
entry, and the old head.
-/

import FlatVolume.Proofs.Chain.Release
import FlatVolume.Proofs.Outcome

namespace FlatVolume.Table

/-! ### Linking blocks one after another -/

/-- The table with blocks attached in order after `tail`, the last of them as the end of a chain. -/
def linkAfter (table : Table) : (tail : BlockId) → (added : List BlockId) → Table
  | _, [] => table
  | tail, id :: rest => ((table.setEntry id .endOfChain).setEntry tail id).linkAfter id rest

@[simp] theorem size_linkAfter (table : Table) (tail : BlockId) (added : List BlockId) :
    (table.linkAfter tail added).size = table.size := by
  induction added generalizing table tail with
  | nil => rfl
  | cons id rest hypothesis => rw [linkAfter, hypothesis, size_setEntry, size_setEntry]

section LinkAfter

variable {table : Table} {tail : BlockId} {added : List BlockId}

/-- Only the entries of the tail and of the added blocks change. -/
theorem entry_linkAfter_of_notMem (tailLink : tail.IsLink table.size)
    (links : ∀ block ∈ added, block.IsLink table.size) {other : BlockId} (notTail : other ≠ tail)
    (notAdded : other ∉ added) : (table.linkAfter tail added).entry other = table.entry other := by
  induction added generalizing table tail with
  | nil => rfl
  | cons id rest hypothesis =>
    rw [List.mem_cons, not_or] at notAdded
    have idLink := links id List.mem_cons_self
    rw [linkAfter, hypothesis (by simpa using idLink) (fun block member => by
      simpa using links block (List.mem_cons_of_mem _ member)) notAdded.1 notAdded.2,
      setEntry_entry_of_ne (by simpa using tailLink.toNat_lt) _ notTail,
      setEntry_entry_of_ne idLink.toNat_lt _ notAdded.1]

/-- From the tail on, the chain consists of the added blocks. -/
theorem isChain_linkAfter (tailLink : tail.IsLink table.size)
    (links : ∀ block ∈ added, block.IsLink table.size) (ends : table.entry tail = .endOfChain)
    (distinct : (tail :: added).Nodup) :
    (table.linkAfter tail added).IsChain tail (tail :: added) := by
  induction added generalizing table tail with
  | nil => exact Path.cons tailLink (by rw [linkAfter, ends]; exact Path.nil _)
  | cons id rest hypothesis =>
    obtain ⟨tailApart, restDistinct⟩ := List.nodup_cons.mp distinct
    have apart : tail ≠ id := fun same => tailApart (same ▸ List.mem_cons_self)
    have idLink := links id List.mem_cons_self
    have restLinks : ∀ block ∈ rest, block.IsLink table.size :=
      fun block member => links block (List.mem_cons_of_mem _ member)
    let linked := (table.setEntry id .endOfChain).setEntry tail id
    have size : linked.size = table.size := by simp [linked]
    have idEnds : linked.entry id = .endOfChain := by
      rw [setEntry_entry_of_ne (by simpa using tailLink.toNat_lt) _ apart.symm,
        setEntry_entry_self idLink.toNat_lt]
    have path : (linked.linkAfter id rest).IsChain id (id :: rest) :=
      hypothesis (by rwa [size]) (by rwa [size]) idEnds restDistinct
    have tailEntry : (linked.linkAfter id rest).entry tail = id := by
      rw [entry_linkAfter_of_notMem (by rwa [size]) (by rwa [size]) apart
        fun member => tailApart (List.mem_cons_of_mem _ member),
        setEntry_entry_self (by simpa using tailLink.toNat_lt)]
    refine Path.cons (by simpa [linkAfter] using tailLink) ?_
    rw [linkAfter, tailEntry]
    exact path

/-- Linking the first unused blocks leaves the later ones unused. -/
theorem unusedBlocks_linkAfter {later : List BlockId} (small : table.size ≤ 65535)
    (tailLink : tail.IsLink table.size) (used : table.entry tail ≠ .unused)
    (list : table.unusedBlocks = added ++ later) :
    (table.linkAfter tail added).unusedBlocks = later := by
  induction added generalizing table tail with
  | nil => exact list
  | cons id rest hypothesis =>
    have member : id ∈ table.unusedBlocks := list ▸ List.mem_cons_self
    obtain ⟨idLink, idUnused⟩ := (mem_unusedBlocks small).mp member
    have apart : tail ≠ id := fun same => used (same ▸ idUnused)
    have idUsed : id ≠ .unused := idLink.1
    have tailInside : tail.toNat < (table.setEntry id .endOfChain).size := by
      rw [size_setEntry]
      exact tailLink.toNat_lt
    have tailStill : (table.setEntry id .endOfChain).entry tail ≠ .unused := by
      rwa [setEntry_entry_of_ne idLink.toNat_lt _ apart]
    refine hypothesis (by simpa using small) (by simpa using idLink) ?_ ?_
    · rw [setEntry_entry_of_ne tailInside _ apart.symm, setEntry_entry_self idLink.toNat_lt]
      decide
    · rw [unusedBlocks_setEntry_of_used tailInside idUsed tailStill]
      exact unusedBlocks_setEntry_head small list (by decide)

end LinkAfter

/-! ### Attaching -/

section Attach

variable {table : Table} {tail : BlockId}

/-- The lowest unused block is attached to the tail. -/
theorem extend_eq (small : table.size ≤ 65535) (tailLink : tail.IsLink table.size) :
    extend tail table =
      match table.unusedBlocks with
      | [] => .error .outOfSpace table
      | id :: _ => .ok id ((table.setEntry id .endOfChain).setEntry tail id) := by
  cases list : table.unusedBlocks with
  | nil =>
    simp only [extend, bind_apply, get_apply, link_of_isLink tailLink, settle_apply,
      alloc_eq small, list]
  | cons id rest =>
    simp only [extend, bind_apply, get_apply, link_of_isLink tailLink, settle_apply,
      alloc_eq small, list, modify_apply, pure_apply]

/-- One more block is attached if there is one. -/
theorem ifSpace_extend_eq (small : table.size ≤ 65535) (tailLink : tail.IsLink table.size) :
    ifSpace (extend tail) table =
      match table.unusedBlocks with
      | [] => .ok none table
      | id :: _ =>
        .ok (some id) ((table.setEntry id .endOfChain).setEntry tail id) := by
  rw [ifSpace, extend_eq small tailLink]
  cases table.unusedBlocks <;> rfl

/-- As many unused blocks as are wanted and there are get attached, in ascending order. -/
theorem attach_eq (small : table.size ≤ 65535) (tailLink : tail.IsLink table.size)
    (used : table.entry tail ≠ .unused) (wanted length : Nat) :
    attach wanted tail length table =
      .ok (length + (table.unusedBlocks.take wanted).length)
        (table.linkAfter tail (table.unusedBlocks.take wanted)) := by
  induction wanted generalizing table tail length with
  | zero => simp [attach, pure_apply, linkAfter]
  | succ wanted hypothesis =>
    rw [attach, bind_apply, ifSpace_extend_eq small tailLink]
    cases list : table.unusedBlocks with
    | nil => simp [pure_apply, linkAfter]
    | cons id rest =>
      have member : id ∈ table.unusedBlocks := list ▸ List.mem_cons_self
      obtain ⟨idLink, _⟩ := (mem_unusedBlocks small).mp member
      have linked : (table.linkAfter tail [id]).unusedBlocks = rest :=
        unusedBlocks_linkAfter small tailLink used list
      have stillSmall : (table.linkAfter tail [id]).size ≤ 65535 := by simpa using small
      have stillLink : id.IsLink (table.linkAfter tail [id]).size := by simpa using idLink
      have idStill : (table.linkAfter tail [id]).entry id ≠ .unused := by
        intro isUnused
        have still := (mem_unusedBlocks stillSmall).mpr ⟨stillLink, isUnused⟩
        rw [linked] at still
        have distinct := nodup_unusedBlocks small
        rw [list] at distinct
        exact (List.nodup_cons.mp distinct).1 still
      have attached := hypothesis stillSmall stillLink idStill (length + 1)
      rw [linked] at attached
      simp only [List.take_succ_cons, List.length_cons, linkAfter] at attached ⊢
      rw [attached]
      congr 1
      omega

end Attach

/-! ### Growing -/

/-- The chain of `blocks` at `head` was grown by `added`, which had been unused. Besides these only
the last of the old blocks has a new entry. -/
structure Grown (before after : Table) (head : BlockId) (blocks : List BlockId) (newHead : BlockId)
    (added : List BlockId) : Prop where
  size : after.size = before.size
  chain : after.IsChain newHead (blocks ++ added)
  head_eq : blocks ≠ [] → newHead = head
  unused : ∀ block ∈ added, block.IsLink before.size ∧ before.entry block = .unused
  frame : ∀ other, other ∉ added → blocks.getLast? ≠ some other →
    after.entry other = before.entry other
  nothing : added = [] → after = before ∧ newHead = head

/-- Growing by nothing. -/
theorem Grown.refl {table : Table} {head : BlockId} {blocks : List BlockId}
    (chain : table.IsChain head blocks) : Grown table table head blocks head [] where
  size := rfl
  chain := by rwa [List.append_nil]
  head_eq _ := rfl
  unused _ member := by cases member
  frame _ _ _ := rfl
  nothing _ := ⟨rfl, rfl⟩

section Grown

variable {before middle after other : Table} {head newHead otherHead : BlockId}
  {blocks added more : List BlockId}

/-- Growing twice is growing by the blocks of both. -/
theorem Grown.trans (first : Grown before middle head blocks newHead added)
    (second : Grown middle after newHead (blocks ++ added) otherHead more) :
    Grown before after head blocks otherHead (added ++ more) where
  size := second.size.trans first.size
  chain := by
    rw [← List.append_assoc]
    exact second.chain
  head_eq some :=
    (second.head_eq (List.append_ne_nil_of_left_ne_nil some added)).trans (first.head_eq some)
  unused block member := by
    rcases List.mem_append.mp member with member | member
    · exact first.unused block member
    · -- The second growth found the block unused, so the first one had not touched it.
      obtain ⟨isLink, unused⟩ := second.unused block member
      have apart : block ∉ blocks ++ added :=
        fun inChain => first.chain.entry_ne_unused inChain unused
      rw [List.mem_append, not_or] at apart
      rw [first.size] at isLink
      rw [first.frame block apart.2 fun last => apart.1 (List.mem_of_getLast? last)] at unused
      exact ⟨isLink, unused⟩
  frame other notAdded notLast := by
    rw [List.mem_append, not_or] at notAdded
    have stillNotLast : (blocks ++ added).getLast? ≠ some other := by
      intro last
      rw [List.getLast?_append, Option.or_eq_some_iff] at last
      rcases last with last | last
      · exact notAdded.1 (List.mem_of_getLast? last)
      · exact notLast last.2
    rw [second.frame other notAdded.2 stillNotLast, first.frame other notAdded.1 notLast]
  nothing none := by
    obtain ⟨rfl, rfl⟩ := List.append_eq_nil_iff.mp none
    obtain ⟨rfl, rfl⟩ := second.nothing rfl
    exact first.nothing rfl

/-- By which blocks a chain was grown tells the new head and the new table. -/
theorem Grown.unique (small : before.size ≤ 65535)
    (first : Grown before after head blocks newHead added)
    (second : Grown before other head blocks otherHead added) :
    otherHead = newHead ∧ other = after := by
  obtain ⟨heads, entries⟩ := Path.entry_eq first.chain second.chain
  refine ⟨heads, ext_entry ?_ (second.size.trans first.size.symm) fun id _ => ?_⟩
  · rw [first.size]
    omega
  · by_cases member : id ∈ blocks ++ added
    · exact entries id member
    · rw [List.mem_append, not_or] at member
      have notLast : blocks.getLast? ≠ some id :=
        fun last => member.1 (List.mem_of_getLast? last)
      rw [first.frame id member.2 notLast, second.frame id member.2 notLast]

end Grown

section Grow

variable {table : Table} {head tail : BlockId} {before blocks : List BlockId}

/-- Linking unused blocks after the last block of a chain grows the chain. -/
theorem grown_linkAfter {added later : List BlockId} (small : table.size ≤ 65535)
    (chain : table.IsChain head (before ++ [tail])) (list : table.unusedBlocks = added ++ later) :
    Grown table (table.linkAfter tail added) head (before ++ [tail]) head added := by
  have tailLink : tail.IsLink table.size := chain.isLink_of_mem (by simp)
  have unused : ∀ block ∈ added, block.IsLink table.size ∧ table.entry block = .unused :=
    fun block member => (mem_unusedBlocks small).mp (list ▸ List.mem_append_left _ member)
  have links : ∀ block ∈ added, block.IsLink table.size :=
    fun block member => (unused block member).1
  have usedApart : ∀ block ∈ before ++ [tail], block ∉ added :=
    fun block member inAdded => chain.entry_ne_unused member (unused block inAdded).2
  have distinct : (tail :: added).Nodup := by
    refine List.nodup_cons.mpr ⟨usedApart tail (by simp), ?_⟩
    have all := nodup_unusedBlocks small
    rw [list] at all
    exact (List.nodup_append'.mp all).1
  have apart := (List.nodup_append'.mp chain.nodup).2.2
  obtain ⟨middle, first, second⟩ := Path.of_append chain
  obtain rfl := second.head_eq
  have start : (table.linkAfter tail added).Path head before tail := by
    refine first.congr (size_linkAfter ..) fun block member => ?_
    refine entry_linkAfter_of_notMem tailLink links ?_ (usedApart block (by simp [member]))
    rintro rfl
    exact apart member List.mem_cons_self
  refine
    { size := size_linkAfter ..
      chain := ?_
      head_eq := fun _ => rfl
      unused := unused
      frame := fun other notAdded notLast => ?_
      nothing := fun none => ⟨by rw [none, linkAfter], rfl⟩ }
  · rw [List.append_assoc]
    exact start.append (isChain_linkAfter tailLink links (Path.entry_last chain) distinct)
  · refine entry_linkAfter_of_notMem tailLink links ?_ notAdded
    rintro rfl
    exact notLast (by simp)

/-- The first unused block starts the chain of an empty file. -/
theorem grown_start {first : BlockId} {added later : List BlockId} (small : table.size ≤ 65535)
    (list : table.unusedBlocks = first :: (added ++ later)) :
    Grown table ((table.setEntry first .endOfChain).linkAfter first added) .endOfChain [] first
      (first :: added) := by
  have member : first ∈ table.unusedBlocks := list ▸ List.mem_cons_self
  have firstUnused := (mem_unusedBlocks small).mp member
  have inside := firstUnused.1.toNat_lt
  have chain : (table.setEntry first .endOfChain).IsChain first ([] ++ [first]) := by
    refine Path.cons (by simpa using firstUnused.1) ?_
    rw [setEntry_entry_self inside]
    exact Path.nil _
  have left : (table.setEntry first .endOfChain).unusedBlocks = added ++ later :=
    unusedBlocks_setEntry_head small list (by decide)
  have grown := grown_linkAfter (by simpa using small) chain left
  refine
    { size := by rw [grown.size, size_setEntry]
      chain := by simpa using grown.chain
      head_eq := fun some => absurd rfl some
      unused := ?_
      frame := fun other notAdded _ => ?_
      nothing := fun none => by cases none }
  · intro block inAdded
    refine (mem_unusedBlocks small).mp (list ▸ ?_)
    rcases List.mem_cons.mp inAdded with rfl | inAdded
    · exact List.mem_cons_self
    · exact List.mem_cons_of_mem _ (List.mem_append_left _ inAdded)
  · rw [List.mem_cons, not_or] at notAdded
    rw [grown.frame other notAdded.2 (by simpa using Ne.symm notAdded.1),
      setEntry_entry_of_ne inside _ notAdded.1]

/-- A chain grows by the first unused blocks, as many as are wanted and there are. -/
theorem grow_eq (small : table.size ≤ 65535) (chain : table.IsChain head blocks) (wanted : Nat) :
    ∃ newHead after,
      grow ⟨head, blocks.length⟩ wanted table =
        .ok ⟨newHead,
          blocks.length + (table.unusedBlocks.take (wanted - blocks.length)).length⟩ after ∧
      Grown table after head blocks newHead (table.unusedBlocks.take (wanted - blocks.length)) ∧
      after.unusedBlocks = table.unusedBlocks.drop (wanted - blocks.length) := by
  by_cases enough : wanted ≤ blocks.length
  · refine ⟨head, table, ?_, ?_, ?_⟩ <;> rw [Nat.sub_eq_zero_of_le enough]
    · simp only [grow, enough, ↓reduceIte, pure_apply, List.take_zero, List.length_nil,
        Nat.add_zero]
    · exact .refl chain
    · rw [List.drop_zero]
  rcases chain.head_cases with ⟨rfl, rfl⟩ | ⟨isLink, some⟩
  · rw [List.length_nil] at enough
    cases list : table.unusedBlocks with
    | nil =>
      refine ⟨.endOfChain, table, ?_, ?_, by rw [List.drop_nil, list]⟩
      · simp only [grow, List.length_nil, enough, ↓reduceIte, bind_apply, ifSpace, alloc_eq small,
          list, pure_apply, List.take_nil, Nat.add_zero]
      · rw [List.take_nil]
        exact .refl chain
    | cons first rest =>
      have member : first ∈ table.unusedBlocks := list ▸ List.mem_cons_self
      have firstLink := ((mem_unusedBlocks small).mp member).1
      have split : table.unusedBlocks =
          first :: (rest.take (wanted - 1) ++ rest.drop (wanted - 1)) := by
        rw [List.take_append_drop, list]
      have restList : (table.setEntry first .endOfChain).unusedBlocks = rest :=
        unusedBlocks_setEntry_head small list (by decide)
      have firstStill : (table.setEntry first .endOfChain).entry first ≠ .unused := by
        rw [setEntry_entry_self firstLink.toNat_lt]
        decide
      have stillSmall : (table.setEntry first .endOfChain).size ≤ 65535 := by simpa using small
      have stillLink : first.IsLink (table.setEntry first .endOfChain).size := by
        simpa using firstLink
      have attached := attach_eq stillSmall stillLink firstStill (wanted - 1) 1
      have restSplit := restList.trans (List.take_append_drop (wanted - 1) rest).symm
      have later := unusedBlocks_linkAfter stillSmall stillLink firstStill restSplit
      obtain ⟨count, rfl⟩ : ∃ count, wanted = count + 1 :=
        Nat.exists_eq_succ_of_ne_zero fun none => enough (Nat.le_of_eq none)
      rw [restList] at attached
      refine ⟨first, _, ?_, grown_start small split, later⟩
      rw [Nat.add_sub_cancel] at attached
      simp only [grow, List.length_nil, enough, ↓reduceIte, bind_apply, ifSpace, alloc_eq small,
        list, Nat.add_sub_cancel, attached, pure_apply, Nat.zero_add, Nat.sub_zero,
        List.take_succ_cons, List.length_cons, Nat.add_comm 1]
  · obtain ⟨before, last, rfl⟩ : ∃ before last, blocks = before ++ [last] :=
      ⟨_, _, (List.dropLast_append_getLast some).symm⟩
    have lastLink : last.IsLink table.size := chain.isLink_of_mem (by simp)
    have used : table.entry last ≠ .unused := chain.entry_ne_unused (by simp)
    have list := (List.take_append_drop (wanted - (before ++ [last]).length)
      table.unusedBlocks).symm
    refine ⟨head, _, ?_, grown_linkAfter small chain list,
      unusedBlocks_linkAfter small lastLink used list⟩
    have more : head ≠ .endOfChain := isLink.2.1
    simp only [grow, enough, ↓reduceIte, more, bind_apply, get_apply, chain.last_eq, settle_apply,
      attach_eq small lastLink used, pure_apply]

end Grow

/-! ### Cutting back -/

namespace Grown

variable {before after : Table} {head newHead : BlockId} {blocks added : List BlockId}

/-- Cutting a grown chain back gives the old table and the old head. -/
theorem truncate_eq (small : before.size ≤ 65535) (chain : before.IsChain head blocks)
    (grown : Grown before after head blocks newHead added) :
    truncate newHead blocks.length after = .ok head before := by
  have links : ∀ block ∈ added, block.IsLink after.size := fun block member => by
    rw [grown.size]
    exact (grown.unused block member).1
  rcases List.eq_nil_or_concat blocks with rfl | ⟨start, last, rfl⟩
  · have restored : after.discard added = before := by
      refine ext_entry (by omega) (by rw [size_discard, grown.size]) fun id _ => ?_
      rw [entry_discard links]
      by_cases member : id ∈ added
      · rw [if_pos member, (grown.unused id member).2]
      · rw [if_neg member, grown.frame id member (by simp)]
    rw [chain.head_of_nil, List.length_nil, truncate_all_eq (by simpa using grown.chain), restored]
  · rw [List.concat_eq_append] at *
    have lastLink : last.IsLink after.size := grown.chain.isLink_of_mem (by simp)
    have inside := lastLink.toNat_lt
    have restored : (after.setEntry last .endOfChain).discard added = before := by
      refine ext_entry (by omega) (by rw [size_discard, size_setEntry, grown.size]) fun id _ => ?_
      rw [entry_discard (by simpa using links)]
      by_cases member : id ∈ added
      · rw [if_pos member, (grown.unused id member).2]
      · rw [if_neg member]
        by_cases same : id = last
        · subst same
          rw [setEntry_entry_self inside, Path.entry_last chain]
        · rw [setEntry_entry_of_ne inside _ same,
            grown.frame id member (by simpa using Ne.symm same)]
    have whole : after.IsChain newHead (start ++ last :: added) := by simpa using grown.chain
    rw [List.length_append, List.length_singleton, Table.truncate_eq whole, restored,
      grown.head_eq (by simp)]

end Grown

end FlatVolume.Table
