/-
**Lengthening and cutting a chain.**

The table may hold any other chains, and they may be broken. What lengthens or cuts one chain leaves
all entries outside of it alone:

* `Longer`: what has changed when a chain has taken unused blocks in their order (`Takes.longer`);
* `GivesLowest`: a block that is given out is the lowest unused one, and nothing changes when there
  is none (`givesLowest_of_takes`);
* `Lengthened`: a chain was lengthened block by block, any number of times (`Lengthened.takes`), as
  growing does it (`IsChain.grow_lengthens`);
* `CutTo`: what has changed when only the first blocks of a chain were kept
  (`IsChain.truncate_cuts`, `IsChain.release_cuts`);
* `lengthened_and_cut`: the laws together, with cutting as the undoing of lengthening.
-/

import FlatVolume.Proofs.Chain.Cutting

namespace FlatVolume.Table

variable {table before middle after now : Table} {head newHead tail : BlockId}
  {blocks added : List BlockId}

/-- Blocks that were put to use are not counted as unused any more. -/
theorem freeCount_add_length (added : List BlockId) (small : before.size ≤ 65535)
    (size : after.size = before.size) (reserved : before.entry .unused ≠ .unused)
    (same : after.entry .unused = before.entry .unused)
    (list : before.unusedBlocks = added ++ after.unusedBlocks) :
    after.freeCount + added.length = before.freeCount := by
  have still : after.entry .unused ≠ .unused := by rwa [same]
  rw [freeCount_eq (by rwa [size]) still, freeCount_eq small reserved, list, List.length_append,
    Nat.add_comm]

/-! ### What lengthening changes -/

/-- The chain of `blocks` at `head` was grown by blocks from the front of the list of unused
ones. -/
structure Takes (before now : Table) (head : BlockId) (blocks : List BlockId) (newHead : BlockId)
    (added : List BlockId) : Prop extends Grown before now head blocks newHead added where
  taken : before.unusedBlocks = added ++ now.unusedBlocks

/-- The chain of `blocks` goes on with the blocks that were added, which were the lowest unused
ones, and nothing else has changed. -/
structure Longer (before : Table) (blocks : List BlockId) (now : Table) (newHead : BlockId)
    (added : List BlockId) : Prop where
  size : now.size = before.size
  chain : now.IsChain newHead (blocks ++ added)
  lowest : before.Lowest added.length added
  freeCount : now.freeCount + added.length = before.freeCount
  frame : ∀ other, other ∉ blocks ++ added → now.entry other = before.entry other

theorem Takes.refl (chain : table.IsChain head blocks) : table.Takes table head blocks head [] :=
  ⟨.refl chain, rfl⟩

/-- Blocks taken one after the other are taken from the front of the first list. -/
theorem Takes.trans {middleHead : BlockId} {more : List BlockId}
    (first : before.Takes middle head blocks middleHead added)
    (second : middle.Takes now middleHead (blocks ++ added) newHead more) :
    before.Takes now head blocks newHead (added ++ more) where
  toGrown := first.toGrown.trans second.toGrown
  taken := by rw [first.taken, second.taken, List.append_assoc]

theorem Takes.longer (small : before.size ≤ 65535) (reserved : before.entry .unused ≠ .unused)
    (takes : before.Takes now head blocks newHead added) :
    Longer before blocks now newHead added := by
  have frame : ∀ other, other ∉ blocks ++ added → now.entry other = before.entry other := by
    intro other outside
    rw [List.mem_append, not_or] at outside
    exact takes.frame other outside.2 fun last => outside.1 (List.mem_of_getLast? last)
  refine ⟨takes.size, takes.chain, ?_, freeCount_add_length added small takes.size reserved
    (frame _ takes.chain.unused_notMem) takes.taken, frame⟩
  have enough : added.length ≤ before.unusedBlocks.length := by simp [takes.taken]
  have lowest := lowest_take small enough
  rwa [takes.taken, List.take_left] at lowest

/-! ### One block -/

/-- A block that is given out starts a chain. -/
theorem alloc_takes (small : table.size ≤ 65535) :
    Yields alloc table (fun first now => table.Takes now .endOfChain [] first [first])
      (fun cause now => cause = .outOfSpace ∧ now = table ∧ table.unusedBlocks = []) := by
  unfold Yields
  rw [alloc_eq small]
  cases list : table.unusedBlocks with
  | nil => exact ⟨rfl, rfl, rfl⟩
  | cons first rest =>
    have one : table.unusedBlocks = first :: ([] ++ rest) := list
    refine ⟨grown_start small one, ?_⟩
    rw [unusedBlocks_setEntry_head small list (by decide), list, List.singleton_append]

/-- A chain goes on with the block that is attached to its end. -/
theorem extend_takes (small : table.size ≤ 65535) (chain : table.IsChain head blocks)
    (last : blocks.getLast? = some tail) :
    Yields (extend tail) table (fun next now => table.Takes now head blocks head [next])
      (fun cause now => cause = .outOfSpace ∧ now = table ∧ table.unusedBlocks = []) := by
  obtain ⟨start, rfl⟩ := List.getLast?_eq_some_iff.mp last
  have tailLink : tail.IsLink table.size := chain.isLink_of_mem (by simp)
  have used : table.entry tail ≠ .unused := chain.entry_ne_unused (by simp)
  unfold Yields
  rw [extend_eq small tailLink]
  cases list : table.unusedBlocks with
  | nil => exact ⟨rfl, rfl, rfl⟩
  | cons next rest =>
    have one : table.unusedBlocks = [next] ++ rest := list
    show table.Takes (table.linkAfter tail [next]) head (start ++ [tail]) head [next]
    refine ⟨grown_linkAfter small chain one, ?_⟩
    rw [unusedBlocks_linkAfter small tailLink used one, one]

/-- The action gives out the lowest unused block, and then one block less is unused. It fails if no
block is unused, and only then, and it changes nothing when it fails. -/
structure GivesLowest (table : Table) (action : EStateM VolumeError Table BlockId) : Prop where
  given : ∀ block now, action table = .ok block now →
    table.Lowest 1 [block] ∧ now.freeCount + 1 = table.freeCount
  failed : ∀ cause now, action table = .error cause now → cause = .outOfSpace ∧ now = table
  fails_iff : (∃ cause now, action table = .error cause now) ↔
    ∀ id : BlockId, id.IsLink table.size → table.entry id ≠ .unused

/-- Nothing is listed if no block is unused. -/
theorem unusedBlocks_eq_nil_iff (small : table.size ≤ 65535) :
    table.unusedBlocks = [] ↔
      ∀ id : BlockId, id.IsLink table.size → table.entry id ≠ .unused := by
  rw [List.eq_nil_iff_forall_not_mem]
  refine forall_congr' fun id => ?_
  rw [mem_unusedBlocks small, not_and]

/-- An action that takes a block, if there is one, gives out the lowest. -/
theorem givesLowest_of_takes {action : EStateM VolumeError Table BlockId}
    (small : table.size ≤ 65535) (reserved : table.entry .unused ≠ .unused)
    (yields : Yields action table
      (fun block now => ∃ head blocks newHead, table.Takes now head blocks newHead [block])
      (fun cause now => cause = .outOfSpace ∧ now = table ∧ table.unusedBlocks = [])) :
    table.GivesLowest action := by
  refine ⟨fun block now given => ?_, fun cause now failed => ?_, ?_⟩
  · obtain ⟨head, blocks, newHead, takes⟩ := yields.of_ok given
    have longer := takes.longer small reserved
    exact ⟨longer.lowest, longer.freeCount⟩
  · obtain ⟨rfl, rfl, _⟩ := yields.of_error failed
    exact ⟨rfl, rfl⟩
  · rw [← unusedBlocks_eq_nil_iff small]
    constructor
    · rintro ⟨cause, now, failed⟩
      exact (yields.of_error failed).2.2
    · intro none
      cases ended : action table with
      | ok block now =>
        obtain ⟨head, blocks, newHead, takes⟩ := yields.of_ok ended
        cases none.symm.trans takes.taken
      | error cause now => exact ⟨cause, now, rfl⟩

/-! ### Block by block -/

/-- The chain of `blocks` at `head` was lengthened block by block: an empty chain was started, and
any other one was continued at the block that was its last by then. -/
inductive Lengthened (before : Table) (head : BlockId) (blocks : List BlockId) :
    (now : Table) → (newHead : BlockId) → (added : List BlockId) → Prop
  | unchanged : Lengthened before head blocks before head []
  | started {now : Table} {first : BlockId} (empty : blocks = [])
      (allocated : alloc before = .ok first now) : Lengthened before head blocks now first [first]
  | continued {middle now : Table} {newHead tail next : BlockId} {added : List BlockId}
      (lengthened : Lengthened before head blocks middle newHead added)
      (last : (blocks ++ added).getLast? = some tail)
      (extended : extend tail middle = .ok next now) :
      Lengthened before head blocks now newHead (added ++ [next])

/-- Block by block, a chain takes the unused blocks in their order. -/
theorem Lengthened.takes (small : before.size ≤ 65535) (chain : before.IsChain head blocks)
    (lengthened : Lengthened before head blocks now newHead added) :
    before.Takes now head blocks newHead added := by
  induction lengthened with
  | unchanged => exact .refl chain
  | started empty allocated =>
    subst empty
    obtain rfl := chain.head_of_nil
    exact (alloc_takes small).of_ok allocated
  | continued lengthened last extended takes =>
    have smallMiddle := Nat.le_trans (Nat.le_of_eq takes.size) small
    exact takes.trans ((extend_takes smallMiddle takes.chain last).of_ok extended)

/-- Attaching blocks to the last one lengthens the chain, as far as there are unused blocks. -/
theorem Lengthened.attach (small : before.size ≤ 65535) (chain : before.IsChain head blocks)
    (lengthened : Lengthened before head blocks middle newHead added)
    (last : (blocks ++ added).getLast? = some tail) (wanted length : Nat) :
    ∃ now more, Table.attach wanted tail length middle = .ok (length + more.length) now ∧
      Lengthened before head blocks now newHead (added ++ more) := by
  induction wanted generalizing middle tail added length with
  | zero => exact ⟨middle, [], rfl, by rwa [List.append_nil]⟩
  | succ wanted hypothesis =>
    rw [Table.attach, bind_apply, ifSpace]
    cases extended : extend tail middle with
    | ok next later =>
      have further := lengthened.continued last extended
      have nextLast : (blocks ++ (added ++ [next])).getLast? = some next := by
        rw [← List.append_assoc, List.getLast?_concat]
      obtain ⟨now, more, attached, rest⟩ := hypothesis further nextLast (length + 1)
      refine ⟨now, next :: more, ?_, by rwa [List.append_assoc] at rest⟩
      rw [Nat.add_right_comm] at attached
      exact attached
    | error cause later =>
      have takes := lengthened.takes small chain
      have smallMiddle := Nat.le_trans (Nat.le_of_eq takes.size) small
      obtain ⟨rfl, rfl, _⟩ := (extend_takes smallMiddle takes.chain last).of_error extended
      exact ⟨later, [], rfl, by rwa [List.append_nil]⟩

/-- Growing a chain lengthens it block by block. -/
theorem IsChain.grow_lengthens (small : table.size ≤ 65535) (chain : table.IsChain head blocks)
    (wanted : Nat) :
    ∃ newHead now added,
      grow ⟨head, blocks.length⟩ wanted table = .ok ⟨newHead, blocks.length + added.length⟩ now ∧
        Lengthened table head blocks now newHead added := by
  by_cases enough : wanted ≤ blocks.length
  · exact ⟨head, table, [], by rw [grow, if_pos enough]; rfl, .unchanged⟩
  rcases chain.head_cases with ⟨rfl, rfl⟩ | ⟨isLink, nonempty⟩
  · rw [grow, if_neg enough, if_pos rfl, bind_apply, ifSpace]
    cases allocated : alloc table with
    | ok first later =>
      have started : Lengthened table .endOfChain [] later first [first] := .started rfl allocated
      have alone : ([] ++ [first]).getLast? = some first := rfl
      obtain ⟨now, more, attached, rest⟩ := started.attach small chain alone (wanted - 1) 1
      refine ⟨first, now, first :: more, ?_, rest⟩
      simp only [bind_apply, attached, pure_apply, List.length_nil, List.length_cons, Nat.zero_add,
        Nat.add_comm 1]
    | error cause later =>
      obtain ⟨rfl, rfl, _⟩ := (alloc_takes small).of_error allocated
      exact ⟨.endOfChain, later, [], rfl, .unchanged⟩
  · obtain ⟨before, last, rfl⟩ : ∃ before last, blocks = before ++ [last] :=
      ⟨_, _, (List.dropLast_append_getLast nonempty).symm⟩
    have still : Lengthened table head (before ++ [last]) table head [] := .unchanged
    have atEnd : (before ++ [last] ++ []).getLast? = some last := by simp
    obtain ⟨now, added, attached, rest⟩ := still.attach small chain atEnd
      (wanted - (before ++ [last]).length) (before ++ [last]).length
    refine ⟨head, now, added, ?_, rest⟩
    have more : head ≠ .endOfChain := isLink.2.1
    simp only [grow, enough, ↓reduceIte, more, bind_apply, get_apply, chain.last_eq, settle_apply,
      attached, pure_apply]

/-! ### Cutting -/

/-- Of the chain of `blocks` the first `kept` ones are left, the others are unused, and nothing else
has changed. -/
structure CutTo (before : Table) (blocks : List BlockId) (kept : Nat) (after : Table)
    (newHead : BlockId) : Prop where
  size : after.size = before.size
  chain : after.IsChain newHead (blocks.take kept)
  unused : ∀ id, after.entry id = .unused ↔ before.entry id = .unused ∨ id ∈ blocks.drop kept
  freeCount : after.freeCount = before.freeCount + (blocks.length - kept)
  frame : ∀ other, other ∉ blocks → after.entry other = before.entry other

/-- A chain that is discarded is cut to nothing. -/
theorem IsChain.cutTo_discard (small : table.size ≤ 65535)
    (reserved : table.entry .unused ≠ .unused) (chain : table.IsChain head blocks) :
    CutTo table blocks 0 (table.discard blocks) .endOfChain := by
  have links : ∀ block ∈ blocks, block.IsLink table.size := fun _ member =>
    chain.isLink_of_mem member
  refine ⟨size_discard .., .nil _, fun id => ?_, ?_, fun other outside => ?_⟩
  · rw [entry_discard links, List.drop_zero]
    by_cases member : id ∈ blocks <;> simp [member]
  · exact freeCount_discard small reserved chain.nodup fun block member =>
      ⟨links block member, chain.entry_ne_unused member⟩
  · rw [entry_discard links, if_neg outside]

/-- A chain that ends early, with what comes after discarded, is cut to what comes before. -/
theorem IsChain.cutTo_setEntry {start rest : List BlockId} {last : BlockId}
    (small : table.size ≤ 65535) (reserved : table.entry .unused ≠ .unused)
    (chain : table.IsChain head (start ++ last :: rest)) :
    CutTo table (start ++ last :: rest) (start.length + 1)
      ((table.setEntry last .endOfChain).discard rest) head := by
  have inChain : ∀ {block}, block ∈ rest → block ∈ start ++ last :: rest := fun member =>
    List.mem_append_right _ (List.mem_cons_of_mem _ member)
  have lastLink : last.IsLink table.size := chain.isLink_of_mem (by simp)
  have lastUsed : table.entry last ≠ .unused := chain.entry_ne_unused (by simp)
  have inside := lastLink.toNat_lt
  have distinct := (List.nodup_cons.mp (List.nodup_append'.mp chain.nodup).2.1)
  have restUsed : ∀ block ∈ rest, block.IsLink (table.setEntry last .endOfChain).size ∧
      (table.setEntry last .endOfChain).entry block ≠ .unused := by
    intro block member
    have apart : block ≠ last := fun same => distinct.1 (same ▸ member)
    rw [size_setEntry, setEntry_entry_of_ne inside _ apart]
    exact ⟨chain.isLink_of_mem (inChain member), chain.entry_ne_unused (inChain member)⟩
  have entries : ∀ id, ((table.setEntry last .endOfChain).discard rest).entry id =
      if id ∈ rest then .unused else if last = id then .endOfChain else table.entry id := by
    intro id
    rw [entry_discard fun block member => (restUsed block member).1,
      entry_setEntry table _ id inside]
  have left : (start ++ last :: rest).take (start.length + 1) = start ++ [last] :=
    List.take_length_add_append 1
  have behind : (start ++ last :: rest).drop (start.length + 1) = rest :=
    List.drop_length_add_append 1
  refine ⟨by rw [size_discard, size_setEntry], by rw [left]; exact chain.cut, fun id => ?_, ?_,
    fun other outside => ?_⟩
  · rw [behind, entries]
    by_cases member : id ∈ rest
    · simp [member]
    by_cases same : last = id
    · subst same
      simp [member, lastUsed, show BlockId.endOfChain ≠ .unused by decide]
    · simp [member, same]
  · have sameReserved := setEntry_entry_of_ne inside .endOfChain lastLink.1.symm
    have sameCount : (table.setEntry last .endOfChain).freeCount = table.freeCount :=
      freeCount_add_length [] small (size_setEntry ..) reserved sameReserved
        (unusedBlocks_setEntry_of_used inside (by decide) lastUsed).symm
    rw [freeCount_discard (by rwa [size_setEntry]) (by rwa [sameReserved]) distinct.2 restUsed,
      sameCount, ← List.length_drop, behind]
  · rw [List.mem_append, List.mem_cons, not_or, not_or] at outside
    rw [entries, if_neg outside.2.2, if_neg (Ne.symm outside.2.1)]

/-- A chain that is released is cut to nothing. -/
theorem IsChain.release_cuts (small : table.size ≤ 65535)
    (reserved : table.entry .unused ≠ .unused) (chain : table.IsChain head blocks) :
    ∃ after, release head table = .ok () after ∧ CutTo table blocks 0 after .endOfChain :=
  ⟨_, release_eq chain, chain.cutTo_discard small reserved⟩

/-- A chain that is long enough is cut to as many blocks as are to be kept. -/
theorem IsChain.truncate_cuts (small : table.size ≤ 65535)
    (reserved : table.entry .unused ≠ .unused) (chain : table.IsChain head blocks) {kept : Nat}
    (enough : kept ≤ blocks.length) :
    ∃ after, truncate head kept table = .ok (if kept = 0 then .endOfChain else head) after ∧
      CutTo table blocks kept after (if kept = 0 then .endOfChain else head) := by
  cases kept with
  | zero => exact ⟨_, truncate_all_eq chain, chain.cutTo_discard small reserved⟩
  | succ kept =>
    obtain ⟨last, found⟩ : ∃ last, blocks[kept]? = some last :=
      ⟨_, List.getElem?_eq_getElem enough⟩
    obtain ⟨start, rest, rfl, rfl⟩ := exists_split_of_found found
    exact ⟨_, truncate_eq chain, chain.cutTo_setEntry small reserved⟩

/-! ### The laws together -/

/-- A chain is lengthened by the lowest unused block each time, for as long as there is one, and
nothing outside of the chain changes. Cutting it to its old length undoes all of it. Growing a chain
is lengthening it block by block. A chain can be cut to any smaller length, and released; a cut to a
greater length fails and changes nothing. -/
theorem lengthened_and_cut (small : table.size ≤ 65535)
    (reserved : table.entry .unused ≠ .unused) (chain : table.IsChain head blocks) :
    (∀ now newHead added, Lengthened table head blocks now newHead added →
        Longer table blocks now newHead added ∧
          now.GivesLowest alloc ∧
          (∀ tail, (blocks ++ added).getLast? = some tail → now.GivesLowest (extend tail)) ∧
          truncate newHead blocks.length now = .ok head table) ∧
      (∀ wanted, ∃ newHead now added,
        grow ⟨head, blocks.length⟩ wanted table = .ok ⟨newHead, blocks.length + added.length⟩ now ∧
          Lengthened table head blocks now newHead added) ∧
      (∀ kept, kept ≤ blocks.length →
        ∃ after, truncate head kept table = .ok (if kept = 0 then .endOfChain else head) after ∧
          CutTo table blocks kept after (if kept = 0 then .endOfChain else head)) ∧
      (∃ after, release head table = .ok () after ∧ CutTo table blocks 0 after .endOfChain) ∧
      (∀ kept, blocks.length < kept → truncate head kept table = .error .corrupted table) := by
  refine ⟨fun now newHead added lengthened => ?_, fun wanted => chain.grow_lengthens small wanted,
    fun kept enough => chain.truncate_cuts small reserved enough,
    chain.release_cuts small reserved, fun kept short => chain.truncate_of_short short⟩
  have takes := lengthened.takes small chain
  have longer := takes.longer small reserved
  have smallNow : now.size ≤ 65535 := by rwa [takes.size]
  have reservedNow : now.entry .unused ≠ .unused := by
    rwa [longer.frame _ takes.chain.unused_notMem]
  refine ⟨longer, givesLowest_of_takes smallNow reservedNow ?_, fun tail last => ?_,
    takes.truncate_eq small chain⟩
  · exact (alloc_takes smallNow).mono (fun _ _ first => ⟨_, _, _, first⟩) fun _ _ failed => failed
  · refine givesLowest_of_takes smallNow reservedNow ?_
    exact (extend_takes smallNow takes.chain last).mono (fun _ _ next => ⟨_, _, _, next⟩)
      fun _ _ failed => failed

/-- The blocks 1 and 3 are a chain. Block 2 leads to itself, block 5 to no block at all, and 4, 6
and 7 are unused. -/
def crooked : Table :=
  ⟨#[.endOfChain, ⟨3⟩, ⟨2⟩, .endOfChain, .unused, ⟨9⟩, .unused, .unused]⟩

/-- Beside a loop and a broken link, a chain gets two blocks more and loses them again. -/
theorem lengthened_and_cut_crooked :
    crooked.size ≤ 65535 ∧ crooked.entry .unused ≠ .unused ∧
      crooked.IsChain ⟨1⟩ [⟨1⟩, ⟨3⟩] ∧
      ∃ now, Lengthened crooked ⟨1⟩ [⟨1⟩, ⟨3⟩] now ⟨1⟩ [⟨4⟩, ⟨6⟩] ∧
        now.IsChain ⟨1⟩ [⟨1⟩, ⟨3⟩, ⟨4⟩, ⟨6⟩] ∧
        truncate ⟨1⟩ 2 now = .ok ⟨1⟩ crooked ∧
        truncate ⟨1⟩ 3 crooked = .error .corrupted crooked := by
  have small : crooked.size ≤ 65535 := by decide
  have reserved : crooked.entry .unused ≠ .unused := by decide
  have chain : crooked.IsChain ⟨1⟩ [⟨1⟩, ⟨3⟩] :=
    .cons (by decide) (.cons (by decide) (.nil _))
  have lengthened : Lengthened crooked ⟨1⟩ [⟨1⟩, ⟨3⟩] _ ⟨1⟩ [⟨4⟩, ⟨6⟩] :=
    .continued (.continued .unchanged rfl rfl) rfl rfl
  obtain ⟨grows, _, _, _, tooShort⟩ := lengthened_and_cut small reserved chain
  obtain ⟨longer, _, _, undone⟩ := grows _ _ _ lengthened
  exact ⟨small, reserved, chain, _, lengthened, longer.chain, undone, tooShort 3 (by decide)⟩

end FlatVolume.Table
