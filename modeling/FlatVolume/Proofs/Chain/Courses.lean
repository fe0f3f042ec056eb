/-
**The courses of a walk.**

On any table the walk from a link takes one of three courses: it comes to the end of a chain
(`Ends`), it comes to a broken link (`Breaks`), or it comes to some block again (`Loops`), which
need not be its head.

* `lt_size_of_reaches`: a walk that does not loop visits different links, and these are not more
  than the table has entries;
* `Loops.exists_reaches`: a walk that loops never stops;
* `stops_or_loops`: there is no other course;
* `Listing`: a chain listed block by block, for as long as someone asks (`Listing.gives_chain`);
* `walks_agree`: what `last`, `chain`, `nth` and `blockAt` find on each of the courses.
-/

import FlatVolume.Proofs.Chain.Reach

namespace FlatVolume.Table

variable {table : Table} {head id block other : BlockId} {steps later position : Nat}

/-! ### The courses -/

/-- The walk comes to the block and no further. -/
def Stops (table : Table) (head block : BlockId) : Prop :=
  ∃ steps, table.Reaches head steps block ∧ ¬ (table.entry block).IsLink table.size

/-- The walk stops at the end of a chain. -/
def Ends (table : Table) (head last : BlockId) : Prop :=
  table.Stops head last ∧ table.entry last = .endOfChain

/-- The walk stops at a broken link. -/
def Breaks (table : Table) (head block : BlockId) : Prop :=
  table.Stops head block ∧ table.entry block ≠ .endOfChain

/-- The walk comes to a block and later comes to it again. -/
def Loops (table : Table) (head : BlockId) : Prop :=
  ∃ first later id, first < later ∧ table.Reaches head first id ∧ table.Reaches head later id

/-- A walk starts at a link. -/
theorem Reaches.isLink_head (reaches : table.Reaches head steps id) : head.IsLink table.size := by
  induction reaches with
  | start isLink => exact isLink
  | next _ _ hypothesis => exact hypothesis

/-- On the way to a block the walk comes to a block after every smaller number of links. -/
theorem Reaches.exists_of_le (reaches : table.Reaches head later id) (fewer : steps ≤ later) :
    ∃ other, table.Reaches head steps other := by
  induction reaches with
  | start isLink =>
    obtain rfl := Nat.le_zero.mp fewer
    exact ⟨head, .start isLink⟩
  | next reaches isLink hypothesis =>
    rcases Nat.le_or_eq_of_le_succ fewer with fewer | rfl
    · exact hypothesis fewer
    · exact ⟨_, .next reaches isLink⟩

/-- A walk comes to nothing after the block at which it stops. -/
theorem Reaches.le_of_stop (reaches : table.Reaches head steps block)
    (stop : ¬ (table.entry block).IsLink table.size) (comes : table.Reaches head later other) :
    later ≤ steps := by
  by_contra more
  obtain ⟨next, goesOn⟩ := comes.exists_of_le (Nat.lt_of_not_le more)
  cases goesOn with
  | next again isLink =>
    obtain rfl := again.unique reaches
    exact stop isLink

/-- A walk stops at one block at most. -/
theorem Stops.unique (first : table.Stops head block) (second : table.Stops head other) :
    block = other := by
  obtain ⟨steps, reaches, stop⟩ := first
  obtain ⟨later, comes, halt⟩ := second
  obtain rfl := Nat.le_antisymm (comes.le_of_stop halt reaches) (reaches.le_of_stop stop comes)
  exact reaches.unique comes

/-- What a walk that does not loop comes to, one after another, is different. -/
theorem nodup_of_reaches {blocks : List BlockId} (straight : ¬ table.Loops head)
    (reached : ∀ position id, blocks[position]? = some id → table.Reaches head position id) :
    blocks.Nodup := by
  rw [List.nodup_iff_getElem?_ne_getElem?]
  intro first later less inside same
  have found := List.getElem?_eq_getElem inside
  exact straight ⟨first, later, _, less, reached first _ (same.trans found), reached later _ found⟩

/-- A walk that does not loop is over after fewer links than the table has entries. -/
theorem lt_size_of_reaches (straight : ¬ table.Loops head)
    (reaches : table.Reaches head steps id) : steps < table.size := by
  obtain ⟨before, rfl, path⟩ := reaches.exists_path
  have distinct := nodup_of_reaches straight fun _ _ found => path.reaches found
  have bound := length_le_of_nodup distinct fun _ member => path.isLink_of_mem member
  rwa [List.length_append, List.length_singleton] at bound

/-- A walk that loops comes to a block after any number of links. -/
theorem Loops.exists_reaches (loops : table.Loops head) (steps : Nat) :
    ∃ id, table.Reaches head steps id := by
  obtain ⟨first, later, id, less, here, again⟩ := loops
  rw [reaches_iff_nth] at here again
  -- After every round the walk is at the same block.
  have rounds : ∀ count, table.nth head (first + count * (later - first)) = .ok id := by
    intro count
    induction count with
    | zero => rwa [Nat.zero_mul, Nat.add_zero]
    | succ count hypothesis =>
      have split : first + (count + 1) * (later - first) = later + count * (later - first) := by
        rw [Nat.succ_mul]
        omega
      calc table.nth head (first + (count + 1) * (later - first))
          = (table.nth head later).bind (table.advance (count * (later - first))) := by
            rw [split, nth_add]
        _ = (table.nth head first).bind (table.advance (count * (later - first))) := by
            rw [again, here]
        _ = .ok id := by rw [← nth_add, hypothesis]
  have round : 0 < later - first := Nat.sub_pos_of_lt less
  have far : steps ≤ first + steps * (later - first) :=
    Nat.le_trans (Nat.le_mul_of_pos_right steps round) (Nat.le_add_left ..)
  exact (reaches_iff_nth.mpr (rounds steps)).exists_of_le far

/-- A walk that stops does not loop. -/
theorem Stops.not_loops (stops : table.Stops head block) : ¬ table.Loops head := by
  intro loops
  obtain ⟨steps, reaches, stop⟩ := stops
  obtain ⟨_, comes⟩ := loops.exists_reaches (steps + 1)
  exact Nat.not_succ_le_self steps (reaches.le_of_stop stop comes)

/-- A walk stops, or it comes to a block after any number of links. -/
theorem stops_or_reaches (isLink : head.IsLink table.size) (steps : Nat) :
    (∃ block, table.Stops head block) ∨ ∃ id, table.Reaches head steps id := by
  induction steps with
  | zero => exact .inr ⟨head, .start isLink⟩
  | succ steps hypothesis =>
    rcases hypothesis with stops | ⟨id, reaches⟩
    · exact .inl stops
    by_cases goesOn : (table.entry id).IsLink table.size
    · exact .inr ⟨_, .next reaches goesOn⟩
    · exact .inl ⟨id, steps, reaches, goesOn⟩

/-- A walk stops or loops. -/
theorem stops_or_loops (isLink : head.IsLink table.size) :
    (∃ block, table.Stops head block) ∨ table.Loops head := by
  by_cases loops : table.Loops head
  · exact .inr loops
  · rcases stops_or_reaches isLink table.size with stops | ⟨id, reaches⟩
    · exact .inl stops
    · exact absurd (lt_size_of_reaches loops reaches) (Nat.lt_irrefl _)

/-! ### The last block -/

/-- A walk ends at the last block of a chain. -/
theorem ends_iff : table.Ends head block ↔ ∃ before, table.IsChain head (before ++ [block]) := by
  constructor
  · rintro ⟨⟨steps, reaches, _⟩, ends⟩
    obtain ⟨before, _, path⟩ := reaches.exists_path
    rw [ends] at path
    exact ⟨before, path⟩
  · rintro ⟨before, chain⟩
    have ends : table.entry block = .endOfChain := Path.entry_last chain
    have reaches : table.Reaches head before.length block := Path.reaches chain (by simp)
    refine ⟨⟨_, reaches, ?_⟩, ends⟩
    rw [ends]
    exact BlockId.not_isLink_endOfChain _

/-- There is no last block if there is nothing to walk along, or the walk breaks or loops. -/
theorem last_eq_error_iff {cause : VolumeError} :
    table.last head = .error cause ↔ cause = .corrupted ∧
      (¬ head.IsLink table.size ∨ (∃ block, table.Breaks head block) ∨ table.Loops head) := by
  constructor
  · intro failed
    refine ⟨onlyCorrupted_last table head cause failed, ?_⟩
    by_cases isLink : head.IsLink table.size
    · rcases stops_or_loops isLink with ⟨block, stops⟩ | loops
      · refine .inr (.inl ⟨block, stops, fun ends => ?_⟩)
        cases failed.symm.trans (last_eq_ok_iff.mpr (ends_iff.mp ⟨stops, ends⟩))
      · exact .inr (.inr loops)
    · exact .inl isLink
  · rintro ⟨rfl, course⟩
    cases found : table.last head with
    | error cause => rw [onlyCorrupted_last table head cause found]
    | ok last =>
      obtain ⟨stops, ends⟩ := ends_iff.mpr (last_eq_ok_iff.mp found)
      rcases course with noLink | ⟨block, breaks, broken⟩ | loops
      · obtain ⟨_, reaches, _⟩ := stops
        exact absurd reaches.isLink_head noLink
      · obtain rfl := stops.unique breaks
        exact absurd ends broken
      · exact absurd loops stops.not_loops

/-! ### The list of the chain -/

theorem chain_eq_reached (table : Table) (head : BlockId) :
    table.chain head = table.reached head 0 table.size := by
  unfold chain reached nth
  cases table.link head <;> rfl

/-- The chain lists what the walk comes to, and no more blocks than the table has entries. -/
theorem getElem?_chain :
    (table.chain head)[position]? = some id ↔
      position < table.size ∧ table.Reaches head position id := by
  rw [chain_eq_reached, getElem?_reached, Nat.zero_add]

/-- The chain lists each block that the walk comes to once, up to the block at which it stops, and
these blocks are found at their positions. -/
structure Listed (table : Table) (head block : BlockId) : Prop where
  reaches : ∀ position id,
    (table.chain head)[position]? = some id ↔ table.Reaches head position id
  nodup : (table.chain head).Nodup
  last : (table.chain head).getLast? = some block
  found : ∀ position (inside : position < (table.chain head).length),
    table.nth head position = .ok (table.chain head)[position]
  beyond : ∀ position, (table.chain head).length ≤ position →
    table.nth head position = .error .corrupted

/-- A walk that stops is listed. -/
theorem Stops.listed (stops : table.Stops head block) : table.Listed head block := by
  have straight := stops.not_loops
  have list : ∀ position id,
      (table.chain head)[position]? = some id ↔ table.Reaches head position id := fun _ _ =>
    getElem?_chain.trans ⟨And.right, fun reaches => ⟨lt_size_of_reaches straight reaches, reaches⟩⟩
  refine ⟨list, nodup_of_reaches straight fun position id => (list position id).mp, ?_, ?_, ?_⟩
  · obtain ⟨steps, reaches, stop⟩ := stops
    have here := (list steps block).mpr reaches
    have nothing : (table.chain head)[steps + 1]? = none := by
      by_contra some
      obtain ⟨next, found⟩ := Option.ne_none_iff_exists'.mp some
      exact Nat.not_succ_le_self steps (reaches.le_of_stop stop ((list _ next).mp found))
    have inside := (List.getElem?_eq_some_iff.mp here).1
    have length : (table.chain head).length = steps + 1 :=
      Nat.le_antisymm (List.getElem?_eq_none_iff.mp nothing) inside
    rw [List.getLast?_eq_getElem?, length, Nat.add_sub_cancel, here]
  · intro position inside
    exact reaches_iff_nth.mp ((list position _).mp (List.getElem?_eq_getElem inside))
  · intro position outside
    cases found : table.nth head position with
    | error cause => rw [onlyCorrupted_nth table head position cause found]
    | ok id =>
      have here := (list position id).mpr (reaches_iff_nth.mpr found)
      cases here.symm.trans (List.getElem?_eq_none outside)

/-- The list of a walk that loops is as long as it may be. -/
theorem Loops.length_chain (loops : table.Loops head) :
    (table.chain head).length = table.size := by
  refine Nat.le_antisymm ?_ (Nat.le_of_not_lt fun short => ?_)
  · rw [chain_eq_reached]
    exact length_reached_le ..
  · obtain ⟨id, reaches⟩ := loops.exists_reaches (table.chain head).length
    obtain ⟨inside, _⟩ := List.getElem?_eq_some_iff.mp (getElem?_chain.mpr ⟨short, reaches⟩)
    exact Nat.lt_irrefl _ inside

/-- Nothing is listed from a number that is no link. -/
theorem chain_of_not_isLink (noLink : ¬ head.IsLink table.size) : table.chain head = [] := by
  rw [chain]
  cases linked : table.link head with
  | error cause => rfl
  | ok block => exact absurd (link_eq_ok_iff.mp linked).2 noLink

/-! ### Block by block -/

/-- Where a listing stands: the block that it gives next, and how many blocks it still may give. -/
structure Listing where
  next? : Option BlockId
  budget : Nat

namespace Listing

/-- The listing from a head may give as many blocks as the table has entries. -/
def start (table : Table) (head : BlockId) : Listing :=
  ⟨(head.validate table.size).toOption, table.size⟩

/-- Gives a block and goes on to the one that follows. -/
def give? (table : Table) : Listing → Option (BlockId × Listing)
  | ⟨some id, budget + 1⟩ => some (id, ⟨(table.next? id).toOption.join, budget⟩)
  | _ => none

/-- Asked until it has no more, the listing gives the blocks. -/
inductive Gives (table : Table) : Listing → List BlockId → Prop
  | nothing {listing : Listing} (none : listing.give? table = none) : Gives table listing []
  | block {listing later : Listing} {id : BlockId} {rest : List BlockId}
      (some : listing.give? table = some (id, later)) (gives : Gives table later rest) :
      Gives table listing (id :: rest)

theorem gives_chainWithin (table : Table) (id : BlockId) (budget : Nat) :
    Gives table ⟨some id, budget⟩ (table.chainWithin budget id) := by
  induction budget generalizing id with
  | zero => exact .nothing rfl
  | succ budget hypothesis =>
    have given : give? table ⟨some id, budget + 1⟩ =
      some (id, ⟨(table.next? id).toOption.join, budget⟩) := rfl
    rw [chainWithin]
    cases follows : table.next? id with
    | error cause =>
      rw [follows] at given
      exact .block given (.nothing rfl)
    | ok next =>
      rw [follows] at given
      cases next with
      | none => exact .block given (.nothing rfl)
      | some block => exact .block given (hypothesis block)

/-- A listing gives the blocks of the chain and then has no more. -/
theorem gives_chain (table : Table) (head : BlockId) :
    (start table head).Gives table (table.chain head) := by
  rw [start, chain, link]
  cases head.validate table.size with
  | error cause => exact .nothing rfl
  | ok block => exact gives_chainWithin table block table.size

end Listing

/-! ### All walks -/

/-- On any table and from any head, the last block is the one at which the walk ends, and if it does
not end, the chain is corrupted: there is nothing to walk along, or the walk breaks or loops. The
blocks of a walk that stops are listed and found at their positions. A walk that loops is listed up
to as many blocks as the table has entries. A listing always comes to its end. -/
theorem walks_agree (table : Table) (head : BlockId) :
    (∀ last, table.last head = .ok last ↔ table.Ends head last) ∧
      (∀ cause, table.last head = .error cause ↔ cause = .corrupted ∧
        (¬ head.IsLink table.size ∨ (∃ block, table.Breaks head block) ∨ table.Loops head)) ∧
      (∀ block, table.Stops head block → table.Listed head block) ∧
      (table.Loops head → (table.chain head).length = table.size ∧
        ∀ position id, (table.chain head)[position]? = some id ↔
          position < table.size ∧ table.Reaches head position id) ∧
      (¬ head.IsLink table.size → table.chain head = []) ∧
      (∀ offset, table.blockAt head offset = table.nth head (offset / blockSize)) ∧
      (Listing.start table head).Gives table (table.chain head) := by
  refine ⟨fun last => ?_, fun cause => last_eq_error_iff, fun block stops => stops.listed,
    fun loops => ⟨loops.length_chain, fun position id => getElem?_chain⟩, chain_of_not_isLink,
    fun offset => rfl, Listing.gives_chain table head⟩
  rw [ends_iff]
  exact last_eq_ok_iff

/-- The blocks 1 and 2 are a chain, 3 leads to the unused block 4, and 5 leads into a round of 6
and 7. -/
def tangled : Table :=
  ⟨#[.endOfChain, ⟨2⟩, .endOfChain, ⟨4⟩, .unused, ⟨6⟩, ⟨7⟩, ⟨6⟩]⟩

/-- A walk of each course: one ends, one breaks, and one loops without coming to its head again. -/
theorem walks_agree_tangled :
    tangled.last ⟨1⟩ = .ok ⟨2⟩ ∧
      tangled.last ⟨3⟩ = .error .corrupted ∧ (tangled.chain ⟨3⟩).getLast? = some ⟨4⟩ ∧
      tangled.last ⟨5⟩ = .error .corrupted ∧ (tangled.chain ⟨5⟩).length = 8 := by
  have ends : tangled.Ends ⟨1⟩ ⟨2⟩ :=
    ⟨⟨1, .next (.start (by decide)) (by decide), by decide⟩, by decide⟩
  have breaks : tangled.Breaks ⟨3⟩ ⟨4⟩ :=
    ⟨⟨1, .next (.start (by decide)) (by decide), by decide⟩, by decide⟩
  have enters : tangled.Reaches ⟨5⟩ 1 ⟨6⟩ := .next (.start (by decide)) (by decide)
  have returns : tangled.Reaches ⟨5⟩ 3 ⟨6⟩ := .next (.next enters (by decide)) (by decide)
  have loops : tangled.Loops ⟨5⟩ := ⟨1, 3, ⟨6⟩, by decide, enters, returns⟩
  have breaking := walks_agree tangled ⟨3⟩
  have looping := walks_agree tangled ⟨5⟩
  exact ⟨((walks_agree tangled ⟨1⟩).1 _).mpr ends,
    (breaking.2.1 _).mpr ⟨rfl, .inr (.inl ⟨_, breaks⟩)⟩, (breaking.2.2.1 _ breaks.1).last,
    (looping.2.1 _).mpr ⟨rfl, .inr (.inr loops)⟩, (looping.2.2.2.1 loops).1⟩

end FlatVolume.Table
