/-
**Growing and cutting chains of any length.**

A file says how long its chain is. The chain itself may be longer, shorter, or without an end.

* `grow_yields`: growth continues at the end that it finds, or starts a chain, and counts from the
  length that it was told;
* `truncate_yields`: cutting a chain that is too short fails and changes nothing;
* `truncate_eq_self_iff`: cutting changes nothing exactly when the chain has the wanted length, or
  has no block at the place of the cut;
* `Grown.truncate_undoes_iff`: cutting a grown chain undoes the growth exactly when the old chain
  had the wanted length, or nothing was added and it was too short to be cut.
-/

import FlatVolume.Proofs.Chain.Sound
import FlatVolume.Proofs.Chain.Walk

namespace FlatVolume.Table

variable {table : Table} {head block : BlockId} {blocks : List BlockId}

/-! ### Positions -/

/-- What is visited on the way along a chain is its first part. -/
theorem IsChain.prefix_of_path {visited : List BlockId} {stop : BlockId}
    (chain : table.IsChain head blocks) (path : table.Path head visited stop) :
    visited <+: blocks := by
  induction path generalizing blocks with
  | nil => exact List.nil_prefix
  | cons isLink _ hypothesis =>
    cases chain with
    | nil => exact absurd isLink (BlockId.not_isLink_endOfChain _)
    | cons _ rest => exact List.cons_prefix_cons.mpr ⟨rfl, hypothesis rest⟩

/-- A chain has a block at each position that is less than its length. -/
theorem IsChain.exists_nth_iff (chain : table.IsChain head blocks) {position : Nat} :
    (∃ block, table.nth head position = .ok block) ↔ position < blocks.length := by
  constructor
  · rintro ⟨block, found⟩
    obtain ⟨before, rfl, path⟩ := nth_eq_ok_iff.mp found
    have short := (chain.prefix_of_path path).length_le
    rw [List.length_append, List.length_singleton] at short
    omega
  · exact fun inside => ⟨_, chain.nth_eq (List.getElem?_eq_getElem inside)⟩

/-! ### Growing -/

/-- The length from which growth counts: an empty chain has no block, whatever was said. -/
def counted (head : BlockId) (length : Nat) : Nat := if head = .endOfChain then 0 else length

/-- Growth adds unused blocks to the chain at the head. It fails if the chain has no end. -/
theorem grow_yields (small : table.size ≤ 65535) {length wanted : Nat} (more : length < wanted) :
    Yields (grow ⟨head, length⟩ wanted) table
      (fun extent after => ∃ blocks added, table.IsChain head blocks ∧
        Grown table after head blocks extent.head added ∧
        added = table.unusedBlocks.take (wanted - counted head length) ∧
        extent.length = counted head length + added.length)
      (fun _ after => after = table ∧ head ≠ .endOfChain ∧ ∀ last, table.last head ≠ .ok last) := by
  by_cases isEnd : head = .endOfChain
  · subst isEnd
    have chain := IsChain.nil table
    obtain ⟨newHead, after, grew, grown, _⟩ := grow_eq small chain wanted
    -- The length that was said is not looked at again.
    have same : grow ⟨.endOfChain, length⟩ wanted table = grow ⟨.endOfChain, 0⟩ wanted table := by
      have some : ¬ wanted ≤ length := by omega
      have positive : ¬ wanted ≤ 0 := by omega
      simp only [grow, some, positive, ↓reduceIte]
    rw [List.length_nil] at grew
    refine yields_of_ok (same.trans grew) ⟨[], _, chain, grown, ?_, ?_⟩
    · rw [counted, if_pos rfl, List.length_nil]
    · rw [counted, if_pos rfl, List.length_nil]
  · have some : ¬ wanted ≤ length := by omega
    rw [counted, if_neg isEnd]
    unfold grow
    rw [if_neg some, if_neg isEnd, yields_bind, yields_get, yields_bind]
    refine yields_settle (fun tail found => ?_) fun cause failed =>
      ⟨rfl, isEnd, fun last found => ?_⟩
    · obtain ⟨before, chain⟩ := last_eq_ok_iff.mp found
      have tailLink : tail.IsLink table.size := chain.isLink_of_mem (by simp)
      have used : table.entry tail ≠ .unused := chain.entry_ne_unused (by simp)
      have list := (List.take_append_drop (wanted - length) table.unusedBlocks).symm
      rw [yields_bind]
      refine yields_of_ok (attach_eq small tailLink used _ _) ?_
      exact ⟨_, _, chain, grown_linkAfter small chain list, rfl, rfl⟩
    · cases failed.symm.trans found

/-! ### Cutting -/

/-- The second table is the first one with some blocks freed. -/
def Freed (before after : Table) : Prop :=
  after.size = before.size ∧
    ∀ id : BlockId, after.entry id = before.entry id ∨ after.entry id = .unused

theorem Freed.refl (table : Table) : Freed table table := ⟨rfl, fun _ => .inl rfl⟩

/-- A release frees blocks and does nothing else, also when it stops in the middle. -/
theorem releaseWithin_freed (budget : Nat) {id : BlockId} (isLink : id.IsLink table.size) :
    Leaves (releaseWithin budget id) table (Freed table) := by
  induction budget generalizing table id with
  | zero => exact .refl table
  | succ budget hypothesis =>
    have freed : Freed table (table.setEntry id .unused) := by
      refine ⟨size_setEntry .., fun other => ?_⟩
      rw [entry_setEntry table _ other isLink.toNat_lt]
      by_cases same : id = other
      · exact .inr (if_pos same)
      · exact .inl (if_neg same)
    refine yields_bind.mpr ?_
    show Yields _ (table.setEntry id .unused) _ _
    split
    · exact freed
    · rw [yields_bind, yields_get, yields_bind]
      refine yields_settle (fun block linked => ?_) fun _ _ => freed
      obtain ⟨rfl, nextLink⟩ := link_eq_ok_iff.mp linked
      refine (hypothesis nextLink).mono ?_ ?_ <;>
      · rintro _ after ⟨size, later⟩
        refine ⟨size.trans freed.1, fun other => ?_⟩
        rcases later other with same | isFree
        · rw [same]
          exact freed.2 other
        · exact .inr isFree

theorem release_freed (head : BlockId) : Leaves (release head) table (Freed table) := by
  unfold release
  split
  · exact .refl table
  · unfold Leaves
    rw [yields_bind, yields_get, yields_bind]
    refine yields_settle (fun block linked => ?_) fun _ _ => .refl table
    obtain ⟨rfl, isLink⟩ := link_eq_ok_iff.mp linked
    exact releaseWithin_freed _ isLink

/-- An entry may be set to what it is. -/
theorem setEntry_of_eq {id value : BlockId} (small : table.size ≤ 65536)
    (inside : id.toNat < table.size) (same : table.entry id = value) :
    table.setEntry id value = table := by
  refine ext_entry small (size_setEntry ..) fun other _ => ?_
  rw [entry_setEntry table _ other inside]
  by_cases here : id = other
  · rw [if_pos here, ← here, same]
  · rw [if_neg here]

/-- The chain has just so many blocks, or none where it would be cut. -/
def Uncut (table : Table) (head : BlockId) (kept : Nat) : Prop :=
  (∃ blocks, table.IsChain head blocks ∧ blocks.length = kept) ∨
    ∀ block, table.nth head (kept - 1) ≠ .ok block

/-- Cutting to some blocks keeps the head. It changes nothing exactly when there is nothing to cut,
and it fails when there is no place for the cut. -/
theorem truncate_eq_self_iff (small : table.size ≤ 65535) {kept : Nat} (some : kept ≠ 0) :
    Yields (truncate head kept) table
      (fun newHead after => newHead = head ∧ (after = table ↔ table.Uncut head kept))
      (fun _ after => after = table ↔ table.Uncut head kept) := by
  unfold truncate
  rw [if_neg some, yields_bind, yields_get, yields_bind]
  refine yields_settle (fun tail found => ?_) fun cause failed => ?_
  · have tailLink := isLink_of_nth found
    have inside := tailLink.toNat_lt
    obtain ⟨before, length, path⟩ := nth_eq_ok_iff.mp found
    show Yields (release (table.entry tail) >>= fun _ => pure head)
      (table.setEntry tail .endOfChain) _ _
    rw [yields_bind]
    by_cases ends : table.entry tail = .endOfChain
    · rw [ends] at path ⊢
      have whole : table.Uncut head kept := by
        refine .inl ⟨before ++ [tail], path, ?_⟩
        rw [List.length_append, List.length_singleton]
        omega
      rw [setEntry_of_eq (by omega) inside ends]
      exact ⟨rfl, iff_of_true rfl whole⟩
    · -- The entry of the tail ends the chain now, or it was freed.
      have cut : ¬ table.Uncut head kept := by
        rintro (⟨blocks, chain, rfl⟩ | none)
        · have last : blocks = before ++ [tail] := by
            refine ((chain.prefix_of_path path).eq_of_length ?_).symm
            rw [List.length_append, List.length_singleton]
            omega
          rw [last] at chain
          exact ends (Path.entry_last chain)
        · exact none tail found
      have ended : (table.setEntry tail .endOfChain).entry tail = .endOfChain :=
        setEntry_entry_self inside _
      by_cases isUnused : table.entry tail = .unused
      · have stuck : (table.setEntry tail .endOfChain).link .unused = .error .corrupted := rfl
        have changed : table.setEntry tail .endOfChain ≠ table := fun same => by
          rw [same] at ended
          exact ends ended
        rw [isUnused, release, if_neg (by decide), yields_bind, yields_get, yields_bind, stuck,
          yields_settle_error]
        exact iff_of_false changed cut
      · have changed : ∀ after, Freed (table.setEntry tail .endOfChain) after → after ≠ table := by
          rintro _ freed rfl
          rcases freed.2 tail with same | isFree
          · exact ends (same.trans ended)
          · exact isUnused isFree
        refine (release_freed _).mono ?_ ?_
        · exact fun _ after freed => ⟨rfl, iff_of_false (changed after freed) cut⟩
        · exact fun _ after freed => iff_of_false (changed after freed) cut
  · refine iff_of_true rfl (.inr fun block found => ?_)
    cases failed.symm.trans found

/-- The chain up to a block, when those after it are discarded. -/
theorem IsChain.cut {before rest : List BlockId} {last : BlockId}
    (chain : table.IsChain head (before ++ last :: rest)) :
    ((table.setEntry last .endOfChain).discard rest).IsChain head (before ++ [last]) := by
  have lastLink : last.IsLink table.size := chain.isLink_of_mem (by simp)
  have inside := lastLink.toNat_lt
  have links : ∀ block ∈ rest, block.IsLink (table.setEntry last .endOfChain).size := by
    intro block member
    rw [size_setEntry]
    exact chain.isLink_of_mem (by simp [member])
  have size : ((table.setEntry last .endOfChain).discard rest).size = table.size := by
    rw [size_discard, size_setEntry]
  obtain ⟨_, distinct, apart⟩ := List.nodup_append'.mp chain.nodup
  obtain ⟨middle, first, second⟩ := Path.of_append chain
  obtain rfl := second.head_eq
  have start : ((table.setEntry last .endOfChain).discard rest).Path head before last := by
    refine first.congr size fun block member => ?_
    rw [entry_discard links, if_neg fun inRest => apart member (List.mem_cons_of_mem _ inRest),
      setEntry_entry_of_ne inside]
    rintro rfl
    exact apart member List.mem_cons_self
  have ends : ((table.setEntry last .endOfChain).discard rest).entry last = .endOfChain := by
    rw [entry_discard links, if_neg (List.nodup_cons.mp distinct).1, setEntry_entry_self inside]
  refine start.append (Path.cons (by rwa [size]) ?_)
  rw [ends]
  exact .nil _

/-- Cutting a chain that is long enough leaves its first blocks. -/
theorem IsChain.truncate_take (chain : table.IsChain head blocks) {kept : Nat}
    (enough : kept ≤ blocks.length) :
    ∃ newHead after, truncate head kept table = .ok newHead after ∧
      after.IsChain newHead (blocks.take kept) := by
  cases kept with
  | zero => exact ⟨_, _, truncate_all_eq chain, .nil _⟩
  | succ kept =>
    obtain ⟨last, found⟩ : ∃ last, blocks[kept]? = some last :=
      ⟨_, List.getElem?_eq_getElem enough⟩
    obtain ⟨before, rest, rfl, rfl⟩ := exists_split_of_found found
    refine ⟨_, _, truncate_eq chain, ?_⟩
    rw [List.take_length_add_append]
    exact chain.cut

/-- A chain that is too short cannot be cut. -/
theorem IsChain.truncate_of_short (chain : table.IsChain head blocks) {kept : Nat}
    (short : blocks.length < kept) : truncate head kept table = .error .corrupted table := by
  have some : kept ≠ 0 := by omega
  unfold truncate
  rw [if_neg some, bind_apply, get_apply]
  dsimp only
  rw [bind_apply]
  cases found : table.nth head (kept - 1) with
  | ok block =>
    have inside := chain.exists_nth_iff.mp ⟨block, found⟩
    omega
  | error cause =>
    rw [onlyCorrupted_nth table head _ cause found]
    rfl

/-- Cutting a chain that was grown gives back the old table and the old head exactly when the old
chain had the wanted length, or nothing was added to a chain that is too short to be cut. -/
theorem Grown.truncate_undoes_iff {before after : Table} {newHead : BlockId}
    {added : List BlockId} (small : before.size ≤ 65535) (chain : before.IsChain head blocks)
    (grown : Grown before after head blocks newHead added) (kept : Nat) :
    Yields (truncate newHead kept) after
      (fun finalHead final => (final = before ∧ finalHead = head) ↔
        blocks.length = kept ∨ added = [] ∧ blocks.length < kept)
      (fun _ final => (final = before ∧ newHead = head) ↔
        blocks.length = kept ∨ added = [] ∧ blocks.length < kept) := by
  by_cases fits : blocks.length = kept
  · subst fits
    exact yields_of_ok (grown.truncate_eq small chain) (iff_of_true ⟨rfl, rfl⟩ (.inl rfl))
  by_cases enough : kept ≤ (blocks ++ added).length
  · obtain ⟨finalHead, final, cut, rest⟩ := grown.chain.truncate_take enough
    refine yields_of_ok cut (iff_of_false ?_ ?_)
    · rintro ⟨rfl, rfl⟩
      have same := congrArg List.length (chain.unique rest)
      rw [List.length_take] at same
      omega
    · rintro (same | ⟨rfl, short⟩)
      · exact fits same
      · rw [List.append_nil] at enough
        omega
  · have short : (blocks ++ added).length < kept := by omega
    unfold Yields
    rw [grown.chain.truncate_of_short short]
    constructor
    · rintro ⟨rfl, rfl⟩
      have same := chain.unique grown.chain
      have none : added = [] := by simpa using same
      subst none
      rw [List.append_nil] at short
      exact .inr ⟨rfl, short⟩
    · rintro (same | ⟨none, _⟩)
      · exact absurd same fits
      · exact grown.nothing none

end FlatVolume.Table
