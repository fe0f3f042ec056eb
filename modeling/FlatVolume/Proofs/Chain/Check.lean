/-
**What a check accepts.**

`check_eq_ok_iff`: a check accepts a list of files exactly when every file has a chain of the length
that its size needs, and no block is in two of the chains. The marks that the check sets are the
blocks of the chains that it has accepted so far (`isMarked_markAll`).
-/

import FlatVolume.Proofs.Chain.Path
import FlatVolume.Table.Check

namespace FlatVolume.Table

/-! ### Marks -/

/-- The check would refuse to visit the block. -/
def IsMarked (marks : Marks) (id : BlockId) : Prop := marks.getD id.toNat true = true

/-- The marks after the blocks were visited. -/
def markAll (marks : Marks) (blocks : List BlockId) : Marks :=
  blocks.foldl (fun marks id => marks.setIfInBounds id.toNat true) marks

theorem isMarked_set (marks : Marks) (id other : BlockId) :
    IsMarked (marks.setIfInBounds id.toNat true) other ↔ IsMarked marks other ∨ other = id := by
  simp only [IsMarked, Array.getD_eq_getD_getElem?, Array.getElem?_setIfInBounds]
  by_cases same : id = other
  · subst same
    by_cases inside : id.toNat < marks.size <;> simp [inside]
  · have apart : id.toNat ≠ other.toNat := fun equal => same (BlockId.toNat_inj.mp equal)
    simp [apart, Ne.symm same]

/-- Just the visited blocks are marked, besides those that were before. -/
theorem isMarked_markAll (marks : Marks) (blocks : List BlockId) (other : BlockId) :
    IsMarked (markAll marks blocks) other ↔ IsMarked marks other ∨ other ∈ blocks := by
  induction blocks generalizing marks with
  | nil => simp [markAll]
  | cons id rest hypothesis =>
    have first := hypothesis (marks.setIfInBounds id.toNat true)
    rw [isMarked_set] at first
    rw [List.mem_cons, ← or_assoc]
    exact first

/-- Visiting a block first leaves the blocks of a list unmarked that were, unless it is among
them. -/
theorem unmarked_cons_iff {marks : Marks} {id : BlockId} {rest : List BlockId} (apart : id ∉ rest)
    (unmarked : ¬ IsMarked marks id) :
    (∀ block ∈ id :: rest, ¬ IsMarked marks block) ↔
      ∀ block ∈ rest, ¬ IsMarked (marks.setIfInBounds id.toNat true) block := by
  rw [List.forall_mem_cons, and_iff_right unmarked]
  refine forall₂_congr fun block member => not_congr ?_
  rw [isMarked_set, or_iff_left]
  rintro rfl
  exact apart member

theorem markAll_append (marks : Marks) (blocks rest : List BlockId) :
    markAll marks (blocks ++ rest) = markAll (markAll marks blocks) rest :=
  List.foldl_append

theorem not_isMarked_replicate {id : BlockId} {size : Nat} (inside : id.toNat < size) :
    ¬ IsMarked (Array.replicate size false) id := by
  simp [IsMarked, inside]

/-- A visit uses up an unmarked block. -/
theorem count_set_add_one {marks : Marks} {id : BlockId} (inside : id.toNat < marks.size)
    (unmarked : ¬ marks.getD id.toNat true = true) :
    (marks.setIfInBounds id.toNat true).count false + 1 = marks.count false := by
  have isFalse : marks[id.toNat] = false := by
    simpa [Array.getD_eq_getD_getElem?, inside] using unmarked
  have some : 0 < marks.count false :=
    Array.count_pos_iff.mpr (isFalse ▸ Array.getElem_mem inside)
  rw [Array.setIfInBounds_def, dif_pos inside, Array.count_set, isFalse]
  simp only [BEq.rfl, ↓reduceIte, Bool.true_beq, Bool.false_eq_true, Nat.add_zero]
  omega

/-! ### Marking chains -/

section Marking

variable {table : Table}

/-- A chain is accepted if it fits the budget and visits no marked block, and then its blocks are
marked. -/
theorem markChain_eq_ok_iff {budget length total : Nat} {id : BlockId} {marks after : Marks}
    (isLink : id.IsLink table.size) :
    table.markChain budget id length marks = .ok (total, after) ↔
      ∃ blocks, table.IsChain id blocks ∧ blocks.length ≤ budget ∧
        (∀ block ∈ blocks, ¬ IsMarked marks block) ∧
        total = length + blocks.length ∧ after = markAll marks blocks := by
  induction budget generalizing id length marks with
  | zero =>
    simp only [markChain, reduceCtorEq, false_iff]
    rintro ⟨blocks, chain, short, _⟩
    obtain rfl := List.eq_nil_of_length_eq_zero (Nat.le_zero.mp short)
    rw [chain.head_of_nil] at isLink
    exact BlockId.not_isLink_endOfChain _ isLink
  | succ budget hypothesis =>
    by_cases marked : IsMarked marks id
    · have refused : table.markChain (budget + 1) id length marks = .error .corrupted := by
        rw [markChain, if_pos (show marks.getD id.toNat true = true from marked)]
      rw [refused]
      simp only [reduceCtorEq, false_iff]
      rintro ⟨blocks, chain, _, unmarked, _⟩
      cases chain with
      | nil => exact BlockId.not_isLink_endOfChain _ isLink
      | cons _ _ => exact unmarked id List.mem_cons_self marked
    · rw [markChain, if_neg (show ¬ marks.getD id.toNat true = true from marked)]
      dsimp only
      cases follows : table.next? id with
      | error cause =>
        simp only [reduceCtorEq, false_iff]
        rintro ⟨blocks, chain, _⟩
        exact not_isChain_of_broken isLink follows chain
      | ok next =>
        cases next with
        | none =>
          simp only [isChain_iff_of_ends follows, Except.ok.injEq, Prod.mk.injEq, exists_eq_left]
          constructor
          · rintro ⟨rfl, rfl⟩
            exact ⟨Nat.succ_le_succ (Nat.zero_le budget), by simpa using marked, rfl, rfl⟩
          · rintro ⟨_, _, rfl, rfl⟩
            exact ⟨rfl, rfl⟩
        | some next =>
          obtain ⟨_, _, nextLink⟩ := next?_eq_some_iff.mp follows
          simp only
          rw [hypothesis nextLink]
          constructor
          · rintro ⟨rest, path, short, unmarked, rfl, rfl⟩
            have chain := (isChain_iff_of_follows follows).mpr ⟨rest, rfl, path⟩
            have apart := (List.nodup_cons.mp chain.nodup).1
            refine ⟨id :: rest, chain, Nat.succ_le_succ short,
              (unmarked_cons_iff apart marked).mpr unmarked, ?_, rfl⟩
            rw [List.length_cons]
            omega
          · rintro ⟨blocks, chain, short, unmarked, rfl, rfl⟩
            obtain ⟨rest, rfl, path⟩ := (isChain_iff_of_follows follows).mp chain
            have apart := (List.nodup_cons.mp chain.nodup).1
            refine ⟨rest, path, Nat.le_of_succ_le_succ short,
              (unmarked_cons_iff apart marked).mp unmarked, ?_, rfl⟩
            rw [List.length_cons]
            omega

/-- A file is accepted if it has a chain of the right length that visits no marked block. -/
theorem markFile_eq_ok_iff {marks after : Marks} {head : BlockId} {size : Nat} :
    table.markFile marks head size = .ok after ↔
      (table.IsChain head (table.chain head) ∧
        (table.chain head).length = blocksFor size) ∧
      (∀ block ∈ table.chain head, ¬ IsMarked marks block) ∧
      after = markAll marks (table.chain head) := by
  unfold markFile
  by_cases isEnd : head = .endOfChain
  · subst isEnd
    have empty : table.chain .endOfChain = [] := (IsChain.nil table).chain_eq
    simp only [↓reduceIte, empty, List.length_nil, List.not_mem_nil, false_implies, implies_true,
      true_and, IsChain.nil]
    by_cases none : blocksFor size = 0
    · simp [none, markAll, eq_comm]
    · simp [none, Ne.symm none]
  · rw [if_neg isEnd]
    cases linked : table.link head with
    | error cause =>
      simp only [reduceCtorEq, false_iff]
      rintro ⟨⟨chain, _⟩, _⟩
      rcases chain.head_cases with ⟨ends, _⟩ | ⟨isLink, _⟩
      · exact isEnd ends
      · simp [link_of_isLink isLink] at linked
    | ok block =>
      obtain ⟨rfl, isLink⟩ := link_eq_ok_iff.mp linked
      simp only
      constructor
      · intro accepted
        cases visited : table.markChain table.size block 0 marks with
        | error cause => simp [visited] at accepted
        | ok result =>
          obtain ⟨total, marked⟩ := result
          obtain ⟨blocks, chain, _, unmarked, rfl, rfl⟩ :=
            (markChain_eq_ok_iff isLink).mp visited
          rw [chain.chain_eq]
          rw [visited, Nat.zero_add] at accepted
          by_cases fits : blocks.length = blocksFor size
          · simp only [fits, ↓reduceIte, Except.ok.injEq] at accepted
            exact ⟨⟨chain, fits⟩, unmarked, accepted.symm⟩
          · simp only [fits, ↓reduceIte, reduceCtorEq] at accepted
      · rintro ⟨⟨chain, fits⟩, unmarked, rfl⟩
        have visited : table.markChain table.size block 0 marks =
            .ok (0 + (table.chain block).length, markAll marks (table.chain block)) :=
          (markChain_eq_ok_iff isLink).mpr
            ⟨table.chain block, chain, chain.length_le, unmarked, rfl, rfl⟩
        rw [visited]
        simp [fits]

/-- The files are accepted if each is and no block is visited twice. -/
theorem markFiles_eq_ok_iff {files : List (BlockId × Nat)} {marks after : Marks} :
    table.markFiles marks files = .ok after ↔
      (∀ file ∈ files, table.IsChain file.1 (table.chain file.1) ∧
        (table.chain file.1).length = blocksFor file.2) ∧
      (files.flatMap fun file => table.chain file.1).Nodup ∧
      (∀ block ∈ files.flatMap fun file => table.chain file.1, ¬ IsMarked marks block) ∧
      after = markAll marks (files.flatMap fun file => table.chain file.1) := by
  induction files generalizing marks with
  | nil => simp [markFiles, markAll, eq_comm]
  | cons file rest hypothesis =>
    obtain ⟨head, size⟩ := file
    rw [List.flatMap_cons, List.forall_mem_cons, markAll_append, List.nodup_append']
    constructor
    · intro accepted
      cases first : table.markFile marks head size with
      | error cause => simp [markFiles, first] at accepted
      | ok marked =>
        simp only [markFiles, first] at accepted
        obtain ⟨fits, unmarked, rfl⟩ := markFile_eq_ok_iff.mp first
        obtain ⟨restFits, restNodup, restUnmarked, rfl⟩ := hypothesis.mp accepted
        refine ⟨⟨fits, restFits⟩, ⟨fits.1.nodup, restNodup, ?_⟩, ?_, rfl⟩
        · intro block here there
          exact restUnmarked block there ((isMarked_markAll _ _ _).mpr (.inr here))
        · intro block member
          rcases List.mem_append.mp member with member | member
          · exact unmarked block member
          · exact fun still =>
              restUnmarked block member ((isMarked_markAll _ _ _).mpr (.inl still))
    · rintro ⟨⟨fits, restFits⟩, ⟨_, restNodup, apart⟩, unmarked, rfl⟩
      have first : table.markFile marks head size = .ok (markAll marks (table.chain head)) :=
        markFile_eq_ok_iff.mpr
          ⟨fits, fun block member => unmarked block (List.mem_append_left _ member), rfl⟩
      simp only [markFiles, first]
      refine hypothesis.mpr ⟨restFits, restNodup, ?_, rfl⟩
      intro block member still
      rcases (isMarked_markAll _ _ _).mp still with still | here
      · exact unmarked block (List.mem_append_right _ member) still
      · exact apart here member

end Marking

/-- Files are accepted exactly when each has a chain of the length that its size needs and no block
is in two chains. -/
theorem check_eq_ok_iff {table : Table} {files : List (BlockId × Nat)} :
    table.check files = .ok () ↔
      (∀ file ∈ files, table.IsChain file.1 (table.chain file.1) ∧
        (table.chain file.1).length = blocksFor file.2) ∧
      (files.flatMap fun file => table.chain file.1).Nodup := by
  have checked : table.check files = .ok () ↔
      ∃ after, table.markFiles (Array.replicate table.size false) files = .ok after := by
    unfold check
    cases table.markFiles (Array.replicate table.size false) files <;> simp
  rw [checked]
  constructor
  · rintro ⟨after, accepted⟩
    obtain ⟨fits, nodup, _⟩ := markFiles_eq_ok_iff.mp accepted
    exact ⟨fits, nodup⟩
  · rintro ⟨fits, nodup⟩
    refine ⟨_, markFiles_eq_ok_iff.mpr ⟨fits, nodup, ?_, rfl⟩⟩
    intro block member
    obtain ⟨file, listed, member⟩ := List.mem_flatMap.mp member
    exact not_isMarked_replicate ((fits file listed).1.isLink_of_mem member).toNat_lt

end FlatVolume.Table
