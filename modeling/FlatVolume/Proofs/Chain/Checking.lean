/-
**A check step by step.**

The loop of a check counts nothing down: it goes from block to block until a chain ends or a visit
fails. `Checking` is where such a check stands and `Checking.step` is its next step. What ends the
loop are the marks, which all files share:

* `weight_step`: a step that is not the last visits an unmarked block or begins a file, so what is
  left to do gets less;
* `outcome_step`: a step leaves the outcome of the check as it is;
* `iterate_step_eq`: the check is over after as many steps as there are blocks and files, and it has
  the outcome of `Table.check`;
* `check_decides`: this outcome is success exactly when every file walks to its end over as many
  blocks as its size needs and no block is visited twice, and otherwise the chains are corrupted.
-/

import Mathlib.Data.List.Iterate
import FlatVolume.Proofs.Chain.Walk

namespace FlatVolume.Table

/-! ### Steps -/

/-- Where a check stands. -/
inductive Checking where
  /-- Some files are still to be begun. -/
  | between (marks : Marks) (files : List (BlockId × Nat))
  /-- A block of a file of `size` bytes is to be visited; `length` blocks of it came before. -/
  | visiting (id : BlockId) (length size : Nat) (marks : Marks) (files : List (BlockId × Nat))
  /-- Nothing is left to do. -/
  | ended (outcome : Except VolumeError Unit)

namespace Checking

/-- Nothing is marked before a check. -/
def start (table : Table) (files : List (BlockId × Nat)) : Checking :=
  between (Array.replicate table.size false) files

/-- Begins a file, or visits a block and marks it. -/
def step (table : Table) : Checking → Checking
  | between _ [] => ended (.ok ())
  | between marks ((head, size) :: files) =>
    if head = .endOfChain then
      if blocksFor size = 0 then between marks files else ended (.error .corrupted)
    else
      match table.link head with
      | .ok block => visiting block 0 size marks files
      | .error cause => ended (.error cause)
  | visiting id length size marks files =>
    if marks.getD id.toNat true then ended (.error .corrupted)
    else
      let marks := marks.setIfInBounds id.toNat true
      match table.next? id with
      | .ok (some block) => visiting block (length + 1) size marks files
      | .ok none =>
        if length + 1 = blocksFor size then between marks files else ended (.error .corrupted)
      | .error cause => ended (.error (.ofLink cause))
  | ended outcome => ended outcome

/-- The steps that are left at most: a visit of every unmarked block, the first step of every file,
and the end. -/
def weight : Checking → Nat
  | between marks files => marks.count false + files.length + 1
  | visiting _ _ _ marks files => marks.count false + files.length + 1
  | ended _ => 0

/-- There is one mark for each block of the table. -/
def OneMarkEach (table : Table) : Checking → Prop
  | between marks _ => marks.size = table.size
  | visiting _ _ _ marks _ => marks.size = table.size
  | ended _ => True

/-- What the check comes to from here. A chain is given as many visits as there are unmarked
blocks. -/
def outcome (table : Table) : Checking → Except VolumeError Unit
  | between marks files => (table.markFiles marks files).map fun _ => ()
  | visiting id length size marks files =>
    match table.markChain (marks.count false) id length marks with
    | .ok (total, marks) =>
      if total = blocksFor size then (table.markFiles marks files).map fun _ => ()
      else .error .corrupted
    | .error cause => .error cause
  | ended outcome => outcome

variable {table : Table} {marks : Marks} {id : BlockId} {state : Checking}

/-! ### What a step preserves -/

/-- An unmarked block has a mark to set. -/
theorem toNat_lt_of_unmarked (unmarked : ¬ marks.getD id.toNat true = true) :
    id.toNat < marks.size := by
  by_contra outside
  exact unmarked (by simp [Array.getD_eq_getD_getElem?, Nat.le_of_not_lt outside])

theorem oneMarkEach_start (table : Table) (files : List (BlockId × Nat)) :
    OneMarkEach table (start table files) := Array.size_replicate

theorem OneMarkEach.step (each : OneMarkEach table state) :
    OneMarkEach table (state.step table) := by
  cases state with
  | between marks files =>
    cases files with
    | nil => trivial
    | cons file files =>
      obtain ⟨head, size⟩ := file
      rw [Checking.step]
      split
      · split
        · exact each
        · trivial
      · split
        · exact each
        · trivial
  | visiting id length size marks files =>
    have marked : (marks.setIfInBounds id.toNat true).size = table.size :=
      Array.size_setIfInBounds.trans each
    rw [Checking.step]
    split
    · trivial
    · dsimp only
      split
      · exact marked
      · split
        · exact marked
        · trivial
      · trivial
  | ended outcome => trivial

/-- A step leaves less to do. -/
theorem weight_step (state : Checking) : (state.step table).weight ≤ state.weight - 1 := by
  cases state with
  | between marks files =>
    cases files with
    | nil => exact Nat.zero_le _
    | cons file files =>
      obtain ⟨head, size⟩ := file
      rw [step]
      split
      · split
        · exact Nat.le_refl _
        · exact Nat.zero_le _
      · split
        · exact Nat.le_refl _
        · exact Nat.zero_le _
  | visiting id length size marks files =>
    by_cases marked : marks.getD id.toNat true = true
    · rw [step, if_pos marked]
      exact Nat.zero_le _
    · have fewer := count_set_add_one (toNat_lt_of_unmarked marked) marked
      rw [step, if_neg marked]
      dsimp only
      split
      · simp only [weight]
        omega
      · split
        · simp only [weight]
          omega
        · exact Nat.zero_le _
      · exact Nat.zero_le _
  | ended outcome => exact Nat.zero_le _

/-- A chain cannot use more visits than there are unmarked blocks. -/
theorem markChain_eq_of_count_le {budget length : Nat} (enough : marks.count false ≤ budget) :
    table.markChain budget id length marks =
      table.markChain (marks.count false) id length marks := by
  induction budget generalizing id length marks with
  | zero => rw [Nat.le_zero.mp enough]
  | succ budget hypothesis =>
    by_cases marked : marks.getD id.toNat true = true
    · rw [markChain, if_pos marked]
      cases marks.count false with
      | zero => rw [markChain]
      | succ count => rw [markChain, if_pos marked]
    · have fewer := count_set_add_one (toNat_lt_of_unmarked marked) marked
      rw [← fewer, markChain, markChain, if_neg marked, if_neg marked]
      dsimp only
      cases table.next? id with
      | error cause => rfl
      | ok next =>
        cases next with
        | none => rfl
        | some block => exact hypothesis (by omega)

/-- A step leaves the outcome as it is. -/
theorem outcome_step (each : OneMarkEach table state) :
    (state.step table).outcome table = state.outcome table := by
  cases state with
  | between marks files =>
    cases files with
    | nil => rfl
    | cons file files =>
      obtain ⟨head, size⟩ := file
      have count : marks.count false ≤ table.size := each ▸ Array.count_le_size
      rw [step, outcome, markFiles, markFile]
      split
      · split <;> rfl
      · cases table.link head with
        | error cause => rfl
        | ok block =>
          dsimp only
          rw [outcome, markChain_eq_of_count_le count]
          cases table.markChain (marks.count false) block 0 marks with
          | error cause => rfl
          | ok result =>
            dsimp only
            split <;> rfl
  | visiting id length size marks files =>
    by_cases marked : marks.getD id.toNat true = true
    · rw [step, if_pos marked, outcome, outcome]
      cases marks.count false with
      | zero => rw [markChain]
      | succ count => rw [markChain, if_pos marked]
    · have fewer := count_set_add_one (toNat_lt_of_unmarked marked) marked
      rw [step, if_neg marked]
      conv_rhs => rw [outcome, ← fewer, markChain, if_neg marked]
      dsimp only
      cases table.next? id with
      | error cause => rfl
      | ok next =>
        cases next with
        | none =>
          dsimp only
          split <;> rfl
        | some block => rfl
  | ended outcome => rfl

/-! ### Whole checks -/

/-- Nothing is left to do once the outcome is there. -/
theorem eq_ended_of_weight_eq_zero (none : state.weight = 0) :
    state = ended (state.outcome table) := by
  cases state with
  | between marks files => cases none
  | visiting id length size marks files => cases none
  | ended outcome => rfl

/-- A check that stands at `state` is over after as many steps as its weight says. -/
theorem iterate_step_of_weight_le {steps : Nat} (each : OneMarkEach table state)
    (enough : state.weight ≤ steps) : (step table)^[steps] state = ended (state.outcome table) := by
  induction steps generalizing state with
  | zero => exact eq_ended_of_weight_eq_zero (Nat.le_zero.mp enough)
  | succ steps hypothesis =>
    have less : (state.step table).weight ≤ state.weight - 1 := weight_step state
    rw [Function.iterate_succ_apply, hypothesis each.step (by omega), outcome_step each]

/-- A check is over after as many steps as there are blocks and files, and the outcome is the one
that the table reports. -/
theorem iterate_step_eq (table : Table) (files : List (BlockId × Nat)) :
    (step table)^[table.size + files.length + 1] (start table files) =
      ended (table.check files) := by
  have unmarked : (Array.replicate table.size false).count false = table.size := by simp
  have reported : (start table files).outcome table = table.check files := by
    rw [start, outcome, check]
    cases table.markFiles (Array.replicate table.size false) files <;> rfl
  rw [← reported]
  refine iterate_step_of_weight_le (oneMarkEach_start table files) ?_
  rw [start, weight, unmarked]

end Checking

/-! ### What is accepted -/

variable {table : Table} {head stop : BlockId} {blocks : List BlockId}

/-- The blocks that following the entries from the head of a file visits, as many as its size
needs. -/
def walk (table : Table) (file : BlockId × Nat) : List BlockId :=
  List.iterate table.entry file.1 (blocksFor file.2)

/-- A path visits what the entries lead to, one after the other. -/
theorem Path.eq_iterate (path : table.Path head blocks stop) :
    blocks = List.iterate table.entry head blocks.length ∧
      table.entry^[blocks.length] head = stop := by
  induction path with
  | nil => exact ⟨rfl, rfl⟩
  | cons isLink _ hypothesis =>
    refine ⟨?_, hypothesis.2⟩
    rw [List.length_cons, List.iterate, ← hypothesis.1]

/-- Following the entries is a path as long as it visits links. -/
theorem Path.of_iterate {length : Nat}
    (links : ∀ block ∈ List.iterate table.entry head length, block.IsLink table.size) :
    table.Path head (List.iterate table.entry head length) (table.entry^[length] head) := by
  induction length generalizing head with
  | zero => exact .nil head
  | succ length hypothesis =>
    rw [List.iterate, List.forall_mem_cons] at links
    exact .cons links.1 (hypothesis links.2)

/-- An empty file has no block. Any other file visits links only, as many as its size needs, before
it comes to the end of the chain. -/
def WalksToEnd (table : Table) (file : BlockId × Nat) : Prop :=
  file.1 = .endOfChain ∧ file.2 = 0 ∨
    file.1 ≠ .endOfChain ∧ (∀ block ∈ table.walk file, block.IsLink table.size) ∧
      table.entry^[blocksFor file.2] file.1 = .endOfChain

instance (table : Table) (file : BlockId × Nat) : Decidable (table.WalksToEnd file) :=
  inferInstanceAs (Decidable (_ ∨ _))

/-- What fits a file is its walk, if that comes to the end. -/
theorem fits_iff (file : BlockId × Nat) :
    table.Fits file.1 file.2 blocks ↔ blocks = table.walk file ∧ table.WalksToEnd file := by
  obtain ⟨head, size⟩ := file
  constructor
  · rintro ⟨chain, length⟩
    obtain ⟨walked, ends⟩ := Path.eq_iterate chain
    rw [length] at walked ends
    refine ⟨walked, ?_⟩
    by_cases isEnd : head = .endOfChain
    · subst isEnd
      rw [chain.eq_nil, List.length_nil, eq_comm, blocksFor_eq_zero_iff] at length
      exact .inl ⟨rfl, length⟩
    · refine .inr ⟨isEnd, fun block member => ?_, ends⟩
      rw [walk, ← walked] at member
      exact chain.isLink_of_mem member
  · rintro ⟨rfl, ⟨rfl, rfl⟩ | ⟨_, links, ends⟩⟩
    · exact ⟨.nil table, rfl⟩
    · refine ⟨?_, List.length_iterate ..⟩
      have path := Path.of_iterate links
      rwa [ends] at path

/-- A check of any table and any files ends, after at most one step for each block, one for each
file and a last one. It accepts the files exactly when each walks to its end and no block is
visited twice, by one file or by two. The only error is that the chains are corrupted. -/
theorem check_decides (table : Table) (files : List (BlockId × Nat)) :
    (Checking.step table)^[table.size + files.length + 1] (Checking.start table files) =
        .ended (table.check files) ∧
      (table.check files = .ok () ↔
        (∀ file ∈ files, table.WalksToEnd file) ∧ (files.flatMap table.walk).Nodup) ∧
      (table.check files = .ok () ∨ table.check files = .error .corrupted) := by
  refine ⟨Checking.iterate_step_eq table files, ?_, ?_⟩
  · rw [check_eq_ok_iff]
    -- On both sides each file owns its walk, so the lists of all blocks are the same.
    have walks : (∀ file ∈ files, table.chain file.1 = table.walk file) →
        files.flatMap (fun file => table.chain file.1) = files.flatMap table.walk :=
      fun same => List.flatMap_congr same
    constructor
    · rintro ⟨fit, nodup⟩
      have owns := fun file listed => (fits_iff file).mp ⟨(fit file listed).1, (fit file listed).2⟩
      refine ⟨fun file listed => (owns file listed).2, ?_⟩
      rwa [← walks fun file listed => (owns file listed).1]
    · rintro ⟨toEnd, nodup⟩
      have owns := fun file listed => (fits_iff file).mpr ⟨rfl, toEnd file listed⟩
      have same := fun file listed => (owns file listed).chain.chain_eq
      rw [walks same]
      refine ⟨fun file listed => ?_, nodup⟩
      rw [same file listed]
      exact ⟨(owns file listed).chain, (owns file listed).length_eq⟩
  · cases checked : table.check files with
    | ok result => exact .inl rfl
    | error cause => exact .inr (congrArg _ (onlyCorrupted_check table files cause checked))

end FlatVolume.Table
