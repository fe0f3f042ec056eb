/-
**The guarded table.**

Each walk and each change of the table again, with the conditions that it relies on:

* an entry is read and set only where the table has one, and a mark only where there is one;
* a chain is extended only at its end, so the tail that is linked further has no successor;
* growing a chain and marking one are loops without a budget of their own. Growing ends because the
  chain gets longer in each round, marking ends because each round uses up an unmarked block.

Nothing is assumed of the chains, which may loop, meet, or lead nowhere.
-/

import FlatVolume.Proofs.Chain.Growth
import FlatVolume.Proofs.Chain.Sound
import FlatVolume.Proofs.Chain.Walk
import FlatVolume.Proofs.Guarded.Basic
import FlatVolume.Table.Check

namespace FlatVolume.Guarded

open Table (Extent Marks)

/-! ### Entries -/

/-- The entry of a block that the table has. -/
def entryAt (table : Table) (id : BlockId) : Except Halt BlockId := do
  require (id.toNat < table.size)
  return table.entry id

/-- Sets the entry at a position that the table has. -/
def setAt (index : Nat) (value : BlockId) : EStateM Halt Table Unit := do
  settle (require (index < (← get).size))
  modify fun table => ⟨table.entries.setIfInBounds index value⟩

/-! ### Walks -/

/-- The block that follows, or nothing at the end of a chain. -/
def next? (table : Table) (id : BlockId) : Except Halt (Option BlockId) := do
  let block ← report (table.link id)
  let value ← entryAt table block
  if value = .endOfChain then return none
  return some (← report (table.link value))

/-- The block that must follow. -/
def following (table : Table) (id : BlockId) : Except Halt BlockId := do
  match ← next? table id with
  | some block => return block
  | none => .error (.reported .corrupted)

/-- The block that is reached after a number of links. -/
def advance (table : Table) : (steps : Nat) → BlockId → Except Halt BlockId
  | 0, id => .ok id
  | steps + 1, id => do advance table steps (← following table id)

/-- The block at a position of the chain. -/
def nth (table : Table) (head : BlockId) (position : Nat) : Except Halt BlockId := do
  advance table position (← report (table.link head))

/-- The block of the chain in which a byte offset lies. -/
def blockAt (table : Table) (head : BlockId) (offset : Nat) : Except Halt BlockId :=
  nth table head (offset / blockSize)

/-- The end of the chain, if it is among the next `budget` blocks. -/
def lastWithin (table : Table) : (budget : Nat) → BlockId → Except Halt BlockId
  | 0, _ => .error (.reported .corrupted)
  | budget + 1, id => do
    match ← next? table id with
    | some block => lastWithin table budget block
    | none => return id

/-- The last block of the chain. -/
def last (table : Table) (head : BlockId) : Except Halt BlockId := do
  lastWithin table table.size (← report (table.link head))

/-- The next `budget` blocks of the chain, up to its end or its first broken link. -/
def chainWithin (table : Table) : (budget : Nat) → BlockId → Except Halt (List BlockId)
  | 0, _ => return []
  | budget + 1, id =>
    match next? table id with
    | .ok (some block) => do return id :: (← chainWithin table budget block)
    | .error .panicked => .error .panicked
    | _ => return [id]

/-- The blocks of the chain in order. -/
def chain (table : Table) (head : BlockId) : Except Halt (List BlockId) :=
  match table.link head with
  | .ok block => chainWithin table table.size block
  | .error _ => return []

section Walks

variable {table : Table}

theorem entryAt_eq {id : BlockId} (inside : id.toNat < table.size) :
    entryAt table id = .ok (table.entry id) := by
  rw [entryAt, require, if_pos inside]
  rfl

/-- Without the condition there is no entry. -/
example : entryAt ⟨#[.endOfChain]⟩ .least = .error .panicked := by decide

theorem next?_eq (table : Table) (id : BlockId) :
    next? table id = report ((table.next? id).mapError .ofLink) := by
  unfold next? Table.next? Table.link
  cases valid : id.validate table.size with
  | error cause => rfl
  | ok block =>
    obtain ⟨rfl, isLink⟩ := BlockId.validate_eq_ok_iff.mp valid
    show (do
      let value ← entryAt table block
      if value = .endOfChain then return none
      return some (← report _) : Except Halt (Option BlockId)) = _
    rw [entryAt_eq isLink.toNat_lt]
    show (if table.entry block = .endOfChain then _ else _ : Except Halt (Option BlockId)) = _
    dsimp only
    by_cases ends : table.entry block = .endOfChain
    · rw [if_pos ends, if_pos ends]
      rfl
    · rw [if_neg ends, if_neg ends]
      cases (table.entry block).validate table.size <;> rfl

theorem following_eq (table : Table) (id : BlockId) :
    following table id = report (table.following id) := by
  rw [following, next?_eq, Table.following]
  cases table.next? id with
  | error cause => rfl
  | ok next => cases next <;> rfl

theorem advance_eq (table : Table) (steps : Nat) (id : BlockId) :
    advance table steps id = report (table.advance steps id) := by
  induction steps generalizing id with
  | zero => rfl
  | succ steps hypothesis =>
    rw [advance, following_eq, Table.advance]
    cases table.following id with
    | error cause => rfl
    | ok block => exact hypothesis block

theorem nth_eq (table : Table) (head : BlockId) (position : Nat) :
    nth table head position = report (table.nth head position) := by
  unfold nth Table.nth
  cases table.link head with
  | error cause => rfl
  | ok block => exact advance_eq table position block

theorem blockAt_eq (table : Table) (head : BlockId) (offset : Nat) :
    blockAt table head offset = report (table.blockAt head offset) := nth_eq table head _

theorem lastWithin_eq (table : Table) (budget : Nat) (id : BlockId) :
    lastWithin table budget id = report (table.lastWithin budget id) := by
  induction budget generalizing id with
  | zero => rfl
  | succ budget hypothesis =>
    rw [lastWithin, next?_eq, Table.lastWithin]
    cases table.next? id with
    | error cause => rfl
    | ok next =>
      cases next with
      | none => rfl
      | some block => exact hypothesis block

theorem last_eq (table : Table) (head : BlockId) : last table head = report (table.last head) := by
  unfold last Table.last
  cases table.link head with
  | error cause => rfl
  | ok block => exact lastWithin_eq table table.size block

theorem chainWithin_eq (table : Table) (budget : Nat) (id : BlockId) :
    chainWithin table budget id = .ok (table.chainWithin budget id) := by
  induction budget generalizing id with
  | zero => rfl
  | succ budget hypothesis =>
    rw [chainWithin, next?_eq, Table.chainWithin]
    cases table.next? id with
    | error cause => rfl
    | ok next =>
      cases next with
      | none => rfl
      | some block =>
        show (do return id :: (← chainWithin table budget block)) = _
        rw [hypothesis]
        rfl

theorem chain_eq (table : Table) (head : BlockId) : chain table head = .ok (table.chain head) := by
  unfold chain Table.chain
  cases table.link head with
  | error cause => rfl
  | ok block => exact chainWithin_eq table table.size block

end Walks

/-! ### Giving blocks away -/

/-- Makes the lowest unused block a chain of one block. -/
def alloc : EStateM Halt Table BlockId := do
  match (← get).firstUnused? with
  | some index =>
    setAt index .endOfChain
    return .ofNat index
  | none => throw (.reported .outOfSpace)

/-- Attaches the lowest unused block to the end of a chain. -/
def extend (tail : BlockId) : EStateM Halt Table BlockId := do
  let tail ← settle (report ((← get).link tail))
  let value ← settle (entryAt (← get) tail)
  settle (require (value = .endOfChain))
  let block ← alloc
  setAt tail.toNat block
  return block

/-- The action's result, or nothing when it runs out of space. -/
def ifSpace {α : Type} (action : EStateM Halt Table α) : EStateM Halt Table (Option α) :=
  fun table =>
    match action table with
    | .ok result after => .ok (some result) after
    | .error (.reported .outOfSpace) after => .ok none after
    | .error halt after => .error halt after

/-- Attaches blocks after `tail` until the chain has `wanted` blocks or none is left. -/
def attach (wanted : Nat) : (rounds : Nat) → (tail : BlockId) → (length : Nat) →
    EStateM Halt Table Nat
  | 0, _, _ => throw .panicked
  | rounds + 1, tail, length => do
    if length < wanted then
      match ← ifSpace (extend tail) with
      | none => return length
      | some block => attach wanted rounds block (length + 1)
    else return length

/-- Lengthens a chain to `wanted` blocks, or as far as the unused blocks go. -/
def grow (chain : Extent) (wanted : Nat) : EStateM Halt Table Extent := do
  if wanted ≤ chain.length then return chain
  if chain.head = .endOfChain then
    match ← ifSpace alloc with
    | none => return ⟨chain.head, 0⟩
    | some head => return ⟨head, ← attach wanted wanted head 1⟩
  else
    let tail ← settle (last (← get) chain.head)
    return ⟨chain.head, ← attach wanted (wanted + 1) tail chain.length⟩

section Giving

variable {table : Table}

theorem setAt_apply {index : Nat} {value : BlockId} (inside : index < table.size) :
    setAt index value table = .ok () ⟨table.entries.setIfInBounds index value⟩ := by
  rw [setAt, bind_apply, get_apply]
  dsimp only
  rw [require, if_pos inside]
  rfl

theorem alloc_safe (table : Table) : Safe alloc Table.alloc table := by
  unfold Safe reported mapErrors alloc Table.alloc
  rw [bind_apply, get_apply]
  dsimp only
  cases found : table.firstUnused? with
  | none => rfl
  | some index =>
    have inside : index < table.size := by
      rw [Table.firstUnused?, Table.firstUnusedWithin_eq] at found
      have range := List.mem_range'_1.mp (List.mem_of_find?_eq_some found)
      have least : BlockId.least.toNat = 1 := rfl
      omega
    dsimp only
    rw [bind_apply, setAt_apply inside]
    rfl

/-- The block that is given away is the end of a chain. -/
theorem alloc_yields (small : table.size ≤ 65535) :
    Yields Table.alloc table
      (fun id after => after.size = table.size ∧ id.IsLink after.size ∧
        after.entry id = .endOfChain)
      (fun _ after => after = table) := by
  unfold Yields
  rw [Table.alloc_eq small]
  cases list : table.unusedBlocks with
  | nil => rfl
  | cons id rest =>
    have isLink := ((Table.mem_unusedBlocks small).mp (list ▸ List.mem_cons_self)).1
    exact ⟨Table.size_setEntry .., by simpa using isLink,
      Table.setEntry_entry_self isLink.toNat_lt _⟩

/-- A block may be attached to the end of a chain. -/
theorem extend_safe (small : table.size ≤ 65535) {tail : BlockId}
    (tailLink : tail.IsLink table.size) (ends : table.entry tail = .endOfChain) :
    Safe (extend tail) (Table.extend tail) table := by
  refine Safe.get_bind ?_
  refine Safe.settle_bind rfl fun block linked => ?_
  obtain ⟨rfl, _⟩ := Table.link_eq_ok_iff.mp linked
  show Safe (do
    let value ← settle (entryAt table block)
    settle (require (value = .endOfChain))
    let id ← alloc
    setAt block.toNat id
    return id) _ table
  rw [entryAt_eq tailLink.toNat_lt]
  refine Safe.require_bind ends ((alloc_safe table).bind fun id after allocated => ?_)
  obtain ⟨size, _⟩ := (alloc_yields small).of_ok allocated
  have attached : Safe (setAt block.toNat id) (modify (·.setEntry block id)) after :=
    setAt_apply (by rw [size]; exact tailLink.toNat_lt)
  exact attached.bind fun _ middle _ => safe_pure id middle

theorem Safe.ifSpace {α : Type} {guarded : EStateM Halt Table α}
    {plain : EStateM VolumeError Table α} (safe : Safe guarded plain table) :
    Safe (ifSpace guarded) (Table.ifSpace plain) table := by
  unfold Safe reported mapErrors Guarded.ifSpace Table.ifSpace at *
  rw [safe]
  cases plain table with
  | ok result after => rfl
  | error cause after => cases cause <;> rfl

/-- What there was space for has been done. -/
theorem eq_ok_of_ifSpace {α : Type} {action : EStateM VolumeError Table α} {after : Table}
    {result : α} (done : Table.ifSpace action table = .ok (some result) after) :
    action table = .ok result after := by
  unfold Table.ifSpace at done
  cases ended : action table with
  | ok other middle =>
    rw [ended] at done
    obtain ⟨same, rfl⟩ := EStateM.Result.ok.inj done
    rw [Option.some.inj same]
  | error cause middle =>
    rw [ended] at done
    cases cause <;> cases done

/-- Blocks are attached in turn to the end that the one before has become. -/
theorem attach_safe (small : table.size ≤ 65535) {tail : BlockId}
    (tailLink : tail.IsLink table.size) (ends : table.entry tail = .endOfChain)
    {wanted rounds length missing : Nat} (more : length + missing = wanted)
    (enough : missing < rounds) :
    Safe (attach wanted rounds tail length) (Table.attach missing tail length) table := by
  induction missing generalizing table tail rounds length with
  | zero =>
    obtain ⟨rounds, rfl⟩ := Nat.exists_eq_add_of_lt enough
    rw [Nat.zero_add, attach, if_neg (by omega)]
    exact safe_pure length table
  | succ missing hypothesis =>
    obtain ⟨rounds, rfl⟩ := Nat.exists_eq_add_of_lt enough
    rw [show missing + 1 + rounds + 1 = (missing + 1 + rounds) + 1 from rfl, attach,
      if_pos (by omega)]
    refine (extend_safe small tailLink ends).ifSpace.bind fun found after extended => ?_
    rw [Table.ifSpace_extend_eq small tailLink] at extended
    cases list : table.unusedBlocks with
    | nil =>
      rw [list] at extended
      obtain ⟨rfl, rfl⟩ := EStateM.Result.ok.inj extended
      exact safe_pure length table
    | cons id rest =>
      rw [list] at extended
      obtain ⟨rfl, rfl⟩ := EStateM.Result.ok.inj extended
      obtain ⟨idLink, idUnused⟩ := (Table.mem_unusedBlocks small).mp (list ▸ List.mem_cons_self)
      -- The block that was attached was unused, so it is not the tail.
      have apart : id ≠ tail := by
        rintro rfl
        rw [ends] at idUnused
        cases idUnused
      refine hypothesis ?_ ?_ ?_ (by omega) (by omega)
      · simpa using small
      · simpa using idLink
      · rw [Table.setEntry_entry_of_ne (by simpa using tailLink.toNat_lt) _ apart,
          Table.setEntry_entry_self idLink.toNat_lt]

/-- Growing looks up the end of the chain, and so it may be any chain. -/
theorem grow_safe (small : table.size ≤ 65535) (extent : Extent) (wanted : Nat) :
    Safe (grow extent wanted) (Table.grow extent wanted) table := by
  unfold grow Table.grow
  by_cases enough : wanted ≤ extent.length
  · rw [if_pos enough, if_pos enough]
    exact safe_pure extent table
  rw [if_neg enough, if_neg enough]
  by_cases isEmpty : extent.head = .endOfChain
  · rw [if_pos isEmpty, if_pos isEmpty]
    refine (alloc_safe table).ifSpace.bind fun found after started => ?_
    cases found with
    | none => exact safe_pure _ after
    | some head =>
      obtain ⟨size, isLink, ends⟩ := (alloc_yields small).of_ok (eq_ok_of_ifSpace started)
      refine Safe.bind (attach_safe (by omega) isLink ends (by omega) (by omega)) ?_
      exact fun length grown _ => safe_pure _ grown
  · rw [if_neg isEmpty, if_neg isEmpty]
    refine Safe.get_bind ?_
    refine Safe.settle_bind (last_eq table extent.head) fun tail found => ?_
    obtain ⟨before, chain⟩ := Table.last_eq_ok_iff.mp found
    refine (attach_safe small (chain.isLink_of_mem (by simp)) (Table.Path.entry_last chain)
      (by omega) (by omega)).bind fun length after _ => safe_pure _ after

end Giving

/-! ### Taking blocks back -/

/-- Sets the entry of a block and returns the one it had. -/
def exchange (id value : BlockId) : EStateM Halt Table BlockId := do
  let old ← settle (entryAt (← get) id)
  setAt id.toNat value
  return old

/-- Frees the next `budget` blocks of a chain, which must end among them. -/
def releaseWithin : (budget : Nat) → BlockId → EStateM Halt Table Unit
  | 0, _ => throw (.reported .corrupted)
  | budget + 1, id => do
    let value ← exchange id .unused
    if value = .endOfChain then return ()
    let block ← settle (report ((← get).link value))
    releaseWithin budget block

/-- Frees a chain. -/
def release (head : BlockId) : EStateM Halt Table Unit := do
  if head = .endOfChain then return ()
  let block ← settle (report ((← get).link head))
  releaseWithin (← get).size block

/-- Frees a chain after its first `kept` blocks, and returns the head of what is left. -/
def truncate (head : BlockId) (kept : Nat) : EStateM Halt Table BlockId := do
  if kept = 0 then
    release head
    return .endOfChain
  settle (require (1 ≤ kept))
  let tail ← settle (nth (← get) head (kept - 1))
  let rest ← exchange tail .endOfChain
  release rest
  return head

section Taking

variable {table : Table}

theorem exchange_safe {id : BlockId} (inside : id.toNat < table.size) (value : BlockId) :
    Safe (exchange id value) (Table.exchange id value) table := by
  unfold Safe reported mapErrors exchange Table.exchange
  rw [bind_apply, get_apply]
  dsimp only
  rw [entryAt_eq inside, bind_apply, settle_apply]
  dsimp only
  rw [bind_apply, setAt_apply inside]
  rfl

/-- Only links are freed, and these have entries. -/
theorem releaseWithin_safe (budget : Nat) {id : BlockId} (isLink : id.IsLink table.size) :
    Safe (releaseWithin budget id) (Table.releaseWithin budget id) table := by
  induction budget generalizing table id with
  | zero => exact safe_throw .corrupted table
  | succ budget hypothesis =>
    refine (exchange_safe isLink.toNat_lt _).bind fun value after exchanged => ?_
    obtain ⟨rfl, rfl⟩ := EStateM.Result.ok.inj exchanged
    by_cases ends : table.entry id = .endOfChain
    · rw [if_pos ends, if_pos ends]
      exact safe_pure () _
    · rw [if_neg ends, if_neg ends]
      refine Safe.get_bind ?_
      refine Safe.settle_bind rfl fun block linked => ?_
      obtain ⟨rfl, nextLink⟩ := Table.link_eq_ok_iff.mp linked
      exact hypothesis nextLink

theorem release_safe (table : Table) (head : BlockId) :
    Safe (release head) (Table.release head) table := by
  unfold release Table.release
  by_cases isEmpty : head = .endOfChain
  · rw [if_pos isEmpty, if_pos isEmpty]
    exact safe_pure () table
  · rw [if_neg isEmpty, if_neg isEmpty]
    refine Safe.get_bind ?_
    refine Safe.settle_bind rfl fun block linked => ?_
    obtain ⟨rfl, isLink⟩ := Table.link_eq_ok_iff.mp linked
    refine Safe.get_bind ?_
    exact releaseWithin_safe table.size isLink

theorem truncate_safe (table : Table) (head : BlockId) (kept : Nat) :
    Safe (truncate head kept) (Table.truncate head kept) table := by
  unfold truncate Table.truncate
  by_cases all : kept = 0
  · rw [if_pos all, if_pos all]
    exact (release_safe table head).bind fun _ after _ => safe_pure BlockId.endOfChain after
  · rw [if_neg all, if_neg all]
    refine Safe.require_bind (by omega) (Safe.get_bind ?_)
    refine Safe.settle_bind (nth_eq table head (kept - 1)) fun tail found => ?_
    refine (exchange_safe (Table.isLink_of_nth found).toNat_lt _).bind fun rest cut _ => ?_
    exact (release_safe cut rest).bind fun _ after _ => safe_pure head after

end Taking

/-! ### Checking chains -/

/-- Marks the blocks of a chain, which must be unmarked. Returns the length of the chain, of which
`length` blocks came before. -/
def markChain (table : Table) :
    (rounds : Nat) → BlockId → (length : Nat) → Marks → Except Halt (Nat × Marks)
  | 0, _, _, _ => .error .panicked
  | rounds + 1, id, length, marks => do
    require (id.toNat < marks.size)
    if marks.getD id.toNat true then .error (.reported .corrupted)
    else
      let marks := marks.setIfInBounds id.toNat true
      match ← next? table id with
      | none => return (length + 1, marks)
      | some block => markChain table rounds block (length + 1) marks

/-- Marks the blocks of one file. -/
def markFile (table : Table) (marks : Marks) (head : BlockId) (size : Nat) : Except Halt Marks := do
  if head = .endOfChain then
    if blocksFor size = 0 then return marks else .error (.reported .corrupted)
  else
    let block ← report (table.link head)
    let (length, marks) ← markChain table (table.size + 1) block 0 marks
    if length = blocksFor size then return marks else .error (.reported .corrupted)

/-- Marks the blocks of all files in turn. -/
def markFiles (table : Table) : Marks → List (BlockId × Nat) → Except Halt Marks
  | marks, [] => return marks
  | marks, (head, size) :: rest => do
    markFiles table (← markFile table marks head size) rest

/-- Every chain has the length that its file's size needs, and no two of them share a block. -/
def check (table : Table) (files : List (BlockId × Nat)) : Except Halt Unit := do
  let _ ← markFiles table (Array.replicate table.size false) files

section Checking

variable {table : Table} {marks : Marks}

/-- Marking a chain comes to a marked block when there is no other, and not later. -/
theorem markChain_eq {budget rounds length : Nat} {id : BlockId} (marked : marks.size = table.size)
    (isLink : id.IsLink table.size) (left : marks.count false ≤ budget)
    (enough : marks.count false < rounds) :
    markChain table rounds id length marks =
      report (table.markChain budget id length marks) := by
  have inside : id.toNat < marks.size := by
    rw [marked]
    exact isLink.toNat_lt
  induction rounds generalizing budget id length marks with
  | zero => omega
  | succ rounds hypothesis =>
    rw [markChain, require, if_pos inside]
    show (if marks.getD id.toNat true = true then _ else _ : Except Halt (Nat × Marks)) = _
    by_cases visited : marks.getD id.toNat true = true
    · rw [if_pos visited]
      cases budget with
      | zero => rfl
      | succ budget =>
        rw [Table.markChain, if_pos visited]
        rfl
    · have fewer := Table.count_set_add_one inside visited
      obtain ⟨budget, rfl⟩ : ∃ rest, budget = rest + 1 := ⟨budget - 1, by omega⟩
      rw [if_neg visited, Table.markChain, if_neg visited, next?_eq]
      cases follows : table.next? id with
      | error cause => rfl
      | ok next =>
        cases next with
        | none => rfl
        | some block =>
          obtain ⟨_, rfl, nextLink⟩ := Table.next?_eq_some_iff.mp follows
          have size : (marks.setIfInBounds id.toNat true).size = marks.size :=
            Array.size_setIfInBounds
          refine hypothesis (size.trans marked) nextLink (by omega) (by omega) ?_
          rw [size, marked]
          exact nextLink.toNat_lt

theorem markFile_eq (marked : marks.size = table.size) (head : BlockId) (size : Nat) :
    markFile table marks head size = report (table.markFile marks head size) := by
  have count : marks.count false ≤ table.size := marked ▸ Array.count_le_size
  unfold markFile Table.markFile
  by_cases isEmpty : head = .endOfChain
  · rw [if_pos isEmpty, if_pos isEmpty]
    split <;> rfl
  rw [if_neg isEmpty, if_neg isEmpty]
  cases linked : table.link head with
  | error cause => rfl
  | ok block =>
    obtain ⟨rfl, isLink⟩ := Table.link_eq_ok_iff.mp linked
    show (do
      let (length, marks) ← markChain table (table.size + 1) block 0 marks
      if length = blocksFor size then return marks else .error (.reported .corrupted)) = _
    rw [markChain_eq marked isLink count (Nat.lt_succ_of_le count)]
    dsimp only
    cases table.markChain table.size block 0 marks with
    | error cause => rfl
    | ok result =>
      show (if result.1 = blocksFor size then _ else _ : Except Halt Marks) = _
      dsimp only
      split <;> rfl

theorem size_markAll (marks : Marks) (blocks : List BlockId) :
    (Table.markAll marks blocks).size = marks.size := by
  induction blocks generalizing marks with
  | nil => rfl
  | cons id rest hypothesis => exact (hypothesis _).trans Array.size_setIfInBounds

theorem markFiles_eq (marked : marks.size = table.size) (files : List (BlockId × Nat)) :
    markFiles table marks files = report (table.markFiles marks files) := by
  induction files generalizing marks with
  | nil => rfl
  | cons file rest hypothesis =>
    obtain ⟨head, size⟩ := file
    rw [markFiles, Table.markFiles, markFile_eq marked]
    cases first : table.markFile marks head size with
    | error cause => rfl
    | ok after =>
      obtain ⟨_, _, rfl⟩ := Table.markFile_eq_ok_iff.mp first
      exact hypothesis ((size_markAll ..).trans marked)

theorem check_eq (table : Table) (files : List (BlockId × Nat)) :
    check table files = report (table.check files) := by
  unfold check Table.check
  rw [markFiles_eq Array.size_replicate]
  cases table.markFiles (Array.replicate table.size false) files <;> rfl

/-- A chain that loops is found out when it comes back to its first block. -/
example : check ⟨#[.endOfChain, ⟨2⟩, ⟨1⟩]⟩ [(⟨1⟩, 8192)] = .error (.reported .corrupted) := by
  decide +kernel

end Checking

end FlatVolume.Guarded
