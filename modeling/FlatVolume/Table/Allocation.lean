/-
**Giving blocks to chains and taking them back.**

* `alloc` makes the lowest unused block a chain of its own, `extend` attaches it to a chain's end;
* `release` frees a chain, `truncate` frees it from a position on;
* `grow` lengthens a chain as far as the unused blocks go.

`alloc` and `extend` change nothing when they fail. `release` frees each block as it comes to it,
so on a broken chain the blocks before the break are freed although it fails.
-/

import FlatVolume.Focus
import FlatVolume.Table.Basic

namespace FlatVolume.Table

/-! ### Giving blocks away -/

/-- The first unused block among `count` blocks that start at `index`. -/
def firstUnusedWithin (table : Table) (index : Nat) : (count : Nat) → Option Nat
  | 0 => none
  | count + 1 =>
    if table.entries.getD index .endOfChain = .unused then some index
    else table.firstUnusedWithin (index + 1) count

/-- The lowest block that can be given away. -/
def firstUnused? (table : Table) : Option Nat :=
  table.firstUnusedWithin BlockId.least.toNat (table.size - BlockId.least.toNat)

/-- Makes the lowest unused block a chain of one block. -/
def alloc : EStateM VolumeError Table BlockId := fun table =>
  match table.firstUnused? with
  | some index => .ok (.ofNat index) ⟨table.entries.setIfInBounds index .endOfChain⟩
  | none => .error .outOfSpace table

/-- Attaches the lowest unused block to the end of a chain. -/
def extend (tail : BlockId) : EStateM VolumeError Table BlockId := do
  let tail ← settle ((← get).link tail)
  let block ← alloc
  modify (·.setEntry tail block)
  return block

/-! ### Taking blocks back -/

/-- Sets the entry of a block and returns the one it had. -/
def exchange (id value : BlockId) : EStateM VolumeError Table BlockId := fun table =>
  .ok (table.entry id) (table.setEntry id value)

/-- Frees the next `budget` blocks of a chain, which must end among them. -/
def releaseWithin : (budget : Nat) → BlockId → EStateM VolumeError Table Unit
  | 0, _ => throw .corrupted
  | budget + 1, id => do
    let value ← exchange id .unused
    if value = .endOfChain then return ()
    let block ← settle ((← get).link value)
    releaseWithin budget block

/-- Frees a chain. The end of a chain names the empty chain. -/
def release (head : BlockId) : EStateM VolumeError Table Unit := do
  if head = .endOfChain then return ()
  let block ← settle ((← get).link head)
  releaseWithin (← get).size block

/-- Frees a chain after its first `kept` blocks, and returns the head of what is left. -/
def truncate (head : BlockId) (kept : Nat) : EStateM VolumeError Table BlockId := do
  if kept = 0 then
    release head
    return .endOfChain
  let tail ← settle ((← get).nth head (kept - 1))
  let rest ← exchange tail .endOfChain
  release rest
  return head

/-! ### Growing a chain -/

/-- The action's result, or nothing when it runs out of space. -/
def ifSpace {α : Type} (action : EStateM VolumeError Table α) :
    EStateM VolumeError Table (Option α) := fun table =>
  match action table with
  | .ok result after => .ok (some result) after
  | .error .outOfSpace after => .ok none after
  | .error cause after => .error cause after

/-- Attaches up to `wanted` blocks after `tail`, as far as the unused blocks go, and returns the new
length of a chain that had `length` blocks. -/
def attach : (wanted : Nat) → (tail : BlockId) → (length : Nat) → EStateM VolumeError Table Nat
  | 0, _, length => pure length
  | wanted + 1, tail, length => do
    match ← ifSpace (extend tail) with
    | none => return length
    | some block => attach wanted block (length + 1)

/-- The head and the length of a chain. -/
structure Extent where
  head : BlockId
  length : Nat
deriving DecidableEq

/-- Lengthens a chain to `wanted` blocks, or as far as the unused blocks go. An empty chain starts
with the lowest unused block. -/
def grow (chain : Extent) (wanted : Nat) : EStateM VolumeError Table Extent := do
  if wanted ≤ chain.length then return chain
  if chain.head = .endOfChain then
    match ← ifSpace alloc with
    | none => return ⟨chain.head, 0⟩
    | some head => return ⟨head, ← attach (wanted - 1) head 1⟩
  else
    let tail ← settle ((← get).last chain.head)
    return ⟨chain.head, ← attach (wanted - chain.length) tail chain.length⟩

end FlatVolume.Table
