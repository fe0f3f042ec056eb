/-
**Checking chains against sizes.**

`check` accepts a list of files, each given by its first block and its size, when every chain ends
after just as many blocks as the size needs and no block is visited twice. It marks each block that
it visits, and a marked block is the sign of a loop or of two chains that meet.
-/

import FlatVolume.Table.Basic

namespace FlatVolume.Table

/-- The blocks visited so far. -/
abbrev Marks := Array Bool

/-- Marks the blocks of a chain, which must be unmarked and end within `budget` blocks. Returns the
length of the chain, of which `length` blocks came before. -/
def markChain (table : Table) :
    (budget : Nat) → BlockId → (length : Nat) → Marks → Except VolumeError (Nat × Marks)
  | 0, _, _, _ => .error .corrupted
  | budget + 1, id, length, marks =>
    if marks.getD id.toNat true then .error .corrupted
    else
      let marks := marks.setIfInBounds id.toNat true
      match table.next? id with
      | .ok none => .ok (length + 1, marks)
      | .ok (some block) => table.markChain budget block (length + 1) marks
      | .error cause => .error (.ofLink cause)

/-- Marks the blocks of one file. A file without a chain must be empty. -/
def markFile (table : Table) (marks : Marks) (head : BlockId) (size : Nat) :
    Except VolumeError Marks :=
  if head = .endOfChain then
    if blocksFor size = 0 then .ok marks else .error .corrupted
  else
    match table.link head with
    | .error cause => .error cause
    | .ok block =>
      match table.markChain table.size block 0 marks with
      | .error cause => .error cause
      | .ok (length, marks) =>
        if length = blocksFor size then .ok marks else .error .corrupted

/-- Marks the blocks of all files in turn. -/
def markFiles (table : Table) : Marks → List (BlockId × Nat) → Except VolumeError Marks
  | marks, [] => .ok marks
  | marks, (head, size) :: rest =>
    match table.markFile marks head size with
    | .error cause => .error cause
    | .ok marks => table.markFiles marks rest

/-- Every chain has the length that its file's size needs, and no two of them share a block. -/
def check (table : Table) (files : List (BlockId × Nat)) : Except VolumeError Unit :=
  match table.markFiles (Array.replicate table.size false) files with
  | .error cause => .error cause
  | .ok _ => .ok ()

end FlatVolume.Table
