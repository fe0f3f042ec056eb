/-
**Data block numbers.**

A data block is named by sixteen bits that count from the start of the data area. Two numbers have
a meaning of their own: `0` marks an unused block and `0xFFFF` ends a chain, so neither can be a
link. `BlockId.validate` accepts exactly the numbers that can (`validate_eq_ok_iff`).
-/

import FlatVolume.Error

namespace FlatVolume

/-- The number of a data block, which is also the value of an allocation table entry. -/
structure BlockId where
  raw : UInt16
deriving DecidableEq

namespace BlockId

instance : Inhabited BlockId := ⟨⟨0⟩⟩

/-- The mark of an unused block. -/
def unused : BlockId := ⟨0⟩

/-- The least number that can be given to a file. -/
def least : BlockId := ⟨1⟩

/-- The end of a chain, and the first block of a file that has none. -/
def endOfChain : BlockId := ⟨0xFFFF⟩

/-- The number as it counts blocks. -/
def toNat (id : BlockId) : Nat := id.raw.toNat

/-- The number cut to sixteen bits. -/
def ofNat (number : Nat) : BlockId := ⟨UInt16.ofNat number⟩

theorem toNat_lt (id : BlockId) : id.toNat < 65536 := id.raw.toNat_lt

theorem toNat_ofNat (number : Nat) : (ofNat number).toNat = number % 65536 := by
  simp [ofNat, toNat]

theorem ofNat_toNat (id : BlockId) : ofNat id.toNat = id := by
  simp [ofNat, toNat]

theorem toNat_inj {first second : BlockId} : first.toNat = second.toNat ↔ first = second := by
  constructor
  · intro same
    rw [← ofNat_toNat first, ← ofNat_toNat second, same]
  · rintro rfl
    rfl

/-- A number that a chain can lead to in a data area of `dataBlocks` blocks. -/
def IsLink (id : BlockId) (dataBlocks : Nat) : Prop :=
  id ≠ unused ∧ id ≠ endOfChain ∧ id.toNat < dataBlocks

instance (id : BlockId) (dataBlocks : Nat) : Decidable (id.IsLink dataBlocks) :=
  inferInstanceAs (Decidable (_ ∧ _ ∧ _))

/-- Accepts the links of a data area of `dataBlocks` blocks. -/
def validate (id : BlockId) (dataBlocks : Nat) : Except LinkError BlockId :=
  if id = unused then .error .unused
  else if id = endOfChain then .error .endOfChain
  else if dataBlocks ≤ id.toNat then .error .outOfRange
  else .ok id

/-- Exactly the links are accepted, each as itself. -/
theorem validate_eq_ok_iff {id link : BlockId} {dataBlocks : Nat} :
    id.validate dataBlocks = .ok link ↔ link = id ∧ id.IsLink dataBlocks := by
  unfold validate IsLink
  split <;> rename_i isUnused
  · simp [isUnused]
  split <;> rename_i isEnd
  · simp [isEnd]
  split <;> rename_i range
  · simp only [reduceCtorEq, false_iff]
    omega
  · simp only [Except.ok.injEq]
    grind

end BlockId

end FlatVolume
