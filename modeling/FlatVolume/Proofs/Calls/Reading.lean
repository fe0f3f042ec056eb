/-
**The calls of a read.**

A read makes one call for each block that the walk along the chain comes to, in order, and it ends
in one of three ways (`readSpans_calls`): all pieces were read; the chain breaks off before the last
piece (`BreaksOff`), after all blocks up to there were read; or a block cannot be read
(`FailsAt`), and no call comes after it. The chain may be corrupted in any way.
-/

import FlatVolume.Proofs.Calls.Exact
import FlatVolume.Proofs.Chain.Reach
import FlatVolume.File.Read

namespace FlatVolume.Disk

/-- One successful read of each block. -/
def readCalls (layout : SuperBlock) (blocks : List BlockId) : List Call :=
  blocks.map fun id => ⟨.read, layout.dataBlock id, false⟩

/-- All blocks of the walk were read, and they are fewer than there are pieces. -/
structure BreaksOff (layout : SuperBlock) (blocks : List BlockId) (count : Nat)
    (before after : Disk) (cause : VolumeError) : Prop where
  cause_eq : cause = .corrupted
  short : blocks.length < count
  led : Led (readCalls layout blocks) before after

/-- The blocks up to one were read, and that one could not be. -/
def FailsAt (layout : SuperBlock) (blocks : List BlockId) (before after : Disk)
    (cause : VolumeError) : Prop :=
  ∃ read id rest error, blocks = read ++ id :: rest ∧ cause = .device error ∧
    Led (readCalls layout read ++ [⟨.read, layout.dataBlock id, true⟩]) before after ∧
    before.Accounts ⟨.read, layout.dataBlock id, true⟩ error

section Read

variable {layout : SuperBlock} {table : Table} {blocks : List BlockId} {count : Nat}
  {id : BlockId} {before middle after : Disk} {cause : VolumeError}

/-- One more block was read before the chain broke off. -/
theorem BreaksOff.cons (first : Led [⟨.read, layout.dataBlock id, false⟩] before middle)
    (breaksOff : BreaksOff layout blocks count middle after cause) :
    BreaksOff layout (id :: blocks) (count + 1) before after cause where
  cause_eq := breaksOff.cause_eq
  short := Nat.succ_lt_succ breaksOff.short
  led := first.append breaksOff.led

/-- One more block was read before the one that could not be. -/
theorem FailsAt.cons (first : Led [⟨.read, layout.dataBlock id, false⟩] before middle)
    (failsAt : FailsAt layout blocks middle after cause) :
    FailsAt layout (id :: blocks) before after cause := by
  obtain ⟨read, failed, rest, error, rfl, rfl, led, accounts⟩ := failsAt
  exact ⟨id :: read, failed, rest, error, rfl, rfl, first.append led,
    first.accounts_iff.mp accounts⟩

/-- The blocks that the walk comes to are read in order, until the chain breaks off or a block
cannot be read. -/
theorem readSpans_calls (layout : SuperBlock) (table : Table) (pieces : List Span)
    (block : BlockId) (disk : Disk) :
    Yields (readSpans layout table pieces block) disk
      (fun _ after => (table.chainWithin pieces.length block).length = pieces.length ∧
        Led (readCalls layout (table.chainWithin pieces.length block)) disk after)
      (fun cause after =>
        BreaksOff layout (table.chainWithin pieces.length block) pieces.length disk after cause ∨
          FailsAt layout (table.chainWithin pieces.length block) disk after cause) := by
  have single : ∀ block disk, Single (fun _ => True) .read block (fetchBlock block) disk :=
    fun _ disk => single_fetchBlock (fun _ => trivial) disk
  fun_induction readSpans (D := Disk) layout table pieces block generalizing disk with
  | case1 => exact ⟨rfl, .nil _ disk⟩
  | case2 span block =>
    rw [List.length_singleton, Table.chainWithin_one]
    refine yields_bind.mpr (Yields.mono (single _ disk) ?_ ?_)
    · exact fun _ _ led => ⟨rfl, led⟩
    · intro cause after ended
      obtain ⟨led, error, rfl, accounts⟩ := ended
      exact .inr ⟨[], block, [], error, rfl, rfl, led, accounts⟩
  | case3 span next rest block hypothesis =>
    refine yields_bind.mpr (Yields.mono (single _ disk) ?_ ?_)
    · intro content fetched first
      rw [yields_bind, List.length_cons]
      refine yields_settle (fun following follows => ?_) fun cause broken => ?_
      · rw [Table.chainWithin_of_following follows]
        refine yields_bind.mpr ((hypothesis following fetched).mono ?_ ?_)
        · intro data after ended
          obtain ⟨complete, led⟩ := ended
          exact ⟨congrArg (· + 1) complete, Made.append first led⟩
        · exact fun cause after ended => ended.imp (.cons first) (.cons first)
      · rw [Table.chainWithin_of_broken broken]
        refine .inl ⟨Table.onlyCorrupted_following _ _ _ broken, ?_, first⟩
        rw [List.length_singleton, List.length_cons]
        omega
    · intro cause after ended
      obtain ⟨led, error, rfl, accounts⟩ := ended
      obtain ⟨others, list⟩ := Table.exists_chainWithin_eq_cons table block (next :: rest).length
      rw [List.length_cons, list]
      exact .inr ⟨[], block, others, error, rfl, rfl, led, accounts⟩

end Read

end FlatVolume.Disk
