/-
**What every operation keeps of a table.**

A sound table has one entry for each data block, never gives block `0` away, and has no entry that
points outside the data area. Nothing is said about its chains, which may loop, meet or end in
nothing. Growing, releasing and truncating keep a table sound whether they succeed or not, and they
return only heads that a directory entry may have (`IsHead`).
-/

import FlatVolume.Proofs.Chain.Growth
import FlatVolume.Table.Storage

namespace FlatVolume

/-- The end mark or a link: what the first block of a file can be. -/
def BlockId.IsHead (id : BlockId) (dataBlocks : Nat) : Prop :=
  id = .endOfChain ∨ id.IsLink dataBlocks

namespace Table

/-- The table describes `dataBlocks` blocks and has no impossible entry. -/
structure Sound (table : Table) (dataBlocks : Nat) : Prop where
  size_eq : table.size = dataBlocks
  acceptable : table.Acceptable

namespace Sound

variable {table : Table} {dataBlocks : Nat} {id value : BlockId}

/-- Block `0` is the end of a chain. -/
theorem entry_zero (sound : table.Sound dataBlocks) : table.entry .unused = .endOfChain := by
  have zero : BlockId.unused.toNat = 0 := rfl
  simp only [entry, zero, Array.getD_eq_getD_getElem?, sound.acceptable.1, Option.getD_some]

/-- Block `0` is never unused. -/
theorem reserved (sound : table.Sound dataBlocks) : table.entry .unused ≠ .unused := by
  rw [sound.entry_zero]
  decide

/-- A link may get any possible entry. -/
theorem setEntry (sound : table.Sound dataBlocks) (isLink : id.IsLink table.size)
    (possible : IsEntryValue dataBlocks value) : (table.setEntry id value).Sound dataBlocks := by
  refine ⟨by rw [size_setEntry, sound.size_eq], ?_, fun other member => ?_⟩
  · have zero : BlockId.unused.toNat = 0 := rfl
    have apart : id.toNat ≠ 0 :=
      fun equal => isLink.1 (BlockId.toNat_inj.mp (equal.trans zero.symm))
    simp only [Table.setEntry, Array.getElem?_setIfInBounds, if_neg apart]
    exact sound.acceptable.1
  · rw [size_setEntry, sound.size_eq]
    rcases Array.mem_or_eq_of_mem_setIfInBounds member with member | rfl
    · rw [← sound.size_eq]
      exact sound.acceptable.2 other member
    · exact possible

end Sound

theorem IsEntryValue.of_isLink {dataBlocks : Nat} {id : BlockId} (isLink : id.IsLink dataBlocks) :
    IsEntryValue dataBlocks id := .inr (.inr isLink.toNat_lt)

/-! ### Growing -/

section Grow

variable {table : Table} {dataBlocks : Nat}

theorem alloc_sound (sound : table.Sound dataBlocks) (small : dataBlocks ≤ 65535) :
    Yields alloc table (fun id after => after.Sound dataBlocks ∧ id.IsLink dataBlocks)
      (fun _ after => after.Sound dataBlocks) := by
  have smallTable : table.size ≤ 65535 := by rw [sound.size_eq]; exact small
  unfold Yields
  rw [alloc_eq smallTable]
  cases list : table.unusedBlocks with
  | nil => exact sound
  | cons id rest =>
    have isLink := ((mem_unusedBlocks smallTable).mp (list ▸ List.mem_cons_self)).1
    exact ⟨sound.setEntry isLink (.inr (.inl rfl)), by rwa [← sound.size_eq]⟩

theorem extend_sound (sound : table.Sound dataBlocks) (small : dataBlocks ≤ 65535)
    (tail : BlockId) :
    Yields (extend tail) table (fun id after => after.Sound dataBlocks ∧ id.IsLink dataBlocks)
      (fun _ after => after.Sound dataBlocks) := by
  unfold extend
  simp only [yields_bind, yields_get]
  refine yields_settle (fun block linked => ?_) fun _ _ => sound
  obtain ⟨rfl, isLink⟩ := link_eq_ok_iff.mp linked
  refine (alloc_sound sound small).mono (fun id after allocated => ?_) fun _ _ still => still
  simp only [yields_modify, yields_pure]
  refine ⟨allocated.1.setEntry ?_ (.of_isLink allocated.2), allocated.2⟩
  rwa [allocated.1.size_eq, ← sound.size_eq]

theorem ifSpace_sound {α : Type} {action : EStateM VolumeError Table α} {holds : α → Prop}
    (yields : Yields action table (fun result after => after.Sound dataBlocks ∧ holds result)
      (fun _ after => after.Sound dataBlocks)) :
    Yields (ifSpace action) table
      (fun found after => after.Sound dataBlocks ∧ ∀ result, found = some result → holds result)
      (fun _ after => after.Sound dataBlocks) := by
  unfold Yields ifSpace at *
  cases ended : action table with
  | ok result after =>
    rw [ended] at yields
    refine ⟨yields.1, fun other same => ?_⟩
    obtain rfl := Option.some.inj same
    exact yields.2
  | error cause after =>
    rw [ended] at yields
    cases cause <;> first | exact yields | exact ⟨yields, fun _ none => by cases none⟩

theorem attach_sound (sound : table.Sound dataBlocks) (small : dataBlocks ≤ 65535)
    (wanted : Nat) (tail : BlockId) (length : Nat) :
    Leaves (attach wanted tail length) table (Sound · dataBlocks) := by
  induction wanted generalizing table tail length with
  | zero => exact sound
  | succ wanted hypothesis =>
    refine yields_bind.mpr ((ifSpace_sound (extend_sound sound small tail)).mono ?_ ?_)
    · rintro (_ | block) after ⟨still, _⟩
      · exact still
      · exact hypothesis still block (length + 1)
    · exact fun _ _ still => still

/-- Growing any chain keeps the table sound and returns a possible head. -/
theorem grow_sound (sound : table.Sound dataBlocks) (small : dataBlocks ≤ 65535) {chain : Extent}
    (isHead : chain.head.IsHead dataBlocks) (wanted : Nat) :
    Yields (grow chain wanted) table
      (fun extent after => after.Sound dataBlocks ∧ extent.head.IsHead dataBlocks)
      (fun _ after => after.Sound dataBlocks) := by
  unfold grow
  split
  · exact ⟨sound, isHead⟩
  split
  · refine yields_bind.mpr ((ifSpace_sound (alloc_sound sound small)).mono ?_ ?_)
    · rintro (_ | head) after ⟨still, isLink⟩
      · exact ⟨still, isHead⟩
      · refine yields_bind.mpr ((attach_sound still small _ _ _).mono ?_ fun _ _ still => still)
        exact fun _ _ still => ⟨still, .inr (isLink head rfl)⟩
    · exact fun _ _ still => still
  · simp only [yields_bind, yields_get]
    refine yields_settle (fun tail _ => ?_) fun _ _ => sound
    refine (attach_sound sound small _ _ _).mono ?_ fun _ _ still => still
    exact fun _ _ still => ⟨still, isHead⟩

end Grow

/-! ### Taking back -/

section Release

variable {table : Table} {dataBlocks : Nat}

theorem releaseWithin_sound (sound : table.Sound dataBlocks) (budget : Nat) {id : BlockId}
    (isLink : id.IsLink dataBlocks) :
    Leaves (releaseWithin budget id) table (Sound · dataBlocks) := by
  induction budget generalizing table id with
  | zero => exact sound
  | succ budget hypothesis =>
    have still : (table.setEntry id .unused).Sound dataBlocks :=
      sound.setEntry (by rwa [sound.size_eq]) (.inl rfl)
    refine yields_bind.mpr ?_
    show Yields _ (table.setEntry id .unused) _ _
    split
    · exact still
    · simp only [yields_bind, yields_get]
      refine yields_settle (fun block linked => ?_) fun _ _ => still
      obtain ⟨rfl, nextLink⟩ := link_eq_ok_iff.mp linked
      rw [still.size_eq] at nextLink
      exact hypothesis still nextLink

/-- Releasing any chain keeps the table sound, also when it stops in the middle. -/
theorem release_sound (sound : table.Sound dataBlocks) (head : BlockId) :
    Leaves (release head) table (Sound · dataBlocks) := by
  unfold release
  split
  · exact sound
  · unfold Leaves
    simp only [yields_bind, yields_get]
    refine yields_settle (fun block linked => ?_) fun _ _ => sound
    obtain ⟨rfl, isLink⟩ := link_eq_ok_iff.mp linked
    rw [sound.size_eq] at isLink
    exact releaseWithin_sound sound _ isLink

/-- Links lead only to links. -/
theorem isLink_of_advance {id last : BlockId} {steps : Nat} (isLink : id.IsLink table.size)
    (found : table.advance steps id = .ok last) : last.IsLink table.size := by
  induction steps generalizing id with
  | zero =>
    rw [advance, Except.ok.injEq] at found
    rwa [← found]
  | succ steps hypothesis =>
    rw [advance] at found
    cases follows : table.following id with
    | error cause => simp [follows] at found
    | ok next =>
      rw [follows] at found
      obtain ⟨_, rfl, nextLink⟩ := next?_eq_some_iff.mp (following_eq_ok_iff.mp follows)
      exact hypothesis nextLink found

theorem isLink_of_nth {head id : BlockId} {position : Nat}
    (found : table.nth head position = .ok id) : id.IsLink table.size := by
  unfold nth at found
  cases linked : table.link head with
  | error cause => simp [linked] at found
  | ok block =>
    rw [linked] at found
    obtain ⟨rfl, isLink⟩ := link_eq_ok_iff.mp linked
    exact isLink_of_advance isLink found

/-- Truncating any chain keeps the table sound and returns a possible head. -/
theorem truncate_sound (sound : table.Sound dataBlocks) {head : BlockId}
    (isHead : head.IsHead dataBlocks) (kept : Nat) :
    Yields (truncate head kept) table
      (fun newHead after => after.Sound dataBlocks ∧ newHead.IsHead dataBlocks)
      (fun _ after => after.Sound dataBlocks) := by
  unfold truncate
  split
  · refine yields_bind.mpr ((release_sound sound head).mono ?_ fun _ _ still => still)
    exact fun _ _ still => ⟨still, .inl rfl⟩
  · simp only [yields_bind, yields_get]
    refine yields_settle (fun tail found => ?_) fun _ _ => sound
    have tailLink := isLink_of_nth found
    have ended : (table.setEntry tail .endOfChain).Sound dataBlocks :=
      sound.setEntry tailLink (.inr (.inl rfl))
    show Yields (release (table.entry tail)) (table.setEntry tail .endOfChain) _ _
    refine (release_sound ended _).mono ?_ fun _ _ still => still
    exact fun _ _ still => ⟨still, isHead⟩

end Release

end Table

end FlatVolume
