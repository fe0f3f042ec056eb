/-
**What the operations in memory do.**

Each operation on a volume in memory as an equation: what it checks, in which order, and what it
changes. On an intact volume deleting a file always frees all its blocks (`delete_eq`).
-/

import FlatVolume.Proofs.Volume.Lays

namespace FlatVolume.Volume

variable {volume : Volume}

theorem create_eq (volume : Volume) (name : String) :
    create name volume =
      match volume.directory.insert name with
      | .ok (_, directory) => .ok () { volume with directory }
      | .error cause => .error cause volume := by
  simp only [create, bind_apply, get_apply, settle_apply]
  cases volume.directory.insert name <;> rfl

theorem openFile_eq (volume : Volume) (name : String) :
    openFile name volume =
      match volume.directory.lookup name with
      | .error cause => .error cause volume
      | .ok slot =>
        match volume.descriptors.insert slot with
        | .ok (descriptor, descriptors) => .ok descriptor { volume with descriptors }
        | .error cause => .error cause volume := by
  simp only [openFile, bind_apply, get_apply, settle_apply]
  cases volume.directory.lookup name with
  | error cause => rfl
  | ok slot =>
    dsimp only
    cases volume.descriptors.insert slot <;> rfl

theorem close_eq (volume : Volume) (descriptor : Nat) :
    close descriptor volume =
      match volume.descriptors.get descriptor with
      | .ok _ => .ok () { volume with descriptors := volume.descriptors.set descriptor none }
      | .error cause => .error cause volume := by
  simp only [close, Descriptors.erase, bind_apply, get_apply, settle_apply]
  cases volume.descriptors.get descriptor <;> rfl

theorem seek_eq (volume : Volume) (descriptor offset : Nat) :
    seek descriptor offset volume =
      match volume.descriptors.get descriptor with
      | .error cause => .error cause volume
      | .ok file =>
        if (volume.directory.get file.slot).size.toNat < offset then
          .error .offsetOutOfRange volume
        else
          .ok () { volume with
            descriptors := volume.descriptors.set descriptor (some { file with offset }) } := by
  simp only [seek, bind_apply, get_apply, settle_apply]
  cases volume.descriptors.get descriptor with
  | error cause => rfl
  | ok file =>
    dsimp only
    split <;> rfl

/-- A file of an intact volume passes the check that is made before it is deleted. -/
theorem Lays.check_file {blocks : Slot → List BlockId} (lays : volume.Lays blocks) {slot : Slot}
    (occupied : ¬ (volume.directory.get slot).IsFree) :
    volume.table.check [((volume.directory.get slot).first,
      (volume.directory.get slot).size.toNat)] = .ok () := by
  have chain := lays.chain slot occupied
  refine Table.check_eq_ok_iff.mpr ⟨fun file member => ?_, ?_⟩
  · obtain rfl := List.mem_singleton.mp member
    rw [chain.chain_eq]
    exact ⟨chain, lays.length slot occupied⟩
  · rw [List.flatMap_singleton, chain.chain_eq]
    exact chain.nodup

theorem delete_eq {blocks : Slot → List BlockId} (lays : volume.Lays blocks) (name : String) :
    delete name volume =
      match volume.directory.lookup name with
      | .error cause => .error cause volume
      | .ok slot =>
        if volume.descriptors.IsOpen slot then .error .fileInUse volume
        else
          .ok () { volume with
            table := volume.table.discard (blocks slot)
            directory := volume.directory.remove slot } := by
  simp only [delete, bind_apply, get_apply, settle_apply]
  cases looked : volume.directory.lookup name with
  | error cause => rfl
  | ok slot =>
    have occupied := Directory.occupied_of_lookup looked
    dsimp only
    split
    · rfl
    · rw [bind_apply, settle_apply, lays.check_file occupied]
      dsimp only
      rw [bind_apply, focus_ok (Table.release_eq (lays.chain slot occupied))]
      rfl

end FlatVolume.Volume
