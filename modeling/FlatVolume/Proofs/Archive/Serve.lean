/-
**Requests to a volume and calls to its archive.**

`serve_mirrors`: as long as the device fails no call, a request to a mounted volume that is intact
ends as the call to its archive, and leaves a volume behind whose archive is the one after the call.
The two operations that touch the content of files are `read_mirrors` and `write_mirrors`.
-/

import FlatVolume.Proofs.Archive.Operations

namespace FlatVolume.Mounted

open BlockDevice

variable {D : Type} [BlockDevice D] [FaithfulDevice D]

/-- What a client can tell about a mounted volume. -/
def archive (mounted : Mounted D) : Archive := mounted.volume.archive (content mounted.device)

/-- The action ends as the call to the archive does, with a reply made of its result. -/
def Mirrors {α : Type} (action : EStateM VolumeError (Mounted D) α) (mounted : Mounted D)
    (reply : α → Reply) (outcome : Archive.Outcome) : Prop :=
  Yields action mounted
    (fun result after => outcome = .ok (reply result, after.archive) ∧
      Follows mounted.device after.device)
    (fun cause after => outcome = .error cause ∧ after.archive = mounted.archive ∧
      Follows mounted.device after.device)

variable {mounted : Mounted D} {blocks : Slot → List BlockId}

/-- What happens in memory is seen the same on any device. -/
theorem onVolume_mirrors {α : Type} {action : EStateM VolumeError Volume α} {reply : α → Reply}
    {outcome : Archive.Outcome}
    (mirrors : Volume.Mirrors action mounted.volume (content mounted.device) reply outcome) :
    Mirrors (onVolume action) mounted reply outcome := by
  refine yields_focus.mpr (mirrors.mono ?_ ?_)
  · exact fun _ _ ended => ⟨ended, .refl _⟩
  · intro cause after ended
    obtain ⟨failed, rfl⟩ := ended
    exact ⟨failed, rfl, .refl _⟩

/-- What is only looked up changes nothing. -/
theorem asked_mirrors {α : Type} {outcome : Except VolumeError α} {reply : α → Reply} :
    Mirrors (settle outcome) mounted reply
      (outcome.map fun result => (reply result, mounted.archive)) := by
  refine yields_settle ?_ ?_
  · rintro result rfl
    exact ⟨rfl, .refl _⟩
  · rintro cause rfl
    exact ⟨rfl, rfl, .refl _⟩

theorem fileSize_mirrors (sound : mounted.Sound) (lays : mounted.volume.Lays blocks)
    (descriptor : Nat) :
    mounted.archive.fileSize descriptor =
      (mounted.volume.fileSize descriptor).map fun size => (.count size, mounted.archive) := by
  unfold Archive.fileSize Volume.fileSize archive
  rw [Volume.archive_opened]
  cases used : mounted.volume.descriptors.get descriptor with
  | error cause => rfl
  | ok file =>
    have occupied := (sound.volume.descriptors descriptor file used).1
    show Except.ok _ = Except.ok _
    rw [Volume.archive_bytesIn, lays.length_fileBytes occupied]

/-- The list of an intact volume without first blocks is that of its archive. -/
theorem list_mirrors (lays : mounted.volume.Lays blocks) :
    mounted.volume.list.map (fun file => { file with first := .endOfChain }) =
      mounted.archive.list := by
  unfold Volume.list Directory.files Archive.list
  rw [List.map_map, List.map_filterMap]
  refine List.filterMap_congr fun slot _ => ?_
  by_cases free : (mounted.volume.directory.get slot).IsFree
  · rw [if_pos free, archive, Volume.archive_files_of_free free]
    rfl
  · rw [if_neg free, archive, Volume.archive_files_of_occupied free, Option.map_some,
      Option.map_some, lays.length_fileBytes free]
    rfl

/-- A read that stays below the largest position is mirrored. -/
theorem read_mirrors_of_bounded (sound : mounted.Sound) (lays : mounted.volume.Lays blocks)
    (reliable : Reliable mounted.device) {descriptor length : Nat}
    (bounded : ∀ file, mounted.volume.descriptors.get descriptor = .ok file →
      file.offset + length < positionLimit) :
    Mirrors (read descriptor length) mounted .data (mounted.archive.read descriptor length) := by
  unfold Archive.read archive
  rw [Volume.archive_opened]
  cases used : mounted.volume.descriptors.get descriptor with
  | error cause => exact (yields_read_of_unused used length).mpr ⟨rfl, rfl, .refl _⟩
  | ok file =>
    refine (read_yields sound lays used length).mono ?_ ?_
    · intro data after ended
      obtain ⟨_, found, volume, same, follows⟩ := ended
      refine ⟨?_, follows⟩
      rw [archive, volume, same, Volume.archive_setDescriptor, found]
      show Except.ok _ = _
      rw [Volume.archive_bytesIn]
    · intro cause after ended
      rcases ended with ⟨⟨_, long⟩ | fault, _⟩
      · exact absurd (bounded file used) (Nat.not_lt.mpr long)
      · exact absurd reliable fault.unreliable

theorem read_mirrors (sound : mounted.Sound) (lays : mounted.volume.Lays blocks)
    (reliable : Reliable mounted.device) (descriptor : Nat) {length : Nat}
    (short : length < 2 ^ 63) :
    Mirrors (read descriptor length) mounted .data (mounted.archive.read descriptor length) := by
  refine read_mirrors_of_bounded sound lays reliable fun file used => ?_
  have inside := (sound.volume.descriptors descriptor file used).2
  have size := (mounted.volume.directory.get file.slot).size.toNat_lt
  simp only [positionLimit, UInt64.size]
  omega

section Write

variable {descriptor : Nat} {file : OpenFile} {data : Bytes} {store : FileStore D} {count : Nat}

/-- The unused blocks are the ones that are left. -/
theorem Sound.archive_free (sound : mounted.Sound) :
    mounted.archive.free = mounted.volume.table.unusedBlocks.length :=
  sound.volume.freeCount_eq

/-- The archive knows by how many blocks a file can grow. -/
theorem length_addedBlocks (sound : mounted.Sound) (lays : mounted.volume.Lays blocks)
    {slot : Slot} (occupied : ¬ (mounted.volume.directory.get slot).IsFree) (length : Nat) :
    (addedBlocks mounted.volume.table (blocks slot) length).length =
      mounted.archive.added slot length := by
  have owned : (blocks slot).length = blocksFor (mounted.archive.bytesIn slot).length := by
    rw [archive, Volume.archive_bytesIn, lays.length_fileBytes occupied, lays.length slot occupied]
  rw [addedBlocks, List.length_take, Archive.added, owned, sound.archive_free]

/-- The archive knows where a write stops. -/
theorem writeStop_eq (sound : mounted.Sound) (lays : mounted.volume.Lays blocks)
    {slot : Slot} (occupied : ¬ (mounted.volume.directory.get slot).IsFree) (length : Nat) :
    writeStop mounted.volume.table (blocks slot) length = mounted.archive.stop slot length := by
  rw [writeStop, length_addedBlocks sound lays occupied, Archive.stop, archive,
    Volume.archive_bytesIn, lays.length_fileBytes occupied, lays.length slot occupied]

/-- The archive of a volume after a write that succeeded. -/
theorem written_archive (sound : mounted.Sound) (lays : mounted.volume.Lays blocks)
    (used : mounted.volume.descriptors.get descriptor = .ok file)
    (soundAfter : (mounted.afterWrite descriptor file store count).Sound)
    (written : Written mounted.volume.layout (blocks file.slot) file.offset data
      (fileStore file.slot mounted) store)
    (counted : count = mounted.archive.stop file.slot (file.offset + data.length) - file.offset) :
    (mounted.afterWrite descriptor file store count).archive =
      { (mounted.archive.setFile file.slot ((mounted.archive.files file.slot).map fun old =>
            { old with bytes := overwrite old.bytes file.offset (data.take count) })).setDescriptor
          descriptor (some { file with offset := file.offset + count }) with
        free := mounted.archive.free -
          mounted.archive.added file.slot (file.offset + data.length) } := by
  obtain ⟨occupied, inside⟩ := sound.volume.descriptors descriptor file used
  refine Archive.ext ?_ ?_ ?_
  · show ((mounted.afterWrite descriptor file store count).volume.archive
      (content store.device)).files = _
    rw [Volume.archive_files_update file.slot fun other apart =>
      ⟨Directory.get_set_of_ne apart, written_fileBytes_of_ne lays occupied written apart⟩]
    have entry : (mounted.afterWrite descriptor file store count).volume.directory.get file.slot =
        store.entry := Directory.get_set_self
    have name : store.entry.name = (mounted.volume.directory.get file.slot).name :=
      DirEntry.name_congr written.name
    have still : ¬ ((mounted.afterWrite descriptor file store count).volume.directory.get
        file.slot).IsFree := by
      rw [entry]
      exact mt (DirEntry.isFree_congr written.name).mp occupied
    rw [Volume.archive_files_of_occupied still, entry, name,
      written_fileBytes_self lays occupied inside written,
      writeStop_eq sound lays occupied, ← counted, archive,
      Volume.archive_files_of_occupied occupied]
    rfl
  · have moved : Archive.descriptors (Volume.archive { mounted.volume with
        descriptors := mounted.volume.descriptors.set descriptor
          (some { file with offset := file.offset + count }) } (content mounted.device)) = _ :=
      congrArg Archive.descriptors (Volume.archive_setDescriptor ..)
    exact moved
  · have left : store.table.unusedBlocks.length = mounted.volume.table.unusedBlocks.length -
        (blocksFor (file.offset + data.length) - (blocks file.slot).length) := by
      rw [written.unused, List.length_drop]
      rfl
    show (mounted.afterWrite descriptor file store count).archive.free = mounted.archive.free - _
    rw [← length_addedBlocks sound lays occupied, soundAfter.archive_free, sound.archive_free,
      addedBlocks, List.length_take]
    show store.table.unusedBlocks.length = _
    omega

theorem write_mirrors (sound : mounted.Sound) (lays : mounted.volume.Lays blocks)
    (reliable : Reliable mounted.device) (descriptor : Nat) (data : Bytes) :
    Mirrors (write descriptor data) mounted .count (mounted.archive.write descriptor data) := by
  have opened : mounted.archive.opened descriptor = mounted.volume.descriptors.get descriptor :=
    Volume.archive_opened ..
  unfold Archive.write
  rw [opened]
  cases used : mounted.volume.descriptors.get descriptor with
  | error cause => exact (yields_write_of_unused used data).mpr ⟨rfl, rfl, .refl _⟩
  | ok file =>
    obtain ⟨occupied, inside⟩ := sound.volume.descriptors descriptor file used
    refine ((write_yields sound lays used).and (write_sound sound descriptor data)).mono ?_ ?_
    · intro count after ended
      obtain ⟨⟨store, rfl, counted, bounded, written⟩, soundAfter⟩ := ended
      have fits : ¬ maxFileSize < file.offset + data.length := by
        have size := (mounted.volume.directory.get file.slot).size.toNat_lt
        by_cases none : data = []
        · rw [none, List.length_nil, maxFileSize]
          omega
        · exact Nat.not_lt.mpr (bounded none)
      rw [writeStop_eq sound lays occupied] at counted
      refine ⟨?_, written.follows⟩
      rw [written_archive sound lays used soundAfter written counted, counted]
      exact if_neg fits
    · intro cause after ended
      rcases ended with ⟨⟨rfl, _, long, rfl⟩ | ⟨fault, _⟩, _⟩
      · exact ⟨if_pos long, rfl, .refl _⟩
      · exact absurd reliable fault.unreliable

end Write

/-- A sync is not seen in the archive. -/
theorem sync_mirrors (sound : mounted.Sound) (reliable : Reliable mounted.device) :
    Mirrors sync mounted (fun _ => .done) (.ok (.done, mounted.archive)) := by
  unfold Mirrors sync
  rw [yields_bind, yields_get, onDevice, yields_focus]
  refine (mounted.volume.sync_yields sound.volume.layout sound.superBlock).mono ?_ ?_
  · intro _ device ended
    obtain ⟨_, same, follows⟩ := ended
    have unchanged := Volume.archive_eq_of_same (.refl mounted.volume) same rfl
    exact ⟨congrArg (fun after => Except.ok (Reply.done, after)) unchanged.symm, follows⟩
  · intro cause device ended
    obtain ⟨fault, _⟩ := ended
    exact absurd reliable fault.unreliable

/-! ### All calls -/

/-- The volume is sound and intact, its device fails no call, and its archive is the given one. -/
structure Represents (mounted : Mounted D) (archive : Archive) : Prop where
  sound : mounted.Sound
  lays : ∃ blocks, mounted.volume.Lays blocks
  reliable : Reliable mounted.device
  archive_eq : mounted.archive = archive

/-- What is replied to a request is replied with the same result. -/
theorem Mirrors.replied {α : Type} {action : EStateM VolumeError (Mounted D) α} {reply : α → Reply}
    {outcome : Archive.Outcome}
    (mirrors : Mirrors action mounted (fun result => (reply result).hideBlocks) outcome) :
    Mirrors (do return reply (← action)) mounted Reply.hideBlocks outcome :=
  yields_bind.mpr mirrors

theorem serve_mirrors (sound : mounted.Sound) (lays : mounted.volume.Lays blocks)
    (reliable : Reliable mounted.device) (call : Archive.Call)
    (short : ∀ descriptor length, call = .read descriptor length → length < 2 ^ 63) :
    Mirrors (serve call.request) mounted Reply.hideBlocks (mounted.archive.serve call) := by
  cases call with
  | create name => exact .replied (onVolume_mirrors (Volume.create_mirrors lays _ name))
  | delete name =>
    exact .replied (onVolume_mirrors (Volume.delete_mirrors sound.volume lays _ name))
  | openFile name =>
    exact .replied (onVolume_mirrors (Volume.openFile_mirrors mounted.volume _ name))
  | close descriptor =>
    exact .replied (onVolume_mirrors (Volume.close_mirrors mounted.volume _ descriptor))
  | fileSize descriptor =>
    show Mirrors _ mounted Reply.hideBlocks (mounted.archive.fileSize descriptor)
    rw [fileSize_mirrors sound lays]
    exact .replied asked_mirrors
  | seek descriptor offset =>
    exact .replied (onVolume_mirrors (Volume.seek_mirrors sound.volume lays _ descriptor offset))
  | read descriptor length =>
    exact .replied (read_mirrors sound lays reliable descriptor (short descriptor length rfl))
  | write descriptor data => exact .replied (write_mirrors sound lays reliable descriptor data)
  | list =>
    refine ⟨?_, .refl _⟩
    show Except.ok (Reply.files mounted.archive.list, mounted.archive) = _
    rw [← list_mirrors lays]
    rfl
  | sync => exact .replied (sync_mirrors sound reliable)

/-- What is left behind of a volume that is intact represents the archive that is left behind. -/
theorem Represents.of_mirrors {archive : Archive} (represents : mounted.Represents archive)
    {request : Request} {outcome : Archive.Outcome}
    (mirrors : Mirrors (serve request) mounted Reply.hideBlocks outcome) :
    Yields (serve request) mounted
      (fun reply after => ∃ next, outcome = .ok (reply.hideBlocks, next) ∧ after.Represents next)
      (fun cause after => outcome = .error cause ∧ after.Represents archive) := by
  obtain ⟨sound, ⟨blocks, lays⟩, reliable, rfl⟩ := represents
  have intact := serve_intact request ⟨sound, ⟨blocks, lays⟩, rfl⟩
  refine (mirrors.and intact).mono ?_ ?_
  · intro reply after ended
    obtain ⟨⟨same, follows⟩, still⟩ := ended
    exact ⟨after.archive, same, still.sound, still.lays, follows.reliable reliable, rfl⟩
  · intro cause after ended
    obtain ⟨⟨same, unchanged, follows⟩, still⟩ := ended
    exact ⟨same, still.sound, still.lays, follows.reliable reliable, unchanged⟩

/-- A request to a volume and the call to the archive that it represents end alike. -/
theorem serve_represents {archive : Archive} (represents : mounted.Represents archive)
    (call : Archive.Call)
    (short : ∀ descriptor length, call = .read descriptor length → length < 2 ^ 63) :
    Yields (serve call.request) mounted
      (fun reply after => ∃ next, archive.serve call = .ok (reply.hideBlocks, next) ∧
        after.Represents next)
      (fun cause after => archive.serve call = .error cause ∧ after.Represents archive) := by
  refine represents.of_mirrors ?_
  obtain ⟨sound, ⟨blocks, lays⟩, reliable, rfl⟩ := represents
  exact serve_mirrors sound lays reliable call short

end FlatVolume.Mounted
