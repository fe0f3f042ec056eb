/-
**Operations and cabinets.**

`Mounted.serve_cabinet`: on a device that fails no call, an operation on an intact volume that does
not run out of room ends as the operation on the cabinet of the volume, and leaves a volume behind
whose cabinet is the one after the operation. An operation that fails changes no cabinet.
-/

import FlatVolume.Proofs.Isolation.Cabinet

namespace FlatVolume

namespace Cabinet

variable {cabinet : Cabinet} {name : String} {descriptor : Nat}

/-- A file may be replaced by itself. -/
theorem setFile_self {bytes : Bytes} (held : cabinet.files name = some bytes) :
    cabinet.setFile name (some bytes) = cabinet := by
  rw [setFile, ← held, Function.update_eq_self]

/-- A descriptor may be set to what it stands for. -/
theorem setPointer_self {pointer : Pointer} (used : cabinet.opened descriptor = .ok pointer) :
    cabinet.setPointer descriptor (some pointer) = cabinet := by
  refine Cabinet.ext rfl (funext fun other => ?_)
  simp only [setPointer]
  split
  · rename_i here
    subst here
    rw [opened, dif_pos other.isLt] at used
    split at used
    · rename_i found
      rw [← Except.ok.inj used]
      exact found.symm
    · cases used
  · rfl

end Cabinet

namespace Archive

variable {archive : Archive} {name : String} {slot : Slot} {descriptor : Nat}

/-- The operation ends on the cabinet as it does on the archive, unless it runs out of room. -/
def Matches (archive : Archive) (operation : Operation) : Prop :=
  ¬ operation.Exhausted ((archive.serve operation.call).map Prod.fst) →
    (archive.serve operation.call).map (Prod.map id cabinet) = archive.cabinet.serve operation

theorem of_freeSlot?_eq_some (found : archive.freeSlot? = some slot) :
    archive.files slot = none := by
  have empty := List.find?_some found
  exact Option.isNone_iff_eq_none.mp empty

/-- The slot that is looked up has a file of the name. -/
theorem of_lookup_eq_ok (looked : archive.lookup name = .ok slot) :
    ∃ bytes, archive.files slot = some ⟨name, bytes⟩ := by
  unfold lookup at looked
  split at looked
  · split at looked
    · rename_i found
      obtain rfl := Except.ok.inj looked
      exact of_find?_eq_some found
    · cases looked
  · cases looked

theorem create_matches (tidy : archive.Tidy) (name : String) : archive.Matches (.create name) := by
  intro roomy
  simp only [Operation.call, serve, create, Cabinet.serve] at roomy ⊢
  by_cases isName : IsFileName name
  · rw [if_pos isName] at roomy ⊢
    rw [if_pos isName]
    cases found : archive.find? name with
    | some slot =>
      have taken : (archive.cabinet.files name).isSome := by simp [cabinet, found]
      rw [if_pos taken]
      rfl
    | none =>
      have missing : archive.cabinet.files name = none := by simp [cabinet, found]
      rw [found] at roomy
      rw [missing]
      cases free : archive.freeSlot? with
      | none =>
        rw [free] at roomy
        exact absurd (.inl rfl) roomy
      | some slot =>
        have vacant := of_freeSlot?_eq_some free
        refine congrArg (fun after => Except.ok (Reply.done, after)) ?_
        refine cabinet_setFile tidy (some []) (fun held here => ?_)
          (fun other held _ there same => ?_) fun none => ?_
        · cases vacant.symm.trans here
        · obtain ⟨_, bytes⟩ := held
          obtain rfl := same
          cases found.symm.trans ((find?_eq_some_iff tidy).mpr ⟨bytes, there⟩)
        · cases none
  · rw [if_neg isName, if_neg isName]
    rfl

theorem delete_matches (tidy : archive.Tidy) (name : String) : archive.Matches (.delete name) := by
  intro _
  simp only [Operation.call, serve, delete, Cabinet.serve, cabinet_lookup]
  cases looked : archive.lookup name with
  | error cause => rfl
  | ok slot =>
    obtain ⟨bytes, held⟩ := of_lookup_eq_ok looked
    have isOpen := cabinet_isOpen_iff tidy held
    by_cases opened : archive.IsOpen slot
    · show Except.map _ (if _ then _ else _) = if _ then _ else _
      rw [if_pos opened, if_pos (isOpen.mpr opened)]
      rfl
    · show Except.map _ (if _ then _ else _) = if _ then _ else _
      rw [if_neg opened, if_neg (mt isOpen.mp opened)]
      refine congrArg (fun after => Except.ok (Reply.done, after)) ?_
      refine cabinet_setFile tidy none (fun other here => ?_)
        (fun place other apart there same => ?_) fun _ => opened
      · rw [held] at here
        rw [← Option.some.inj here]
      · exact apart (tidy.distinct there held same)

theorem openFile_matches (tidy : archive.Tidy) (name : String) :
    archive.Matches (.openFile name) := by
  intro _
  simp only [Operation.call, serve, openFile, Cabinet.serve, cabinet_lookup, cabinet_unused? tidy]
  cases looked : archive.lookup name with
  | error cause => rfl
  | ok slot =>
    obtain ⟨bytes, held⟩ := of_lookup_eq_ok looked
    cases archive.unused? with
    | none => rfl
    | some descriptor =>
      exact congrArg (fun after => Except.ok (Reply.descriptor descriptor, after))
        (cabinet_setDescriptor_some archive descriptor held 0)

theorem close_matches (tidy : archive.Tidy) (descriptor : Nat) :
    archive.Matches (.close descriptor) := by
  intro _
  simp only [Operation.call, serve, close, Cabinet.serve]
  cases used : archive.opened descriptor with
  | error cause =>
    rw [cabinet_opened_of_error used]
    rfl
  | ok file =>
    obtain ⟨held, _, opened⟩ := cabinet_opened_of_ok tidy used
    rw [opened]
    exact congrArg (fun after => Except.ok (Reply.done, after))
      (cabinet_setDescriptor_none archive descriptor)

/-! ### Open files -/

section Use

variable {file : OpenFile} {held : File}

/-- An operation on a descriptor that is not in use fails for that. -/
theorem use_matches_of_error {cause : VolumeError}
    (unused : archive.opened descriptor = .error cause) (operation : FileOperation) :
    archive.Matches (.use descriptor operation) := by
  intro _
  rw [Cabinet.serve, cabinet_opened_of_error unused]
  cases operation <;>
    simp only [Operation.call, serve, fileSize, seek, read, write, unused] <;> rfl

/-- What an operation on an open file does to the cabinet. -/
theorem cabinet_use (tidy : archive.Tidy) (occupied : archive.files file.slot = some held)
    (opened : archive.cabinet.opened descriptor = .ok ⟨held.name, file.offset⟩)
    (operation : FileOperation) :
    archive.cabinet.serve (.use descriptor operation) =
      (operation.act held.bytes file.offset).map fun (reply, bytes, offset) =>
        (reply, (archive.cabinet.setFile held.name (some bytes)).setPointer descriptor
          (some ⟨held.name, offset⟩)) := by
  have bytes : archive.cabinet.files held.name = some held.bytes :=
    (cabinet_files_eq_some_iff tidy).mpr ⟨_, occupied⟩
  rw [Cabinet.serve, opened]
  show Except.bind (operation.act ((archive.cabinet.files held.name).getD []) file.offset) _ = _
  rw [bytes, Option.getD_some]
  cases operation.act held.bytes file.offset <;> rfl

/-- Moving a descriptor is all that is seen of an operation that leaves the bytes. -/
theorem cabinet_move (tidy : archive.Tidy) (occupied : archive.files file.slot = some held)
    (descriptor offset : Nat) :
    (archive.setDescriptor descriptor (some { file with offset })).cabinet =
      (archive.cabinet.setFile held.name (some held.bytes)).setPointer descriptor
        (some ⟨held.name, offset⟩) := by
  rw [Cabinet.setFile_self ((cabinet_files_eq_some_iff tidy).mpr ⟨_, occupied⟩)]
  exact cabinet_setDescriptor_some archive descriptor occupied offset

/-- Other bytes of an open file and another position in it are seen as that. -/
theorem cabinet_written (tidy : archive.Tidy) (occupied : archive.files file.slot = some held)
    (bytes : Bytes) (offset free : Nat) :
    cabinet { (archive.setFile file.slot (some { held with bytes })).setDescriptor descriptor
        (some { file with offset }) with free } =
      (archive.cabinet.setFile held.name (some bytes)).setPointer descriptor
        (some ⟨held.name, offset⟩) := by
  have changed : (archive.setFile file.slot (some { held with bytes })).cabinet =
      archive.cabinet.setFile held.name (some bytes) := by
    refine cabinet_setFile tidy (some bytes) (fun other here => ?_)
      (fun other found apart there same => ?_) nofun
    · rw [occupied] at here
      rw [← Option.some.inj here]
    · exact apart (tidy.distinct there occupied same)
  have there : (archive.setFile file.slot (some { held with bytes })).files file.slot =
      some { held with bytes } := Function.update_self ..
  rw [← changed]
  exact cabinet_setDescriptor_some _ descriptor there offset

/-- A write that finds room for all its data is seen as that. -/
theorem write_matches (tidy : archive.Tidy) (used : archive.opened descriptor = .ok file)
    (data : Bytes) : archive.Matches (.use descriptor (.write data)) := by
  intro roomy
  obtain ⟨held, occupied, opened⟩ := cabinet_opened_of_ok tidy used
  rw [cabinet_use tidy occupied opened]
  simp only [Operation.call, serve, write, used] at roomy ⊢
  show Except.map _ (if _ then _ else _) = Except.map _ (if _ then _ else _)
  by_cases long : maxFileSize < file.offset + data.length
  · rw [if_pos long, if_pos long]
    rfl
  · let count := archive.stop file.slot (file.offset + data.length) - file.offset
    have whole : count = data.length := by
      have least : ¬ count < data.length := by
        have ended : ¬ Operation.Exhausted (.use descriptor (.write data))
            (Except.map Prod.fst (if _ then _ else _)) := roomy
        rw [if_neg long] at ended
        exact ended
      have most : archive.stop file.slot (file.offset + data.length) ≤ file.offset + data.length :=
        Nat.min_le_left ..
      omega
    rw [if_neg long, if_neg long]
    rw [occupied]
    refine (congrArg (fun after => Except.ok (Reply.count count, after))
      (cabinet_written tidy occupied _ _ _)).trans ?_
    show Except.ok (Reply.count count, (archive.cabinet.setFile held.name
      (some (overwrite held.bytes file.offset (data.take count)))).setPointer descriptor
        (some ⟨held.name, file.offset + count⟩)) = _
    rw [whole, List.take_length]
    rfl

theorem use_matches (tidy : archive.Tidy) (used : archive.opened descriptor = .ok file)
    (operation : FileOperation)
    (bounded : ∀ length, operation = .read length → file.offset + length < positionLimit) :
    archive.Matches (.use descriptor operation) := by
  obtain ⟨held, occupied, opened⟩ := cabinet_opened_of_ok tidy used
  have bytes := bytesIn_of_files occupied
  cases operation with
  | size =>
    intro _
    rw [cabinet_use tidy occupied opened]
    have kept := cabinet_move tidy occupied descriptor file.offset
    rw [cabinet_setDescriptor_some archive descriptor occupied,
      Cabinet.setPointer_self opened] at kept
    simp only [Operation.call, serve, fileSize, used]
    show Except.ok (Reply.count _, archive.cabinet) = Except.ok (Reply.count _, _)
    rw [bytes, ← kept]
  | seek offset =>
    intro _
    rw [cabinet_use tidy occupied opened]
    simp only [Operation.call, serve, seek, used]
    show Except.map _ (if _ then _ else _) = Except.map _ (if _ then _ else _)
    rw [bytes]
    split
    · rfl
    · exact congrArg (fun after => Except.ok (Reply.done, after))
        (cabinet_move tidy occupied descriptor offset)
  | read length =>
    intro _
    rw [cabinet_use tidy occupied opened]
    simp only [Operation.call, serve, read, used]
    show Except.ok (Reply.data _, _) = Except.map _ (if _ then _ else _)
    rw [if_neg (Nat.not_le.mpr (bounded length rfl)), bytes]
    exact congrArg (fun after => Except.ok (Reply.data _, after))
      (cabinet_move tidy occupied descriptor _)
  | write data => exact write_matches tidy used data

end Use

/-- Operations on the archive and on its cabinet end alike while there is room. -/
theorem serve_matches (tidy : archive.Tidy) (operation : Operation)
    (bounded : ∀ descriptor length file, operation = .use descriptor (.read length) →
      archive.opened descriptor = .ok file → file.offset + length < positionLimit) :
    archive.Matches operation := by
  cases operation with
  | create name => exact create_matches tidy name
  | delete name => exact delete_matches tidy name
  | openFile name => exact openFile_matches tidy name
  | close descriptor => exact close_matches tidy descriptor
  | use descriptor operation =>
    cases used : archive.opened descriptor with
    | error cause => exact use_matches_of_error used operation
    | ok file =>
      refine use_matches tidy used operation fun length isRead => ?_
      exact bounded descriptor length file (by rw [isRead]) used

end Archive

/-! ### Mounted volumes -/

/-- The files of a sound volume have names of their own, and its descriptors stand for files. -/
theorem Volume.Sound.tidy {volume : Volume} {deviceBlocks : Nat} (sound : volume.Sound deviceBlocks)
    (disk : Nat → Block) : (volume.archive disk).Tidy where
  distinct := by
    intro first second file other firstIn secondIn same
    have entry : ∀ {slot file}, (volume.archive disk).files slot = some file →
        ¬ (volume.directory.get slot).IsFree ∧ file.name = (volume.directory.get slot).name := by
      intro slot file held
      by_cases free : (volume.directory.get slot).IsFree
      · cases (Volume.archive_files_of_free free).symm.trans held
      · rw [Volume.archive_files_of_occupied free] at held
        exact ⟨free, by rw [← Option.some.inj held]⟩
    obtain ⟨firstOccupied, firstName⟩ := entry firstIn
    obtain ⟨secondOccupied, secondName⟩ := entry secondIn
    refine (Directory.acceptable_iff.mp sound.directory).2 _ _ firstOccupied secondOccupied ?_
    rw [← firstName, ← secondName, same]
  occupied := by
    intro descriptor file found
    have used : volume.descriptors.get descriptor = .ok file := by
      rw [Descriptors.get_eq_ok_iff, Vector.getElem?_eq_getElem descriptor.isLt]
      exact congrArg some found
    exact ⟨_, Volume.archive_files_of_occupied (sound.descriptors _ file used).1⟩

namespace Mounted

open BlockDevice

variable {D : Type} [BlockDevice D] [FaithfulDevice D] {mounted : Mounted D} {archive : Archive}

theorem Represents.tidy (represents : mounted.Represents archive) : archive.Tidy := by
  obtain ⟨sound, _, _, rfl⟩ := represents
  exact sound.volume.tidy _

omit [FaithfulDevice D] in
/-- No operation of a client is replied to with a list of files. -/
theorem hideBlocks_of_serve (operation : Operation) (mounted : Mounted D) :
    Yields (serve operation.call.request) mounted (fun reply _ => reply.hideBlocks = reply)
      fun _ _ => True := by
  have replied : ∀ {α : Type} (action : EStateM VolumeError (Mounted D) α) (reply : α → Reply),
      (∀ result, (reply result).hideBlocks = reply result) →
      Yields (do return reply (← action)) mounted (fun reply _ => reply.hideBlocks = reply)
        fun _ _ => True :=
    fun action reply same => yields_bind.mpr
      (yields_of_forall (fun result _ => same result) fun _ _ => trivial)
  cases operation with
  | create name | delete name | close descriptor => exact replied _ _ fun _ => rfl
  | openFile name => exact replied _ _ fun _ => rfl
  | use descriptor operation => cases operation <;> exact replied _ _ fun _ => rfl

/-- A read that would pass the largest position fails and changes nothing. -/
theorem long_read_mirrors (sound : mounted.Sound) {blocks : Slot → List BlockId}
    (lays : mounted.volume.Lays blocks) (reliable : Reliable mounted.device) {descriptor : Nat}
    {file : OpenFile} (used : mounted.volume.descriptors.get descriptor = .ok file) {length : Nat}
    (long : positionLimit ≤ file.offset + length) :
    Mirrors (read descriptor length) mounted .data (.error .invalidArgument) := by
  refine (read_yields sound lays used length).mono ?_ ?_
  · intro _ _ ended
    exact absurd ended.1 (Nat.not_lt.mpr long)
  · intro cause after ended
    obtain ⟨⟨rfl, _⟩ | fault, volume, same, follows⟩ := ended
    · refine ⟨rfl, ?_, follows⟩
      rw [Mounted.archive, volume, same]
      rfl
    · exact absurd reliable fault.unreliable

/-- An operation ends as one on the archive, which ends as one on the cabinet while there is
room. -/
theorem exists_outcome (represents : mounted.Represents archive) (operation : Operation) :
    ∃ outcome, Mirrors (serve operation.call.request) mounted Reply.hideBlocks outcome ∧
      (¬ operation.Exhausted (outcome.map Prod.fst) →
        outcome.map (Prod.map id Archive.cabinet) = archive.cabinet.serve operation) := by
  have tidy := represents.tidy
  obtain ⟨sound, ⟨blocks, lays⟩, reliable, rfl⟩ := represents
  have opened : ∀ descriptor, mounted.archive.opened descriptor =
      mounted.volume.descriptors.get descriptor := Volume.archive_opened _ _
  by_cases isRead : ∃ descriptor length, operation = .use descriptor (.read length)
  · obtain ⟨descriptor, length, rfl⟩ := isRead
    by_cases long : ∃ file, mounted.archive.opened descriptor = .ok file ∧
        positionLimit ≤ file.offset + length
    · obtain ⟨file, used, long⟩ := long
      obtain ⟨held, occupied, pointer⟩ := Archive.cabinet_opened_of_ok tidy used
      rw [opened] at used
      refine ⟨_, .replied (long_read_mirrors sound lays reliable used long), fun _ => ?_⟩
      rw [Archive.cabinet_use tidy occupied pointer, FileOperation.act, if_pos long]
      rfl
    · have bounded : ∀ file, mounted.archive.opened descriptor = .ok file →
          file.offset + length < positionLimit :=
        fun file used => Nat.not_le.mp fun reaches => long ⟨file, used, reaches⟩
      refine ⟨_, .replied (read_mirrors_of_bounded sound lays reliable fun file used => ?_),
        Archive.serve_matches tidy (.use descriptor (.read length)) ?_⟩
      · exact bounded file ((opened descriptor).trans used)
      · rintro _ _ file ⟨⟩ used
        exact bounded file used
  · refine ⟨_, serve_mirrors sound lays reliable operation.call fun descriptor length call => ?_,
      Archive.serve_matches tidy operation fun descriptor length _ same => ?_⟩
    · cases operation with
      | create name | delete name | openFile name | close _ => cases call
      | use other operation =>
        cases operation with
        | size | seek _ | write _ => cases call
        | read _ => exact absurd ⟨_, _, rfl⟩ isRead
    · exact absurd ⟨descriptor, length, same⟩ isRead

/-- An operation that does not run out of room ends as it does on the cabinet. -/
theorem serve_cabinet (represents : mounted.Represents archive) (operation : Operation) :
    Yields (serve operation.call.request) mounted
      (fun reply after => ∃ next, after.Represents next ∧
        (¬ operation.Exhausted (.ok reply) →
          archive.cabinet.serve operation = .ok (reply, next.cabinet)))
      (fun cause after => after.Represents archive ∧
        (¬ operation.Exhausted (.error cause) →
          archive.cabinet.serve operation = .error cause)) := by
  obtain ⟨outcome, mirrors, same⟩ := exists_outcome represents operation
  refine ((represents.of_mirrors mirrors).and (hideBlocks_of_serve operation mounted)).mono ?_ ?_
  · rintro reply after ⟨⟨next, rfl, still⟩, shown⟩
    rw [shown] at same
    exact ⟨next, still, fun roomy => (same roomy).symm⟩
  · rintro cause after ⟨⟨rfl, still⟩, _⟩
    exact ⟨still, fun roomy => (same roomy).symm⟩

end Mounted

end FlatVolume
