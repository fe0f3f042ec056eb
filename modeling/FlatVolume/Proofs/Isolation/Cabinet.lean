/-
**Files by name alone.**

Clients that share a volume compete for slots, for blocks and for descriptors. A cabinet is what is
left of an archive without the first two: the files by their names, and the descriptors with the
names of their files. As long as no operation runs out of room, it ends as the one on the cabinet
(`Mounted.serve_cabinet`), so no client can tell which slots and blocks the others have.
-/

import FlatVolume.Proofs.Archive.Serve

namespace FlatVolume

/-! ### Operations -/

/-- What can be done with an open file. -/
inductive FileOperation where
  | size
  | seek (offset : Nat)
  | read (length : Nat)
  | write (data : Bytes)

/-- The reply, and the bytes of the file and the position after it. All data that is written finds
room. -/
def FileOperation.act (bytes : Bytes) (offset : Nat) :
    FileOperation → Except VolumeError (Reply × Bytes × Nat)
  | .size => .ok (.count bytes.length, bytes, offset)
  | .seek position =>
    if bytes.length < position then .error .offsetOutOfRange else .ok (.done, bytes, position)
  | .read length =>
    if positionLimit ≤ offset + length then .error .invalidArgument
    else
      let data := (bytes.drop offset).take length
      .ok (.data data, bytes, offset + data.length)
  | .write data =>
    if maxFileSize < offset + data.length then .error .invalidArgument
    else .ok (.count data.length, overwrite bytes offset data, offset + data.length)

/-- One step of a client. -/
inductive Operation where
  | create (name : String)
  | delete (name : String)
  | openFile (name : String)
  | close (descriptor : Nat)
  | use (descriptor : Nat) (operation : FileOperation)

/-- The call to an archive. -/
def Operation.call : Operation → Archive.Call
  | .create name => .create name
  | .delete name => .delete name
  | .openFile name => .openFile name
  | .close descriptor => .close descriptor
  | .use descriptor .size => .fileSize descriptor
  | .use descriptor (.seek offset) => .seek descriptor offset
  | .use descriptor (.read length) => .read descriptor length
  | .use descriptor (.write data) => .write descriptor data

/-- The operation found no slot, no descriptor, or no room for all its data. -/
def Operation.Exhausted : Operation → Except VolumeError Reply → Prop
  | .use _ (.write data), .ok (.count count) => count < data.length
  | _, outcome => outcome = .error .directoryFull ∨ outcome = .error .openTableFull

/-! ### Cabinets -/

/-- The bytes of the file that a caller names. -/
def lookupIn (files : String → Option Bytes) (name : String) : Except VolumeError Bytes :=
  if IsFileName name then
    match files name with
    | some bytes => .ok bytes
    | none => .error .notFound
  else .error .invalidArgument

/-- An open file and a position in it. -/
structure Pointer where
  name : String
  offset : Nat
deriving DecidableEq

/-- Files by their names, and descriptors with their files and positions. -/
@[ext] structure Cabinet where
  files : String → Option Bytes
  pointers : Fin descriptorCount → Option Pointer

namespace Cabinet

variable (cabinet : Cabinet)

/-- What a descriptor in use stands for. -/
def opened (descriptor : Nat) : Except VolumeError Pointer :=
  if inside : descriptor < descriptorCount then
    match cabinet.pointers ⟨descriptor, inside⟩ with
    | some pointer => .ok pointer
    | none => .error .invalidDescriptor
  else .error .invalidDescriptor

/-- Some descriptor stands for the file. -/
def IsOpen (name : String) : Prop :=
  ∃ descriptor, (cabinet.pointers descriptor).map Pointer.name = some name

instance (name : String) : Decidable (cabinet.IsOpen name) := inferInstanceAs (Decidable (∃ _, _))

/-- The lowest unused descriptor. -/
def unused? : Option (Fin descriptorCount) :=
  (List.finRange descriptorCount).find? fun descriptor => (cabinet.pointers descriptor).isNone

/-- Replaces or removes the file of a name. -/
def setFile (name : String) (bytes : Option Bytes) : Cabinet :=
  { cabinet with files := Function.update cabinet.files name bytes }

/-- Makes a descriptor stand for something else. -/
def setPointer (descriptor : Nat) (pointer : Option Pointer) : Cabinet :=
  { cabinet with
    pointers := fun other =>
      if other.val = descriptor then pointer else cabinet.pointers other }

/-- Carries out one operation. There is always room for a new file and for new data. -/
def serve : Operation → Except VolumeError (Reply × Cabinet)
  | .create name =>
    if IsFileName name then
      if (cabinet.files name).isSome then .error .alreadyExists
      else .ok (.done, cabinet.setFile name (some []))
    else .error .invalidArgument
  | .delete name => do
    let _ ← lookupIn cabinet.files name
    if cabinet.IsOpen name then .error .fileInUse
    else .ok (.done, cabinet.setFile name none)
  | .openFile name => do
    let _ ← lookupIn cabinet.files name
    match cabinet.unused? with
    | some descriptor =>
      .ok (.descriptor descriptor, cabinet.setPointer descriptor (some ⟨name, 0⟩))
    | none => .error .openTableFull
  | .close descriptor => do
    let _ ← cabinet.opened descriptor
    .ok (.done, cabinet.setPointer descriptor none)
  | .use descriptor operation => do
    let pointer ← cabinet.opened descriptor
    let (reply, bytes, offset) ←
      operation.act ((cabinet.files pointer.name).getD []) pointer.offset
    .ok (reply, (cabinet.setFile pointer.name (some bytes)).setPointer descriptor
      (some { pointer with offset }))

end Cabinet

namespace Archive

variable {archive next : Archive} {name : String} {slot : Slot} {descriptor : Nat}

/-- The archive without its slots. -/
def cabinet (archive : Archive) : Cabinet where
  files name := (archive.find? name).map archive.bytesIn
  pointers descriptor :=
    (archive.descriptors descriptor).bind fun file =>
      (archive.files file.slot).map fun held => ⟨held.name, file.offset⟩

/-- No two files have one name, and every descriptor in use stands for a file. -/
structure Tidy (archive : Archive) : Prop where
  distinct : ∀ {first second : Slot} {file other : File}, archive.files first = some file →
    archive.files second = some other → file.name = other.name → first = second
  occupied : ∀ {descriptor : Fin descriptorCount} {file : OpenFile},
    archive.descriptors descriptor = some file → ∃ held, archive.files file.slot = some held

/-! ### Looking up -/

theorem bytesIn_of_files {file : File} (held : archive.files slot = some file) :
    archive.bytesIn slot = file.bytes := by
  rw [bytesIn, held]

/-- The slot that is found has a file of the name. -/
theorem of_find?_eq_some (found : archive.find? name = some slot) :
    ∃ bytes, archive.files slot = some ⟨name, bytes⟩ := by
  have named := List.find?_some found
  cases held : archive.files slot with
  | none =>
    rw [held] at named
    cases named
  | some file =>
    obtain ⟨other, bytes⟩ := file
    rw [held, Option.any_some, decide_eq_true_eq] at named
    exact ⟨bytes, by rw [← named]⟩

theorem find?_eq_some_iff (tidy : archive.Tidy) :
    archive.find? name = some slot ↔ ∃ bytes, archive.files slot = some ⟨name, bytes⟩ := by
  refine ⟨of_find?_eq_some, fun ⟨bytes, held⟩ => ?_⟩
  cases found : archive.find? name with
  | none =>
    have missed := List.find?_eq_none.mp found slot (List.mem_finRange slot)
    simp [held] at missed
  | some other =>
    obtain ⟨_, named⟩ := of_find?_eq_some found
    rw [tidy.distinct named held rfl]

theorem cabinet_files_eq_some_iff (tidy : archive.Tidy) {bytes : Bytes} :
    archive.cabinet.files name = some bytes ↔ ∃ slot, archive.files slot = some ⟨name, bytes⟩ := by
  show (archive.find? name).map archive.bytesIn = some bytes ↔ _
  rw [Option.map_eq_some_iff]
  constructor
  · rintro ⟨slot, found, rfl⟩
    obtain ⟨bytes, held⟩ := of_find?_eq_some found
    rw [bytesIn_of_files held]
    exact ⟨slot, held⟩
  · rintro ⟨slot, held⟩
    exact ⟨slot, (find?_eq_some_iff tidy).mpr ⟨bytes, held⟩, bytesIn_of_files held⟩

theorem cabinet_lookup (archive : Archive) (name : String) :
    lookupIn archive.cabinet.files name = (archive.lookup name).map archive.bytesIn := by
  unfold lookupIn lookup cabinet
  split
  · dsimp only
    cases archive.find? name <;> rfl
  · rfl

section Pointers

variable {index : Fin descriptorCount} {file : OpenFile} {held : File}

theorem cabinet_pointers_of_unused (unused : archive.descriptors index = none) :
    archive.cabinet.pointers index = none := by
  simp only [cabinet, unused, Option.bind_none]

theorem cabinet_pointers_of_used (used : archive.descriptors index = some file)
    (occupied : archive.files file.slot = some held) :
    archive.cabinet.pointers index = some ⟨held.name, file.offset⟩ := by
  simp only [cabinet, used, Option.bind_some, occupied, Option.map_some]

theorem cabinet_opened_of_ok (tidy : archive.Tidy) (used : archive.opened descriptor = .ok file) :
    ∃ held, archive.files file.slot = some held ∧
      archive.cabinet.opened descriptor = .ok ⟨held.name, file.offset⟩ := by
  unfold opened at used
  split at used
  · rename_i inside
    split at used
    · rename_i found
      obtain rfl := Except.ok.inj used
      obtain ⟨held, occupied⟩ := tidy.occupied found
      refine ⟨held, occupied, ?_⟩
      rw [Cabinet.opened, dif_pos inside, cabinet_pointers_of_used found occupied]
    · cases used
  · cases used

theorem cabinet_opened_of_error {cause : VolumeError}
    (unused : archive.opened descriptor = .error cause) :
    archive.cabinet.opened descriptor = .error cause := by
  unfold opened at unused
  unfold Cabinet.opened
  split at unused
  · rename_i inside
    rw [dif_pos inside]
    split at unused
    · cases unused
    · rename_i found
      rw [cabinet_pointers_of_unused found, Except.error.inj unused]
  · rename_i outside
    rw [dif_neg outside, Except.error.inj unused]

theorem cabinet_isOpen_iff (tidy : archive.Tidy) {bytes : Bytes}
    (held : archive.files slot = some ⟨name, bytes⟩) :
    archive.cabinet.IsOpen name ↔ archive.IsOpen slot := by
  refine exists_congr fun index => ?_
  cases found : archive.descriptors index with
  | none =>
    rw [cabinet_pointers_of_unused found, Option.map_none, Option.map_none]
    exact iff_of_false nofun nofun
  | some file =>
    obtain ⟨other, occupied⟩ := tidy.occupied found
    rw [cabinet_pointers_of_used found occupied, Option.map_some, Option.map_some,
      Option.some.injEq, Option.some.injEq]
    refine ⟨fun same => tidy.distinct occupied held same, fun same => ?_⟩
    rw [same, held] at occupied
    rw [← Option.some.inj occupied]

/-- A descriptor is unused in both or in none. -/
theorem cabinet_unused? (tidy : archive.Tidy) : archive.cabinet.unused? = archive.unused? := by
  unfold Cabinet.unused? unused?
  congr 1
  funext index
  cases found : archive.descriptors index with
  | none => rw [cabinet_pointers_of_unused found, Option.isNone_none, Option.isNone_none]
  | some file =>
    obtain ⟨held, occupied⟩ := tidy.occupied found
    rw [cabinet_pointers_of_used found occupied, Option.isNone_some, Option.isNone_some]

end Pointers

/-! ### Changing a slot or a descriptor -/

section SetFile

variable {bytes : Option Bytes}

/-- The slot of a name gets other bytes, or it is emptied while nobody has it open. -/
theorem Tidy.setFile (tidy : archive.Tidy)
    (alone : ∀ other held, other ≠ slot → archive.files other = some held → held.name ≠ name)
    (closed : bytes = none → ¬ archive.IsOpen slot) :
    (archive.setFile slot (bytes.map (File.mk name))).Tidy where
  distinct := by
    intro first second file other firstIn secondIn same
    simp only [Archive.setFile, Function.update_apply] at firstIn secondIn
    by_cases firstHere : first = slot <;> by_cases secondHere : second = slot
    · rw [firstHere, secondHere]
    · rw [if_pos firstHere] at firstIn
      rw [if_neg secondHere] at secondIn
      obtain ⟨_, _, rfl⟩ := Option.map_eq_some_iff.mp firstIn
      exact absurd same.symm (alone second other secondHere secondIn)
    · rw [if_neg firstHere] at firstIn
      rw [if_pos secondHere] at secondIn
      obtain ⟨_, _, rfl⟩ := Option.map_eq_some_iff.mp secondIn
      exact absurd same (alone first file firstHere firstIn)
    · rw [if_neg firstHere] at firstIn
      rw [if_neg secondHere] at secondIn
      exact tidy.distinct firstIn secondIn same
  occupied := by
    intro descriptor file found
    simp only [Archive.setFile, Function.update_apply]
    by_cases here : file.slot = slot
    · rw [if_pos here]
      cases bytes with
      | none =>
        exact absurd ⟨descriptor, (congrArg _ found).trans (congrArg some here)⟩ (closed rfl)
      | some bytes => exact ⟨_, rfl⟩
    · rw [if_neg here]
      exact tidy.occupied found

/-- A change of the slot of a name is one of the file of the name. -/
theorem cabinet_setFile (tidy : archive.Tidy) (bytes : Option Bytes)
    (kept : ∀ held, archive.files slot = some held → held.name = name)
    (alone : ∀ other held, other ≠ slot → archive.files other = some held → held.name ≠ name)
    (closed : bytes = none → ¬ archive.IsOpen slot) :
    (archive.setFile slot (bytes.map (File.mk name))).cabinet =
      archive.cabinet.setFile name bytes := by
  have after := tidy.setFile alone closed
  refine Cabinet.ext ?_ ?_
  · funext other
    refine Option.ext fun content => ?_
    rw [cabinet_files_eq_some_iff after]
    simp only [Archive.setFile, Cabinet.setFile, Function.update_apply]
    by_cases same : other = name
    · subst same
      rw [if_pos rfl]
      constructor
      · rintro ⟨place, held⟩
        by_cases here : place = slot
        · rw [if_pos here, Option.map_eq_some_iff] at held
          obtain ⟨_, found, equal⟩ := held
          rw [found, (File.mk.inj equal).2]
        · rw [if_neg here] at held
          exact absurd rfl (alone place _ here held)
      · rintro rfl
        exact ⟨slot, if_pos rfl⟩
    · rw [if_neg same, cabinet_files_eq_some_iff tidy]
      refine exists_congr fun place => ?_
      by_cases here : place = slot
      · rw [if_pos here, here]
        constructor
        · intro held
          obtain ⟨_, _, equal⟩ := Option.map_eq_some_iff.mp held
          exact absurd (File.mk.inj equal).1.symm same
        · exact fun held => absurd (kept _ held) same
      · rw [if_neg here]
  · funext descriptor
    show (archive.descriptors descriptor).bind _ = (archive.descriptors descriptor).bind _
    refine Option.bind_congr fun file found => ?_
    simp only [Archive.setFile, Function.update_apply]
    by_cases here : file.slot = slot
    · obtain ⟨held, occupied⟩ := tidy.occupied found
      rw [here] at occupied
      rw [if_pos here, here, occupied]
      cases bytes with
      | none =>
        exact absurd ⟨descriptor, (congrArg _ found).trans (congrArg some here)⟩ (closed rfl)
      | some bytes => rw [Option.map_some, Option.map_some, Option.map_some, kept held occupied]
    · rw [if_neg here]

end SetFile

theorem cabinet_setDescriptor_some (archive : Archive) (descriptor : Nat) {held : File}
    (occupied : archive.files slot = some held) (offset : Nat) :
    (archive.setDescriptor descriptor (some ⟨slot, offset⟩)).cabinet =
      archive.cabinet.setPointer descriptor (some ⟨held.name, offset⟩) := by
  refine Cabinet.ext rfl ?_
  funext other
  simp only [cabinet, setDescriptor, Cabinet.setPointer]
  split
  · rw [Option.bind_some, occupied, Option.map_some]
  · rfl

theorem cabinet_setDescriptor_none (archive : Archive) (descriptor : Nat) :
    (archive.setDescriptor descriptor none).cabinet =
      archive.cabinet.setPointer descriptor none := by
  refine Cabinet.ext rfl ?_
  funext other
  simp only [cabinet, setDescriptor, Cabinet.setPointer]
  split <;> rfl

end Archive

end FlatVolume
