/-
**One client of a shared volume.**

A client names its files, and it knows its open files by handles, which number the descriptors that
it got. A desk is what it sees: the files, the positions behind its handles, and which files others
had open from the start. `Sees` relates a desk to the cabinet of the shared volume.

* `Sees.serve`: an operation of the client ends on its desk as it does on the cabinet;
* `Sees.outside`: what others do to files of other names and to their descriptors is not seen;
* `Sees.serve_outside`: nobody does more than that.
-/

import FlatVolume.Proofs.Isolation.Serve

namespace FlatVolume

/-! ### Handles -/

/-- The operation with the descriptor behind its handle, if the client has one. -/
def Operation.onDescriptor (held : List (Option Nat)) : Operation → Option Operation
  | .close handle => held[handle]?.join.map .close
  | .use handle operation => held[handle]?.join.map (.use · operation)
  | operation => some operation

/-- The descriptors of a client after an operation of its own. -/
def Operation.record (held : List (Option Nat)) : Operation → Reply → List (Option Nat)
  | .openFile _, .descriptor descriptor => held ++ [some descriptor]
  | .close handle, _ => held.set handle none
  | _, _ => held

/-- The reply with a handle in place of a new descriptor. -/
def Reply.atHandle (handle : Nat) : Reply → Reply
  | .descriptor _ => .descriptor handle
  | reply => reply

/-- The operation names no other files than these. -/
def Operation.Within (names : Set String) : Operation → Prop
  | .create name | .delete name | .openFile name => name ∈ names
  | .close _ | .use _ _ => True

/-- What one client sees of a volume. -/
structure Desk where
  files : String → Option Bytes
  /-- What the client's handles stand for; one that was closed stands for nothing. -/
  handles : List (Option Pointer)
  /-- The names of files that others had open from the start. -/
  pinned : String → Bool

namespace Desk

variable (desk : Desk)

/-- What a handle stands for. -/
def opened (handle : Nat) : Except VolumeError Pointer :=
  match desk.handles[handle]? with
  | some (some pointer) => .ok pointer
  | _ => .error .invalidDescriptor

/-- Somebody has the file open. -/
def IsOpen (name : String) : Prop :=
  desk.pinned name = true ∨ some name ∈ desk.handles.map (Option.map Pointer.name)

instance (name : String) : Decidable (desk.IsOpen name) := inferInstanceAs (Decidable (_ ∨ _))

/-- Carries out one operation of the client. There is always room. -/
def serve : Operation → Except VolumeError (Reply × Desk)
  | .create name =>
    if IsFileName name then
      if (desk.files name).isSome then .error .alreadyExists
      else .ok (.done, { desk with files := Function.update desk.files name (some []) })
    else .error .invalidArgument
  | .delete name => do
    let _ ← lookupIn desk.files name
    if desk.IsOpen name then .error .fileInUse
    else .ok (.done, { desk with files := Function.update desk.files name none })
  | .openFile name => do
    let _ ← lookupIn desk.files name
    .ok (.descriptor desk.handles.length,
      { desk with handles := desk.handles ++ [some ⟨name, 0⟩] })
  | .close handle => do
    let _ ← desk.opened handle
    .ok (.done, { desk with handles := desk.handles.set handle none })
  | .use handle operation => do
    let pointer ← desk.opened handle
    let (reply, bytes, offset) ←
      operation.act ((desk.files pointer.name).getD []) pointer.offset
    .ok (reply, { desk with
      files := Function.update desk.files pointer.name (some bytes)
      handles := desk.handles.set handle (some { pointer with offset }) })

/-- Carries out one operation. One that fails changes nothing. -/
def perform (operation : Operation) : EStateM VolumeError Desk Reply := fun desk =>
  match desk.serve operation with
  | .ok (reply, after) => .ok reply after
  | .error cause => .error cause desk

end Desk

/-! ### Descriptors of a cabinet -/

namespace Cabinet

variable {cabinet : Cabinet} {descriptor other : Nat} {pointer : Pointer} {name : String}

theorem lt_of_opened (used : cabinet.opened descriptor = .ok pointer) :
    descriptor < descriptorCount := by
  unfold opened at used
  split at used
  · assumption
  · cases used

@[simp] theorem opened_setFile (bytes : Option Bytes) :
    (cabinet.setFile name bytes).opened descriptor = cabinet.opened descriptor := rfl

theorem opened_setPointer_of_ne (apart : other ≠ descriptor) (pointer? : Option Pointer) :
    (cabinet.setPointer descriptor pointer?).opened other = cabinet.opened other := by
  simp only [opened, setPointer, if_neg apart]

theorem opened_setPointer_none :
    (cabinet.setPointer descriptor none).opened descriptor = .error .invalidDescriptor := by
  simp only [opened, setPointer, if_true]
  split <;> rfl

theorem opened_setPointer_some (cabinet : Cabinet) (pointer : Pointer)
    (inside : descriptor < descriptorCount) :
    (cabinet.setPointer descriptor (some pointer)).opened descriptor = .ok pointer := by
  simp only [opened, setPointer, if_true, dif_pos inside]

theorem isOpen_iff :
    cabinet.IsOpen name ↔ ∃ descriptor offset, cabinet.opened descriptor = .ok ⟨name, offset⟩ := by
  constructor
  · rintro ⟨descriptor, found⟩
    obtain ⟨⟨_, offset⟩, used, rfl⟩ := Option.map_eq_some_iff.mp found
    refine ⟨descriptor, offset, ?_⟩
    rw [opened, dif_pos descriptor.isLt, used]
  · rintro ⟨descriptor, offset, used⟩
    refine ⟨⟨descriptor, lt_of_opened used⟩, ?_⟩
    rw [opened, dif_pos (lt_of_opened used)] at used
    split at used
    · rename_i found
      rw [found, Option.map_some, Except.ok.inj used]
    · cases used

theorem opened_of_unused? {fresh : Fin descriptorCount} (found : cabinet.unused? = some fresh) :
    cabinet.opened fresh = .error .invalidDescriptor := by
  have unused := List.find?_some found
  rw [opened, dif_pos fresh.isLt, Option.isNone_iff_eq_none.mp unused]

/-- What is behind a descriptor that a client may have given back. -/
def behind (cabinet : Cabinet) (descriptor? : Option Nat) : Option Pointer :=
  descriptor?.bind fun descriptor => (cabinet.opened descriptor).toOption

theorem behind_of_opened (used : cabinet.opened descriptor = .ok pointer) :
    cabinet.behind (some descriptor) = some pointer := by
  rw [behind, Option.bind_some, used]
  rfl

/-- Only what is behind one descriptor changes. -/
theorem behind_setPointer_of_ne {descriptor? : Option Nat} (apart : descriptor? ≠ some descriptor)
    (pointer? : Option Pointer) :
    (cabinet.setPointer descriptor pointer?).behind descriptor? = cabinet.behind descriptor? := by
  cases descriptor? with
  | none => rfl
  | some other =>
    have differ : other ≠ descriptor := fun same => apart (congrArg some same)
    rw [behind, behind, Option.bind_some, Option.bind_some, opened_setPointer_of_ne differ]

end Cabinet

/-! ### What a client sees -/

/-- The desk shows the files of the given names, and the client holds the descriptors behind its
handles. -/
structure Sees (names : Set String) (cabinet : Cabinet) (held : List (Option Nat)) (desk : Desk) :
    Prop where
  files : ∀ name ∈ names, desk.files name = cabinet.files name
  handles : desk.handles = held.map cabinet.behind
  own : ∀ descriptor, some descriptor ∈ held →
    ∃ pointer, cabinet.opened descriptor = .ok pointer ∧ pointer.name ∈ names
  distinct : ∀ first second descriptor : Nat, held[first]? = some (some descriptor) →
    held[second]? = some (some descriptor) → first = second
  pinned : ∀ name ∈ names, desk.pinned name = true ↔
    ∃ descriptor offset, cabinet.opened descriptor = .ok ⟨name, offset⟩ ∧ some descriptor ∉ held

namespace Sees

variable {names : Set String} {cabinet : Cabinet} {held : List (Option Nat)} {desk : Desk}
  {name : String} {handle descriptor : Nat}

theorem isOpen_iff (sees : Sees names cabinet held desk) (member : name ∈ names) :
    cabinet.IsOpen name ↔ desk.IsOpen name := by
  rw [Cabinet.isOpen_iff, Desk.IsOpen, sees.pinned name member, sees.handles, List.map_map]
  constructor
  · rintro ⟨descriptor, offset, used⟩
    by_cases mine : some descriptor ∈ held
    · refine .inr (List.mem_map.mpr ⟨_, mine, ?_⟩)
      rw [Function.comp_apply, Cabinet.behind_of_opened used, Option.map_some]
    · exact .inl ⟨descriptor, offset, used, mine⟩
  · rintro (⟨descriptor, offset, used, _⟩ | member)
    · exact ⟨descriptor, offset, used⟩
    · obtain ⟨descriptor?, mine, named⟩ := List.mem_map.mp member
      cases descriptor? with
      | none => cases named
      | some descriptor =>
        obtain ⟨⟨_, offset⟩, used, _⟩ := sees.own descriptor mine
        rw [Function.comp_apply, Cabinet.behind_of_opened used, Option.map_some,
          Option.some.injEq] at named
        exact ⟨descriptor, offset, by rw [used, ← named]⟩

/-- A handle stands for what the descriptor behind it stands for. -/
theorem opened (sees : Sees names cabinet held desk)
    (behind : held[handle]? = some (some descriptor)) :
    ∃ pointer, cabinet.opened descriptor = .ok pointer ∧ pointer.name ∈ names ∧
      desk.opened handle = .ok pointer := by
  obtain ⟨pointer, used, member⟩ := sees.own descriptor (List.mem_of_getElem? behind)
  refine ⟨pointer, used, member, ?_⟩
  rw [Desk.opened, sees.handles, List.getElem?_map, behind, Option.map_some,
    Cabinet.behind_of_opened used]

/-- A handle without a descriptor stands for nothing. -/
theorem opened_of_join_eq_none (sees : Sees names cabinet held desk)
    (none : held[handle]?.join = none) : desk.opened handle = .error .invalidDescriptor := by
  rw [Desk.opened, sees.handles, List.getElem?_map]
  cases found : held[handle]? with
  | none => rfl
  | some descriptor? =>
    rw [found, Option.join_some] at none
    rw [none]
    rfl

end Sees

/-- What a client sees before it has opened any file. -/
def Desk.start (cabinet : Cabinet) : Desk where
  files := cabinet.files
  handles := []
  pinned name := cabinet.IsOpen name

theorem Sees.start (names : Set String) (cabinet : Cabinet) :
    Sees names cabinet [] (Desk.start cabinet) where
  files _ _ := rfl
  handles := rfl
  own := nofun
  distinct := nofun
  pinned name _ := by
    simp only [Desk.start, decide_eq_true_eq, Cabinet.isOpen_iff, List.not_mem_nil,
      not_false_eq_true, and_true]

/-- A handle stands for something if there is a descriptor behind it. -/
theorem Sees.isSome_handles {names : Set String} {cabinet : Cabinet} {held : List (Option Nat)}
    {desk : Desk} (sees : Sees names cabinet held desk) :
    desk.handles.map Option.isSome = held.map Option.isSome := by
  rw [sees.handles, List.map_map]
  refine List.map_congr_left fun descriptor? mine => ?_
  cases descriptor? with
  | none => rfl
  | some descriptor =>
    obtain ⟨pointer, used, _⟩ := sees.own descriptor mine
    rw [Function.comp_apply, Cabinet.behind_of_opened used]
    rfl

/-! ### Operations of the client -/

/-- The two outcomes of an operation are alike, and what the first leaves behind is seen on the
second. The cabinet may lack descriptors. -/
def EndsAlike (names : Set String) (held : List (Option Nat)) (operation : Operation) :
    Except VolumeError (Reply × Cabinet) → Except VolumeError (Reply × Desk) → Prop
  | .ok (reply, cabinet), .ok (shown, desk) =>
    shown = reply.atHandle held.length ∧ Sees names cabinet (operation.record held reply) desk
  | .error cause, .error other => cause = other
  | .error cause, .ok _ => cause = .openTableFull
  | .ok _, .error _ => False

/-- What is done with an open file gives no descriptor. -/
theorem FileOperation.atHandle_of_act {operation : FileOperation} {bytes : Bytes} {offset : Nat}
    {reply : Reply} {rest : Bytes × Nat} (done : operation.act bytes offset = .ok (reply, rest))
    (handle : Nat) : reply.atHandle handle = reply := by
  cases operation with
  | size =>
    cases done
    rfl
  | seek _ | read _ | write _ =>
    rw [act] at done
    split at done
    · cases done
    · cases done
      rfl

namespace Sees

variable {names : Set String} {cabinet : Cabinet} {held : List (Option Nat)} {desk : Desk}
  {name : String} {handle descriptor : Nat}

/-- A file of the client changes on both sides. -/
theorem setFile (sees : Sees names cabinet held desk) (name : String) (bytes : Option Bytes) :
    Sees names (cabinet.setFile name bytes) held
      { desk with files := Function.update desk.files name bytes } where
  files other member := by
    show Function.update desk.files name bytes other =
      Function.update cabinet.files name bytes other
    rw [Function.update_apply, Function.update_apply, sees.files other member]
  handles := sees.handles
  own := sees.own
  distinct := sees.distinct
  pinned := sees.pinned

theorem create (sees : Sees names cabinet held desk) (member : name ∈ names) :
    EndsAlike names held (.create name) (cabinet.serve (.create name))
      (desk.serve (.create name)) := by
  rw [Cabinet.serve, Desk.serve, sees.files name member]
  split
  · split
    · rfl
    · exact ⟨rfl, sees.setFile name (some [])⟩
  · rfl

/-- A name is looked up with the same outcome. -/
theorem lookupIn (sees : Sees names cabinet held desk) (member : name ∈ names) :
    FlatVolume.lookupIn desk.files name = FlatVolume.lookupIn cabinet.files name := by
  rw [FlatVolume.lookupIn, FlatVolume.lookupIn, sees.files name member]

theorem delete (sees : Sees names cabinet held desk) (member : name ∈ names) :
    EndsAlike names held (.delete name) (cabinet.serve (.delete name))
      (desk.serve (.delete name)) := by
  rw [Cabinet.serve, Desk.serve, sees.lookupIn member]
  cases FlatVolume.lookupIn cabinet.files name with
  | error cause => rfl
  | ok bytes =>
    show EndsAlike names held _ (if _ then _ else _) (if _ then _ else _)
    by_cases isOpen : cabinet.IsOpen name
    · rw [if_pos isOpen, if_pos ((sees.isOpen_iff member).mp isOpen)]
      rfl
    · rw [if_neg isOpen, if_neg (mt (sees.isOpen_iff member).mpr isOpen)]
      exact ⟨rfl, sees.setFile name none⟩

/-- A descriptor that is held after a new one was got is an old one or the new one. -/
theorem held_of_push {fresh place : Nat}
    (found : (held ++ [some fresh])[place]? = some (some descriptor)) :
    held[place]? = some (some descriptor) ∨ place = held.length ∧ descriptor = fresh := by
  rw [List.getElem?_append] at found
  split at found
  · exact .inl found
  · obtain ⟨zero, same⟩ := List.getElem?_eq_some_iff.mp found
    simp only [List.length_singleton, Nat.lt_one_iff] at zero
    simp only [zero, List.getElem_cons_zero, Option.some.injEq] at same
    exact .inr ⟨by omega, same.symm⟩

/-- The client gets a descriptor that was unused. -/
theorem push (sees : Sees names cabinet held desk) (member : name ∈ names)
    {fresh : Fin descriptorCount} (unused : cabinet.opened fresh = .error .invalidDescriptor) :
    Sees names (cabinet.setPointer fresh (some ⟨name, 0⟩)) (held ++ [some fresh.val])
      { desk with handles := desk.handles ++ [some ⟨name, 0⟩] } := by
  have apart : ∀ {descriptor}, some descriptor ∈ held → descriptor ≠ fresh.val := by
    rintro _ mine rfl
    obtain ⟨_, used, _⟩ := sees.own _ mine
    cases unused.symm.trans used
  have there := cabinet.opened_setPointer_some ⟨name, 0⟩ fresh.isLt
  have others : ∀ descriptor, some descriptor ∈ held →
      (cabinet.setPointer fresh (some ⟨name, 0⟩)).opened descriptor = cabinet.opened descriptor :=
    fun _ mine => Cabinet.opened_setPointer_of_ne (apart mine) _
  refine ⟨sees.files, ?_, fun descriptor mine => ?_, fun first second descriptor here there => ?_,
    fun other named => (sees.pinned other named).trans ?_⟩
  · rw [List.map_append, List.map_singleton, Cabinet.behind_of_opened there, sees.handles]
    refine congrArg (· ++ _) (List.map_congr_left fun descriptor? mine => ?_)
    rw [Cabinet.behind_setPointer_of_ne]
    rintro rfl
    exact apart mine rfl
  · rcases List.mem_append.mp mine with old | new
    · rw [others descriptor old]
      exact sees.own descriptor old
    · obtain rfl := Option.some.inj (List.mem_singleton.mp new)
      exact ⟨_, there, member⟩
  · rcases held_of_push here with firstOld | ⟨firstLast, new⟩ <;>
      rcases held_of_push there with secondOld | ⟨secondLast, again⟩
    · exact sees.distinct first second descriptor firstOld secondOld
    · exact absurd again (apart (List.mem_of_getElem? firstOld))
    · exact absurd new (apart (List.mem_of_getElem? secondOld))
    · rw [firstLast, secondLast]
  · constructor
    · rintro ⟨descriptor, offset, used, foreign⟩
      have apart : descriptor ≠ fresh.val := by
        rintro rfl
        cases unused.symm.trans used
      refine ⟨descriptor, offset, ?_, ?_⟩
      · rw [Cabinet.opened_setPointer_of_ne apart, used]
      · simpa [foreign] using apart
    · rintro ⟨descriptor, offset, used, foreign⟩
      have apart : descriptor ≠ fresh.val ∧ some descriptor ∉ held := by
        simpa [and_comm] using foreign
      rw [Cabinet.opened_setPointer_of_ne apart.1] at used
      exact ⟨descriptor, offset, used, apart.2⟩

theorem openFile (sees : Sees names cabinet held desk) (member : name ∈ names) :
    EndsAlike names held (.openFile name) (cabinet.serve (.openFile name))
      (desk.serve (.openFile name)) := by
  rw [Cabinet.serve, Desk.serve, sees.lookupIn member]
  cases FlatVolume.lookupIn cabinet.files name with
  | error cause => rfl
  | ok bytes =>
    cases found : cabinet.unused? with
    | none => exact rfl
    | some fresh =>
      refine ⟨?_, sees.push member (Cabinet.opened_of_unused? found)⟩
      show Reply.descriptor desk.handles.length = .descriptor held.length
      rw [sees.handles, List.length_map]

/-- No other handle of the client stands for the same descriptor. -/
theorem ne_of_ne (sees : Sees names cabinet held desk)
    (behind : held[handle]? = some (some descriptor)) {place : Nat} {other : Option Nat}
    (apart : place ≠ handle) (found : held[place]? = some other) : other ≠ some descriptor := by
  rintro rfl
  exact apart (sees.distinct place handle _ found behind)

/-- A handle of the client comes to stand for something else, and so does its descriptor. -/
theorem handles_set (sees : Sees names cabinet held desk)
    (behind : held[handle]? = some (some descriptor)) {pointer? : Option Pointer}
    {descriptor? : Option Nat}
    (here : (cabinet.setPointer descriptor pointer?).behind descriptor? = pointer?) :
    desk.handles.set handle pointer? =
      (held.set handle descriptor?).map (cabinet.setPointer descriptor pointer?).behind := by
  obtain ⟨inside, _⟩ := List.getElem?_eq_some_iff.mp behind
  refine List.ext_getElem? fun place => ?_
  rw [List.map_set, here, sees.handles, List.getElem?_set, List.getElem?_set, List.length_map,
    List.length_map, List.getElem?_map, List.getElem?_map]
  by_cases same : handle = place
  · rw [if_pos same, if_pos same]
  · rw [if_neg same, if_neg same]
    cases found : held[place]? with
    | none => rfl
    | some other =>
      rw [Option.map_some, Option.map_some,
        Cabinet.behind_setPointer_of_ne (sees.ne_of_ne behind (Ne.symm same) found)]

/-- The client moves one of its descriptors. -/
theorem move (sees : Sees names cabinet held desk)
    (behind : held[handle]? = some (some descriptor)) {pointer : Pointer}
    (member : pointer.name ∈ names) :
    Sees names (cabinet.setPointer descriptor (some pointer)) held
      { desk with handles := desk.handles.set handle (some pointer) } := by
  have mine := List.mem_of_getElem? behind
  obtain ⟨_, used, _⟩ := sees.own descriptor mine
  have there := cabinet.opened_setPointer_some pointer (Cabinet.lt_of_opened used)
  refine ⟨sees.files, ?_, fun other own => ?_, sees.distinct, fun name named =>
    (sees.pinned name named).trans (exists_congr fun other => exists_congr fun offset => ?_)⟩
  · have same : held.set handle (some descriptor) = held := by
      obtain ⟨inside, found⟩ := List.getElem?_eq_some_iff.mp behind
      rw [← found, List.set_getElem_self]
    have moved := sees.handles_set behind (Cabinet.behind_of_opened there)
    rwa [same] at moved
  · by_cases here : other = descriptor
    · rw [here]
      exact ⟨pointer, there, member⟩
    · rw [Cabinet.opened_setPointer_of_ne here]
      exact sees.own other own
  · by_cases here : other = descriptor
    · rw [here]
      exact iff_of_false (fun ended => ended.2 mine) fun ended => ended.2 mine
    · rw [Cabinet.opened_setPointer_of_ne here]

/-- The client gives one of its descriptors back. -/
theorem giveBack (sees : Sees names cabinet held desk)
    (behind : held[handle]? = some (some descriptor)) :
    Sees names (cabinet.setPointer descriptor none) (held.set handle none)
      { desk with handles := desk.handles.set handle none } := by
  have left : ∀ {place : Nat} {other : Nat}, (held.set handle none)[place]? = some (some other) →
      held[place]? = some (some other) ∧ other ≠ descriptor := by
    intro place other found
    rw [List.getElem?_set] at found
    split at found
    · split at found <;> cases found
    · rename_i apart
      refine ⟨found, fun same => ?_⟩
      exact sees.ne_of_ne behind (Ne.symm apart) found (congrArg some same)
  have mem_left : ∀ {other}, other ≠ descriptor →
      (some other ∈ held.set handle none ↔ some other ∈ held) := by
    intro other apart
    constructor
    · intro mine
      obtain ⟨place, found⟩ := List.getElem?_of_mem mine
      exact List.mem_of_getElem? (left found).1
    · intro mine
      obtain ⟨place, found⟩ := List.getElem?_of_mem mine
      have elsewhere : handle ≠ place := by
        rintro rfl
        rw [behind, Option.some.injEq, Option.some.injEq] at found
        exact apart found.symm
      exact List.mem_of_getElem? ((List.getElem?_set_ne elsewhere).trans found)
  refine ⟨sees.files, sees.handles_set behind rfl, fun other mine => ?_,
    fun first second other here there => ?_, fun name named =>
    (sees.pinned name named).trans (exists_congr fun other => exists_congr fun offset => ?_)⟩
  · obtain ⟨place, found⟩ := List.getElem?_of_mem mine
    obtain ⟨old, apart⟩ := left found
    rw [Cabinet.opened_setPointer_of_ne apart]
    exact sees.own other (List.mem_of_getElem? old)
  · exact sees.distinct first second other (left here).1 (left there).1
  · by_cases here : other = descriptor
    · rw [here, Cabinet.opened_setPointer_none]
      exact iff_of_false (fun ended => ended.2 (List.mem_of_getElem? behind))
        fun ended => by cases ended.1
    · rw [Cabinet.opened_setPointer_of_ne here, mem_left here]

theorem close (sees : Sees names cabinet held desk)
    (behind : held[handle]? = some (some descriptor)) :
    EndsAlike names held (.close handle) (cabinet.serve (.close descriptor))
      (desk.serve (.close handle)) := by
  obtain ⟨pointer, used, _, shown⟩ := sees.opened behind
  rw [Cabinet.serve, Desk.serve, used, shown]
  exact ⟨rfl, sees.giveBack behind⟩

theorem use (sees : Sees names cabinet held desk)
    (behind : held[handle]? = some (some descriptor)) (operation : FileOperation) :
    EndsAlike names held (.use handle operation) (cabinet.serve (.use descriptor operation))
      (desk.serve (.use handle operation)) := by
  obtain ⟨pointer, used, member, shown⟩ := sees.opened behind
  rw [Cabinet.serve, Desk.serve, used, shown]
  show EndsAlike names held _
    (operation.act ((cabinet.files pointer.name).getD []) pointer.offset >>= _)
    (operation.act ((desk.files pointer.name).getD []) pointer.offset >>= _)
  rw [sees.files pointer.name member]
  cases done : operation.act ((cabinet.files pointer.name).getD []) pointer.offset with
  | error cause => rfl
  | ok result =>
    obtain ⟨reply, bytes, offset⟩ := result
    exact ⟨(FileOperation.atHandle_of_act done _).symm,
      (sees.setFile pointer.name (some bytes)).move behind member⟩

/-- An operation of the client ends on its desk as it does on the cabinet. -/
theorem serve (sees : Sees names cabinet held desk) {operation actual : Operation}
    (within : operation.Within names) (translated : operation.onDescriptor held = some actual) :
    EndsAlike names held operation (cabinet.serve actual) (desk.serve operation) := by
  cases operation with
  | create name =>
    obtain rfl := Option.some.inj translated
    exact sees.create within
  | delete name =>
    obtain rfl := Option.some.inj translated
    exact sees.delete within
  | openFile name =>
    obtain rfl := Option.some.inj translated
    exact sees.openFile within
  | close handle =>
    obtain ⟨descriptor, behind, rfl⟩ := Option.map_eq_some_iff.mp translated
    exact sees.close (Option.join_eq_some_iff.mp behind)
  | use handle operation =>
    obtain ⟨descriptor, behind, rfl⟩ := Option.map_eq_some_iff.mp translated
    exact sees.use (Option.join_eq_some_iff.mp behind) operation

/-- A handle that stands for nothing is refused. -/
theorem serve_of_none (sees : Sees names cabinet held desk) {operation : Operation}
    (refused : operation.onDescriptor held = none) :
    desk.serve operation = .error .invalidDescriptor := by
  cases operation with
  | create name | delete name | openFile name => cases refused
  | close handle =>
    rw [Desk.serve, sees.opened_of_join_eq_none (Option.map_eq_none_iff.mp refused)]
    rfl
  | use handle operation =>
    rw [Desk.serve, sees.opened_of_join_eq_none (Option.map_eq_none_iff.mp refused)]
    rfl

end Sees

/-! ### Operations of others -/

section Served

variable {cabinet after : Cabinet} {name : String} {descriptor : Nat} {pointer : Pointer}
  {reply : Reply}

theorem Cabinet.of_serve_create (served : cabinet.serve (.create name) = .ok (reply, after)) :
    after = cabinet.setFile name (some []) := by
  rw [serve] at served
  split at served
  · split at served
    · cases served
    · exact (Prod.mk.inj (Except.ok.inj served)).2.symm
  · cases served

theorem Cabinet.of_serve_delete (served : cabinet.serve (.delete name) = .ok (reply, after)) :
    after = cabinet.setFile name none := by
  rw [serve] at served
  cases looked : lookupIn cabinet.files name with
  | error cause =>
    rw [looked] at served
    cases served
  | ok bytes =>
    rw [looked] at served
    change (if _ then _ else _) = _ at served
    split at served
    · cases served
    · exact (Prod.mk.inj (Except.ok.inj served)).2.symm

theorem Cabinet.of_serve_openFile (served : cabinet.serve (.openFile name) = .ok (reply, after)) :
    ∃ fresh : Fin descriptorCount, cabinet.unused? = some fresh ∧
      after = cabinet.setPointer fresh (some ⟨name, 0⟩) := by
  rw [serve] at served
  cases looked : lookupIn cabinet.files name with
  | error cause =>
    rw [looked] at served
    cases served
  | ok bytes =>
    cases found : cabinet.unused? with
    | none =>
      rw [looked, found] at served
      cases served
    | some fresh =>
      rw [looked, found] at served
      exact ⟨fresh, rfl, (Prod.mk.inj (Except.ok.inj served)).2.symm⟩

theorem Cabinet.of_serve_close (used : cabinet.opened descriptor = .ok pointer)
    (served : cabinet.serve (.close descriptor) = .ok (reply, after)) :
    after = cabinet.setPointer descriptor none := by
  rw [serve, used] at served
  exact (Prod.mk.inj (Except.ok.inj served)).2.symm

theorem Cabinet.of_serve_use {operation : FileOperation}
    (used : cabinet.opened descriptor = .ok pointer)
    (served : cabinet.serve (.use descriptor operation) = .ok (reply, after)) :
    ∃ bytes offset, after = (cabinet.setFile pointer.name (some bytes)).setPointer descriptor
      (some { pointer with offset }) := by
  rw [serve, used] at served
  change (operation.act ((cabinet.files pointer.name).getD []) pointer.offset >>= _) = _ at served
  cases done : operation.act ((cabinet.files pointer.name).getD []) pointer.offset with
  | error cause =>
    rw [done] at served
    cases served
  | ok result =>
    obtain ⟨_, bytes, offset⟩ := result
    rw [done] at served
    exact ⟨bytes, offset, (Prod.mk.inj (Except.ok.inj served)).2.symm⟩

end Served

/-- The files of the given names are the same, and the same descriptors stand for them at the same
positions. -/
structure Cabinet.Outside (names : Set String) (before after : Cabinet) : Prop where
  files : ∀ name ∈ names, after.files name = before.files name
  opened : ∀ descriptor pointer, pointer.name ∈ names →
    (after.opened descriptor = .ok pointer ↔ before.opened descriptor = .ok pointer)

namespace Cabinet.Outside

variable {names : Set String} {cabinet after : Cabinet} {name : String} {descriptor : Nat}

theorem setFile (apart : name ∉ names) (bytes : Option Bytes) :
    Outside names cabinet (cabinet.setFile name bytes) where
  files other member := by
    have differ : other ≠ name := by
      rintro rfl
      exact apart member
    exact Function.update_of_ne differ ..
  opened _ _ _ := Iff.rfl

/-- A descriptor changes that stands for none of these files, before and after. -/
theorem setPointer {pointer? : Option Pointer}
    (before : ∀ pointer, cabinet.opened descriptor = .ok pointer → pointer.name ∉ names)
    (later : ∀ pointer, pointer? = some pointer → pointer.name ∉ names) :
    Outside names cabinet (cabinet.setPointer descriptor pointer?) where
  files _ _ := rfl
  opened other pointer member := by
    by_cases here : other = descriptor
    · subst here
      refine iff_of_false (fun used => ?_) fun used => before pointer used member
      cases pointer? with
      | none => cases opened_setPointer_none.symm.trans used
      | some new =>
        rw [opened_setPointer_some _ _ (lt_of_opened used)] at used
        exact later pointer (congrArg some (Except.ok.inj used)) member
    · rw [opened_setPointer_of_ne here]

theorem trans {middle : Cabinet} (first : Outside names cabinet middle)
    (second : Outside names middle after) : Outside names cabinet after where
  files name member := (second.files name member).trans (first.files name member)
  opened descriptor pointer member :=
    (second.opened descriptor pointer member).trans (first.opened descriptor pointer member)

end Cabinet.Outside

namespace Sees

variable {names others : Set String} {cabinet after : Cabinet} {held : List (Option Nat)}
  {desk : Desk}

/-- What happens outside the files of a client is not seen by it. -/
theorem outside (sees : Sees names cabinet held desk) (outside : cabinet.Outside names after) :
    Sees names after held desk where
  files name member := (sees.files name member).trans (outside.files name member).symm
  handles := by
    refine sees.handles.trans (List.map_congr_left fun descriptor? mine => ?_)
    cases descriptor? with
    | none => rfl
    | some descriptor =>
      obtain ⟨pointer, used, member⟩ := sees.own descriptor mine
      rw [Cabinet.behind_of_opened used,
        Cabinet.behind_of_opened ((outside.opened descriptor pointer member).mpr used)]
  own descriptor mine := by
    obtain ⟨pointer, used, member⟩ := sees.own descriptor mine
    exact ⟨pointer, (outside.opened descriptor pointer member).mpr used, member⟩
  distinct := sees.distinct
  pinned name member := by
    refine (sees.pinned name member).trans
      (exists_congr fun descriptor => exists_congr fun offset => ?_)
    rw [outside.opened descriptor ⟨name, offset⟩ member]

/-- The operations of a client happen outside the files of all others. -/
theorem serve_outside (sees : Sees names cabinet held desk)
    (apart : ∀ name ∈ names, name ∉ others) {operation actual : Operation} {reply : Reply}
    (within : operation.Within names) (translated : operation.onDescriptor held = some actual)
    (served : cabinet.serve actual = .ok (reply, after)) : cabinet.Outside others after := by
  cases operation with
  | create name =>
    obtain rfl := Option.some.inj translated
    obtain rfl := Cabinet.of_serve_create served
    exact .setFile (apart name within) _
  | delete name =>
    obtain rfl := Option.some.inj translated
    obtain rfl := Cabinet.of_serve_delete served
    exact .setFile (apart name within) none
  | openFile name =>
    obtain rfl := Option.some.inj translated
    obtain ⟨fresh, found, rfl⟩ := Cabinet.of_serve_openFile served
    refine .setPointer (fun pointer used => ?_) fun pointer new => ?_
    · cases (Cabinet.opened_of_unused? found).symm.trans used
    · obtain rfl := Option.some.inj new
      exact apart name within
  | close handle =>
    obtain ⟨descriptor, behind, rfl⟩ := Option.map_eq_some_iff.mp translated
    obtain ⟨pointer, used, member, _⟩ := sees.opened (Option.join_eq_some_iff.mp behind)
    obtain rfl := Cabinet.of_serve_close used served
    refine .setPointer (fun other same => ?_) nofun
    obtain rfl := Except.ok.inj (used.symm.trans same)
    exact apart _ member
  | use handle operation =>
    obtain ⟨descriptor, behind, rfl⟩ := Option.map_eq_some_iff.mp translated
    obtain ⟨pointer, used, member, _⟩ := sees.opened (Option.join_eq_some_iff.mp behind)
    obtain ⟨bytes, offset, rfl⟩ := Cabinet.of_serve_use used served
    refine (Cabinet.Outside.setFile (apart _ member) _).trans
      (.setPointer (fun other same => ?_) fun other new => ?_)
    · rw [Cabinet.opened_setFile] at same
      obtain rfl := Except.ok.inj (used.symm.trans same)
      exact apart _ member
    · obtain rfl := Option.some.inj new
      exact apart _ member

end Sees

end FlatVolume
