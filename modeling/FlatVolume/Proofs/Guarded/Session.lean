/-
**Guarded sessions.**

Mounting relies on a table with an entry for block `0`, which it looks at first. A layout that was
found valid has a data area, and the table's area has an entry for each block of it.

`run_safe`: from a session on any device, with whatever it holds and whatever calls it fails, every
guarded run has the results of the plain one and ends like it. So no step of it panics.
-/

import FlatVolume.Proofs.Guarded.Volume
import FlatVolume.Proofs.Session.Steps

namespace FlatVolume.Guarded

open BlockDevice

section Mount

variable {D : Type} [BlockDevice D]

/-- Reads the table, and rejects one that no volume can have. -/
def loadTable (layout : SuperBlock) : EStateM Halt D Table := do
  let blocks ← reported (layout.tableArea.mapM fetchBlock)
  let table := Table.decode blocks layout.dataBlocks.toNat
  settle (require (0 < table.size))
  if table.Acceptable then return table else throw (.reported .invalidFormat)

/-- Reads the volume that the device holds. -/
def mount : EStateM Halt D Volume := do
  let layout ← settle (report (SuperBlock.decode (← reported (fetchBlock superBlockIndex))))
  settle (report (layout.validate (numBlocks (← get))))
  let table ← loadTable layout
  let directory ← reported (Directory.load layout)
  return { layout, table, directory, descriptors := .empty }

/-- As many blocks are read as were asked for. -/
theorem length_of_fetchBlocks (blocks : List Nat) (device : D) :
    Yields (blocks.mapM fetchBlock) device (fun results _ => results.length = blocks.length)
      fun _ _ => True := by
  induction blocks generalizing device with
  | nil => exact rfl
  | cons block rest hypothesis =>
    rw [List.mapM_cons, yields_bind]
    refine yields_of_forall (fun first middle => ?_) fun _ _ => trivial
    refine yields_bind.mpr ((hypothesis middle).mono (fun results after length => ?_)
      fun _ _ _ => trivial)
    exact congrArg (· + 1) length

theorem loadTable_safe {layout : SuperBlock} {device : D} {deviceBlocks : Nat}
    (valid : layout.Valid deviceBlocks) :
    Safe (loadTable layout) (Table.load layout) device := by
  refine (safe_reported _ device).bind_of_yields (length_of_fetchBlocks _ device) ?_
  intro blocks after length
  have positive : 0 < (Table.decode blocks layout.dataBlocks.toNat).size := by
    have some := valid.data_pos
    have covers := valid.table
    rw [Table.size_decode]
    · exact some
    · rw [length, SuperBlock.tableArea, List.length_range', covers]
      simp only [tableBlocksFor, entriesPerBlock]
      omega
  refine Safe.require_bind positive ?_
  dsimp only
  split
  · exact safe_pure _ after
  · exact safe_throw _ after

/-- Reading a volume is safe on any device. -/
theorem mount_safe (device : D) : Safe mount Volume.mount device := by
  refine (safe_reported _ device).bind fun block fetched _ => ?_
  refine Safe.settle_bind rfl fun layout _ => Safe.get_bind ?_
  refine Safe.settle_bind rfl fun _ accepted => ?_
  have valid := SuperBlock.validate_eq_ok_iff.mp accepted
  refine (loadTable_safe valid).bind fun table loaded _ => ?_
  exact (safe_reported _ loaded).bind fun directory after _ => safe_pure _ after

end Mount

/-! ### Steps -/

section Perform

variable {L D : Type} [BlockDevice D]

/-- Mounts the volume on the device and labels it. -/
def mountIn (label : L) : EStateM Halt (Session L D) Unit := do
  if (← get).mounted.isSome then throw (.reported .alreadyMounted)
  let volume ← focus Session.device (fun device session => { session with device }) mount
  modify fun session => { session with mounted := some (label, volume) }

/-- Carries out a request on the mounted volume. -/
def serveIn (request : Request) : EStateM Halt (Session L D) Reply := fun session =>
  match session.mounted with
  | none => .error (.reported .notMounted) session
  | some (label, volume) =>
    focus (fun _ => ⟨volume, session.device⟩)
      (fun mounted _ => ⟨some (label, mounted.volume), mounted.device⟩)
      (serve request) session

/-- Carries out one call to a session. Unmounting has no condition to test: it counts the
descriptors in use and writes the volume back. -/
def perform : Session.Step L → EStateM Halt (Session L D) Reply
  | .mount label => do
    mountIn label
    return .done
  | .unmount => reported (Session.perform .unmount)
  | .serve request => serveIn request

variable {session : Session L D}

theorem mountIn_safe (label : L) : Safe (mountIn label) (Session.mount label) session := by
  refine Safe.get_bind ?_
  by_cases occupied : session.mounted.isSome = true
  · rw [if_pos occupied, if_pos occupied]
    exact safe_throw .alreadyMounted session
  · rw [if_neg occupied, if_neg occupied]
    exact (mount_safe session.device).focus.bind fun _ after _ => safe_modify _ after

variable [StoringDevice D]

theorem serveIn_safe (sound : session.Sound) (request : Request) :
    Safe (serveIn request) (Session.serve request) session := by
  unfold Safe serveIn reported mapErrors Session.serve
  cases held : session.mounted with
  | none => rfl
  | some pair =>
    obtain ⟨label, volume⟩ := pair
    let part (_ : Session L D) : Mounted D := ⟨volume, session.device⟩
    have safe : Safe (serve request) (Mounted.serve request) (part session) :=
      serve_safe (sound label volume held) request
    exact safe.focus

/-- Every step of a session that holds a sound volume is safe. -/
theorem perform_safe (sound : session.Sound) (step : Session.Step L) :
    Safe (perform step) (Session.perform step) session := by
  cases step with
  | mount label => exact (mountIn_safe label).bind fun _ after _ => safe_pure Reply.done after
  | unmount => exact safe_reported _ session
  | serve request => exact serveIn_safe sound request

/-- A run from any device panics nowhere. -/
theorem run_safe (device : D) (steps : List (Session.Step L)) :
    runAll perform steps ⟨none, device⟩ =
      ((runAll Session.perform steps ⟨none, device⟩).1.map report,
        (runAll Session.perform steps ⟨none, device⟩).2) :=
  runAll_safe (fun step _ _ sound => perform_safe sound step)
    (fun step _ _ sound => Session.perform_sound step sound)
    (show Session.Sound _ from fun _ _ none => by cases none)

end Perform

end FlatVolume.Guarded
