/-
**Sessions.**

A session has at most one volume mounted, together with a label that says which device it came
from, and it reaches one device at a time. A session that fails to mount or to unmount keeps what
it had.
-/

import FlatVolume.Request

namespace FlatVolume

/-- The mounted volume, if there is one, and the device that calls reach. -/
structure Session (L D : Type) where
  mounted : Option (L × Volume)
  device : D

namespace Session

variable {L D : Type} [BlockDevice D]

/-- An action on the device. -/
def onDevice {α : Type} (action : EStateM VolumeError D α) : EStateM VolumeError (Session L D) α :=
  focus Session.device (fun device session => { session with device }) action

/-- Mounts the volume on the device and labels it. A session that has a volume already makes no call
to the device. -/
def mount (label : L) : EStateM VolumeError (Session L D) Unit := do
  if (← get).mounted.isSome then throw .alreadyMounted
  let volume ← onDevice Volume.mount
  modify fun session => { session with mounted := some (label, volume) }

/-- Writes the volume back, ends with none mounted, and returns its label. -/
def unmount : EStateM VolumeError (Session L D) L := do
  match (← get).mounted with
  | none => throw .notMounted
  | some (label, volume) =>
    onDevice volume.unmount
    modify fun session => { session with mounted := none }
    return label

/-- Carries out a request on the mounted volume. -/
def serve (request : Request) : EStateM VolumeError (Session L D) Reply := fun session =>
  match session.mounted with
  | none => .error .notMounted session
  | some (label, volume) =>
    focus (fun _ => ⟨volume, session.device⟩)
      (fun mounted _ => ⟨some (label, mounted.volume), mounted.device⟩)
      (Mounted.serve request) session

end Session

end FlatVolume
