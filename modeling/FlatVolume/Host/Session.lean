/-
**Sessions on a host.**

A session on a host mounts the volume on an image by the path of the image. While one is mounted,
another path is not even looked at.
-/

import FlatVolume.Host.Image
import FlatVolume.Session

namespace FlatVolume

/-- The host's files and the volume that is mounted from one of them. -/
structure HostSession where
  host : Host
  mounted : Option (Image × Volume)

namespace HostSession

variable {α : Type}

/-- An action on the host alone. -/
def onHost (action : EStateM VolumeError Host α) : EStateM VolumeError HostSession α :=
  focus HostSession.host (fun host session => { session with host }) action

/-- An action of a session that reaches the given image. -/
def onSession (image : Image) (action : EStateM VolumeError (Session Image ImageFile) α) :
    EStateM VolumeError HostSession α :=
  focus (fun session => ⟨session.mounted, session.host.imageFile image⟩)
    (fun inner session =>
      { host := session.host.setFile image.place inner.device.file
        mounted := inner.mounted })
    action

/-- Mounts the volume on an image. -/
def mount (path : String) : EStateM VolumeError HostSession Unit := do
  if (← get).mounted.isSome then throw .alreadyMounted
  let image ← onHost (Host.openForVolume path)
  onSession image (Session.mount image)

/-- An action on the mounted volume. -/
def onMounted (action : EStateM VolumeError (Session Image ImageFile) α) :
    EStateM VolumeError HostSession α := do
  match (← get).mounted with
  | none => throw .notMounted
  | some (image, _) => onSession image action

/-- Unmounts the volume and returns its image. -/
def unmount : EStateM VolumeError HostSession Image := onMounted Session.unmount

/-- Carries out a request on the mounted volume. -/
def serve (request : Request) : EStateM VolumeError HostSession Reply :=
  onMounted (Session.serve request)

end HostSession

end FlatVolume
