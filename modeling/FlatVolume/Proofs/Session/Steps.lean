/-
**Sessions step by step.**

A step mounts the device, unmounts it, or makes a request to the mounted volume; `perform` carries
it out. `run_sound`: whatever steps are made, whether they succeed or not, and whatever calls the
device fails, a session that has a volume mounted has a sound one.
-/

import FlatVolume.Proofs.Volume.Serve
import FlatVolume.Session

namespace FlatVolume.Session

open BlockDevice

/-- One call to a session. -/
inductive Step (L : Type) where
  | mount (label : L)
  | unmount
  | serve (request : Request)

section Perform

variable {L D : Type} [BlockDevice D]

/-- Carries out one call. -/
def perform : Step L → EStateM VolumeError (Session L D) Reply
  | .mount label => do
    mount label
    return .done
  | .unmount => do
    let _ ← unmount
    return .done
  | .serve request => serve request

variable {session : Session L D} {label : L} {volume : Volume}

/-- Without a volume every request is refused. -/
theorem yields_serve_of_unmounted (unmounted : session.mounted = none) (request : Request)
    {success : Reply → Session L D → Prop} {failure : VolumeError → Session L D → Prop} :
    Yields (serve request) session success failure ↔ failure .notMounted session := by
  unfold Yields serve
  rw [unmounted]

/-- A request to the mounted volume leaves the label alone. -/
theorem yields_serve_of_mounted (mounted : session.mounted = some (label, volume))
    (request : Request) {success : Reply → Session L D → Prop}
    {failure : VolumeError → Session L D → Prop} :
    Yields (serve request) session success failure ↔
      Yields (Mounted.serve request) ⟨volume, session.device⟩
        (fun reply after => success reply ⟨some (label, after.volume), after.device⟩)
        (fun cause after => failure cause ⟨some (label, after.volume), after.device⟩) := by
  unfold Yields serve focus
  rw [mounted]
  dsimp only
  cases Mounted.serve request ⟨volume, session.device⟩ <;> rfl

/-- A session that has a volume mounts no other. -/
theorem yields_mount_of_mounted (mounted : session.mounted = some (label, volume)) (other : L)
    {success : Unit → Session L D → Prop} {failure : VolumeError → Session L D → Prop} :
    Yields (mount other) session success failure ↔ failure .alreadyMounted session := by
  obtain ⟨_, device⟩ := session
  dsimp only at mounted
  subst mounted
  exact .rfl

/-- A session without a volume mounts the one on its device. -/
theorem yields_mount_of_unmounted (unmounted : session.mounted = none) (label : L)
    {success : Unit → Session L D → Prop} {failure : VolumeError → Session L D → Prop} :
    Yields (mount label) session success failure ↔
      Yields Volume.mount session.device
        (fun volume device => success () ⟨some (label, volume), device⟩)
        (fun cause device => failure cause { session with device }) := by
  obtain ⟨_, device⟩ := session
  dsimp only at unmounted
  subst unmounted
  unfold mount
  rw [yields_bind, yields_get]
  show Yields (do
    let volume ← onDevice Volume.mount
    modify fun session : Session L D => { session with mounted := some (label, volume) }) _ _ _ ↔ _
  rw [yields_bind, onDevice, yields_focus]
  exact .rfl

theorem perform_mount_of_ok {device started : D}
    (mounted : Volume.mount device = .ok volume started) (label : L) :
    perform (.mount label) ⟨none, device⟩ = .ok .done ⟨some (label, volume), started⟩ := by
  have mounts : Yields (perform (.mount label)) ⟨none, device⟩
      (fun reply after => reply = .done ∧ after = ⟨some (label, volume), started⟩)
      (fun _ _ => False) :=
    yields_bind.mpr ((yields_mount_of_unmounted rfl label).mpr (yields_of_ok mounted ⟨rfl, rfl⟩))
  obtain ⟨_, _, ended, rfl, rfl⟩ := mounts.exists_ok
  exact ended

/-- There is nothing to unmount without a volume. -/
theorem yields_unmount_of_unmounted (unmounted : session.mounted = none)
    {success : L → Session L D → Prop} {failure : VolumeError → Session L D → Prop} :
    Yields unmount session success failure ↔ failure .notMounted session := by
  obtain ⟨_, device⟩ := session
  dsimp only at unmounted
  subst unmounted
  exact .rfl

/-- Unmounting writes the volume back unless a file is open. -/
theorem yields_unmount_of_mounted (mounted : session.mounted = some (label, volume))
    {success : L → Session L D → Prop} {failure : VolumeError → Session L D → Prop} :
    Yields unmount session success failure ↔
      if volume.descriptors.openFiles = [] then
        Yields volume.sync session.device
          (fun _ device => success label ⟨none, device⟩)
          (fun cause device => failure cause { session with device })
      else failure .fileInUse session := by
  obtain ⟨_, device⟩ := session
  dsimp only at mounted
  subst mounted
  unfold unmount
  rw [yields_bind, yields_get]
  dsimp only
  rw [yields_bind, onDevice, yields_focus, Volume.unmount]
  by_cases closed : volume.descriptors.openFiles = []
  · rw [if_pos closed, if_neg (not_not_intro closed)]
    exact .rfl
  · rw [if_neg closed, if_pos closed]
    exact .rfl

end Perform

section Sound

variable {L D : Type} [BlockDevice D] [StoringDevice D]

/-- The mounted volume, if there is one, is sound. -/
def Sound (session : Session L D) : Prop :=
  ∀ label volume, session.mounted = some (label, volume) →
    Mounted.Sound ⟨volume, session.device⟩

variable {session : Session L D}

theorem mount_sound (sound : session.Sound) (label : L) :
    Leaves (mount label) session Sound := by
  cases held : session.mounted with
  | some pair => exact (yields_mount_of_mounted held label).mpr sound
  | none =>
    refine (yields_mount_of_unmounted held label).mpr ?_
    refine (Volume.mount_yields session.device).mono ?_ ?_
    · rintro volume device ⟨read, same, follows⟩ other mounted here
      obtain ⟨rfl, rfl⟩ := Prod.mk.inj (Option.some.inj here)
      exact Mounted.sound_of_ofDisk read same follows
    · intro cause device _ other mounted here
      cases held.symm.trans here

theorem unmount_sound (sound : session.Sound) : Leaves unmount session Sound := by
  cases held : session.mounted with
  | none => exact (yields_unmount_of_unmounted held).mpr sound
  | some pair =>
    obtain ⟨label, volume⟩ := pair
    have here := sound label volume held
    refine (yields_unmount_of_mounted held).mpr ?_
    split
    · refine (volume.sync_yields here.volume.layout here.superBlock).mono ?_ ?_
      · intro _ device _ other mounted impossible
        cases impossible
      · rintro cause device ⟨_, same, follows⟩ other mounted still
        obtain ⟨rfl, rfl⟩ := Prod.mk.inj (Option.some.inj (held.symm.trans still))
        exact here.withDevice (same _ (.inl rfl)) follows
    · exact sound

theorem perform_sound (step : Step L) (sound : session.Sound) :
    Leaves (perform step) session Sound := by
  cases step with
  | mount label => exact (mount_sound sound label).replied
  | unmount => exact (unmount_sound sound).replied
  | serve request =>
    show Leaves (serve request) session Sound
    cases held : session.mounted with
    | none => exact (yields_serve_of_unmounted held request).mpr sound
    | some pair =>
      obtain ⟨label, volume⟩ := pair
      refine (yields_serve_of_mounted held request).mpr ?_
      refine (Mounted.serve_sound request (sound label volume held)).mono ?_ ?_ <;>
      · intro _ after still other mounted here
        obtain ⟨rfl, rfl⟩ := Prod.mk.inj (Option.some.inj here)
        exact still

/-- From a device on, no steps lead to a volume that is not sound. -/
theorem run_sound (device : D) (steps : List (Step L)) :
    (runAll perform steps ⟨none, device⟩).2.Sound :=
  runAll_keeps (fun step _ _ sound => perform_sound step sound) fun _ _ none => by cases none

end Sound

end FlatVolume.Session
