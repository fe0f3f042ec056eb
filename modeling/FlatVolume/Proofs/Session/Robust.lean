/-
**Sessions on hostile disks.**

`run_robust`: whatever a disk holds and whichever of its calls fail, and whatever steps are made,

* no step panics, and so every index is in range and every loop ends (`guarded`);
* the mounted volume stays possible: each entry of its table is unused, an end, or the number of a
  data block, and each file has a possible first block (`sound`);
* a step makes no other calls than it may. So it writes the content of files only to blocks of the
  data area, and the table and the directory only to their own blocks (`calling`).

The chains of the volume may loop, meet, or have any length, since mounting looks at none of them.
-/

import FlatVolume.Proofs.Calls.Serve
import FlatVolume.Proofs.Guarded.Session

namespace FlatVolume.Session

open Disk (Calling StepCall)

/-- What holds of a step, whether it succeeds or fails. -/
structure Robust {L : Type} (before : Session L Disk) (step : Step L) : Prop where
  guarded : Guarded.Safe (Guarded.perform step) (perform step) before
  sound : Leaves (perform step) before Sound
  calling : Calling Session.device (StepCall before step) (perform step) before

theorem Sound.robust {L : Type} {before : Session L Disk} (sound : before.Sound) (step : Step L) :
    Robust before step where
  guarded := Guarded.perform_safe sound step
  sound := perform_sound step sound
  calling := Disk.calling_perform sound step

/-- From any disk on, all steps are robust and none panics, and a run in which each of them is
guarded has the results of the run in which none is. -/
theorem run_robust {L : Type} (disk : Disk) (steps : List (Step L)) :
    let (results, final) := runAll perform steps ⟨none, disk⟩
    runAll Guarded.perform steps ⟨none, disk⟩ = (results.map Guarded.report, final) ∧
      ∀ step, Robust final step ∧
        ∀ after, Guarded.perform step final ≠ .error .panicked after := by
  refine ⟨Guarded.run_safe disk steps, fun step => ?_⟩
  have robust := (run_sound disk steps).robust step
  exact ⟨robust, robust.guarded.ne_panicked⟩

end FlatVolume.Session
