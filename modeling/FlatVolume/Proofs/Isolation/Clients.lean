/-
**Clients of a shared volume do not disturb one another.**

Clients take turns at a volume, one operation at a time. Each has names of its own and uses the
descriptors that it got, which it knows by its handles.

* `Shared.perform_shows`, `Shared.run_shows`: as long as no turn runs out of room, each client's
  operations end as they do on its desk, whatever the others do in between;
* `Shared.run_isolated`: so each client gets the results that it gets alone, and its files end with
  the content that they have then.
-/

import Mathlib
import FlatVolume.Proofs.Isolation.Desk
import FlatVolume.Proofs.Storage.Format

namespace FlatVolume

open BlockDevice

/-- The request of an operation on a descriptor. -/
def Operation.request (operation : Operation) : Request := operation.call.request

/-- A volume and the descriptors that each client got, in the order of its handles. -/
structure Shared (C D : Type) where
  mounted : Mounted D
  held : C → List (Option Nat)

/-- The content of the file of a name. -/
def Mounted.contentOf {D : Type} [BlockDevice D] [StoringDevice D] (mounted : Mounted D)
    (name : String) : Option Bytes :=
  (mounted.volume.directory.find? name).map (mounted.volume.fileBytes (content mounted.device))

/-- The same handles stand for descriptors, and different ones for different descriptors. -/
structure Renamed (first second : List (Option Nat)) : Prop where
  inUse : first.map Option.isSome = second.map Option.isSome
  firstDistinct : ∀ handle other descriptor : Nat, first[handle]? = some (some descriptor) →
    first[other]? = some (some descriptor) → handle = other
  secondDistinct : ∀ handle other descriptor : Nat, second[handle]? = some (some descriptor) →
    second[other]? = some (some descriptor) → handle = other

namespace Shared

variable {C D : Type} [DecidableEq C] [BlockDevice D]

/-- No client has a descriptor. -/
def start (mounted : Mounted D) : Shared C D := ⟨mounted, fun _ => []⟩

/-- Carries out an operation of a client on the descriptor behind its handle. A handle that stands
for none is refused, and no request is made. -/
def perform (turn : C × Operation) : EStateM VolumeError (Shared C D) Reply := fun shared =>
  let (client, operation) := turn
  let held := shared.held client
  match operation.onDescriptor held with
  | none => .error .invalidDescriptor shared
  | some actual =>
    match Mounted.serve actual.request shared.mounted with
    | .ok reply after =>
      .ok (reply.atHandle held.length)
        ⟨after, Function.update shared.held client (operation.record held reply)⟩
    | .error cause after => .error cause { shared with mounted := after }

section Perform

variable {shared : Shared C D} {client : C} {operation actual : Operation} {after : Mounted D}

theorem perform_of_none (refused : operation.onDescriptor (shared.held client) = none) :
    perform (client, operation) shared = .error .invalidDescriptor shared := by
  simp only [perform, refused]

theorem perform_of_ok (translated : operation.onDescriptor (shared.held client) = some actual)
    {reply : Reply} (ended : Mounted.serve actual.request shared.mounted = .ok reply after) :
    perform (client, operation) shared = .ok (reply.atHandle (shared.held client).length)
      ⟨after, Function.update shared.held client
        (operation.record (shared.held client) reply)⟩ := by
  simp only [perform, translated, ended]

theorem perform_of_error (translated : operation.onDescriptor (shared.held client) = some actual)
    {cause : VolumeError}
    (ended : Mounted.serve actual.request shared.mounted = .error cause after) :
    perform (client, operation) shared = .error cause { shared with mounted := after } := by
  simp only [perform, translated, ended]

end Perform

/-- The turns of one client. -/
def turnsOf (client : C) (turns : List (C × Operation)) : List (C × Operation) :=
  turns.filter fun turn => turn.1 = client

/-- The results of the turns of one client. -/
def resultsOf (client : C) (turns : List (C × Operation))
    (results : List (Except VolumeError Reply)) : List (Except VolumeError Reply) :=
  ((turns.zip results).filter fun entry => entry.1.1 = client).map Prod.snd

/-- No turn runs out of slots, descriptors or blocks. -/
def Roomy (turns : List (C × Operation)) (shared : Shared C D) : Prop :=
  ∀ entry ∈ turns.zip (runAll perform turns shared).1, ¬ entry.1.2.Exhausted entry.2

/-! ### What the clients see -/

section Shows

variable [FaithfulDevice D]

/-- The volume is intact, and each client sees its files on its desk. -/
structure Shows (names : C → Set String) (shared : Shared C D) (desks : C → Desk) : Prop where
  represents : shared.mounted.Represents shared.mounted.archive
  sees : ∀ client,
    Sees (names client) shared.mounted.archive.cabinet (shared.held client) (desks client)

variable {names : C → Set String} {shared : Shared C D} {desks : C → Desk}

omit [DecidableEq C] [BlockDevice D] [FaithfulDevice D] in
/-- An operation runs out of room with its handle when it does with its descriptor. -/
theorem exhausted_ok_iff {operation actual : Operation} {held : List (Option Nat)}
    (translated : operation.onDescriptor held = some actual) (reply : Reply) (handle : Nat) :
    actual.Exhausted (.ok reply) ↔ operation.Exhausted (.ok (reply.atHandle handle)) := by
  cases operation with
  | create name | delete name | openFile name =>
    obtain rfl := Option.some.inj translated
    simp [Operation.Exhausted]
  | close handle =>
    obtain ⟨descriptor, _, rfl⟩ := Option.map_eq_some_iff.mp translated
    simp [Operation.Exhausted]
  | use handle operation =>
    obtain ⟨descriptor, _, rfl⟩ := Option.map_eq_some_iff.mp translated
    cases operation <;> cases reply <;> simp [Operation.Exhausted, Reply.atHandle]

omit [DecidableEq C] [BlockDevice D] [FaithfulDevice D] in
theorem exhausted_error_iff {operation : Operation} {cause : VolumeError} :
    operation.Exhausted (.error cause) ↔ cause = .directoryFull ∨ cause = .openTableFull := by
  cases operation with
  | create name | delete name | openFile name | close handle => simp [Operation.Exhausted]
  | use handle operation => cases operation <;> simp [Operation.Exhausted]

/-- What a client's operation leaves behind is seen by it and by all others. -/
theorem Shows.served (shows : Shows names shared desks)
    (disjoint : ∀ client other, client ≠ other → Disjoint (names client) (names other))
    {client : C} {operation actual : Operation} (within : operation.Within (names client))
    (translated : operation.onDescriptor (shared.held client) = some actual) {reply : Reply}
    {after : Mounted D} (represents : after.Represents after.archive)
    (served : shared.mounted.archive.cabinet.serve actual = .ok (reply, after.archive.cabinet))
    {next : Desk} (sees : Sees (names client) after.archive.cabinet
      (operation.record (shared.held client) reply) next) :
    Shows names
      ⟨after, Function.update shared.held client (operation.record (shared.held client) reply)⟩
      (Function.update desks client next) := by
  refine ⟨represents, fun other => ?_⟩
  dsimp only
  by_cases same : other = client
  · subst same
    rwa [Function.update_self, Function.update_self]
  · rw [Function.update_of_ne same, Function.update_of_ne same]
    have apart := disjoint client other (Ne.symm same)
    exact (shows.sees other).outside ((shows.sees client).serve_outside
      (fun name mine => Set.disjoint_left.mp apart mine) within translated served)

/-- A turn ends as it does on the desk of its client, and all clients see what it leaves behind. -/
theorem Shows.perform_yields (shows : Shows names shared desks)
    (disjoint : ∀ client other, client ≠ other → Disjoint (names client) (names other))
    {client : C} {operation : Operation} (within : operation.Within (names client)) :
    Yields (perform (client, operation)) shared
      (fun reply after => ¬ operation.Exhausted (.ok reply) →
        ∃ next, (desks client).serve operation = .ok (reply, next) ∧
          Shows names after (Function.update desks client next))
      (fun cause after => ¬ operation.Exhausted (.error cause) →
        (desks client).serve operation = .error cause ∧ Shows names after desks) := by
  have sees := shows.sees client
  unfold Yields
  cases translated : operation.onDescriptor (shared.held client) with
  | none =>
    rw [perform_of_none translated]
    exact fun _ => ⟨sees.serve_of_none translated, shows⟩
  | some actual =>
    have alike := sees.serve within translated
    have yields := Mounted.serve_cabinet shows.represents actual
    cases ended : Mounted.serve actual.request shared.mounted with
    | ok reply after =>
      rw [perform_of_ok translated ended]
      obtain ⟨_, represents, same⟩ := yields.of_ok ended
      obtain rfl := represents.archive_eq
      intro roomy
      have served := same (mt (exhausted_ok_iff translated reply _).mp roomy)
      rw [served] at alike
      cases done : (desks client).serve operation with
      | error cause =>
        rw [done] at alike
        exact alike.elim
      | ok result =>
        obtain ⟨shown, next⟩ := result
        rw [done] at alike
        obtain ⟨rfl, seen⟩ := alike
        exact ⟨next, rfl, shows.served disjoint within translated represents served seen⟩
    | error cause after =>
      rw [perform_of_error translated ended]
      obtain ⟨represents, same⟩ := yields.of_error ended
      intro roomy
      have served := same (mt exhausted_error_iff.mp (mt exhausted_error_iff.mpr roomy))
      rw [served] at alike
      refine ⟨?_, ?_⟩
      · cases done : (desks client).serve operation with
        | error other =>
          rw [done] at alike
          rw [show cause = other from alike]
        | ok result =>
          rw [done] at alike
          exact absurd (exhausted_error_iff.mpr (.inr alike)) roomy
      · have unchanged := represents.archive_eq
        refine ⟨by rwa [unchanged], fun other => ?_⟩
        rw [unchanged]
        exact shows.sees other

/-- The result of a turn is the one on the desk of its client. -/
theorem Shows.perform_shows (shows : Shows names shared desks)
    (disjoint : ∀ client other, client ≠ other → Disjoint (names client) (names other))
    {client : C} {operation : Operation} (within : operation.Within (names client))
    (roomy : ¬ operation.Exhausted (resultOf (perform (client, operation)) shared)) :
    resultOf (perform (client, operation)) shared =
        resultOf (Desk.perform operation) (desks client) ∧
      Shows names (stateAfter (perform (client, operation)) shared)
        (Function.update desks client (stateAfter (Desk.perform operation) (desks client))) := by
  have yields := shows.perform_yields disjoint within
  unfold resultOf stateAfter Desk.perform at *
  cases ended : perform (client, operation) shared with
  | ok reply after =>
    rw [ended] at roomy
    obtain ⟨next, served, seen⟩ := yields.of_ok ended roomy
    rw [served]
    exact ⟨rfl, seen⟩
  | error cause after =>
    rw [ended] at roomy
    obtain ⟨served, seen⟩ := yields.of_error ended roomy
    rw [served]
    exact ⟨rfl, by rwa [Function.update_eq_self]⟩

end Shows

/-! ### Runs -/

/-- The operations of one client. -/
def operationsOf (client : C) (turns : List (C × Operation)) : List Operation :=
  (turnsOf client turns).map Prod.snd

section Projections

variable {client mover : C} {operation : Operation} {rest : List (C × Operation)}
  {result : Except VolumeError Reply} {results : List (Except VolumeError Reply)}

omit [BlockDevice D] in
theorem resultsOf_cons : resultsOf client ((mover, operation) :: rest) (result :: results) =
    if mover = client then result :: resultsOf client rest results
    else resultsOf client rest results := by
  unfold resultsOf
  rw [List.zip_cons_cons, List.filter_cons]
  by_cases same : mover = client <;> simp [same]

omit [BlockDevice D] in
theorem operationsOf_cons : operationsOf client ((mover, operation) :: rest) =
    if mover = client then operation :: operationsOf client rest else operationsOf client rest := by
  unfold operationsOf turnsOf
  rw [List.filter_cons]
  by_cases same : mover = client <;> simp [same]

end Projections

section Runs

variable [FaithfulDevice D] {names : C → Set String} {shared : Shared C D} {desks : C → Desk}

/-- A run in which no turn runs out of room gives each client the results of its own operations on
its desk, and each sees what is left in the end. -/
theorem run_shows
    (disjoint : ∀ client other, client ≠ other → Disjoint (names client) (names other))
    {turns : List (C × Operation)} (within : ∀ turn ∈ turns, turn.2.Within (names turn.1))
    (shows : Shows names shared desks) (roomy : Roomy turns shared) :
    (∀ client, resultsOf client turns (runAll perform turns shared).1 =
      (runAll Desk.perform (operationsOf client turns) (desks client)).1) ∧
    Shows names (runAll perform turns shared).2
      fun client => (runAll Desk.perform (operationsOf client turns) (desks client)).2 := by
  induction turns generalizing shared desks with
  | nil => exact ⟨fun _ => rfl, shows⟩
  | cons turn rest hypothesis =>
    obtain ⟨mover, operation⟩ := turn
    obtain ⟨result, seen⟩ := shows.perform_shows disjoint (within _ List.mem_cons_self)
      (roomy _ List.mem_cons_self)
    obtain ⟨results, finals⟩ := hypothesis
      (fun turn member => within turn (List.mem_cons_of_mem _ member)) seen
      fun entry member => roomy entry (List.mem_cons_of_mem _ member)
    -- The client that moves makes its first step, and the others wait.
    let later (client : C) := runAll Desk.perform (operationsOf client rest)
      (Function.update desks mover (stateAfter (Desk.perform operation) (desks mover)) client)
    have split : ∀ client, runAll Desk.perform (operationsOf client ((mover, operation) :: rest))
        (desks client) =
      (if mover = client then resultOf (Desk.perform operation) (desks mover) :: (later client).1
        else (later client).1, (later client).2) := by
      intro client
      rw [operationsOf_cons]
      by_cases same : mover = client
      · subst same
        simp only [later, Function.update_self, if_true]
        rfl
      · simp only [later, if_neg same, Function.update_of_ne (Ne.symm same)]
    refine ⟨fun client => ?_, ?_⟩
    · show resultsOf client ((mover, operation) :: rest) (resultOf _ shared :: _) = _
      rw [resultsOf_cons, split, results, result]
    · simp only [split]
      exact finals

end Runs

/-! ### Isolation -/

section Isolation

omit [BlockDevice D] in
/-- All results are of the one client whose turns these are. -/
theorem resultsOf_turnsOf (client : C) (turns : List (C × Operation))
    {results : List (Except VolumeError Reply)}
    (length : results.length = (turnsOf client turns).length) :
    resultsOf client (turnsOf client turns) results = results := by
  have own : ((turnsOf client turns).zip results).filter (fun entry => entry.1.1 = client) =
      (turnsOf client turns).zip results := by
    refine List.filter_eq_self.mpr fun entry member => ?_
    exact (List.mem_filter.mp (List.of_mem_zip member).1).2
  rw [resultsOf, own, List.map_snd_zip (Nat.le_of_eq length)]

omit [BlockDevice D] in
theorem operationsOf_turnsOf (client : C) (turns : List (C × Operation)) :
    operationsOf client (turnsOf client turns) = operationsOf client turns := by
  simp [operationsOf, turnsOf]

variable [FaithfulDevice D] {mounted : Mounted D}

/-- The content of a file is what its archive and its cabinet say. -/
theorem contentOf_eq (mounted : Mounted D) (name : String) :
    mounted.contentOf name = mounted.archive.cabinet.files name := by
  show _ = (mounted.archive.find? name).map mounted.archive.bytesIn
  rw [Mounted.contentOf, Mounted.archive, Volume.archive_find?]
  exact congrArg (Option.map · _)
    (funext fun slot => (Volume.archive_bytesIn mounted.volume _ slot).symm)

omit [DecidableEq C] in
theorem start_shows (represents : mounted.Represents mounted.archive) (names : C → Set String) :
    Shows names (start mounted) fun _ => Desk.start mounted.archive.cabinet :=
  ⟨represents, fun client => Sees.start (names client) _⟩

/-- Clients with names of their own share a volume that was mounted and used before, and that passes
its check. If no turn runs out of room, neither with the others nor without, then a client gets from
the shared volume what it gets alone. Its open files are the same under other descriptors, and its
files have the same content in the end. -/
theorem run_isolated {device started : D} {volume : Volume}
    (opened : Volume.mount device = .ok volume started) (requests : List Request)
    (reached : (runAll Mounted.serve requests ⟨volume, started⟩).2 = mounted)
    (checked : mounted.volume.check = .ok ()) (reliable : Reliable mounted.device)
    (names : C → Set String)
    (disjoint : ∀ client other, client ≠ other → Disjoint (names client) (names other))
    (turns : List (C × Operation)) (within : ∀ turn ∈ turns, turn.2.Within (names turn.1))
    (client : C) (roomy : Roomy turns (start mounted))
    (roomyAlone : Roomy (turnsOf client turns) (start mounted)) :
    let together := runAll perform turns (start mounted)
    let alone := runAll perform (turnsOf client turns) (start mounted)
    resultsOf client turns together.1 = alone.1 ∧
      Renamed (together.2.held client) (alone.2.held client) ∧
      ∀ name ∈ names client,
        together.2.mounted.contentOf name = alone.2.mounted.contentOf name := by
  intro together alone
  have sound : mounted.Sound := reached ▸ Mounted.run_sound_of_mount opened requests
  have represents : mounted.Represents mounted.archive :=
    ⟨sound, Volume.check_eq_ok_iff.mp checked, reliable, rfl⟩
  have shows := start_shows represents names
  obtain ⟨results, seen⟩ := run_shows disjoint within shows roomy
  have withinAlone : ∀ turn ∈ turnsOf client turns, turn.2.Within (names turn.1) :=
    fun turn member => within turn (List.mem_filter.mp member).1
  obtain ⟨resultsAlone, seenAlone⟩ := run_shows disjoint withinAlone shows roomyAlone
  have view := seen.sees client
  have viewAlone := operationsOf_turnsOf client turns ▸ seenAlone.sees client
  refine ⟨?_, ⟨?_, view.distinct, viewAlone.distinct⟩, fun name member => ?_⟩
  · rw [results client, ← operationsOf_turnsOf client turns, ← resultsAlone client,
      resultsOf_turnsOf client turns (length_runAll ..)]
  · rw [← view.isSome_handles, ← viewAlone.isSome_handles]
  · rw [contentOf_eq, contentOf_eq, ← view.files name member, ← viewAlone.files name member]

/-- A sound volume is mounted from some disk on which no call fails. -/
theorem exists_mount_of_sound {volume : Volume} {deviceBlocks : Nat}
    (sound : volume.Sound deviceBlocks) :
    ∃ (device : Disk) (medium : Medium) (reads : Nat) (log : List Call),
      let started := Disk.mk deviceBlocks medium ⟨⟨fun _ _ => false, reads⟩, .never, .never⟩ log
      Volume.mount device = .ok volume.reopened started ∧ Reliable started := by
  let device : Disk := ⟨deviceBlocks, (volume.saved deviceBlocks).medium, .never, []⟩
  have readable : device.Readable := fun _ _ => rfl
  have holds : Holds (content device) volume := (Volume.saved_holds sound).1
  obtain ⟨reads, log, mounted⟩ := Volume.mount_of_readable_holds readable sound holds
  refine ⟨device, _, reads, log, mounted, Disk.reliable_of_neverFails fun kind calls block => ?_⟩
  cases kind <;> rfl

-- The two clients hold different descriptors, and both know theirs by the handle `0`.
set_option maxRecDepth 20000 in
theorem run_isolated_two_clients :
    ∃ device started : Disk, Volume.mount device = .ok (.fresh (.forDataBlocks 2)) started ∧
      let shared : Shared Bool Disk := start ⟨.fresh (.forDataBlocks 2), started⟩
      let turns := [(false, .create "b"), (false, .openFile "b"), (true, .create "a"),
        (true, .openFile "a"), (true, .use 0 (.write [104, 105])), (false, .delete "b"),
        (true, .use 0 (.seek 3)), (false, .close 0), (false, .delete "b"), (true, .use 0 .size)]
      Roomy turns shared ∧ Roomy (turnsOf true turns) shared ∧
        resultsOf true turns (runAll perform turns shared).1 =
          [.ok .done, .ok (.descriptor 0), .ok (.count 2), .error .offsetOutOfRange,
            .ok (.count 2)] ∧
        (runAll perform turns shared).2.mounted.contentOf "a" =
          (runAll perform (turnsOf true turns) shared).2.mounted.contentOf "a" := by
  have divided : SuperBlock.forDisk 5 = .ok (.forDataBlocks 2) := by decide
  obtain ⟨device, medium, reads, log, mounted, reliable⟩ :=
    exists_mount_of_sound (Volume.fresh_sound (SuperBlock.forDisk_valid divided))
  rw [Volume.reopened_fresh] at mounted
  refine ⟨device, _, mounted, ?_⟩
  intro shared turns
  have together : (runAll perform turns shared).1 =
      [.ok .done, .ok (.descriptor 0), .ok .done, .ok (.descriptor 0), .ok (.count 2),
        .error .fileInUse, .error .offsetOutOfRange, .ok .done, .ok .done, .ok (.count 2)] := by
    cbv
  have alone : (runAll perform (turnsOf true turns) shared).1 =
      [.ok .done, .ok (.descriptor 0), .ok (.count 2), .error .offsetOutOfRange,
        .ok (.count 2)] := by
    cbv
  have roomy : Roomy turns shared := by
    rw [Roomy, together]
    simp [turns, Operation.Exhausted]
  have roomyAlone : Roomy (turnsOf true turns) shared := by
    rw [Roomy, alone]
    simp [turns, turnsOf, Operation.Exhausted]
  have isolated := run_isolated mounted [] rfl
    (Volume.check_eq_ok_iff.mpr ⟨_, Volume.fresh_lays _⟩) reliable
    (fun client => if client then {"a"} else {"b"}) (by simp) turns
    (by simp [turns, Operation.Within]) true roomy roomyAlone
  exact ⟨roomy, roomyAlone, isolated.1.trans alone, isolated.2.2 "a" rfl⟩

end Isolation

end Shared

end FlatVolume
