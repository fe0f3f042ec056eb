/-
**Guarded actions.**

An action that indexes an array, takes a number from a smaller one or repeats a loop relies on
conditions that it does not test. A guarded action tests them all, and it panics where one does not
hold. A loop panics when it is not over after a number of rounds that is stated for it.

`Safe guarded plain state`: started in this state, the guarded action does what the plain one does,
so it does not panic. The lemmas after it put safe actions together, one for each way to build an
action; `Safe.require_bind` is the only one that asks for a condition.
-/

import FlatVolume.Proofs.Outcome
import FlatVolume.Error

namespace FlatVolume

/-- Why a guarded action stops without a result. -/
inductive Halt where
  /-- The caller is told the cause. -/
  | reported (cause : VolumeError)
  /-- A condition did not hold that the action relies on. -/
  | panicked
deriving DecidableEq

namespace Guarded

variable {σ τ α β : Type}

/-! ### Building guarded actions -/

/-- Goes on if the condition holds. -/
def require (holds : Prop) [Decidable holds] : Except Halt Unit :=
  if holds then .ok () else .error .panicked

/-- The outcome with its error reported. -/
def report (outcome : Except VolumeError α) : Except Halt α := outcome.mapError .reported

/-- The action with its errors reported. -/
def reported (action : EStateM VolumeError σ α) : EStateM Halt σ α := mapErrors .reported action

/-- Handles an error that is reported. A panic is handled by nobody. -/
def recover (action : EStateM Halt σ α) (handle : VolumeError → EStateM Halt σ α) :
    EStateM Halt σ α :=
  tryCatch action fun
    | .reported cause => handle cause
    | .panicked => throw .panicked

/-! ### Safe actions -/

/-- The guarded action does here what the plain one does. -/
def Safe (guarded : EStateM Halt σ α) (plain : EStateM VolumeError σ α) (state : σ) : Prop :=
  guarded state = reported plain state

section Safe

variable {guarded : EStateM Halt σ α} {plain : EStateM VolumeError σ α} {state : σ}

/-- A safe action does not panic. -/
theorem Safe.ne_panicked (safe : Safe guarded plain state) (after : σ) :
    guarded state ≠ .error .panicked after := by
  unfold Safe reported mapErrors at safe
  rw [safe]
  cases plain state <;> simp

theorem safe_reported (plain : EStateM VolumeError σ α) (state : σ) :
    Safe (reported plain) plain state := rfl

theorem safe_pure (result : α) (state : σ) : Safe (pure result) (pure result) state := rfl

theorem safe_throw (cause : VolumeError) (state : σ) :
    Safe (throw (.reported cause) : EStateM Halt σ α) (throw cause) state := rfl

theorem safe_set (value state : σ) : Safe (set value) (set value) state := rfl

theorem safe_modify (change : σ → σ) (state : σ) : Safe (modify change) (modify change) state := rfl

/-- The second action starts where the first one ended. -/
theorem Safe.bind {guardedRest : α → EStateM Halt σ β} {plainRest : α → EStateM VolumeError σ β}
    (safe : Safe guarded plain state)
    (rest : ∀ result after, plain state = .ok result after →
      Safe (guardedRest result) (plainRest result) after) :
    Safe (guarded >>= guardedRest) (plain >>= plainRest) state := by
  unfold Safe reported mapErrors at *
  rw [bind_apply, bind_apply, safe]
  cases ended : plain state with
  | ok result after => exact rest result after ended
  | error cause after => rfl

/-- The rest of an action that succeeds starts in the state that the action leaves. -/
theorem Safe.bind_of_yields {guardedRest : α → EStateM Halt σ β}
    {plainRest : α → EStateM VolumeError σ β} {success : α → σ → Prop}
    {failure : VolumeError → σ → Prop} (safe : Safe guarded plain state)
    (yields : Yields plain state success failure)
    (rest : ∀ result after, success result after →
      Safe (guardedRest result) (plainRest result) after) :
    Safe (guarded >>= guardedRest) (plain >>= plainRest) state :=
  safe.bind fun result after ended => rest result after (yields.of_ok ended)

/-- What is read from the state is the state. -/
theorem Safe.get_bind {guardedRest : σ → EStateM Halt σ β} {plainRest : σ → EStateM VolumeError σ β}
    (rest : Safe (guardedRest state) (plainRest state) state) :
    Safe (get >>= guardedRest) (get >>= plainRest) state := rest

/-- A result is computed without a state. -/
theorem Safe.settle_bind {guarded : Except Halt α} {plain : Except VolumeError α}
    {guardedRest : α → EStateM Halt σ β} {plainRest : α → EStateM VolumeError σ β}
    (same : guarded = report plain)
    (rest : ∀ result, plain = .ok result → Safe (guardedRest result) (plainRest result) state) :
    Safe (settle guarded >>= guardedRest) (settle plain >>= plainRest) state := by
  subst same
  cases plain with
  | ok result => exact rest result rfl
  | error cause => rfl

/-- A condition that holds is no obstacle. -/
theorem Safe.require_bind {holds : Prop} [Decidable holds] (here : holds)
    (safe : Safe guarded plain state) :
    Safe (settle (require holds) >>= fun _ => guarded) plain state := by
  rw [require, if_pos here]
  exact safe

/-- An action on a part is safe on the whole. -/
theorem Safe.focus {view : τ → σ} {update : σ → τ → τ} {whole : τ}
    (safe : Safe guarded plain (view whole)) :
    Safe (focus view update guarded) (focus view update plain) whole := by
  unfold Safe reported mapErrors FlatVolume.focus at *
  rw [safe]
  cases plain (view whole) <;> rfl

/-- A reported error is handled in the state that it left behind. -/
theorem Safe.recover {guardedHandle : VolumeError → EStateM Halt σ α}
    {plainHandle : VolumeError → EStateM VolumeError σ α} (safe : Safe guarded plain state)
    (handled : ∀ cause after, plain state = .error cause after →
      Safe (guardedHandle cause) (plainHandle cause) after) :
    Safe (recover guarded guardedHandle) (tryCatch plain plainHandle) state := by
  unfold Safe reported mapErrors Guarded.recover at *
  rw [tryCatch_apply, tryCatch_apply, safe]
  cases ended : plain state with
  | ok result after => rfl
  | error cause after => exact handled cause after ended

/-- A run of safe steps has the results of the plain run, and no panic among them. -/
theorem runAll_safe {ι : Type} {guarded : ι → EStateM Halt σ α}
    {plain : ι → EStateM VolumeError σ α} {holds : σ → Prop} {steps : List ι}
    (safe : ∀ step ∈ steps, ∀ state, holds state → Safe (guarded step) (plain step) state)
    (keeps : ∀ step ∈ steps, ∀ state, holds state → Leaves (plain step) state holds) {state : σ}
    (start : holds state) :
    runAll guarded steps state =
      ((runAll plain steps state).1.map report, (runAll plain steps state).2) := by
  induction steps generalizing state with
  | nil => rfl
  | cons step rest hypothesis =>
    have here := safe step List.mem_cons_self state start
    have result : resultOf (guarded step) state = report (resultOf (plain step) state) := by
      unfold Safe reported mapErrors at here
      unfold resultOf
      rw [here]
      cases plain step state <;> rfl
    have after : stateAfter (guarded step) state = stateAfter (plain step) state := by
      unfold Safe reported mapErrors at here
      unfold stateAfter
      rw [here]
      cases plain step state <;> rfl
    have later := hypothesis (fun other member => safe other (List.mem_cons_of_mem _ member))
      (fun other member => keeps other (List.mem_cons_of_mem _ member))
      (keeps step List.mem_cons_self state start).stateAfter
    simp only [runAll]
    rw [result, after, later]
    rfl

end Safe

end Guarded

end FlatVolume
