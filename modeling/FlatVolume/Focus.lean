/-
**Actions on a part of a state.**

An action of type `EStateM ε σ α` changes a state and keeps the changes it made also when it fails.

* `focus` runs an action on a part of a larger state, and the part it leaves behind is put back in
  both cases, so a failure does not undo what was done before it;
* `mapErrors` renames the errors of an action, `settle` takes over a result that needs no state;
* `bind_apply` and the lemmas after it say what each way to build an action does to a state.
-/

namespace FlatVolume

variable {ε σ τ α : Type}

/-- The action on the part of the state that `view` reads and `update` puts back. -/
def focus (view : σ → τ) (update : τ → σ → σ) (action : EStateM ε τ α) : EStateM ε σ α :=
  fun whole =>
    match action (view whole) with
    | .ok result part => .ok result (update part whole)
    | .error cause part => .error cause (update part whole)

/-- The action with its errors renamed. -/
def mapErrors {ε' : Type} (rename : ε → ε') (action : EStateM ε σ α) : EStateM ε' σ α :=
  fun state =>
    match action state with
    | .ok result after => .ok result after
    | .error cause after => .error (rename cause) after

/-- A result that needs no state. -/
def settle : Except ε α → EStateM ε σ α
  | .ok result => pure result
  | .error cause => throw cause

/-! ### What actions do to a state -/

section Apply

variable {β : Type}

theorem bind_apply (action : EStateM ε σ α) (rest : α → EStateM ε σ β) (state : σ) :
    (action >>= rest) state =
      match action state with
      | .ok result after => rest result after
      | .error cause after => .error cause after := rfl

theorem pure_apply (result : α) (state : σ) :
    (pure result : EStateM ε σ α) state = .ok result state := rfl

theorem throw_apply (cause : ε) (state : σ) :
    (throw cause : EStateM ε σ α) state = .error cause state := rfl

theorem get_apply (state : σ) : (get : EStateM ε σ σ) state = .ok state state := rfl

theorem set_apply (after state : σ) : (set after : EStateM ε σ PUnit) state = .ok ⟨⟩ after := rfl

theorem modify_apply (change : σ → σ) (state : σ) :
    (modify change : EStateM ε σ PUnit) state = .ok ⟨⟩ (change state) := rfl

/-- A failure is handled in the state that it left behind. -/
theorem tryCatch_apply (action : EStateM ε σ α) (handle : ε → EStateM ε σ α) (state : σ) :
    (tryCatch action handle : EStateM ε σ α) state =
      match action state with
      | .ok result after => .ok result after
      | .error cause after => handle cause after := by
  show EStateM.tryCatch action handle state = _
  delta EStateM.tryCatch
  dsimp only
  cases action state <;> rfl

theorem settle_apply (outcome : Except ε α) (state : σ) :
    (settle outcome : EStateM ε σ α) state =
      match outcome with
      | .ok result => .ok result state
      | .error cause => .error cause state := by
  cases outcome <;> rfl

/-- What succeeds on the part succeeds on the whole. -/
theorem focus_ok {view : σ → τ} {update : τ → σ → σ} {action : EStateM ε τ α} {whole : σ}
    {result : α} {part : τ} (done : action (view whole) = .ok result part) :
    focus view update action whole = .ok result (update part whole) := by
  simp only [focus, done]

/-- What fails on the part fails on the whole. -/
theorem focus_error {view : σ → τ} {update : τ → σ → σ} {action : EStateM ε τ α} {whole : σ}
    {cause : ε} {part : τ} (failed : action (view whole) = .error cause part) :
    focus view update action whole = .error cause (update part whole) := by
  simp only [focus, failed]

end Apply

end FlatVolume
