/-
**What actions end with.**

An action ends with a result or with an error, and leaves a state behind in both cases. `Yields`
says what holds of the two ends, and is opened along the shape of an action:

* `yields_bind`, `yields_focus`, `yields_tryCatch` and the lemmas beside them, one for each way to
  build an action;
* `Yields.mono` puts a known fact about an action in place of the action;
* `Leaves` is the special case in which one property of the state holds at both ends.

`runAll` carries out one step after another, whether they fail or not. A property that every step
keeps is kept by a run (`runAll_keeps`), and a relation that matching steps keep while they give the
same results makes two runs give the same results (`runAll_agrees`).
-/

import FlatVolume.Focus

namespace FlatVolume

variable {ε σ τ α β : Type}

/-- The action ends in one of the given ways when it starts in `state`. -/
def Yields (action : EStateM ε σ α) (state : σ) (success : α → σ → Prop)
    (failure : ε → σ → Prop) : Prop :=
  match action state with
  | .ok result after => success result after
  | .error cause after => failure cause after

/-- The property holds of the state that the action leaves behind. -/
def Leaves (action : EStateM ε σ α) (state : σ) (holds : σ → Prop) : Prop :=
  Yields action state (fun _ => holds) (fun _ => holds)

section Yields

variable {action : EStateM ε σ α} {state after : σ} {success success' : α → σ → Prop}
  {failure failure' : ε → σ → Prop} {result : α} {cause : ε}

theorem Yields.of_ok (yields : Yields action state success failure)
    (ended : action state = .ok result after) : success result after := by
  simpa only [Yields, ended] using yields

theorem Yields.of_error (yields : Yields action state success failure)
    (ended : action state = .error cause after) : failure cause after := by
  simpa only [Yields, ended] using yields

theorem yields_of_ok (ended : action state = .ok result after) (holds : success result after) :
    Yields action state success failure := by
  simpa only [Yields, ended] using holds

/-- An action ends as it does. -/
theorem yields_self (action : EStateM ε σ α) (state : σ) :
    Yields action state (fun result after => action state = .ok result after)
      (fun cause after => action state = .error cause after) := by
  unfold Yields
  cases action state <;> rfl

/-- An action ends in ways in which every action does. -/
theorem yields_of_forall (okay : ∀ result after, success result after)
    (failed : ∀ cause after, failure cause after) : Yields action state success failure := by
  unfold Yields
  cases action state with
  | ok result after => exact okay result after
  | error cause after => exact failed cause after

/-- An action that cannot fail succeeds. -/
theorem Yields.exists_ok (yields : Yields action state success fun _ _ => False) :
    ∃ result after, action state = .ok result after ∧ success result after := by
  cases ended : action state with
  | ok result after => exact ⟨result, after, rfl, yields.of_ok ended⟩
  | error cause after => exact (yields.of_error ended).elim

/-- An action that cannot succeed fails in the one way it can. -/
theorem Yields.eq_error {last : σ} (yields : Yields action state (fun _ _ => False)
    fun other after => other = cause ∧ after = last) : action state = .error cause last := by
  cases ended : action state with
  | ok result after => exact (yields.of_ok ended).elim
  | error other after =>
    obtain ⟨rfl, rfl⟩ := yields.of_error ended
    rfl

/-- Weaker ends are reached by the same action. -/
theorem Yields.mono (yields : Yields action state success failure)
    (weakerSuccess : ∀ result after, success result after → success' result after)
    (weakerFailure : ∀ cause after, failure cause after → failure' cause after) :
    Yields action state success' failure' := by
  unfold Yields at *
  cases ended : action state with
  | ok result after =>
    rw [ended] at yields
    exact weakerSuccess result after yields
  | error cause after =>
    rw [ended] at yields
    exact weakerFailure cause after yields

/-- Two facts about the ends of one action hold together. -/
theorem Yields.and (first : Yields action state success failure)
    (second : Yields action state success' failure') :
    Yields action state (fun result after => success result after ∧ success' result after)
      (fun cause after => failure cause after ∧ failure' cause after) := by
  unfold Yields at *
  cases ended : action state with
  | ok result after =>
    rw [ended] at first second
    exact ⟨first, second⟩
  | error cause after =>
    rw [ended] at first second
    exact ⟨first, second⟩

/-- What an action yields, it leaves. -/
theorem Yields.leaves {holds : σ → Prop} (yields : Yields action state success failure)
    (afterSuccess : ∀ result after, success result after → holds after)
    (afterFailure : ∀ cause after, failure cause after → holds after) :
    Leaves action state holds :=
  yields.mono afterSuccess afterFailure

theorem Leaves.of_ok {holds : σ → Prop} (leaves : Leaves action state holds)
    (ended : action state = .ok result after) : holds after := by
  simpa only [Leaves, Yields, ended] using leaves

end Yields

/-! ### The ways to build an action -/

section Build

variable {state : σ}

@[simp] theorem yields_pure {result : α} {success : α → σ → Prop} {failure : ε → σ → Prop} :
    Yields (pure result : EStateM ε σ α) state success failure ↔ success result state := Iff.rfl

@[simp] theorem yields_throw {cause : ε} {success : α → σ → Prop} {failure : ε → σ → Prop} :
    Yields (throw cause : EStateM ε σ α) state success failure ↔ failure cause state := Iff.rfl

@[simp] theorem yields_get {success : σ → σ → Prop} {failure : ε → σ → Prop} :
    Yields (get : EStateM ε σ σ) state success failure ↔ success state state := Iff.rfl

@[simp] theorem yields_set {after : σ} {success : PUnit → σ → Prop} {failure : ε → σ → Prop} :
    Yields (set after : EStateM ε σ PUnit) state success failure ↔ success ⟨⟩ after := Iff.rfl

@[simp] theorem yields_modify {change : σ → σ} {success : PUnit → σ → Prop}
    {failure : ε → σ → Prop} :
    Yields (modify change : EStateM ε σ PUnit) state success failure ↔
      success ⟨⟩ (change state) := Iff.rfl

/-- The second action starts where the first one ended. -/
@[simp] theorem yields_bind {action : EStateM ε σ α} {rest : α → EStateM ε σ β}
    {success : β → σ → Prop} {failure : ε → σ → Prop} :
    Yields (action >>= rest) state success failure ↔
      Yields action state (fun result after => Yields (rest result) after success failure)
        failure := by
  unfold Yields
  rw [bind_apply]
  cases action state <;> rfl

@[simp] theorem yields_settle_ok {result : α} {success : α → σ → Prop} {failure : ε → σ → Prop} :
    Yields (settle (.ok result)) state success failure ↔ success result state := Iff.rfl

@[simp] theorem yields_settle_error {cause : ε} {success : α → σ → Prop}
    {failure : ε → σ → Prop} :
    Yields (settle (.error cause)) state success failure ↔ failure cause state := Iff.rfl

/-- An action on a part leaves the rest of the whole alone. -/
@[simp] theorem yields_focus {view : σ → τ} {update : τ → σ → σ} {action : EStateM ε τ α}
    {success : α → σ → Prop} {failure : ε → σ → Prop} :
    Yields (focus view update action) state success failure ↔
      Yields action (view state) (fun result part => success result (update part state))
        (fun cause part => failure cause (update part state)) := by
  unfold Yields focus
  cases action (view state) <;> rfl

@[simp] theorem yields_mapErrors {ε' : Type} {rename : ε → ε'} {action : EStateM ε σ α}
    {success : α → σ → Prop} {failure : ε' → σ → Prop} :
    Yields (mapErrors rename action) state success failure ↔
      Yields action state success (fun cause after => failure (rename cause) after) := by
  unfold Yields mapErrors
  cases action state <;> rfl

/-- A failure is handled in the state that it left behind. -/
@[simp] theorem yields_tryCatch {action : EStateM ε σ α} {handle : ε → EStateM ε σ α}
    {success : α → σ → Prop} {failure : ε → σ → Prop} :
    Yields (tryCatch action handle) state success failure ↔
      Yields action state success
        (fun cause after => Yields (handle cause) after success failure) := by
  unfold Yields
  rw [tryCatch_apply]
  cases action state <;> rfl

/-- The outcome that needs no state decides. -/
theorem yields_settle {outcome : Except ε α} {success : α → σ → Prop} {failure : ε → σ → Prop}
    (okay : ∀ result, outcome = .ok result → success result state)
    (failed : ∀ cause, outcome = .error cause → failure cause state) :
    Yields (settle outcome) state success failure := by
  cases outcome with
  | ok result => exact okay result rfl
  | error cause => exact failed cause rfl

end Build

/-! ### Steps one after another -/

section Run

variable {ι : Type}

/-- The result or the error of an action. -/
def resultOf (action : EStateM ε σ α) (state : σ) : Except ε α :=
  match action state with
  | .ok result _ => .ok result
  | .error cause _ => .error cause

/-- The state that an action leaves behind. -/
def stateAfter (action : EStateM ε σ α) (state : σ) : σ :=
  match action state with
  | .ok _ after => after
  | .error _ after => after

/-- An action whose result is an error fails. -/
theorem eq_error_of_resultOf {action : EStateM ε σ α} {state : σ} {cause : ε}
    (failed : resultOf action state = .error cause) :
    action state = .error cause (stateAfter action state) := by
  unfold resultOf at failed
  unfold stateAfter
  cases ended : action state with
  | ok result after =>
    rw [ended] at failed
    cases failed
  | error other after =>
    rw [ended] at failed
    rw [Except.error.inj failed]

/-- An action that has a result succeeds with it. -/
theorem eq_ok_of_resultOf {action : EStateM ε σ α} {state : σ} {result : α}
    (succeeded : resultOf action state = .ok result) :
    action state = .ok result (stateAfter action state) := by
  unfold resultOf at succeeded
  unfold stateAfter
  cases ended : action state with
  | ok other after =>
    rw [ended] at succeeded
    rw [Except.ok.inj succeeded]
  | error cause after =>
    rw [ended] at succeeded
    cases succeeded

/-- The outcome is the one that both ends give. -/
theorem Yields.resultOf_eq {action : EStateM ε σ α} {state : σ} {success : α → σ → Prop}
    {failure : ε → σ → Prop} {outcome : Except ε α} (yields : Yields action state success failure)
    (okay : ∀ result after, success result after → outcome = .ok result)
    (failed : ∀ cause after, failure cause after → outcome = .error cause) :
    resultOf action state = outcome := by
  unfold resultOf
  cases ended : action state with
  | ok result after => exact (okay result after (yields.of_ok ended)).symm
  | error cause after => exact (failed cause after (yields.of_error ended)).symm

/-- Carries out the steps in order, whether they fail or not, and lists their results. -/
def runAll (serve : ι → EStateM ε σ α) : List ι → σ → List (Except ε α) × σ
  | [], state => ([], state)
  | step :: rest, state =>
    let (results, final) := runAll serve rest (stateAfter (serve step) state)
    (resultOf (serve step) state :: results, final)

/-- A run goes on where its first step ended. -/
theorem runAll_cons_of_ok {serve : ι → EStateM ε σ α} {step : ι} {state after : σ} {result : α}
    (ended : serve step state = .ok result after) (rest : List ι) :
    runAll serve (step :: rest) state =
      (.ok result :: (runAll serve rest after).1, (runAll serve rest after).2) := by
  simp only [runAll, resultOf, stateAfter, ended]

/-- Steps that all fail in a state leave the state. -/
theorem runAll_of_error {serve : ι → EStateM ε σ α} {state : σ} {cause : ε}
    (failed : ∀ step, serve step state = .error cause state) (steps : List ι) :
    runAll serve steps state = (steps.map fun _ => .error cause, state) := by
  induction steps with
  | nil => rfl
  | cons step rest hypothesis =>
    simp only [runAll, resultOf, stateAfter, failed step, hypothesis, List.map_cons]

/-- Every step has a result. -/
theorem length_runAll (serve : ι → EStateM ε σ α) (steps : List ι) (state : σ) :
    (runAll serve steps state).1.length = steps.length := by
  induction steps generalizing state with
  | nil => rfl
  | cons step rest hypothesis => exact congrArg (· + 1) (hypothesis _)

theorem Leaves.stateAfter {action : EStateM ε σ α} {state : σ} {holds : σ → Prop}
    (leaves : Leaves action state holds) : holds (stateAfter action state) := by
  unfold Leaves Yields at leaves
  unfold FlatVolume.stateAfter
  cases ended : action state <;> simpa only [ended] using leaves

/-- Replying with the result of an action leaves what the action leaves. -/
theorem Leaves.replied {action : EStateM ε σ α} {state : σ} {holds : σ → Prop} {reply : α → β}
    (leaves : Leaves action state holds) : Leaves (do return reply (← action)) state holds :=
  yields_bind.mpr leaves

/-- An action leaves what holds of every state. -/
theorem leaves_of_forall {action : EStateM ε σ α} {state : σ} {holds : σ → Prop}
    (always : ∀ after, holds after) : Leaves action state holds :=
  yields_of_forall (fun _ => always) fun _ => always

/-- A result that needs no state leaves the state. -/
theorem leaves_settle {outcome : Except ε α} {state : σ} {holds : σ → Prop} (here : holds state) :
    Leaves (settle outcome) state holds :=
  yields_settle (fun _ _ => here) fun _ _ => here

/-- What every step keeps, a run keeps. -/
theorem runAll_keeps {serve : ι → EStateM ε σ α} {holds : σ → Prop} {steps : List ι}
    (step : ∀ input ∈ steps, ∀ state, holds state → Leaves (serve input) state holds) {state : σ}
    (start : holds state) : holds (runAll serve steps state).2 := by
  induction steps generalizing state with
  | nil => exact start
  | cons input rest hypothesis =>
    have next := (step input List.mem_cons_self state start).stateAfter
    exact hypothesis (fun other member => step other (List.mem_cons_of_mem _ member)) next

/-- The action and the model started in the two states end alike: with the same error, or with
results that `shown` makes the same, and in related states. -/
def Agrees {ρ ω : Type} (shown : α → ω) (related : σ → ρ → Prop) (action : EStateM ε σ α)
    (model : EStateM ε ρ ω) (state : σ) (abstract : ρ) : Prop :=
  Yields action state
    (fun result after =>
      ∃ next, model abstract = .ok (shown result) next ∧ related after next)
    (fun cause after => ∃ next, model abstract = .error cause next ∧ related after next)

/-- Two systems whose steps end alike from related states have the same runs. -/
theorem runAll_agrees {ρ κ ω : Type} {serve : ι → EStateM ε σ α} {model : κ → EStateM ε ρ ω}
    {request : κ → ι} {shown : α → ω} {related : σ → ρ → Prop} {steps : List κ}
    (step : ∀ input ∈ steps, ∀ state abstract, related state abstract →
      Agrees shown related (serve (request input)) (model input) state abstract)
    {state : σ} {abstract : ρ} (start : related state abstract) :
    (runAll serve (steps.map request) state).1.map (Except.map shown) =
        (runAll model steps abstract).1 ∧
      related (runAll serve (steps.map request) state).2 (runAll model steps abstract).2 := by
  induction steps generalizing state abstract with
  | nil => exact ⟨rfl, start⟩
  | cons input rest hypothesis =>
    have agrees := step input List.mem_cons_self state abstract start
    have head : (resultOf (serve (request input)) state).map shown =
          resultOf (model input) abstract ∧
        related (stateAfter (serve (request input)) state)
          (stateAfter (model input) abstract) := by
      unfold Agrees Yields at agrees
      unfold resultOf stateAfter
      cases ended : serve (request input) state with
      | ok result after =>
        rw [ended] at agrees
        obtain ⟨next, same, still⟩ := agrees
        simp only [same]
        exact ⟨rfl, still⟩
      | error cause after =>
        rw [ended] at agrees
        obtain ⟨next, same, still⟩ := agrees
        simp only [same]
        exact ⟨rfl, still⟩
    obtain ⟨results, final⟩ :=
      hypothesis (fun other member => step other (List.mem_cons_of_mem _ member)) head.2
    refine ⟨?_, final⟩
    simp only [List.map_cons, runAll]
    rw [head.1, results]

end Run

end FlatVolume
