import DocumentStore.Error

/-!
This file tells how actions run from a state, and when their outcome is the same from every state.
-/

namespace DocumentStore

/-- A chain of two outcomes only succeeds when both do. -/
theorem Outcome.bind_eq_ok {α β : Type} {outcome : Outcome α} {next : α → Outcome β} {result : β} :
    (outcome >>= next) = .ok result ↔ ∃ value, outcome = .ok value ∧ next value = .ok result := by
  cases outcome with
  | error error => exact ⟨nofun, nofun⟩
  | ok value =>
      constructor
      · intro done
        exact ⟨value, rfl, done⟩
      · rintro ⟨first, same, done⟩
        cases same
        exact done

namespace Action

variable {σ α β : Type}

@[simp] theorem run_pure (value : α) (state : σ) :
    (pure value : Action σ α) state = (.ok value, state) := rfl

@[simp] theorem run_lift (outcome : Outcome α) (state : σ) :
    (liftM outcome : Action σ α) state = (outcome, state) := rfl

@[simp] theorem run_get (state : σ) : (get : Action σ σ) state = (.ok state, state) := rfl

@[simp] theorem run_modify (change : σ → σ) (state : σ) :
    (modify change : Action σ PUnit) state = (.ok ⟨⟩, change state) := rfl

/-- The first action decides what runs next, and a fault ends the run. -/
theorem run_bind (action : Action σ α) (next : α → Action σ β) (state : σ) :
    (action >>= next) state =
      match action state with
      | (.ok value, later) => next value later
      | (.error error, later) => (.error error, later) := by
  change ExceptT.bindCont next (action state).1 (action state).2 = _
  rcases action state with ⟨_ | value, later⟩ <;> rfl

/-- An action that succeeds hands its value and its state on. -/
theorem run_bind_of_ok {action : Action σ α} {value : α} {state later : σ}
    (done : action state = (.ok value, later)) (next : α → Action σ β) :
    (action >>= next) state = next value later := by
  rw [run_bind, done]

/-- An action that fails is the end, and its state stays. -/
theorem run_bind_of_error {action : Action σ α} {error : Error} {state later : σ}
    (failed : action state = (.error error, later)) (next : α → Action σ β) :
    (action >>= next) state = (.error error, later) := by
  rw [run_bind, failed]

/-- A check that succeeds hands its value on and leaves the state. -/
theorem run_lift_bind_of_ok {outcome : Outcome α} {value : α} (done : outcome = .ok value)
    (next : α → Action σ β) (state : σ) :
    ((liftM outcome : Action σ α) >>= next) state = next value state := by
  rw [done]
  rfl

/-- A check that fails is the end and leaves the state. -/
theorem run_lift_bind_of_error {outcome : Outcome α} {error : Error}
    (failed : outcome = .error error) (next : α → Action σ β) (state : σ) :
    ((liftM outcome : Action σ α) >>= next) state = (.error error, state) := by
  rw [failed]
  rfl

/-- A failed check ends a whole chain of actions. -/
theorem run_lift_bind_bind_of_error {γ : Type} {outcome : Outcome α} {error : Error}
    (failed : outcome = .error error) (next : α → Action σ β) (last : β → Action σ γ) (state : σ) :
    ((liftM outcome >>= next : Action σ β) >>= last) state = (.error error, state) :=
  run_bind_of_error (run_lift_bind_of_error failed next state) last

/-- A lifted value is the value. -/
@[simp] theorem lift_pure (value : α) :
    (liftM (pure value : Outcome α) : Action σ α) = pure value := rfl

/-- Checks may be lifted together or one by one. -/
@[simp] theorem lift_bind (outcome : Outcome α) (next : α → Outcome β) :
    (liftM (outcome >>= next) : Action σ β) =
      liftM outcome >>= fun value => liftM (next value) := by
  cases outcome <;> rfl

/-- An action gives an outcome when it answers so from every state. -/
def Gives (action : Action σ α) (outcome : Outcome α) : Prop :=
  ∀ state, (action state).1 = outcome

/-- A value that is given without an action is given in every state. -/
theorem gives_pure (value : α) : Gives (pure value : Action σ α) (.ok value) :=
  fun _ => rfl

/-- Whatever state the first action leaves behind, the next one gives its own outcome. -/
theorem Gives.bind {action : Action σ α} {outcome : Outcome α} {next : α → Action σ β}
    {follower : α → Outcome β} (first : Gives action outcome)
    (later : ∀ value, Gives (next value) (follower value)) :
    Gives (action >>= next) (outcome >>= follower) := by
  intro state
  rw [← first state, run_bind]
  rcases action state with ⟨_ | value, left⟩
  · rfl
  · exact later value left

end Action

end DocumentStore
