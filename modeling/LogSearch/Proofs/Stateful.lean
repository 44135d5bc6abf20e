import LogSearch.Stateful

/-!
# Steps of a computation with a state

What a computation gives and leaves is found step by step: `perform_bind` is the one rule for what
comes after what.
-/

namespace LogSearch.Stateful

variable {σ ε α β : Type}

@[simp]
theorem perform_pure (value : α) (state : σ) :
    (pure value : Stateful σ ε α).perform state = (.ok value, state) := rfl

@[simp]
theorem perform_throw (e : ε) (state : σ) :
    (throw e : Stateful σ ε α).perform state = (.error e, state) := rfl

@[simp]
theorem perform_modify (f : σ → σ) (state : σ) :
    (modify f : Stateful σ ε Unit).perform state = (.ok (), f state) := rfl

@[simp]
theorem perform_get (state : σ) : (get : Stateful σ ε σ).perform state = (.ok state, state) := rfl

@[simp]
theorem perform_set (state after : σ) :
    (set after : Stateful σ ε Unit).perform state = (.ok (), after) := rfl

/-- What comes after a failure does not happen. -/
theorem perform_bind (first : Stateful σ ε α) (next : α → Stateful σ ε β) (state : σ) :
    (first >>= next).perform state
      = match first.perform state with
        | (.ok value, after) => (next value).perform after
        | (.error e, after) => (.error e, after) := by
  unfold perform
  rw [ExceptT.run_bind, StateT.run_bind]
  rcases StateT.run (ExceptT.run first) state with ⟨_ | _, after⟩ <;> rfl

/-- The value alone: what comes next starts where the first left off. -/
theorem perform_bind_fst (first : Stateful σ ε α) (next : α → Stateful σ ε β) (state : σ) :
    ((first >>= next).perform state).1
      = (first.perform state).1.bind fun value =>
          ((next value).perform (first.perform state).2).1 := by
  rw [perform_bind]
  rcases first.perform state with ⟨_ | _, after⟩ <;> rfl

/-- What is done at last is done in any case. -/
theorem perform_tryFinally (action : Stateful σ ε α) (f : σ → σ) (state : σ) :
    (tryFinally action (modify f)).perform state
      = ((action.perform state).1, f (action.perform state).2) := by
  rcases h : action.perform state with ⟨result, after⟩
  have hrun : action state = (result, after) := h
  simp only [perform, tryFinally, tryFinally', ExceptT.run_map, ExceptT.run_mk, StateT.run_map,
    StateT.run_bind, pure_bind]
  rw [StateT.run, hrun]
  cases result <;> rfl

end LogSearch.Stateful
