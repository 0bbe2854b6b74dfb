import Docbase.Fault

/-!
# Effects

Operations that change a state and may fail. What a failing operation has changed before it failed
stays changed, so that every operation answers for the state it leaves behind.
-/

namespace Docbase

/-- An operation on a state that gives a value or a fault, and the state afterwards either way. -/
abbrev Effect (σ α : Type) := ExceptT Fault (StateM σ) α

namespace Effect

variable {σ τ α β : Type}

/-- Runs an operation. -/
def apply (effect : Effect σ α) (state : σ) : Except Fault α × σ :=
  effect.run.run state

/-- The operation that a function on states describes. -/
def ofFunction (step : σ → Except Fault α × σ) : Effect σ α :=
  ExceptT.mk step

/-- The outcome of an operation, as a value. -/
def outcome (effect : Effect σ α) : Effect σ (Except Fault α) :=
  ofFunction fun state =>
    let (result, state) := effect.apply state
    (.ok result, state)

/-- Gives a value or fails without a change. -/
def ofExcept (result : Except Fault α) : Effect σ α :=
  ofFunction fun state => (result, state)

/-- Carries out an operation on a part of the state. -/
def onPart (part : σ → τ) (replace : σ → τ → σ) (effect : Effect τ α) : Effect σ α :=
  ofFunction fun state =>
    let (result, changed) := effect.apply (part state)
    (result, replace state changed)

/-- Begins something, works on it, and concludes it with the outcome of the work. -/
def bracket (begin : Effect σ β) (work : β → Effect σ α)
    (conclude : β → Except Fault α → Effect σ α) : Effect σ α := do
  let token ← begin
  conclude token (← outcome (work token))

/-! ## What running an operation gives -/

@[simp]
theorem apply_pure (value : α) (state : σ) :
    Effect.apply (pure value : Effect σ α) state = (.ok value, state) := rfl

@[simp]
theorem apply_throw (fault : Fault) (state : σ) :
    Effect.apply (throw fault : Effect σ α) state = (.error fault, state) := rfl

@[simp]
theorem apply_get (state : σ) :
    Effect.apply (get : Effect σ σ) state = (.ok state, state) := rfl

@[simp]
theorem apply_modify (step : σ → σ) (state : σ) :
    Effect.apply (modify step : Effect σ Unit) state = (.ok (), step state) := rfl

theorem apply_bind (effect : Effect σ α) (next : α → Effect σ β) (state : σ) :
    (effect >>= next).apply state =
      match effect.apply state with
      | (.ok value, after) => (next value).apply after
      | (.error fault, after) => (.error fault, after) := by
  change (ExceptT.bindCont next (effect.apply state).1 : StateM σ _) (effect.apply state).2 = _
  rcases effect.apply state with ⟨_ | _, _⟩ <;> rfl

/-- What gives a value is gone on from with the value, in the state that is left behind. -/
theorem apply_bind_of_ok {effect : Effect σ α} {next : α → Effect σ β} {state after : σ}
    {value : α} (h : effect.apply state = (.ok value, after)) :
    (effect >>= next).apply state = (next value).apply after := by
  rw [apply_bind, h]

theorem apply_map (f : α → β) (effect : Effect σ α) (state : σ) :
    (f <$> effect).apply state = ((effect.apply state).1.map f, (effect.apply state).2) := by
  rw [← bind_pure_comp, apply_bind]
  rcases effect.apply state with ⟨_ | _, _⟩ <;> rfl

@[simp]
theorem apply_ofFunction (step : σ → Except Fault α × σ) (state : σ) :
    (ofFunction step).apply state = step state := rfl

@[simp]
theorem apply_outcome (effect : Effect σ α) (state : σ) :
    effect.outcome.apply state = (.ok (effect.apply state).1, (effect.apply state).2) := rfl

@[simp]
theorem apply_ofExcept (result : Except Fault α) (state : σ) :
    (ofExcept result).apply state = (result, state) := rfl

@[simp]
theorem apply_onPart (part : σ → τ) (replace : σ → τ → σ) (effect : Effect τ α) (state : σ) :
    (effect.onPart part replace).apply state =
      ((effect.apply (part state)).1, replace state (effect.apply (part state)).2) := rfl

end Effect

end Docbase
