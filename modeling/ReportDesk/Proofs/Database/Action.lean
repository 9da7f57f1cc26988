import Mathlib
import ReportDesk.Database.Basic

/-! # Actions on a session, step by step

    What an action that is put together from others gives and leaves behind, told by its parts. A
    first step that fails ends the whole, with the session as it is then.
-/

namespace ReportDesk.Action

variable {σ ε α β : Type} (session : Session σ)

/-- An outcome that is already there leaves the session as it is. -/
@[simp]
theorem liftExcept_apply (outcome : Except ε α) :
    (liftM outcome : Action σ ε α) session = (outcome, session) := by
  cases outcome <;> rfl

/-- A step that cannot fail. -/
@[simp]
theorem liftState_apply (step : StateM (Session σ) α) :
    (liftM step : Action σ ε α) session = (.ok (step session).1, (step session).2) :=
  rfl

/-- An action whose errors are wrapped. -/
@[simp]
theorem adapt_apply {δ : Type} (wrap : δ → ε) (action : Action σ δ α) :
    (action.adapt wrap : Action σ ε α) session =
      ((action session).1.mapError wrap, (action session).2) :=
  rfl

/-- An action whose result is put into another form. -/
@[simp]
theorem map_apply (f : α → β) (action : Action σ ε α) :
    (f <$> action) session = ((action session).1.map f, (action session).2) := by
  have hmap : (f <$> action) session =
      (match (action session).1 with
        | .ok a => (pure (.ok (f a)) : StateM (Session σ) (Except ε β))
        | .error e => pure (.error e)) (action session).2 := rfl
  rw [hmap]
  cases (action session).1 <;> rfl

/-- The second of two actions goes on from what the first one gave and left. -/
theorem bind_apply (first : Action σ ε α) (next : α → Action σ ε β) :
    (first >>= next) session =
      match first session with
      | (.ok a, after) => next a after
      | (.error e, after) => (.error e, after) := by
  have hbind : (first >>= next) session =
      ExceptT.bindCont next (first session).1 (first session).2 := rfl
  rw [hbind]
  rcases first session with ⟨outcome, after⟩
  cases outcome <;> rfl

end ReportDesk.Action
