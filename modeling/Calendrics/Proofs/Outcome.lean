import Calendrics.Log

/-!
# Sequences of steps that can fail

What is needed to take a sequence of fallible steps apart: when it succeeds, and what a function
applied to its result does to each step. The results of logged computations are such sequences too
(`Logged.result_bind`), and lifting a computation into the log keeps its result. After a lifted
step that succeeds, a logged sequence is what comes next; after one that fails, it is that failure.
-/

namespace Calendrics

namespace Outcome

variable {ε ε' α β γ : Type}

/-- A sequence of two steps succeeds if the first does, and the second does with its value. -/
theorem bind_eq_ok_iff {x : Except ε α} {f : α → Except ε β} {b : β} :
    x >>= f = .ok b ↔ ∃ a, x = .ok a ∧ f a = .ok b := by
  cases x with
  | error e =>
    refine ⟨?_, ?_⟩
    · intro h
      cases h
    · rintro ⟨a, ha, -⟩
      cases ha
  | ok a =>
    refine ⟨?_, ?_⟩
    · intro h
      exact ⟨a, rfl, h⟩
    · rintro ⟨a', ha, h⟩
      obtain rfl := Except.ok.inj ha
      exact h

/-- The result of a sequence is mapped in its last step. -/
theorem map_bind (x : Except ε α) (f : α → Except ε β) (g : β → γ) :
    (x >>= f).map g = x >>= fun a => (f a).map g := by
  cases x <;> rfl

/-- Changing the errors changes no success. -/
theorem mapError_eq_ok_iff {x : Except ε α} {f : ε → ε'} {a : α} :
    x.mapError f = .ok a ↔ x = .ok a := by
  cases x with
  | error e =>
    refine ⟨?_, ?_⟩ <;> intro h <;> cases h
  | ok a' => exact ⟨fun h => congrArg _ (Except.ok.inj h), fun h => congrArg _ (Except.ok.inj h)⟩

/-- Changing the errors leaves a failure a failure. -/
theorem mapError_eq_error_iff {x : Except ε α} {f : ε → ε'} {e' : ε'} :
    x.mapError f = .error e' ↔ ∃ e, x = .error e ∧ e' = f e := by
  cases x with
  | error e =>
    refine ⟨fun h => ⟨e, rfl, (Except.error.inj h).symm⟩, ?_⟩
    rintro ⟨e₁, h, rfl⟩
    obtain rfl := Except.error.inj h
    rfl
  | ok a =>
    refine ⟨fun h => (by cases h), ?_⟩
    rintro ⟨e, h, -⟩
    cases h

/-- Changing the errors and mapping the result do not disturb each other. -/
theorem map_mapError (x : Except ε α) (f : ε → ε') (g : α → β) :
    (x.mapError f).map g = (x.map g).mapError f := by
  cases x <;> rfl

end Outcome

/-- A computation without events keeps its result when it becomes part of a logged one. -/
@[simp] theorem Logged.result_lift {α : Type} (x : Except CalendarError α) :
    (liftM x : Logged α).result = x := rfl

/-- After a success without events comes the rest of the sequence, with its log. -/
theorem Logged.lift_ok_bind {α β : Type} (a : α) (f : α → Logged β) :
    (liftM (.ok a : Except CalendarError α) : Logged α) >>= f = f a := rfl

/-- After a failure without events comes nothing, and nothing has been recorded. -/
theorem Logged.lift_error_bind {α β : Type} (e : CalendarError) (f : α → Logged β) :
    (liftM (.error e : Except CalendarError α) : Logged α) >>= f = .ofExcept (.error e) := rfl

end Calendrics
