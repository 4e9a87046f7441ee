/-!
# Results that may be errors

When a computation that is put together from others succeeds. Readers of bytes and readers of
arguments are taken apart in the same way.

* `Except.bind_eq_ok_iff`: one computation after the other.
* `Except.map_eq_ok_iff`: a result that is changed.
-/

namespace CompileCommands

variable {ε α β : Type} {b : β}

/-- A task with two parts succeeds exactly when both parts do. -/
theorem Except.bind_eq_ok_iff {first : Except ε α} {next : α → Except ε β} :
    (first >>= next) = .ok b ↔ ∃ a, first = .ok a ∧ next a = .ok b := by
  cases first <;> simp [bind, Except.bind]

/-- A changed result is there exactly when the result is. -/
theorem Except.map_eq_ok_iff {result : Except ε α} {f : α → β} :
    f <$> result = .ok b ↔ ∃ a, result = .ok a ∧ f a = b := by
  cases result <;> simp [Functor.map, Except.map]

end CompileCommands
