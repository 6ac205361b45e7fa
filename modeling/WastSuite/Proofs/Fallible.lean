/-!
# Computations that may fail

When a computation succeeds or fails that is put together from others: a sequence succeeds if both
of its parts do and fails with its first failure, and a change of the result keeps success. A fold
whose steps may fail goes on behind each step, and each stretch of steps, that succeeds.
-/

set_option autoImplicit false

namespace WastSuite.Fallible

variable {ε α β : Type}

/-- A sequence succeeds exactly if both of its parts do. -/
theorem bind_eq_ok_iff {first : Except ε α} {next : α → Except ε β} {result : β} :
    (first >>= next) = .ok result ↔ ∃ middle, first = .ok middle ∧ next middle = .ok result := by
  cases first <;> simp [bind, Except.bind]

/-- A sequence fails exactly if its first part does, or that succeeds and the second part fails. -/
theorem bind_eq_error_iff {first : Except ε α} {next : α → Except ε β} {error : ε} :
    (first >>= next) = .error error ↔
      first = .error error ∨ ∃ middle, first = .ok middle ∧ next middle = .error error := by
  cases first <;> simp [bind, Except.bind]

/-- A change of the result keeps success. -/
theorem map_eq_ok_iff {outcome : Except ε α} {change : α → β} {result : β} :
    outcome.map change = .ok result ↔ ∃ first, outcome = .ok first ∧ change first = result := by
  cases outcome <;> simp [Except.map]

/-- A change of the result keeps failure. -/
theorem map_eq_error_iff {outcome : Except ε α} {change : α → β} {error : ε} :
    outcome.map change = .error error ↔ outcome = .error error := by
  cases outcome <;> simp [Except.map]

section Folds

variable {step : β → α → Option β} {state next : β}

/-- A fold goes on behind a step that succeeds. -/
theorem foldlM_cons_of_some {item : α} (h : step state item = some next) (items : List α) :
    (item :: items).foldlM step state = items.foldlM step next := by
  rw [List.foldlM_cons, h, Option.bind_eq_bind, Option.bind_some]

/-- A fold goes on behind a stretch of steps that succeeds. -/
theorem foldlM_append_of_some {items : List α} (h : items.foldlM step state = some next)
    (others : List α) : (items ++ others).foldlM step state = others.foldlM step next := by
  rw [List.foldlM_append, h, Option.bind_eq_bind, Option.bind_some]

end Folds

end WastSuite.Fallible
