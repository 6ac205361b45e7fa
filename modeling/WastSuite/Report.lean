import WastSuite.Log
import WastSuite.Resource.Error

/-!
# Reports

A report is the outcome of a step of discovery together with what the step logged. Reports are put
one behind another: the logs are joined, and the first failure ends the sequence, with the log up to
there. Main statement: this is a lawful monad, so neither outcome nor log depends on how a sequence
is bracketed.
-/

set_option autoImplicit false

namespace WastSuite

/-- The outcome of a step of discovery and what it logged, in order. -/
structure Report (α : Type) where
  log : List LogEvent
  outcome : Except DiscoveryError α

namespace Report

variable {α β : Type}

/-- A report without a log. -/
def ofExcept (outcome : Except DiscoveryError α) : Report α :=
  ⟨[], outcome⟩

/-- The report of logging one event. -/
def record (event : LogEvent) : Report Unit :=
  ⟨[event], .ok ()⟩

/-- A report followed by what is done with its result. -/
def andThen (first : Report α) (next : α → Report β) : Report β :=
  match first.outcome with
  | .ok result => ⟨first.log ++ (next result).log, (next result).outcome⟩
  | .error error => ⟨first.log, .error error⟩

instance : Monad Report where
  pure result := ofExcept (.ok result)
  bind := andThen

instance : Journal Report where
  record := record

instance : LawfulMonad Report := LawfulMonad.mk' Report
  (by
    rintro α ⟨log, outcome⟩
    cases outcome <;> simp [Functor.map, andThen, ofExcept])
  (by
    intro α β result next
    simp [bind, pure, andThen, ofExcept])
  (by
    rintro α β γ ⟨log, outcome⟩ next last
    cases outcome with
    | error error => simp [bind, andThen]
    | ok result => cases h : (next result).outcome <;> simp [bind, andThen, h])

/-- A result alone logs nothing and does not fail. -/
theorem pure_eq (result : α) : (pure result : Report α) = ⟨[], .ok result⟩ := rfl

/-- After a success the log goes on and the outcome is that of what follows. -/
theorem bind_of_ok {first : Report α} {result : α} (h : first.outcome = .ok result)
    (next : α → Report β) :
    first >>= next = ⟨first.log ++ (next result).log, (next result).outcome⟩ := by
  simp [bind, andThen, h]

/-- After a failure nothing follows. -/
theorem bind_of_error {first : Report α} {error : DiscoveryError}
    (h : first.outcome = .error error) (next : α → Report β) :
    first >>= next = ⟨first.log, .error error⟩ := by
  simp [bind, andThen, h]

/-- A sequence comes to what its parts come to one after the other. -/
theorem outcome_bind (first : Report α) (next : α → Report β) :
    (first >>= next).outcome = first.outcome.bind fun result ↦ (next result).outcome := by
  cases h : first.outcome with
  | error error => rw [bind_of_error h, Except.bind]
  | ok result => rw [bind_of_ok h, Except.bind]

/-- A sequence succeeds exactly if both of its parts do, with the result of the second. -/
theorem outcome_bind_eq_ok_iff {first : Report α} {next : α → Report β} {result : β} :
    (first >>= next).outcome = .ok result ↔
      ∃ middle, first.outcome = .ok middle ∧ (next middle).outcome = .ok result := by
  cases h : first.outcome with
  | error error => simp [bind_of_error h]
  | ok middle => simp [bind_of_ok h]

/-- A sequence fails exactly if its first part does, or that succeeds and the second part fails. -/
theorem outcome_bind_eq_error_iff {first : Report α} {next : α → Report β}
    {error : DiscoveryError} :
    (first >>= next).outcome = .error error ↔
      first.outcome = .error error ∨
        ∃ middle, first.outcome = .ok middle ∧ (next middle).outcome = .error error := by
  cases h : first.outcome with
  | error other => simp [bind_of_error h]
  | ok middle => simp [bind_of_ok h]

/-- A sequence reports a result exactly if both of its parts do, one log behind the other. -/
theorem bind_eq_ok_iff {first : Report α} {next : α → Report β} {log : List LogEvent}
    {result : β} :
    first >>= next = ⟨log, .ok result⟩ ↔ ∃ before middle after,
      first = ⟨before, .ok middle⟩ ∧ next middle = ⟨after, .ok result⟩ ∧ log = before ++ after := by
  constructor
  · intro h
    cases hfirst : first.outcome with
    | error error =>
      rw [bind_of_error hfirst] at h
      cases h
    | ok middle =>
      rw [bind_of_ok hfirst] at h
      obtain ⟨rfl, hnext⟩ := Report.mk.inj h
      exact ⟨first.log, middle, (next middle).log, by rw [← hfirst], by rw [← hnext], rfl⟩
  · rintro ⟨before, middle, after, rfl, hnext, rfl⟩
    rw [bind_of_ok rfl, hnext]

@[simp] theorem outcome_ofExcept (outcome : Except DiscoveryError α) :
    (ofExcept outcome).outcome = outcome := rfl

@[simp] theorem outcome_record (event : LogEvent) : (record event).outcome = .ok () := rfl

@[simp] theorem outcome_pure (result : α) : (pure result : Report α).outcome = .ok result := rfl

end Report

end WastSuite
