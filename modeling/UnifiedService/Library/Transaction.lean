/-! Fallible statements over a state, and the transaction that commits the state
a statement leaves or rolls back to the state it found. -/

set_option autoImplicit false

namespace UnifiedService.Library

/-- A sequence of fallible steps succeeds exactly when each step does. -/
theorem bind_eq_ok {Error Value Result : Type} {source : Except Error Value}
    {continuation : Value → Except Error Result} {result : Result} :
    source >>= continuation = .ok result ↔
      ∃ value, source = .ok value ∧ continuation value = .ok result := by
  cases source <;> simp [bind, Except.bind]

theorem pure_eq_ok {Error Value : Type} {value result : Value} :
    (pure value : Except Error Value) = .ok result ↔ value = result := by
  simp [pure, Except.pure]

theorem toOption_any_eq_true {Error Value : Type} {source : Except Error Value}
    {test : Value → Bool} :
    source.toOption.any test = true ↔ ∃ value, source = .ok value ∧ test value = true := by
  cases source <;> simp [Except.toOption]

abbrev Statement (State Error Value : Type) := State → Except Error (Value × State)

variable {State Error Value : Type}

def transact (statement : Statement State Error Value) (state : State) :
    Except Error Value × State :=
  match statement state with
  | .ok (value, next) => (.ok value, next)
  | .error error => (.error error, state)

theorem transact_of_ok {statement : Statement State Error Value} {state next : State}
    {value : Value} (success : statement state = .ok (value, next)) :
    transact statement state = (.ok value, next) := by
  simp [transact, success]

theorem transact_of_error {statement : Statement State Error Value} {state : State}
    {error : Error} (failure : statement state = .error error) :
    transact statement state = (.error error, state) := by
  simp [transact, failure]

theorem transact_eq_ok {statement : Statement State Error Value} {state next : State}
    {value : Value} (ran : transact statement state = (.ok value, next)) :
    statement state = .ok (value, next) := by
  cases result : statement state with
  | error error =>
      rw [transact_of_error result] at ran
      cases ran
  | ok outcome =>
      obtain ⟨other, after⟩ := outcome
      rw [transact_of_ok result] at ran
      obtain ⟨same, rfl⟩ := Prod.mk.inj ran
      rw [Except.ok.inj same]

/-- What a statement keeps whenever it succeeds, its transaction always keeps. -/
theorem transact_keeps {statement : Statement State Error Value} {state : State}
    (holds : State → Prop) (before : holds state)
    (kept : ∀ value next, statement state = .ok (value, next) → holds next) :
    holds (transact statement state).2 := by
  cases result : statement state with
  | error error => rwa [transact_of_error result]
  | ok outcome =>
      obtain ⟨value, next⟩ := outcome
      rw [transact_of_ok result]
      exact kept value next result

end UnifiedService.Library
