import Mathlib.Logic.Basic

/-! Attempts: computations that keep what they did to the state when they raise. -/

namespace Attempt

variable {ε σ τ α β : Type}

/-- An attempt ends in a state that is as asked, whether it returns or raises. -/
def Ends (attempt : EStateM ε σ α) (returns : α → σ → Prop) (raises : ε → σ → Prop)
    (state : σ) : Prop :=
  match attempt.run state with
  | .ok result after => returns result after
  | .error raised after => raises raised after

variable {returns : α → σ → Prop} {raises : ε → σ → Prop} {state after : σ}

/-- Returning a result ends at once. -/
@[simp] theorem ends_pure (result : α) :
    Ends (pure result) returns raises state ↔ returns result state :=
  Iff.rfl

/-- Raising ends at once. -/
@[simp] theorem ends_throw (raised : ε) :
    Ends (throw raised) returns raises state ↔ raises raised state :=
  Iff.rfl

/-- Reading the state leaves it as it is. -/
@[simp] theorem ends_get {returns : σ → σ → Prop} :
    Ends get returns raises state ↔ returns state state :=
  Iff.rfl

/-- Changing the state leaves what it was changed to. -/
@[simp] theorem ends_modify {returns : PUnit → σ → Prop} (change : σ → σ) :
    Ends (modify change) returns raises state ↔ returns ⟨⟩ (change state) :=
  Iff.rfl

/-- A change of the state that also answers ends with its answer. -/
@[simp] theorem ends_modifyGet (change : σ → α × σ) :
    Ends (modifyGet change) returns raises state ↔
      returns (change state).1 (change state).2 :=
  Iff.rfl

/-- An attempt in two parts raises where either part does and goes on where the first returned. -/
@[simp] theorem ends_bind {returns : β → σ → Prop} (first : EStateM ε σ α)
    (second : α → EStateM ε σ β) :
    Ends (first >>= second) returns raises state ↔
      Ends first (fun result => Ends (second result) returns raises) raises state := by
  simp only [Ends, EStateM.run_bind]
  cases first.run state <;> rfl

/-- An attempt in two parts returns where both do, one after the other. -/
theorem run_bind_eq_ok {first : EStateM ε σ α} {second : α → EStateM ε σ β} {result : β} :
    (first >>= second).run state = .ok result after ↔
      ∃ known between, first.run state = .ok known between ∧
        (second known).run between = .ok result after := by
  rw [EStateM.run_bind]
  cases first.run state with
  | ok known between =>
    constructor
    · intro ran
      exact ⟨known, between, rfl, ran⟩
    · rintro ⟨_, _, same, ran⟩
      cases same
      exact ran
  | error raised between => simp

/-- A handler takes over in the state in which the attempt raised. -/
@[simp] theorem ends_tryCatch (attempt : EStateM ε σ α) (handler : ε → EStateM ε σ α) :
    Ends (tryCatch attempt handler) returns raises state ↔
      Ends attempt returns (fun raised => Ends (handler raised) returns raises) state := by
  have both : (tryCatch attempt handler).run state =
      match attempt.run state with
      | .ok result after => .ok result after
      | .error raised after => (handler raised).run after := by
    change EStateM.tryCatch attempt handler state = _
    delta EStateM.tryCatch EStateM.run
    cases attempt state <;> rfl
  simp only [Ends, both]
  cases attempt.run state <;> rfl

/-- A choice between two attempts ends as the one that is taken. -/
theorem ends_ite {check : Prop} [Decidable check] (first second : EStateM ε σ α) :
    Ends (if check then first else second) returns raises state ↔
      (check → Ends first returns raises state) ∧ (¬check → Ends second returns raises state) := by
  by_cases holds : check
  · simp [holds]
  · simp [holds]

variable {attempt : EStateM ε σ α}

/-- An attempt that ends as asked also ends as anything that follows from it. -/
theorem Ends.imp {returns' : α → σ → Prop} {raises' : ε → σ → Prop}
    (ends : Ends attempt returns raises state)
    (returned : ∀ result after, returns result after → returns' result after)
    (raised : ∀ error after, raises error after → raises' error after) :
    Ends attempt returns' raises' state := by
  unfold Ends at ends ⊢
  split at ends
  · exact returned _ _ ends
  · exact raised _ _ ends

/-- An attempt that ends as asked ends as it ran. -/
theorem Ends.ran (ends : Ends attempt returns raises state) :
    Ends attempt (fun result after => attempt.run state = .ok result after ∧ returns result after)
      (fun raised after => attempt.run state = .error raised after ∧ raises raised after)
      state := by
  unfold Ends at ends ⊢
  split at ends
  · rename_i ran
    exact ⟨ran, ends⟩
  · rename_i ran
    exact ⟨ran, ends⟩

/-- Whether an attempt returns, and a check holds of what it returns. -/
def returnsWith (attempt : EStateM ε σ α) (state : σ) (check : α → σ → Bool) : Bool :=
  match attempt.run state with
  | .ok result after => check result after
  | .error _ _ => false

/-- An attempt that returns has a result. -/
theorem exists_of_returnsWith {check : α → σ → Bool}
    (checked : returnsWith attempt state check = true) :
    ∃ result after, attempt.run state = .ok result after ∧ check result after = true := by
  unfold returnsWith at checked
  split at checked
  · rename_i result after ran
    exact ⟨result, after, ran, checked⟩
  · cases checked

/-- What is asked of a return holds of what the attempt returned. -/
theorem Ends.of_ok {result : α}
    (ends : Ends attempt returns raises state) (ran : attempt.run state = .ok result after) :
    returns result after := by
  simpa only [Ends, ran] using ends

/-- What is asked of a raise holds of what the attempt raised. -/
theorem Ends.of_error {raised : ε}
    (ends : Ends attempt returns raises state) (ran : attempt.run state = .error raised after) :
    raises raised after := by
  simpa only [Ends, ran] using ends

/-- Let a method work on a part of the state, and keep what it left of that part. -/
def call (part : σ → τ) (put : τ → σ → σ) (method : τ → Except ε α × τ) : EStateM ε σ α :=
  fun state =>
    match method (part state) with
    | (.ok result, left) => .ok result (put left state)
    | (.error raised, left) => .error raised (put left state)

variable {method : τ → Except ε α × τ}

/-- A call answers what its method answers. -/
theorem run_call {part : σ → τ} {put : τ → σ → σ} :
    (call part put method).run state =
      match method (part state) with
      | (.ok result, left) => .ok result (put left state)
      | (.error raised, left) => .error raised (put left state) :=
  rfl

/-- A call ends with the answer of the method, on its part of the state. -/
theorem ends_call {part : σ → τ} {put : τ → σ → σ} :
    Ends (call part put method) returns raises state ↔
      (∀ result left, method (part state) = (.ok result, left) →
        returns result (put left state)) ∧
      ∀ raised left, method (part state) = (.error raised, left) →
        raises raised (put left state) := by
  simp only [Ends, call, EStateM.run]
  rcases method (part state) with ⟨result | raised, left⟩ <;> simp

/-- Go on without a result where an attempt raises. -/
def caught (attempt : EStateM ε σ α) : EStateM ε σ (Option α) :=
  tryCatch (do return some (← attempt)) fun _ => return none

/-- What is caught goes on in the state in which it was raised. -/
@[simp] theorem ends_caught {returns : Option α → σ → Prop} (attempt : EStateM ε σ α) :
    Ends (caught attempt) returns raises state ↔
      Ends attempt (fun result => returns (some result)) (fun _ => returns none) state := by
  simp only [caught, ends_tryCatch, ends_bind]
  exact Iff.rfl

/-- Give back an answer that was already known, or raise it. -/
def answer (known : Except ε α) : EStateM ε σ α :=
  match known with
  | .ok result => pure result
  | .error raised => throw raised

/-- A known answer is returned or raised without a change of the state. -/
theorem ends_answer {known : Except ε α} :
    Ends (answer known) returns raises state ↔
      (∀ result, known = .ok result → returns result state) ∧
        ∀ raised, known = .error raised → raises raised state := by
  cases known <;> simp [answer]

end Attempt
