import StrategyLab.Lib.Raise

/-! Loops over positions whose body can raise: states along the way, invariants, agreement. -/

namespace Loop

variable {ε σ : Type*} {body other : Nat → σ → Except ε σ} {start : σ}

/-- The state after the first `n` passes of a loop. -/
def upTo (body : Nat → σ → Except ε σ) (start : σ) : Nat → Except ε σ
  | 0 => .ok start
  | n + 1 => upTo body start n >>= body n

/-- A loop gets through one more pass when the passes before it and its own body do. -/
theorem upTo_succ_eq_ok {n : Nat} {final : σ} :
    upTo body start (n + 1) = .ok final ↔
      ∃ before, upTo body start n = .ok before ∧ body n before = .ok final :=
  Raise.bind_eq_ok

/-- A loop that gets through all its passes gets through fewer of them. -/
theorem upTo_of_le {n k : Nat} {final : σ} (reached : upTo body start n = .ok final)
    (fewer : k ≤ n) : ∃ state, upTo body start k = .ok state := by
  induction n generalizing final with
  | zero =>
    obtain rfl := Nat.le_zero.mp fewer
    exact ⟨final, reached⟩
  | succ n ih =>
    rcases Nat.eq_or_lt_of_le fewer with rfl | below
    · exact ⟨final, reached⟩
    · obtain ⟨before, earlier, -⟩ := upTo_succ_eq_ok.mp reached
      exact ih earlier (Nat.le_of_lt_succ below)

/-- What every pass preserves holds after any number of passes. -/
theorem upTo_invariant {inv : Nat → σ → Prop} (first : inv 0 start)
    (kept : ∀ {n before after}, inv n before → body n before = .ok after → inv (n + 1) after) :
    ∀ {n final}, upTo body start n = .ok final → inv n final := by
  intro n
  -- Induction on the number of passes; the body is only asked about states that are reached.
  induction n with
  | zero =>
    intro final reached
    obtain rfl := Except.ok.inj reached
    exact first
  | succ n ih =>
    intro final reached
    obtain ⟨before, earlier, stepped⟩ := upTo_succ_eq_ok.mp reached
    exact kept (ih earlier) stepped

/-- Two loops whose bodies agree on the first passes agree after them. -/
theorem upTo_congr {n : Nat} (agree : ∀ k < n, ∀ s, body k s = other k s) :
    upTo body start n = upTo other start n := by
  induction n with
  | zero => rfl
  | succ n ih =>
    have earlier := ih fun k below => agree k (Nat.lt_succ_of_lt below)
    simp only [upTo, earlier]
    congr 1
    funext s
    exact agree n (Nat.lt_succ_self n) s

end Loop
