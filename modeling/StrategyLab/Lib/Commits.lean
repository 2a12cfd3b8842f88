import Mathlib.Data.List.Basic

/-! Service calls that read first and then commit writes one at a time, stopping at a refusal. -/

/-- A call reduced to the writes it commits in order and the result it then gives. -/
structure Commits (ω ε α : Type) where
  writes : List ω
  result : Except ε α

namespace Commits

variable {ω ε α β σ : Type}

/-- A call that raises without writing. -/
def raise (error : ε) : Commits ω ε α := ⟨[], .error error⟩

/-- A call that only reads. -/
def read (result : Except ε α) : Commits ω ε α := ⟨[], result⟩

/-- A call that commits one write. -/
def write (entry : ω) : Commits ω ε Unit := ⟨[entry], .ok ()⟩

/-- Go on with the result of a call, unless it raised. -/
def andThen (first : Commits ω ε α) (second : α → Commits ω ε β) : Commits ω ε β :=
  match first.result with
  | .error error => ⟨first.writes, .error error⟩
  | .ok a => ⟨first.writes ++ (second a).writes, (second a).result⟩

instance : Monad (Commits ω ε) where
  pure a := ⟨[], .ok a⟩
  bind := andThen

/-- Commit writes in order until one of them is refused. -/
def commit (apply : σ → ω → Except ε σ) (s : σ) : List ω → Option ε × σ
  | [] => (none, s)
  | entry :: rest =>
    match apply s entry with
    | .error refused => (some refused, s)
    | .ok next => commit apply next rest

/-- Carry out a call: its result stands only when every write was accepted. -/
def perform (apply : σ → ω → Except ε σ) (s : σ) (call : Commits ω ε α) : Except ε α × σ :=
  match commit apply s call.writes with
  | (some refused, final) => (.error refused, final)
  | (none, final) => (call.result, final)

@[simp] theorem pure_writes (a : α) : (pure a : Commits ω ε α).writes = [] := rfl

@[simp] theorem read_writes (result : Except ε α) :
    (read result : Commits ω ε α).writes = [] := rfl

@[simp] theorem raise_writes (error : ε) : (raise error : Commits ω ε α).writes = [] := rfl

@[simp] theorem write_writes (entry : ω) : (write entry : Commits ω ε Unit).writes = [entry] := rfl

/-- Going on from a read that succeeds is the rest of the call. -/
@[simp] theorem read_ok_bind (a : α) (second : α → Commits ω ε β) :
    (read (.ok a) : Commits ω ε α) >>= second = second a := rfl

/-- Going on from a read that raises is raising. -/
@[simp] theorem read_error_bind (error : ε) (second : α → Commits ω ε β) :
    (read (.error error) : Commits ω ε α) >>= second = raise error := rfl

/-- Going on from a write puts it in front. -/
@[simp] theorem write_bind_writes (entry : ω) (second : Unit → Commits ω ε β) :
    ((write entry : Commits ω ε Unit) >>= second).writes = entry :: (second ()).writes := rfl

/-- The writes of a call that goes on are its own and, unless it raised, those that follow. -/
theorem bind_writes (first : Commits ω ε α) (second : α → Commits ω ε β) :
    (first >>= second).writes = first.writes ∨
      ∃ a, first.result = .ok a ∧ (first >>= second).writes = first.writes ++ (second a).writes := by
  change (andThen first second).writes = _ ∨ ∃ a, _ ∧ (andThen first second).writes = _
  unfold andThen
  cases first.result with
  | error _ => exact Or.inl rfl
  | ok a => exact Or.inr ⟨a, rfl, rfl⟩

variable {apply : σ → ω → Except ε σ}

/-- A refused write ends the commits where they stand. -/
theorem commit_cons_error {s : σ} {entry : ω} {rest : List ω}
    {refused : ε} (applied : apply s entry = .error refused) :
    commit apply s (entry :: rest) = (some refused, s) := by
  simp only [commit, applied]

/-- An accepted write hands its state to the rest. -/
theorem commit_cons_ok {s next : σ} {entry : ω} {rest : List ω}
    (applied : apply s entry = .ok next) :
    commit apply s (entry :: rest) = commit apply next rest := by
  simp only [commit, applied]

@[simp] theorem commit_nil (apply : σ → ω → Except ε σ) (s : σ) :
    commit apply s [] = (none, s) := rfl

/-- The state a call leaves is the one its accepted writes leave. -/
@[simp] theorem perform_snd (apply : σ → ω → Except ε σ) (s : σ) (call : Commits ω ε α) :
    (perform apply s call).2 = (commit apply s call.writes).2 := by
  unfold perform
  cases committed : commit apply s call.writes with
  | mk refused final => cases refused <;> rfl

/-- What every accepted write of a list preserves holds after the commits. -/
theorem commit_invariant {inv : σ → Prop} {writes : List ω}
    (kept : ∀ s entry next, entry ∈ writes → apply s entry = .ok next → inv s → inv next) {s : σ}
    (start : inv s) : inv (commit apply s writes).2 := by
  -- A refusal stops the list, so only accepted writes have to be followed.
  induction writes generalizing s with
  | nil => exact start
  | cons entry rest ih =>
    unfold commit
    cases applied : apply s entry with
    | error refused => exact start
    | ok next =>
      exact ih (fun s entry next member => kept s entry next (List.mem_cons_of_mem _ member))
        (kept s entry next List.mem_cons_self applied start)

end Commits
