import Mathlib.Data.List.Basic
import Mathlib.Data.Int.Basic

/-! Deterministic machines: runs over lists of operations, their invariants, and guarded runs. -/

/-- A machine answers one operation at a time and moves to the next state. -/
structure Machine (σ α ρ : Type*) where
  /-- The answer to an operation, together with the state it leaves behind. -/
  step : σ → α → ρ × σ

namespace Machine

variable {σ α ρ : Type*} (m : Machine σ α ρ)

/-- The state one operation leaves behind. -/
def next (s : σ) (a : α) : σ := (m.step s a).2

/-- What one operation answers. -/
def answer (s : σ) (a : α) : ρ := (m.step s a).1

/-- The state after a list of operations. -/
def run (s : σ) : List α → σ
  | [] => s
  | a :: rest => run (m.next s a) rest

/-- Every operation of a run with the answer it was given. -/
def answers (s : σ) : List α → List (α × ρ)
  | [] => []
  | a :: rest => (a, m.answer s a) :: answers (m.next s a) rest

/-- The state an endless schedule of operations reaches after `n` of them. -/
def stateAt (s : σ) (schedule : Nat → α) : Nat → σ
  | 0 => s
  | n + 1 => m.next (stateAt s schedule n) (schedule n)

/-- The answer to the operation at position `n` of an endless schedule. -/
def answerAt (s : σ) (schedule : Nat → α) (n : Nat) : ρ :=
  m.answer (m.stateAt s schedule n) (schedule n)

/-- Every operation of a run meets a condition on the state it is asked in. -/
def Guarded (guard : σ → α → Prop) (s : σ) : List α → Prop
  | [] => True
  | a :: rest => guard s a ∧ Guarded guard (m.next s a) rest

instance decidableGuarded (guard : σ → α → Prop) [∀ s, DecidablePred (guard s)] :
    ∀ s as, Decidable (m.Guarded guard s as)
  | _, [] => isTrue trivial
  | s, a :: rest =>
    have := decidableGuarded guard (m.next s a) rest
    inferInstanceAs (Decidable (guard s a ∧ m.Guarded guard (m.next s a) rest))

/-- A weight summed over the operations of a run. -/
def tally (weight : σ → α → Int) (s : σ) : List α → Int
  | [] => 0
  | a :: rest => weight s a + tally weight (m.next s a) rest

@[simp] theorem run_nil (s : σ) : m.run s [] = s := rfl

@[simp] theorem run_cons (s : σ) (a : α) (rest : List α) :
    m.run s (a :: rest) = m.run (m.next s a) rest := rfl

@[simp] theorem answers_nil (s : σ) : m.answers s [] = [] := rfl

@[simp] theorem answers_cons (s : σ) (a : α) (rest : List α) :
    m.answers s (a :: rest) = (a, m.answer s a) :: m.answers (m.next s a) rest := rfl

/-- A run over two lists is the second run from where the first one stopped. -/
@[simp] theorem run_append (s : σ) (first second : List α) :
    m.run s (first ++ second) = m.run (m.run s first) second := by
  -- Each operation of the first list moves the starting state along.
  induction first generalizing s with
  | nil => rfl
  | cons a rest ih => exact ih (m.next s a)

/-- The answers of a run over two lists are those of the first and then those of the second. -/
@[simp] theorem answers_append (s : σ) (first second : List α) :
    m.answers s (first ++ second) = m.answers s first ++ m.answers (m.run s first) second := by
  induction first generalizing s with
  | nil => rfl
  | cons a rest ih => simp only [List.cons_append, answers_cons, run_cons, ih]

@[simp] theorem stateAt_zero (s : σ) (schedule : Nat → α) : m.stateAt s schedule 0 = s := rfl

@[simp] theorem stateAt_succ (s : σ) (schedule : Nat → α) (n : Nat) :
    m.stateAt s schedule (n + 1) = m.next (m.stateAt s schedule n) (schedule n) := rfl

/-- What every operation of a schedule preserves holds at all of its positions. -/
theorem stateAt_invariant {inv : σ → Prop} (kept : ∀ s a, inv s → inv (m.next s a)) {s : σ}
    (schedule : Nat → α) (start : inv s) (n : Nat) : inv (m.stateAt s schedule n) := by
  induction n with
  | zero => exact start
  | succ n ih => exact kept _ _ ih

/-- A guarded run over two lists is guarded on both of them. -/
theorem guarded_append {guard : σ → α → Prop} (s : σ) (first second : List α) :
    m.Guarded guard s (first ++ second) ↔
      m.Guarded guard s first ∧ m.Guarded guard (m.run s first) second := by
  induction first generalizing s with
  | nil => simp [Guarded]
  | cons a rest ih => simp only [List.cons_append, Guarded, run_cons, ih, and_assoc]

/-- A run is guarded exactly when the guard holds at each of its positions. -/
theorem guarded_iff_split {guard : σ → α → Prop} (s : σ) (as : List α) :
    m.Guarded guard s as ↔
      ∀ before a after, as = before ++ a :: after → guard (m.run s before) a := by
  constructor
  · -- Splitting the run at the position leaves its operation at the head of the second half.
    rintro guarded before a after rfl
    exact ((m.guarded_append s before (a :: after)).mp guarded).2.1
  · intro everywhere
    induction as generalizing s with
    | nil => trivial
    | cons a rest ih =>
      refine ⟨everywhere [] a rest rfl, ih (m.next s a) ?_⟩
      rintro before b after rfl
      exact everywhere (a :: before) b after rfl

/-- Operations that meet a condition in every state make up a guarded run. -/
theorem guarded_of_forall {guard : σ → α → Prop} {as : List α}
    (meets : ∀ a ∈ as, ∀ s, guard s a) (s : σ) : m.Guarded guard s as := by
  induction as generalizing s with
  | nil => trivial
  | cons a rest ih =>
    exact ⟨meets a List.mem_cons_self s,
      ih (fun b member => meets b (List.mem_cons_of_mem _ member)) (m.next s a)⟩

/-- A run that meets a guard meets every weaker one. -/
theorem guarded_imp {guard weaker : σ → α → Prop} (imp : ∀ s a, guard s a → weaker s a) {s : σ}
    {as : List α} (guarded : m.Guarded guard s as) : m.Guarded weaker s as := by
  induction as generalizing s with
  | nil => trivial
  | cons a rest ih => exact ⟨imp s a guarded.1, ih guarded.2⟩

/-- What every guarded operation preserves holds after a whole guarded run. -/
theorem guarded_invariant {guard : σ → α → Prop} {inv : σ → Prop}
    (kept : ∀ s a, guard s a → inv s → inv (m.next s a)) {s : σ} {as : List α}
    (guarded : m.Guarded guard s as) (start : inv s) : inv (m.run s as) := by
  induction as generalizing s with
  | nil => exact start
  | cons a rest ih => exact ih guarded.2 (kept s a guarded.1 start)

/-- What every operation preserves holds after a whole run. -/
theorem invariant {inv : σ → Prop} (kept : ∀ s a, inv s → inv (m.next s a)) {s : σ}
    (as : List α) (start : inv s) : inv (m.run s as) := by
  induction as generalizing s with
  | nil => exact start
  | cons a rest ih => exact ih (kept s a start)

/-- If the guard says exactly which operations keep an invariant, then the runs that keep it all the
way are exactly the guarded ones. -/
theorem forall_run_iff_guarded {guard : σ → α → Prop} {inv : σ → Prop}
    (kept : ∀ s a, inv s → (inv (m.next s a) ↔ guard s a)) {s : σ} (as : List α) (start : inv s) :
    (∀ before after, as = before ++ after → inv (m.run s before)) ↔ m.Guarded guard s as := by
  constructor
  · intro all
    rw [guarded_iff_split]
    rintro before a after rfl
    have now := all before (a :: after) rfl
    have later := all (before ++ [a]) after (by simp)
    rw [run_append] at later
    exact (kept _ a now).mp later
  · rintro guarded before after rfl
    obtain ⟨first, -⟩ := (m.guarded_append s before after).mp guarded
    exact m.guarded_invariant (fun s a meets now => (kept s a now).mpr meets) first start

/-- If the guard says exactly which operations keep a relation from their state to the next one, then
the runs of which every part keeps the relation are exactly the guarded ones. -/
theorem forall_related_iff_guarded {guard : σ → α → Prop} {related : σ → σ → Prop}
    (refl : ∀ s, related s s) (trans : ∀ s t u, related s t → related t u → related s u)
    (kept : ∀ s a, related s (m.next s a) ↔ guard s a) (s : σ) (as : List α) :
    (∀ before middle after, as = before ++ middle ++ after →
      related (m.run s before) (m.run s (before ++ middle))) ↔ m.Guarded guard s as := by
  constructor
  · -- A part of one operation shows that the operation is guarded.
    intro all
    rw [guarded_iff_split]
    intro before a after split
    have single := all before [a] after (by rw [split, List.append_assoc, List.singleton_append])
    rw [run_append, run_cons, run_nil] at single
    exact (kept _ a).mp single
  · intro guarded before middle after split
    rw [split, guarded_append, guarded_append] at guarded
    have part := guarded.1.2
    clear guarded split
    rw [run_append]
    generalize m.run s before = start at part ⊢
    -- The operations of the middle are related one after the other.
    induction middle generalizing start with
    | nil => exact refl start
    | cons a rest ih =>
      exact trans _ _ _ ((kept start a).mpr part.1) (ih (m.next start a) part.2)

/-- What every operation of a run relates, the run relates. -/
theorem related_run {related : σ → σ → Prop} (refl : ∀ s, related s s)
    (trans : ∀ s t u, related s t → related t u → related s u) {s : σ} {as : List α}
    (kept : ∀ before a after, as = before ++ a :: after →
      related (m.run s before) (m.next (m.run s before) a)) : related s (m.run s as) := by
  induction as generalizing s with
  | nil => exact refl s
  | cons a rest ih =>
    refine trans _ _ _ (kept [] a rest rfl) (ih fun before b after split => ?_)
    exact kept (a :: before) b after (by rw [split, List.cons_append])

/-- If the guard says exactly, under an invariant that guarded operations keep, when an operation
goes well, then the runs of which every operation goes well are exactly the guarded ones. -/
theorem forall_step_iff_guarded {guard good : σ → α → Prop} {inv : σ → Prop}
    (same : ∀ s a, inv s → (good s a ↔ guard s a))
    (kept : ∀ s a, guard s a → inv s → inv (m.next s a)) {s : σ} (as : List α) (start : inv s) :
    (∀ before a after, as = before ++ a :: after → good (m.run s before) a) ↔
      m.Guarded guard s as := by
  induction as generalizing s with
  | nil => simp [Guarded]
  | cons a rest ih =>
    constructor
    · intro all
      have meets := (same s a start).mp (all [] a rest rfl)
      refine ⟨meets, (ih (kept s a meets start)).mp fun before b after split => ?_⟩
      exact all (a :: before) b after (by rw [split, List.cons_append])
    · intro guarded before b after split
      cases before with
      | nil =>
        cases split
        exact (same s a start).mpr guarded.1
      | cons c before =>
        obtain ⟨rfl, tail⟩ := List.cons.inj split
        exact (ih (kept s a guarded.1 start)).mpr guarded.2 before b after tail

/-- Leaving operations out of a run keeps a relation that both sides of a kept operation keep, and
that an operation which is left out, under its guard, does not lose. -/
theorem related_filter {related : σ → σ → Prop} {guard : σ → α → Prop} (kept : α → Bool)
    (moves : ∀ s t a, kept a → related s t → related (m.next s a) (m.next t a))
    (stutters : ∀ s t a, ¬kept a → guard t a → related s t → related s (m.next t a))
    {s t : σ} {as : List α} (guarded : m.Guarded (fun t a => ¬kept a → guard t a) t as)
    (start : related s t) : related (m.run s (as.filter kept)) (m.run t as) := by
  induction as generalizing s t with
  | nil => exact start
  | cons a rest ih =>
    by_cases stays : kept a
    · rw [List.filter_cons_of_pos stays]
      exact ih guarded.2 (moves s t a stays start)
    · rw [List.filter_cons_of_neg stays]
      exact ih guarded.2 (stutters s t a stays (guarded.1 stays) start)

/-- An answer of a run is the answer given at one of its positions. -/
theorem mem_answers_iff (s : σ) (as : List α) (a : α) (r : ρ) :
    (a, r) ∈ m.answers s as ↔
      ∃ before after, as = before ++ a :: after ∧ r = m.answer (m.run s before) a := by
  induction as generalizing s with
  | nil => simp
  | cons b rest ih =>
    rw [answers_cons, List.mem_cons, ih]
    constructor
    · rintro (same | ⟨before, after, rfl, same⟩)
      · simp only [Prod.mk.injEq] at same
        obtain ⟨rfl, rfl⟩ := same
        exact ⟨[], rest, rfl, rfl⟩
      · exact ⟨b :: before, after, rfl, same⟩
    · rintro ⟨before, after, split, same⟩
      cases before with
      | nil =>
        simp only [List.nil_append, List.cons.injEq] at split
        obtain ⟨rfl, rfl⟩ := split
        exact Or.inl (by rw [same]; rfl)
      | cons c before =>
        simp only [List.cons_append, List.cons.injEq] at split
        obtain ⟨rfl, rfl⟩ := split
        exact Or.inr ⟨before, after, rfl, same⟩

/-- What every operation preserves of the answers so far and the state holds after a whole run. -/
theorem answers_invariant {inv : List (α × ρ) → σ → Prop}
    (kept : ∀ history s a, inv history s → inv (history ++ [(a, m.answer s a)]) (m.next s a))
    {s : σ} (as : List α) (start : inv [] s) : inv (m.answers s as) (m.run s as) := by
  -- The answers so far grow to the right while the run goes on.
  have general : ∀ history s, inv history s → inv (history ++ m.answers s as) (m.run s as) := by
    intro history s now
    induction as generalizing history s with
    | nil => simpa using now
    | cons a rest ih =>
      have later := ih (history ++ [(a, m.answer s a)]) (m.next s a) (kept history s a now)
      rwa [List.append_assoc] at later
  exact general [] s start

/-- A potential that pays for every guarded operation pays for the whole run. -/
theorem tally_le_potential {guard : σ → α → Prop} {inv : σ → Prop} {weight : σ → α → Int}
    {potential : σ → Int} (kept : ∀ s a, guard s a → inv s → inv (m.next s a))
    (paid : ∀ s a, guard s a → inv s → potential s + weight s a ≤ potential (m.next s a))
    {s : σ} {as : List α} (guarded : m.Guarded guard s as) (start : inv s) :
    potential s + m.tally weight s as ≤ potential (m.run s as) := by
  induction as generalizing s with
  | nil => simp [tally]
  | cons a rest ih =>
    have first := paid s a guarded.1 start
    have later := ih guarded.2 (kept s a guarded.1 start)
    simp only [tally, run_cons]
    omega

end Machine
