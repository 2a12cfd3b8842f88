import Mathlib.Data.List.Basic
import Mathlib.Data.List.Forall2

/-! Computations that can raise: when a sequence, a check and a pass over a list succeed. -/

namespace Raise

universe u

/-- What succeeds hands its value on. -/
theorem ok_bind {ε : Type*} {α β : Type u} (a : α) (second : α → Except ε β) :
    (Except.ok a >>= second) = second a := rfl

/-- What succeeds can have its value changed. -/
theorem ok_map {ε α β : Type*} (a : α) (change : α → β) :
    (Except.ok a : Except ε α).map change = .ok (change a) := rfl

/-- A computation that goes on succeeds exactly when both of its parts do. -/
theorem bind_eq_ok {ε : Type*} {α β : Type u} {first : Except ε α} {second : α → Except ε β}
    {b : β} : first >>= second = .ok b ↔ ∃ a, first = .ok a ∧ second a = .ok b := by
  cases first with
  | error raised => simp [bind, Except.bind]
  | ok a => simp [bind, Except.bind]

/-- A computation that only returns gives what it returns. -/
theorem pure_eq_ok {ε α : Type*} {a b : α} : (pure a : Except ε α) = .ok b ↔ a = b := by
  simp [pure, Except.pure]

/-- A result that is changed was there. -/
theorem map_eq_ok {ε α β : Type*} {result : Except ε α} {change : α → β} {b : β} :
    result.map change = .ok b ↔ ∃ a, result = .ok a ∧ change a = b := by
  cases result <;> simp [Except.map]

/-- Reading an error in another way changes no success. -/
theorem mapError_eq_ok {ε ε' α : Type*} {result : Except ε α} {change : ε → ε'} {a : α} :
    result.mapError change = .ok a ↔ result = .ok a := by
  cases result <;> simp [Except.mapError]

/-- Raise unless a check holds. -/
def ensure {ε : Type*} (check : Bool) (failure : ε) : Except ε Unit :=
  if check then .ok () else .error failure

/-- A check that holds is not raised. -/
@[simp] theorem ensure_eq_ok {ε : Type*} {check : Bool} {failure : ε} {done : Unit} :
    ensure check failure = .ok done ↔ check = true := by
  simp [ensure]

/-- A pass over a list that gives back what was written gives back the whole list. -/
theorem mapM_eq_ok_of_forall {ε : Type*} {α β : Type u} {read : β → Except ε α} {write : α → β}
    {items : List α} (back : ∀ item ∈ items, read (write item) = .ok item) :
    (items.map write).mapM read = .ok items := by
  induction items with
  | nil => rfl
  | cons item rest ih =>
    rw [List.map_cons, List.mapM_cons, back item List.mem_cons_self,
      ih fun other member => back other (List.mem_cons_of_mem _ member)]
    rfl

/-- A pass over a list gives the results of its items, one by one. -/
theorem mapM_eq_ok_iff_forall₂ {ε : Type*} {α β : Type u} {read : α → Except ε β}
    {items : List α} {results : List β} :
    items.mapM read = .ok results ↔
      List.Forall₂ (fun item result => read item = .ok result) items results := by
  induction items generalizing results with
  | nil =>
    rw [List.mapM_nil, pure_eq_ok, List.forall₂_nil_left_iff, eq_comm]
  | cons item rest ih =>
    rw [List.mapM_cons, bind_eq_ok, List.forall₂_cons_left_iff]
    constructor
    · rintro ⟨first, done, more⟩
      obtain ⟨others, passed, same⟩ := bind_eq_ok.mp more
      exact ⟨first, others, done, ih.mp passed, (pure_eq_ok.mp same).symm⟩
    · rintro ⟨first, others, done, passed, rfl⟩
      exact ⟨first, done, bind_eq_ok.mpr ⟨others, ih.mpr passed, pure_eq_ok.mpr rfl⟩⟩

/-- A pass over a list that raises nowhere is done. -/
theorem forM_eq_ok_of_forall {ε : Type*} {α : Type} {check : α → Except ε Unit} {items : List α}
    (all : ∀ item ∈ items, check item = .ok ()) : items.forM check = .ok () := by
  induction items with
  | nil => rfl
  | cons item rest ih =>
    change (check item >>= fun _ => rest.forM check) = .ok ()
    rw [all item List.mem_cons_self]
    exact ih fun other member => all other (List.mem_cons_of_mem _ member)

end Raise
