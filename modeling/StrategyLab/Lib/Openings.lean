import Mathlib.Data.List.Basic
import Mathlib.Algebra.Order.Group.Nat

/-! Two processes that open again and again: when the second opens no more often than the first. -/

namespace Openings

/-- How the openings of a second process stand to those of a first one. -/
structure Tally where
  /-- The second has opened since the first last did. -/
  joined : Bool
  /-- How often the second has opened once more before the first did. -/
  reopened : Nat
  /-- How many openings of the first the second has not joined. -/
  spared : Nat

/-- What a moment at which the first, the second, or both may open adds. -/
def Tally.next (tally : Tally) : Bool → Bool → Tally
  | true, true => { tally with joined := true }
  | true, false => { tally with joined := false, spared := tally.spared + 1 }
  | false, true =>
    if tally.joined then { tally with reopened := tally.reopened + 1 }
    else { tally with joined := true, spared := tally.spared - 1 }
  | false, false => tally

/-- The tally of the first moments; before the first has opened there is nothing to join. -/
def tally (first second : Nat → Bool) : Nat → Tally
  | 0 => ⟨true, 0, 0⟩
  | n + 1 => (tally first second n).next (first n) (second n)

/-- What is not joined yet counts as spared. -/
def Tally.Pending (tally : Tally) : Prop := tally.joined = false → 0 < tally.spared

/-- A moment keeps it so. -/
theorem Tally.Pending.next {tally : Tally} (pending : tally.Pending) (first second : Bool) :
    (tally.next first second).Pending := by
  intro alone
  cases first <;> cases second
  · exact pending alone
  · -- After an opening of the second there is none that it has not joined.
    cases joined : tally.joined <;> simp [Tally.next, joined] at alone
  · exact Nat.succ_pos _
  · cases alone

/-- A moment adds the same on both sides of the balance. -/
theorem Tally.Pending.balance {tally : Tally} (pending : tally.Pending) (first second : Bool) :
    second.toNat + (tally.next first second).spared + tally.reopened =
      first.toNat + (tally.next first second).reopened + tally.spared := by
  cases first <;> cases second
  · simp only [Tally.next, Bool.toNat_false]
    omega
  · cases joined : tally.joined
    · -- The opening that is joined now was a spared one.
      have some := pending joined
      simp only [Tally.next, joined, Bool.false_eq_true, if_false, Bool.toNat_false,
        Bool.toNat_true]
      omega
    · simp only [Tally.next, joined, if_true, Bool.toNat_false, Bool.toNat_true]
      omega
  · simp only [Tally.next, Bool.toNat_false, Bool.toNat_true]
    omega
  · simp only [Tally.next, Bool.toNat_true]
    omega

variable (first second : Nat → Bool)

/-- At every moment what is not joined yet counts as spared. -/
theorem pending_tally (n : Nat) : (tally first second n).Pending := by
  induction n with
  | zero =>
    intro alone
    cases alone
  | succ n ih => exact ih.next (first n) (second n)

/-- The openings of the second are those of the first, with the repeated ones and without the
spared ones. -/
theorem countP_add_spared (n : Nat) :
    (List.range n).countP second + (tally first second n).spared =
      (List.range n).countP first + (tally first second n).reopened := by
  induction n with
  | zero => rfl
  | succ n ih =>
    have balance := (pending_tally first second n).balance (first n) (second n)
    have one : ∀ opens : Nat → Bool, [n].countP opens = (opens n).toNat := by
      intro opens
      rw [List.countP_singleton]
      cases opens n <;> rfl
    rw [List.range_succ, List.countP_append, List.countP_append, one, one, tally]
    omega

/-- The second opens no more often than the first exactly if it does not open again more often than
the first opens alone. -/
theorem countP_le_iff (n : Nat) :
    (List.range n).countP second ≤ (List.range n).countP first ↔
      (tally first second n).reopened ≤ (tally first second n).spared := by
  have balance := countP_add_spared first second n
  omega

/-- The second does not open again if it only ever opens together with the first, or once after. -/
theorem reopened_eq_zero {n : Nat}
    (waits : ∀ i < n, second i → ¬first i → (tally first second i).joined = false) :
    (tally first second n).reopened = 0 := by
  induction n with
  | zero => rfl
  | succ n ih =>
    have before := ih fun i earlier => waits i (Nat.lt_succ_of_lt earlier)
    rw [tally, ← before]
    cases opens : first n <;> cases joins : second n
    · rfl
    · have alone := waits n (Nat.lt_succ_self n) joins (by simp [opens])
      simp only [Tally.next, alone, Bool.false_eq_true, if_false]
    · rfl
    · rfl

end Openings
