import Mathlib.Algebra.BigOperators.Ring.List
import Mathlib.Algebra.Order.BigOperators.Group.List
import Mathlib.Algebra.Order.Field.Basic
import Mathlib.Data.List.MinMax
import Mathlib.Order.Interval.Set.Defs
import Mathlib.Tactic.FieldSimp
import Mathlib.Tactic.Linarith
import Mathlib.Tactic.Ring

/-! Averages of amounts: means, weighted means and smoothing stay between the bounds of what they
are taken of. -/

namespace Average

section Extremes

variable {α κ : Type*} [LinearOrder κ] {items : List α}

/-- One of some items has the least figure. -/
theorem exists_least (figure : α → κ) (some_ : items ≠ []) :
    ∃ least ∈ items, ∀ item ∈ items, figure least ≤ figure item := by
  cases found : items.argmin figure with
  | none => exact absurd (List.argmin_eq_none.mp found) some_
  | some least =>
    exact ⟨least, List.argmin_mem found, fun item member => List.le_of_mem_argmin member found⟩

/-- And one has the greatest. -/
theorem exists_greatest (figure : α → κ) (some_ : items ≠ []) :
    ∃ greatest ∈ items, ∀ item ∈ items, figure item ≤ figure greatest := by
  cases found : items.argmax figure with
  | none => exact absurd (List.argmax_eq_none.mp found) some_
  | some greatest =>
    exact ⟨greatest, List.argmax_mem found, fun item member => List.le_of_mem_argmax member found⟩

end Extremes

variable {K : Type*} [Field K] [LinearOrder K] [IsStrictOrderedRing K] {a b : K}

/-- The mean of amounts is between their bounds. -/
theorem mean_mem {amounts : List K} (some_ : amounts ≠ [])
    (within : ∀ x ∈ amounts, x ∈ Set.Icc a b) : amounts.sum / amounts.length ∈ Set.Icc a b := by
  have positive : (0 : K) < amounts.length := by
    exact_mod_cast List.length_pos_iff.mpr some_
  have low := List.card_nsmul_le_sum amounts a fun x member => (within x member).1
  have high := List.sum_le_card_nsmul amounts b fun x member => (within x member).2
  rw [nsmul_eq_mul] at low high
  constructor
  · rw [le_div_iff₀ positive]
    linarith
  · rw [div_le_iff₀ positive]
    linarith

/-- A step towards an amount stays between the bounds. -/
theorem towards_mem {weight x y : K} (low : 0 ≤ weight) (high : weight ≤ 1)
    (from_ : x ∈ Set.Icc a b) (onto : y ∈ Set.Icc a b) : x + weight * (y - x) ∈ Set.Icc a b := by
  have left := mul_nonneg (sub_nonneg.mpr high) (sub_nonneg.mpr from_.1)
  have right := mul_nonneg low (sub_nonneg.mpr onto.1)
  have left' := mul_nonneg (sub_nonneg.mpr high) (sub_nonneg.mpr from_.2)
  have right' := mul_nonneg low (sub_nonneg.mpr onto.2)
  constructor
  · linarith
  · linarith

/-- What every step keeps is kept by all of them. -/
theorem foldl_mem {α β : Type*} {kept : Set α} {step : α → β → α} {items : List β} {start : α}
    (first : start ∈ kept) (keeps : ∀ state ∈ kept, ∀ item ∈ items, step state item ∈ kept) :
    items.foldl step start ∈ kept := by
  induction items generalizing start with
  | nil => exact first
  | cons item rest ih =>
    apply ih (keeps start first item List.mem_cons_self)
    exact fun state inside other member => keeps state inside other (List.mem_cons_of_mem _ member)

/-- The smoothing by Wilder: the mean of the first amounts, then one part of each further one. -/
def smoothed (period : Nat) (amounts : List K) : K :=
  (amounts.drop period).foldl (fun average amount => (average * (period - 1) + amount) / period)
    ((amounts.take period).sum / period)

/-- Smoothed amounts are between the bounds of the amounts. -/
theorem smoothed_mem {period : Nat} {amounts : List K} (positive : 0 < period)
    (enough : period ≤ amounts.length) (within : ∀ x ∈ amounts, x ∈ Set.Icc a b) :
    smoothed period amounts ∈ Set.Icc a b := by
  have many : (1 : K) ≤ period := by exact_mod_cast positive
  have length : (amounts.take period).length = period := by
    rw [List.length_take]
    omega
  apply foldl_mem
  · have filled : amounts.take period ≠ [] := by
      rw [← List.length_pos_iff, length]
      exact positive
    have mean := mean_mem filled fun x member => within x (List.mem_of_mem_take member)
    rwa [length] at mean
  · intro average inside amount member
    have part : (average * (period - 1) + amount) / period =
        average + 1 / (period : K) * (amount - average) := by
      have some_ : (period : K) ≠ 0 := by linarith
      field_simp
      ring
    rw [part]
    apply towards_mem _ _ inside (within amount (List.mem_of_mem_drop member))
    · exact div_nonneg zero_le_one (by linarith)
    · exact (div_le_one₀ (by linarith)).mpr many

/-- Smoothed amounts are not negative if none of the amounts is. -/
theorem smoothed_nonneg {period : Nat} {amounts : List K} (positive : 0 < period)
    (enough : period ≤ amounts.length) (all : ∀ x ∈ amounts, 0 ≤ x) :
    0 ≤ smoothed period amounts := by
  have filled : amounts ≠ [] := by
    rw [← List.length_pos_iff]
    omega
  obtain ⟨greatest, -, above⟩ := exists_greatest id filled
  exact (smoothed_mem positive enough fun x member => ⟨all x member, above x member⟩).1

/-- The mean of amounts that weigh differently is between their bounds. -/
theorem weighted_mem {weighted : List (K × K)} (weights : ∀ pair ∈ weighted, 0 ≤ pair.2)
    (some_ : (weighted.map (·.2)).sum ≠ 0) (within : ∀ pair ∈ weighted, pair.1 ∈ Set.Icc a b) :
    (weighted.map fun pair => pair.1 * pair.2).sum / (weighted.map (·.2)).sum ∈ Set.Icc a b := by
  have positive : 0 < (weighted.map (·.2)).sum := by
    refine lt_of_le_of_ne (List.sum_nonneg ?_) some_.symm
    intro weight member
    obtain ⟨pair, there, rfl⟩ := List.mem_map.mp member
    exact weights pair there
  have low : a * (weighted.map (·.2)).sum ≤ (weighted.map fun pair => pair.1 * pair.2).sum := by
    rw [← List.sum_map_mul_left]
    exact List.sum_le_sum fun pair member =>
      mul_le_mul_of_nonneg_right (within pair member).1 (weights pair member)
  have high : (weighted.map fun pair => pair.1 * pair.2).sum ≤ b * (weighted.map (·.2)).sum := by
    rw [← List.sum_map_mul_left]
    exact List.sum_le_sum fun pair member =>
      mul_le_mul_of_nonneg_right (within pair member).2 (weights pair member)
  constructor
  · rwa [le_div_iff₀ positive]
  · rwa [div_le_iff₀ positive]

end Average
