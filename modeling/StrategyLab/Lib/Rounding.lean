import StrategyLab.Lib.Python
import Mathlib.Data.Rat.Floor
import Mathlib.Tactic.Linarith

/-! Rounding to decimals keeps the order, and the bounds that have these decimals. -/

namespace Py

/-- Rounding goes down or up by less than one. -/
theorem floor_le_roundHalfEven (x : ℚ) :
    x.floor ≤ roundHalfEven x ∧ roundHalfEven x ≤ x.floor + 1 := by
  unfold roundHalfEven
  dsimp only
  split
  · omega
  · split
    · omega
    · split <;> omega

/-- Rounding to an integer keeps the order. -/
theorem roundHalfEven_mono {x y : ℚ} (below : x ≤ y) : roundHalfEven x ≤ roundHalfEven y := by
  have low : x.floor ≤ y.floor := Int.floor_mono below
  rcases low.lt_or_eq with apart | same
  · -- An integer lies between the two.
    have left := (floor_le_roundHalfEven x).2
    have right := (floor_le_roundHalfEven y).1
    omega
  · -- The smaller part behind the point is not rounded further up.
    unfold roundHalfEven
    dsimp only
    rw [same]
    split
    · split
      · exact le_rfl
      · split
        · omega
        · split <;> omega
    · rename_i half
      have behind : ¬y - y.floor < 1 / 2 := by linarith
      rw [if_neg behind]
      split
      · rename_i above
        have later : 1 / 2 < y - y.floor := by linarith
        rw [if_pos later]
      · split
        · split
          · omega
          · exact le_rfl
        · split <;> omega

/-- Rounding to decimals keeps the order. -/
theorem round_mono (digits : Nat) {x y : ℚ} (below : x ≤ y) : round digits x ≤ round digits y := by
  have scale : (0 : ℚ) < 10 ^ digits := by positivity
  unfold round
  gcongr
  exact_mod_cast roundHalfEven_mono (mul_le_mul_of_nonneg_right below scale.le)

/-- An upper bound with the decimals is one of what is rounded to them. -/
theorem round_le {digits : Nat} {x bound : ℚ} (has : HasDigits digits bound) (below : x ≤ bound) :
    round digits x ≤ bound := by
  have rounded := round_mono digits below
  rwa [has.round_eq] at rounded

/-- A lower bound with the decimals is one of what is rounded to them. -/
theorem le_round {digits : Nat} {x bound : ℚ} (has : HasDigits digits bound) (below : bound ≤ x) :
    bound ≤ round digits x := by
  have rounded := round_mono digits below
  rwa [has.round_eq] at rounded

/-- An integer has any number of decimals. -/
theorem hasDigits_intCast (digits : Nat) (n : Int) : HasDigits digits n := by
  have scale : (10 : ℚ) ^ digits ≠ 0 := by positivity
  exact ⟨n * 10 ^ digits, by push_cast; rw [mul_div_assoc, div_self scale, mul_one]⟩

end Py
