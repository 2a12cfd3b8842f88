import Mathlib.Data.List.Basic

/-! Decimal numerals inside texts: what a numeral is made of, and that it can be read back. -/

namespace Numeral

/-- A numeral is made of digits only. -/
theorem isDigit_of_mem {n : Nat} {c : Char} (member : c ∈ (Nat.repr n).toList) :
    c.isDigit = true := by
  rw [Nat.toList_repr] at member
  exact Nat.isDigit_of_mem_toDigits (by decide) (by decide) member

/-- A character that is no digit does not occur in a numeral. -/
theorem not_mem_of_not_isDigit {c : Char} (other : c.isDigit = false) (n : Nat) :
    c ∉ (Nat.repr n).toList := by
  intro member
  rw [isDigit_of_mem member] at other
  cases other

/-- Different numbers have different numerals. -/
theorem repr_injective {n m : Nat} (same : (Nat.repr n).toList = (Nat.repr m).toList) :
    n = m := by
  -- Reading the digits back gives the number.
  rw [Nat.toList_repr, Nat.toList_repr] at same
  have values := congrArg (fun digits => Nat.ofDigitChars 10 digits 0) same
  simpa only [Nat.ofDigitChars_ten_toDigits] using values

/-- Numbers whose numerals agree after padding with zeros are the same. -/
theorem padded_injective {n m first second : Nat}
    (same : List.replicate first '0' ++ (Nat.repr n).toList =
      List.replicate second '0' ++ (Nat.repr m).toList) : n = m := by
  -- Zeros in front do not change the number that is read.
  have values := congrArg (fun digits => Nat.ofDigitChars 10 digits 0) same
  simpa [Nat.toList_repr, Nat.ofDigitChars_append, Nat.ofDigitChars_replicate_zero] using values

/-- Two texts that are cut at a mark their first parts do not contain agree in both parts. -/
theorem split_first {mark : Char} {first second rest other : List Char} (left : mark ∉ first)
    (right : mark ∉ second) (same : first ++ mark :: rest = second ++ mark :: other) :
    first = second ∧ rest = other := by
  induction first generalizing second with
  | nil =>
    cases second with
    | nil => exact ⟨rfl, (List.cons.inj same).2⟩
    | cons c _ => exact absurd ((List.cons.inj same).1 ▸ List.mem_cons_self) right
  | cons c first ih =>
    cases second with
    | nil => exact absurd ((List.cons.inj same).1 ▸ List.mem_cons_self) left
    | cons d second =>
      obtain ⟨rfl, tails⟩ := List.cons.inj same
      obtain ⟨rfl, agree⟩ := ih (fun member => left (List.mem_cons_of_mem _ member))
        (fun member => right (List.mem_cons_of_mem _ member)) tails
      exact ⟨rfl, agree⟩

/-- A text that ends in a mark and a numeral determines what is before the mark and the number. -/
theorem split_last {mark : Char} (other : mark.isDigit = false) {first second : List Char}
    {n m : Nat}
    (same : first ++ mark :: (Nat.repr n).toList = second ++ mark :: (Nat.repr m).toList) :
    first = second ∧ n = m := by
  -- Seen from its end, the text is a numeral up to the first mark.
  have backwards := congrArg List.reverse same
  simp only [List.reverse_append, List.reverse_cons, List.append_assoc,
    List.singleton_append] at backwards
  have free (k : Nat) : mark ∉ (Nat.repr k).toList.reverse := by
    rw [List.mem_reverse]
    exact not_mem_of_not_isDigit other k
  obtain ⟨digits, before⟩ := split_first (free n) (free m) backwards
  exact ⟨List.reverse_inj.mp before, repr_injective (List.reverse_inj.mp digits)⟩

end Numeral
