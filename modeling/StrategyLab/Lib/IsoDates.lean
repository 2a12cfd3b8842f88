import StrategyLab.Lib.Numeral
import StrategyLab.Lib.UtcText
import Mathlib.Data.List.Induction
import Mathlib.Data.String.Basic

/-! ISO texts of days: a day is read from its own text and from no other one. -/

namespace Py.Date

/-- Digits that stand for the same number are the same ones, if they are as many. -/
theorem digits_unique {left right : List Char} (leftDigits : ∀ c ∈ left, c.isDigit = true)
    (rightDigits : ∀ c ∈ right, c.isDigit = true) (many : left.length = right.length)
    (value : Nat.ofDigitChars 10 left 0 = Nat.ofDigitChars 10 right 0) : left = right := by
  induction left using List.reverseRecOn generalizing right with
  | nil => exact (List.length_eq_zero_iff.mp many.symm).symm
  | append_singleton first c ih =>
    rcases List.eq_nil_or_concat' right with rfl | ⟨second, d, rfl⟩
    · simp at many
    · have low := Char.isDigit_iff_toNat.mp (leftDigits c (by simp))
      have high := Char.isDigit_iff_toNat.mp (rightDigits d (by simp))
      simp only [Char.reduceToNat] at low high
      -- The last digit is the remainder by ten, the others are the quotient.
      simp only [Nat.ofDigitChars_append, Nat.ofDigitChars_cons, Nat.ofDigitChars_nil,
        Char.reduceToNat] at value
      have front : first = second := by
        apply ih
        · exact fun e member => leftDigits e (List.mem_append_left _ member)
        · exact fun e member => rightDigits e (List.mem_append_left _ member)
        · simpa using many
        · omega
      have last : c = d := Char.toNat_inj.mp (by omega)
      rw [front, last]

/-- A number that fits is padded to the width. -/
theorem length_padded {width n : Nat} (some_ : 0 < width) (fits : n < 10 ^ width) :
    (padded width n).toList.length = width := by
  have short : (Nat.repr n).length ≤ width := (Nat.length_repr_le_iff some_).mpr fits
  simp only [padded, String.toList_append, String.toList_ofList, List.length_append,
    List.length_replicate, String.length_toList]
  omega

/-- What is padded is digits only. -/
theorem isDigit_of_mem_padded {width n : Nat} {c : Char} (member : c ∈ (padded width n).toList) :
    c.isDigit = true := by
  simp only [padded, String.toList_append, String.toList_ofList, List.mem_append,
    List.mem_replicate] at member
  rcases member with ⟨_, rfl⟩ | member
  · rfl
  · exact Numeral.isDigit_of_mem member

/-- Zeros in front do not change the number. -/
theorem ofDigitChars_padded (width n : Nat) :
    Nat.ofDigitChars 10 (padded width n).toList 0 = n := by
  simp [padded, Nat.toList_repr, Nat.ofDigitChars_append, Nat.ofDigitChars_replicate_zero]

/-- A padded number is read as the number. -/
theorem digitsValue_padded (width n : Nat) : digitsValue (padded width n).toList = some n := by
  have digits : (padded width n).toList.all Char.isDigit = true :=
    List.all_eq_true.mpr fun _ => isDigit_of_mem_padded
  rw [digitsValue, if_pos digits, ofDigitChars_padded]

/-- Digits are the padded number that they stand for. -/
theorem padded_of_digitsValue {digits : List Char} {n : Nat} (some_ : 0 < digits.length)
    (reads : digitsValue digits = some n) : (padded digits.length n).toList = digits := by
  unfold digitsValue at reads
  split at reads
  · rename_i all
    have each : ∀ c ∈ digits, c.isDigit = true := List.all_eq_true.mp all
    obtain rfl := Option.some.inj reads
    have fits := UtcText.ofDigitChars_lt each
    apply digits_unique (fun _ => isDigit_of_mem_padded) each
    · exact length_padded some_ fits
    · exact ofDigitChars_padded _ _
  · cases reads

/-- The parts of a text of the form YYYY-MM-DD. -/
def parts? (text : String) : Option (List Char × List Char × List Char) :=
  match text.toList with
  | [y₁, y₂, y₃, y₄, '-', m₁, m₂, '-', d₁, d₂] => some ([y₁, y₂, y₃, y₄], [m₁, m₂], [d₁, d₂])
  | _ => none

/-- A text has its parts, with a mark between them. -/
theorem parts?_eq_some_iff {text : String} {year month day : List Char} :
    parts? text = some (year, month, day) ↔
      text.toList = year ++ '-' :: (month ++ '-' :: day) ∧ year.length = 4 ∧
        month.length = 2 ∧ day.length = 2 := by
  constructor
  · intro found
    unfold parts? at found
    split at found
    · rename_i chars
      obtain ⟨rfl, rfl, rfl⟩ := by simpa using found
      exact ⟨chars, rfl, rfl, rfl⟩
    · cases found
  · rintro ⟨chars, four, two, two'⟩
    obtain ⟨y₁, y₂, y₃, y₄, rfl⟩ : ∃ y₁ y₂ y₃ y₄, year = [y₁, y₂, y₃, y₄] := by
      obtain ⟨y₁, rest, rfl⟩ := List.exists_cons_of_length_eq_add_one four
      obtain ⟨y₂, y₃, y₄, rfl⟩ := List.length_eq_three.mp (Nat.succ.inj four)
      exact ⟨y₁, y₂, y₃, y₄, rfl⟩
    obtain ⟨m₁, m₂, rfl⟩ := List.length_eq_two.mp two
    obtain ⟨d₁, d₂, rfl⟩ := List.length_eq_two.mp two'
    unfold parts?
    rw [chars]
    rfl

/-- A day is read from the numbers of the parts. -/
theorem fromIsoFormat_eq (text : String) :
    fromIsoFormat text = (parts? text).bind fun found => (do
      let year ← digitsValue found.1
      let month ← digitsValue found.2.1
      let day ← digitsValue found.2.2
      ofParts year month day) := by
  unfold fromIsoFormat
  split
  · rename_i y₁ y₂ y₃ y₄ m₁ m₂ d₁ d₂ chars
    have read : parts? text = some ([y₁, y₂, y₃, y₄], [m₁, m₂], [d₁, d₂]) :=
      parts?_eq_some_iff.mpr ⟨chars, rfl, rfl, rfl⟩
    rw [read]
    rfl
  · rename_i other
    have unread : parts? text = none := by
      unfold parts?
      split
      · rename_i chars
        exact absurd chars (other _ _ _ _ _ _ _ _)
      · rfl
    rw [unread]
    rfl

/-- The day of the parts of a day is that day. -/
theorem ofParts_parts (date : Date) : ofParts date.year date.month date.day = some date := by
  unfold ofParts
  rw [dif_pos ⟨⟨date.year_pos, date.year_le⟩, ⟨date.month_pos, date.month_le⟩, date.day_pos,
    date.day_le⟩]

/-- The parts of a day that was made of parts are these. -/
theorem parts_of_ofParts {year month day : Nat} {date : Date}
    (made : ofParts year month day = some date) :
    date.year = year ∧ date.month = month ∧ date.day = day := by
  unfold ofParts at made
  split at made
  · obtain rfl := Option.some.inj made
    exact ⟨rfl, rfl, rfl⟩
  · cases made

/-- A day is read from its own text. -/
theorem fromIsoFormat_isoformat (date : Date) : fromIsoFormat date.isoformat = some date := by
  have year := date.year_le
  have month := date.month_le
  have day := date.day_le.trans (daysInMonth_le _ _)
  have found : parts? date.isoformat =
      some ((padded 4 date.year).toList, (padded 2 date.month).toList,
        (padded 2 date.day).toList) := by
    refine parts?_eq_some_iff.mpr ⟨?_, length_padded (by omega) (by omega),
      length_padded (by omega) (by omega), length_padded (by omega) (by omega)⟩
    simp [isoformat, String.toList_append]
  rw [fromIsoFormat_eq, found]
  simp only [Option.bind_some, digitsValue_padded, Option.bind_eq_bind]
  exact ofParts_parts date

/-- A text that a day is read from is the text of that day. -/
theorem isoformat_of_fromIsoFormat {text : String} {date : Date}
    (reads : fromIsoFormat text = some date) : date.isoformat = text := by
  rw [fromIsoFormat_eq] at reads
  obtain ⟨⟨year, month, day⟩, found, reads⟩ := Option.bind_eq_some_iff.mp reads
  obtain ⟨chars, four, two, two'⟩ := parts?_eq_some_iff.mp found
  simp only [Option.bind_eq_bind, Option.bind_eq_some_iff] at reads
  obtain ⟨y, isYear, m, isMonth, d, isDay, made⟩ := reads
  obtain ⟨rfl, rfl, rfl⟩ := parts_of_ofParts made
  have first := padded_of_digitsValue (by omega) isYear
  have second := padded_of_digitsValue (by omega) isMonth
  have third := padded_of_digitsValue (by omega) isDay
  rw [four] at first
  rw [two] at second
  rw [two'] at third
  apply String.toList_injective
  simp [isoformat, String.toList_append, first, second, third, chars]

/-- The method `replace` of a day, with another year; the calendar may not have that day. -/
def replaceYear (date : Date) (year : Int) : Option Date :=
  if 0 ≤ year then ofParts year.toNat date.month date.day else none

/-- Only the last day of a February in a leap year is not found in every year. -/
theorem replaceYear_isSome_iff {date : Date} {year : Int} (low : 1 ≤ year) (high : year ≤ 9999) :
    (date.replaceYear year).isSome ↔
      (date.month = 2 ∧ date.day = 29 → isLeap year.toNat = true) := by
  have there : (date.replaceYear year).isSome ↔ date.day ≤ daysInMonth year.toNat date.month := by
    unfold replaceYear ofParts
    rw [if_pos (by omega)]
    split
    · rename_i real
      exact iff_of_true rfl real.2.2.2
    · rename_i unreal
      refine iff_of_false (by simp) fun within => unreal ?_
      exact ⟨⟨by omega, by omega⟩, ⟨date.month_pos, date.month_le⟩, date.day_pos, within⟩
  have day := date.day_le
  rw [there]
  by_cases february : date.month = 2
  · have most : daysInMonth date.year 2 ≤ 29 := by
      simp only [daysInMonth]
      split <;> omega
    rw [february] at day ⊢
    cases leap : isLeap year.toNat with
    | true => simp only [daysInMonth, leap, reduceIte, implies_true, iff_true]; omega
    | false =>
      simp only [daysInMonth, leap, Bool.false_eq_true, reduceIte, true_and, imp_false]
      omega
  · -- The other months have as many days in every year.
    have same : daysInMonth year.toNat date.month = daysInMonth date.year date.month := by
      unfold daysInMonth
      split <;> simp_all
    rw [same]
    exact iff_of_true day fun both => absurd both.1 february

/-- A day has the year that it was given. -/
theorem year_replaceYear {date moved : Date} {year : Int}
    (given : date.replaceYear year = some moved) :
    (moved.year : Int) = year ∧ moved.month = date.month ∧ moved.day = date.day := by
  unfold replaceYear at given
  split at given
  · obtain ⟨year_, month, day⟩ := parts_of_ofParts given
    exact ⟨by omega, month, day⟩
  · cases given

end Py.Date
