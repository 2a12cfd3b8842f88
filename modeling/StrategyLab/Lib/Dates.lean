import Mathlib.Data.List.Basic

/-! Calendar dates: the day after a day, the ISO text of a day, and the days from one to another. -/

namespace Py

/-- Every fourth year is a leap year, except a century that is not a fourth one. -/
def isLeap (year : Nat) : Bool := year % 4 = 0 && (year % 100 ≠ 0 || year % 400 = 0)

/-- How many days a month has. -/
def daysInMonth (year month : Nat) : Nat :=
  match month with
  | 2 => if isLeap year then 29 else 28
  | 4 => 30
  | 6 => 30
  | 9 => 30
  | 11 => 30
  | _ => 31

/-- No month has more than 31 days. -/
theorem daysInMonth_le (year month : Nat) : daysInMonth year month ≤ 31 := by
  unfold daysInMonth
  split
  · split <;> omega
  all_goals omega

/-- Every month has a first day. -/
theorem daysInMonth_pos (year month : Nat) : 1 ≤ daysInMonth year month := by
  unfold daysInMonth
  split
  · split <;> omega
  all_goals omega

/-- A day of the Gregorian calendar, with years of four digits. -/
structure Date where
  year : Nat
  month : Nat
  day : Nat
  year_pos : 1 ≤ year
  year_le : year ≤ 9999
  month_pos : 1 ≤ month
  month_le : month ≤ 12
  day_pos : 1 ≤ day
  day_le : day ≤ daysInMonth year month
  deriving DecidableEq

namespace Date

/-- A number that is larger for a later day. -/
def rank (date : Date) : Nat := 372 * date.year + 31 * date.month + date.day

/-- The day after a day; the last year has one that has none. -/
def next (date : Date) : Option Date :=
  if later : date.day + 1 ≤ daysInMonth date.year date.month then
    some { date with day := date.day + 1, day_pos := by omega, day_le := later }
  else if turns : date.month + 1 ≤ 12 then
    some { date with
      month := date.month + 1, day := 1, month_pos := by omega, month_le := turns,
      day_pos := by omega, day_le := daysInMonth_pos _ _ }
  else if years : date.year + 1 ≤ 9999 then
    some ⟨date.year + 1, 1, 1, by omega, years, by omega, by omega, by omega, daysInMonth_pos _ _⟩
  else none

/-- The numeral of a part of a date, with zeros in front. -/
def padded (width n : Nat) : String :=
  String.ofList (List.replicate (width - (Nat.repr n).length) '0') ++ Nat.repr n

/-- The ISO text of a day. -/
def isoformat (date : Date) : String :=
  padded 4 date.year ++ "-" ++ padded 2 date.month ++ "-" ++ padded 2 date.day

/-- The number digits stand for. -/
def digitsValue (digits : List Char) : Option Nat :=
  if digits.all Char.isDigit then some (Nat.ofDigitChars 10 digits 0) else none

/-- The day with a year, a month and a day of the month, if the calendar has it. -/
def ofParts (year month day : Nat) : Option Date :=
  if real : (1 ≤ year ∧ year ≤ 9999) ∧ (1 ≤ month ∧ month ≤ 12) ∧
      1 ≤ day ∧ day ≤ daysInMonth year month then
    some ⟨year, month, day, real.1.1, real.1.2, real.2.1.1, real.2.1.2, real.2.2.1, real.2.2.2⟩
  else none

/-- Read a day from a text of the form YYYY-MM-DD. -/
def fromIsoFormat (text : String) : Option Date :=
  match text.toList with
  | [y₁, y₂, y₃, y₄, '-', m₁, m₂, '-', d₁, d₂] => do
    let year ← digitsValue [y₁, y₂, y₃, y₄]
    let month ← digitsValue [m₁, m₂]
    let day ← digitsValue [d₁, d₂]
    ofParts year month day
  | _ => none

/-- Go from a day to a last one; a step past the end of the calendar gives nothing. -/
def daysTo (last : Date) : Nat → Date → Option (List Date)
  | 0, _ => some []
  | fuel + 1, current =>
    if current.rank ≤ last.rank then do
      let next ← current.next
      let rest ← daysTo last fuel next
      return current :: rest
    else some []

/-- The days from one to another, both included. -/
def range (first last : Date) : Option (List Date) :=
  daysTo last (last.rank + 1 - first.rank) first

/-- Two days of one rank are one day. -/
theorem eq_of_rank_eq {date other : Date} (same : date.rank = other.rank) : date = other := by
  obtain ⟨year, month, day, _, _, month_pos, month_le, day_pos, day_le⟩ := date
  obtain ⟨year', month', day', _, _, month_pos', month_le', day_pos', day_le'⟩ := other
  have most := daysInMonth_le year month
  have most' := daysInMonth_le year' month'
  simp only [rank] at same
  -- A month counts 31 and a year 372, more than the days and months before them.
  obtain rfl : year = year' := by omega
  obtain rfl : month = month' := by omega
  obtain rfl : day = day' := by omega
  rfl

/-- Between a day and the next one there is no other. -/
theorem rank_next {date following : Date} (steps : date.next = some following) :
    date.rank < following.rank ∧
      ∀ other : Date, date.rank < other.rank → following.rank ≤ other.rank := by
  unfold next at steps
  split at steps
  · -- Within a month the rank grows by one.
    obtain rfl := Option.some.inj steps
    refine ⟨by simp only [rank]; omega, ?_⟩
    intro other later
    simp only [rank] at later ⊢
    omega
  · rename_i ended
    have full := daysInMonth_le date.year date.month
    have pos := date.day_pos
    split at steps
    · -- The first day of the next month follows the last one of this month.
      obtain rfl := Option.some.inj steps
      refine ⟨by simp only [rank]; have := date.day_le; omega, ?_⟩
      intro other later
      simp only [rank] at later ⊢
      have month := other.month_le
      have day := other.day_le
      have most := daysInMonth_le other.year other.month
      have := other.day_pos
      have := other.month_pos
      have := date.month_le
      have := date.month_pos
      by_cases sameYear : other.year = date.year
      · by_cases sameMonth : other.month = date.month
        · rw [sameYear, sameMonth] at day
          omega
        · omega
      · omega
    · split at steps
      · -- The first day of the next year follows the last one of this year.
        obtain rfl := Option.some.inj steps
        have := date.month_le
        have := date.day_le
        refine ⟨by simp only [rank]; omega, ?_⟩
        intro other later
        simp only [rank] at later ⊢
        have month := other.month_le
        have day := other.day_le
        have most := daysInMonth_le other.year other.month
        have := other.day_pos
        have := other.month_pos
        by_cases sameYear : other.year = date.year
        · by_cases sameMonth : other.month = date.month
          · rw [sameYear, sameMonth] at day
            omega
          · omega
        · omega
      · cases steps

/-- With enough steps all days from one to a last one are met, and no others. -/
theorem mem_daysTo {last : Date} {fuel : Nat} {first : Date} {days : List Date} {date : Date}
    (enough : last.rank < first.rank + fuel) (gone : daysTo last fuel first = some days) :
    date ∈ days ↔ first.rank ≤ date.rank ∧ date.rank ≤ last.rank := by
  induction fuel generalizing first days with
  | zero =>
    obtain rfl := Option.some.inj gone
    simp only [List.not_mem_nil, false_iff]
    omega
  | succ fuel ih =>
    rw [daysTo] at gone
    split at gone
    · rename_i there
      simp only [Option.bind_eq_bind, Option.bind_eq_some_iff, Option.pure_def,
        Option.some.injEq] at gone
      obtain ⟨following, steps, rest, onward, rfl⟩ := gone
      obtain ⟨grows, nearest⟩ := rank_next steps
      rw [List.mem_cons, ih (by omega) onward]
      constructor
      · rintro (rfl | ⟨after, before⟩)
        · exact ⟨Nat.le_refl _, there⟩
        · exact ⟨by omega, before⟩
      · rintro ⟨after, before⟩
        rcases Nat.eq_or_lt_of_le after with same | later
        · exact .inl (eq_of_rank_eq same.symm)
        · exact .inr ⟨nearest date later, before⟩
    · obtain rfl := Option.some.inj gone
      simp only [List.not_mem_nil, false_iff]
      omega

/-- The days from one to another are those that lie between them. -/
theorem mem_range {first last date : Date} {days : List Date}
    (gone : range first last = some days) :
    date ∈ days ↔ first.rank ≤ date.rank ∧ date.rank ≤ last.rank := by
  rw [range] at gone
  exact mem_daysTo (by omega) gone

end Date

end Py
