import StrategyLab.Lib.Dates
import Mathlib.Algebra.Order.Field.Rat
import Mathlib.Data.String.Basic
import Mathlib.Tactic.FieldSimp
import Mathlib.Tactic.Linarith
import Mathlib.Tactic.NormNum

/-! The instants that UTC timestamps denote, and how far the order of their texts is that of time. -/

namespace UtcText

/-- Read a number of some digits. -/
def number (width : Nat) (chars : List Char) : Option (Nat × List Char) :=
  if (chars.take width).length = width ∧ (chars.take width).all Char.isDigit then
    some (Nat.ofDigitChars 10 (chars.take width) 0, chars.drop width)
  else none

/-- Read a mark. -/
def mark (expected : Char) : List Char → Option (List Char)
  | [] => none
  | first :: rest => if first = expected then some rest else none

/-- Read numbers of given widths, each with the mark behind it. -/
def fields : List (Nat × Char) → List Char → Option (List Nat × List Char)
  | [], chars => some ([], chars)
  | (width, behind) :: more, chars => do
    let (value, chars) ← number width chars
    let chars ← mark behind chars
    let (values, chars) ← fields more chars
    some (value :: values, chars)

/-- The part of one that digits behind the point stand for. -/
def fraction : List Char → ℚ
  | [] => 0
  | digit :: rest => ((digit.toNat - 48 : Nat) + fraction rest) / 10

/-- The digits of the seconds behind the point, if there is one, before the final `Z`. -/
def fractionDigits : List Char → Option (List Char)
  | [] => none
  | first :: rest =>
    if first = 'Z' ∧ rest = [] then some []
    else if first = '.' ∧ rest.getLast? = some 'Z' ∧ rest.dropLast ≠ [] ∧
        rest.dropLast.all Char.isDigit then some rest.dropLast
    else none

/-- A time of the calendar: its second, with digits behind the point. -/
structure Time where
  /-- The seconds before it, as if all months had 31 days; these are in the order of time. -/
  second : Nat
  digits : List Char
  deriving DecidableEq

/-- The instant of a time, on the line of its seconds. -/
def Time.instant (time : Time) : ℚ := time.second + fraction time.digits

/-- The time that a text of the form `YYYY-MM-DDTHH:MM:SS.fZ` denotes, if the calendar has it. -/
def time? (text : String) : Option Time := do
  let (values, chars) ← fields [(4, '-'), (2, '-'), (2, 'T'), (2, ':'), (2, ':')] text.toList
  let (second, chars) ← number 2 chars
  let digits ← fractionDigits chars
  match values with
  | [year, month, day, hour, minute] => do
    let date ← Py.Date.ofParts year month day
    if hour < 24 ∧ minute < 60 ∧ second < 60 then
      some ⟨((date.rank * 24 + hour) * 60 + minute) * 60 + second, digits⟩
    else none
  | _ => none

/-- A digit is worth at most nine. -/
theorem digit_bounds {c : Char} (digit : c.isDigit = true) : 48 ≤ c.toNat ∧ c.toNat ≤ 57 := by
  have bounds := Char.isDigit_iff_toNat.mp digit
  simpa using bounds

/-- Characters are in the order of their codes. -/
theorem char_lt_iff {c d : Char} : c < d ↔ c.toNat < d.toNat := by
  rw [Char.lt_def, UInt32.lt_iff_toNat_lt, Char.toNat_val, Char.toNat_val]

/-- The first digit of a numeral counts by its place. -/
theorem ofDigitChars_cons_zero (digit : Char) (rest : List Char) :
    Nat.ofDigitChars 10 (digit :: rest) 0 =
      10 ^ rest.length * (digit.toNat - 48) + Nat.ofDigitChars 10 rest 0 := by
  rw [Nat.ofDigitChars_cons, Nat.ofDigitChars_eq_ofDigitChars_zero]
  simp

/-- A number has less than one more digit. -/
theorem ofDigitChars_lt {digits : List Char} (all : ∀ c ∈ digits, c.isDigit = true) :
    Nat.ofDigitChars 10 digits 0 < 10 ^ digits.length := by
  induction digits with
  | nil => simp
  | cons digit rest ih =>
    have least := ih fun c member => all c (List.mem_cons_of_mem _ member)
    have bounds := digit_bounds (all digit List.mem_cons_self)
    rw [ofDigitChars_cons_zero, List.length_cons, pow_succ]
    have worth : digit.toNat - 48 ≤ 9 := by omega
    have part := Nat.mul_le_mul_left (10 ^ rest.length) worth
    omega

variable {left right : List Char}

/-- Numerals of one width are in the order of their numbers, and then of what follows them. -/
theorem numerals_lt_iff (same : left.length = right.length)
    (first : ∀ c ∈ left, c.isDigit = true) (second : ∀ c ∈ right, c.isDigit = true)
    (rest other : List Char) :
    left ++ rest < right ++ other ↔
      Nat.ofDigitChars 10 left 0 < Nat.ofDigitChars 10 right 0 ∨
        Nat.ofDigitChars 10 left 0 = Nat.ofDigitChars 10 right 0 ∧ rest < other := by
  induction left generalizing right with
  | nil =>
    obtain rfl := List.eq_nil_of_length_eq_zero same.symm
    simp
  | cons c left ih =>
    cases right with
    | nil => cases same
    | cons d right =>
      have lengths : left.length = right.length := Nat.succ.inj same
      have leftDigits : ∀ c ∈ left, c.isDigit = true := fun c member =>
        first c (List.mem_cons_of_mem _ member)
      have rightDigits : ∀ c ∈ right, c.isDigit = true := fun c member =>
        second c (List.mem_cons_of_mem _ member)
      have low := digit_bounds (first c List.mem_cons_self)
      have high := digit_bounds (second d List.mem_cons_self)
      have leftSmall := ofDigitChars_lt leftDigits
      have rightSmall := ofDigitChars_lt rightDigits
      rw [lengths] at leftSmall
      rw [List.cons_append, List.cons_append, List.cons_lt_cons_iff, ih lengths leftDigits rightDigits,
        ofDigitChars_cons_zero, ofDigitChars_cons_zero, lengths, char_lt_iff]
      rcases lt_trichotomy c.toNat d.toNat with less | equal | more
      · -- The first digit decides.
        have step : c.toNat - 48 + 1 ≤ d.toNat - 48 := by omega
        have part := Nat.mul_le_mul_left (10 ^ right.length) step
        rw [Nat.mul_add, Nat.mul_one] at part
        exact iff_of_true (Or.inl less) (Or.inl (by omega))
      · have equalChars : c = d := Char.toNat_inj.mp equal
        subst equalChars
        simp
      · have step : d.toNat - 48 + 1 ≤ c.toNat - 48 := by omega
        have part := Nat.mul_le_mul_left (10 ^ right.length) step
        rw [Nat.mul_add, Nat.mul_one] at part
        refine iff_of_false ?_ ?_
        · rintro (less | ⟨rfl, _⟩)
          · omega
          · omega
        · rintro (less | ⟨equal, _⟩)
          · omega
          · omega

/-- A number is read from the digits in front. -/
theorem number_eq_some {width value : Nat} {chars rest : List Char}
    (read : number width chars = some (value, rest)) :
    ∃ digits, digits.length = width ∧ (∀ c ∈ digits, c.isDigit = true) ∧
      Nat.ofDigitChars 10 digits 0 = value ∧ chars = digits ++ rest := by
  unfold number at read
  split at read
  · rename_i fits
    cases read
    exact ⟨chars.take width, fits.1, List.all_eq_true.mp fits.2, rfl,
      (List.take_append_drop width chars).symm⟩
  · cases read

/-- A mark is the character in front. -/
theorem mark_eq_some {expected : Char} {chars rest : List Char}
    (read : mark expected chars = some rest) : chars = expected :: rest := by
  cases chars with
  | nil => cases read
  | cons first more =>
    simp only [mark] at read
    split at read
    · rename_i same
      cases read
      rw [same]
    · cases read

/-- Texts that start with numbers of the same widths are in the order of these numbers. -/
theorem number_lt_iff {width : Nat} {left right rest other : List Char} {value number_ : Nat}
    (first : number width left = some (value, rest))
    (second : number width right = some (number_, other)) :
    left < right ↔ value < number_ ∨ value = number_ ∧ rest < other := by
  obtain ⟨digits, length, all, rfl, rfl⟩ := number_eq_some first
  obtain ⟨numerals, same, every, rfl, rfl⟩ := number_eq_some second
  exact numerals_lt_iff (length.trans same.symm) all every rest other

/-- Texts with the same fields are in the order of these, and then of what follows them. -/
theorem fields_lt_iff {format : List (Nat × Char)} {left right rest other : List Char}
    {values numbers : List Nat} (first : fields format left = some (values, rest))
    (second : fields format right = some (numbers, other)) :
    left < right ↔ values < numbers ∨ values = numbers ∧ rest < other := by
  induction format generalizing left right values numbers with
  | nil =>
    cases first
    cases second
    simp
  | cons field more ih =>
    obtain ⟨width, behind⟩ := field
    simp only [fields, Option.bind_eq_bind, Option.bind_eq_some_iff, Prod.exists] at first second
    obtain ⟨value, _, head, chars, marked, tail, _, read, made⟩ := first
    obtain ⟨number, _, head', chars', marked', tail', _, read', made'⟩ := second
    cases made
    cases made'
    rw [number_lt_iff head head', mark_eq_some marked, mark_eq_some marked',
      List.cons_lt_cons_self, ih read read', List.cons_lt_cons_iff, List.cons.injEq]
    tauto

/-- Digits behind the point are worth less than one. -/
theorem fraction_bounds {digits : List Char} (all : ∀ c ∈ digits, c.isDigit = true) :
    0 ≤ fraction digits ∧ fraction digits < 1 := by
  induction digits with
  | nil => simp [fraction]
  | cons digit rest ih =>
    obtain ⟨least, most⟩ := ih fun c member => all c (List.mem_cons_of_mem _ member)
    have bounds := digit_bounds (all digit List.mem_cons_self)
    have small : ((digit.toNat - 48 : Nat) : ℚ) ≤ 9 := by
      have worth : digit.toNat - 48 ≤ 9 := by omega
      exact_mod_cast worth
    have start : (0 : ℚ) ≤ ((digit.toNat - 48 : Nat) : ℚ) := Nat.cast_nonneg _
    rw [fraction]
    constructor
    · linarith
    · linarith

/-- More digits are worth at least as much. -/
theorem fraction_le_of_prefix {digits others : List Char} (longer : digits <+: others)
    (all : ∀ c ∈ others, c.isDigit = true) : fraction digits ≤ fraction others := by
  induction digits generalizing others with
  | nil => exact (fraction_bounds all).1
  | cons digit rest ih =>
    cases others with
    | nil => exact absurd (List.prefix_nil.mp longer) (List.cons_ne_nil _ _)
    | cons other more =>
      obtain ⟨rfl, further⟩ := List.cons_prefix_cons.mp longer
      have later := ih further fun c member => all c (List.mem_cons_of_mem _ member)
      rw [fraction, fraction]
      linarith

/-- Digits before the final `Z` are in the order of their worth, unless one text goes on where the
other one ends: then the longer one comes first. -/
theorem digits_lt_iff (first : ∀ c ∈ left, c.isDigit = true)
    (second : ∀ c ∈ right, c.isDigit = true) :
    left ++ ['Z'] < right ++ ['Z'] ↔
      (right <+: left ∧ right ≠ left) ∨
        ¬(left <+: right ∧ left ≠ right) ∧ fraction left < fraction right := by
  induction left generalizing right with
  | nil =>
    cases right with
    | nil => simp
    | cons d right =>
      -- The final letter comes behind all digits.
      have high := digit_bounds (second d List.mem_cons_self)
      have behind : ¬ 'Z' < d := by
        rw [char_lt_iff]
        simp only [Char.reduceToNat]
        omega
      have other : 'Z' ≠ d := by
        rintro rfl
        simp at high
      simp [List.cons_lt_cons_iff, behind, other]
  | cons c left ih =>
    have low := digit_bounds (first c List.mem_cons_self)
    have leftDigits : ∀ c ∈ left, c.isDigit = true := fun c member =>
      first c (List.mem_cons_of_mem _ member)
    cases right with
    | nil =>
      have before : c < 'Z' := by
        rw [char_lt_iff]
        simp only [Char.reduceToNat]
        omega
      simp [List.cons_lt_cons_iff, before]
    | cons d right =>
      have high := digit_bounds (second d List.mem_cons_self)
      have rightDigits : ∀ c ∈ right, c.isDigit = true := fun c member =>
        second c (List.mem_cons_of_mem _ member)
      obtain ⟨leftLeast, leftMost⟩ := fraction_bounds leftDigits
      obtain ⟨rightLeast, rightMost⟩ := fraction_bounds rightDigits
      rw [List.cons_append, List.cons_append, List.cons_lt_cons_iff, ih leftDigits rightDigits,
        List.cons_prefix_cons, List.cons_prefix_cons, fraction, fraction, char_lt_iff]
      rcases lt_trichotomy c.toNat d.toNat with less | equal | more
      · -- The first digit decides.
        have step : ((c.toNat - 48 : Nat) : ℚ) + 1 ≤ ((d.toNat - 48 : Nat) : ℚ) := by
          have worth : c.toNat - 48 + 1 ≤ d.toNat - 48 := by omega
          exact_mod_cast worth
        refine iff_of_true (Or.inl less) (Or.inr ⟨?_, by linarith⟩)
        rintro ⟨⟨rfl, _⟩, _⟩
        omega
      · have equalChars : c = d := Char.toNat_inj.mp equal
        subst equalChars
        have worth : ((c.toNat - 48 : Nat) + fraction left) / 10 <
            ((c.toNat - 48 : Nat) + fraction right) / 10 ↔ fraction left < fraction right := by
          constructor
          · intro less
            linarith
          · intro less
            linarith
        rw [worth]
        simp
      · have step : ((d.toNat - 48 : Nat) : ℚ) + 1 ≤ ((c.toNat - 48 : Nat) : ℚ) := by
          have worth : d.toNat - 48 + 1 ≤ c.toNat - 48 := by omega
          exact_mod_cast worth
        refine iff_of_false ?_ ?_
        · rintro (less | ⟨rfl, _⟩)
          · omega
          · omega
        · rintro (⟨⟨rfl, _⟩, _⟩ | ⟨_, less⟩)
          · omega
          · linarith

/-- The digits behind the point stand between it and the final `Z`. -/
theorem fractionDigits_eq_some {chars digits : List Char}
    (read : fractionDigits chars = some digits) :
    (∀ c ∈ digits, c.isDigit = true) ∧
      chars = if digits = [] then ['Z'] else '.' :: (digits ++ ['Z']) := by
  cases chars with
  | nil => cases read
  | cons first rest =>
    simp only [fractionDigits] at read
    split at read
    · rename_i whole
      cases read
      rw [whole.1, whole.2]
      simp
    · split at read
      · rename_i pointed
        obtain ⟨point, ends, some_, all⟩ := pointed
        cases read
        refine ⟨List.all_eq_true.mp all, ?_⟩
        rw [if_neg some_, point, List.dropLast_append_getLast? _ ends]
      · cases read

/-- The ends of texts are in the order of the digits before the final `Z`. -/
theorem ends_lt_iff (first : ∀ c ∈ left, c.isDigit = true)
    (second : ∀ c ∈ right, c.isDigit = true) :
    ((if left = [] then ['Z'] else '.' :: (left ++ ['Z'])) <
        if right = [] then ['Z'] else '.' :: (right ++ ['Z'])) ↔
      left ++ ['Z'] < right ++ ['Z'] := by
  cases left with
  | nil =>
    cases right with
    | nil => simp
    | cons d right =>
      have high := digit_bounds (second d List.mem_cons_self)
      have behind : ¬ 'Z' < d := by
        rw [char_lt_iff]
        simp only [Char.reduceToNat]
        omega
      have other : 'Z' ≠ d := by
        rintro rfl
        simp at high
      -- The point comes before the final letter, and so do the digits.
      simp [List.cons_lt_cons_iff, behind, other]
  | cons c left =>
    cases right with
    | nil =>
      have low := digit_bounds (first c List.mem_cons_self)
      have before : c < 'Z' := by
        rw [char_lt_iff]
        simp only [Char.reduceToNat]
        omega
      simp [List.cons_lt_cons_iff, before]
    | cons d right => simp

variable {text : String}

/-- What a text with a time is made of. -/
theorem time?_eq_some {time : Time} (denotes : time? text = some time) :
    ∃ (date : Py.Date) (hour minute second : Nat) (chars ending : List Char),
      fields [(4, '-'), (2, '-'), (2, 'T'), (2, ':'), (2, ':')] text.toList =
        some ([date.year, date.month, date.day, hour, minute], chars) ∧
      number 2 chars = some (second, ending) ∧ fractionDigits ending = some time.digits ∧
      hour < 24 ∧ minute < 60 ∧ second < 60 ∧
      time.second = ((date.rank * 24 + hour) * 60 + minute) * 60 + second := by
  simp only [time?, Option.bind_eq_bind, Option.bind_eq_some_iff, Prod.exists] at denotes
  obtain ⟨values, chars, read, second, ending, counted, digits, pointed, made⟩ := denotes
  split at made
  · rename_i year month day hour minute
    obtain ⟨date, real, placed⟩ := Option.bind_eq_some_iff.mp made
    split at placed
    · rename_i bounds
      cases placed
      unfold Py.Date.ofParts at real
      split at real
      · cases real
        exact ⟨_, hour, minute, second, chars, ending, read, counted, pointed, bounds.1, bounds.2.1,
          bounds.2.2, rfl⟩
      · cases real
    · cases placed
  · cases made

/-- What is compared behind equal first fields is compared together. -/
theorem lex_merge {less equal next last : Prop} :
    (less ∨ equal ∧ next) ∨ equal ∧ last ↔ less ∨ equal ∧ (next ∨ last) := by
  rw [or_assoc, ← and_or_left]

/-- Times of the calendar are in the order of their fields. -/
theorem fields_lt_second_iff (date other : Py.Date) {hour minute second hour' minute' second' : Nat}
    (hours : hour < 24) (minutes : minute < 60) (seconds : second < 60) (hours' : hour' < 24)
    (minutes' : minute' < 60) (seconds' : second' < 60) (rest : Prop) :
    ([date.year, date.month, date.day, hour, minute] <
          [other.year, other.month, other.day, hour', minute'] ∨
        [date.year, date.month, date.day, hour, minute] =
          [other.year, other.month, other.day, hour', minute'] ∧
        (second < second' ∨ second = second' ∧ rest)) ↔
      ((date.rank * 24 + hour) * 60 + minute) * 60 + second <
          ((other.rank * 24 + hour') * 60 + minute') * 60 + second' ∨
        ((date.rank * 24 + hour) * 60 + minute) * 60 + second =
          ((other.rank * 24 + hour') * 60 + minute') * 60 + second' ∧ rest := by
  -- Days are in the order of their ranks.
  have days : date.rank < other.rank ↔ date.year < other.year ∨ date.year = other.year ∧
      (date.month < other.month ∨ date.month = other.month ∧ date.day < other.day) := by
    have most := (date.day_le).trans (Py.daysInMonth_le date.year date.month)
    have most' := (other.day_le).trans (Py.daysInMonth_le other.year other.month)
    have := date.month_pos
    have := date.month_le
    have := date.day_pos
    have := other.month_pos
    have := other.month_le
    have := other.day_pos
    unfold Py.Date.rank
    omega
  have day : date.rank = other.rank ↔
      date.year = other.year ∧ date.month = other.month ∧ date.day = other.day := by
    constructor
    · intro same
      rw [Py.Date.eq_of_rank_eq same]
      exact ⟨rfl, rfl, rfl⟩
    · rintro ⟨year, month, day⟩
      rw [Py.Date.rank, Py.Date.rank, year, month, day]
  have clock : (((date.rank * 24 + hour) * 60 + minute) * 60 + second <
        ((other.rank * 24 + hour') * 60 + minute') * 60 + second' ↔
      date.rank < other.rank ∨ date.rank = other.rank ∧ (hour < hour' ∨ hour = hour' ∧
        (minute < minute' ∨ minute = minute' ∧ second < second'))) := by
    omega
  have moment : (((date.rank * 24 + hour) * 60 + minute) * 60 + second =
        ((other.rank * 24 + hour') * 60 + minute') * 60 + second' ↔
      date.rank = other.rank ∧ hour = hour' ∧ minute = minute' ∧ second = second') := by
    omega
  rw [clock, moment, days, day]
  simp only [List.cons_lt_cons_iff, List.cons.injEq, List.not_lt_nil, and_false, or_false, and_true,
    and_assoc, lex_merge]

/-- One time goes on where another one of the same second ends. -/
def Cut (time longer : Time) : Prop :=
  time.second = longer.second ∧ time.digits <+: longer.digits ∧ time.digits ≠ longer.digits

instance (time longer : Time) : Decidable (Cut time longer) := by
  unfold Cut
  infer_instance

/-- The digits of a time are digits. -/
theorem isDigit_of_time? {time : Time} (denotes : time? text = some time) :
    ∀ c ∈ time.digits, c.isDigit = true := by
  obtain ⟨_, _, _, _, _, _, _, _, pointed, _⟩ := time?_eq_some denotes
  exact (fractionDigits_eq_some pointed).1

/-- Texts are in the order of the instants they denote, unless one goes on where the other one ends:
then the longer one comes first. -/
theorem text_lt_iff {text other : String} {time later : Time} (first : time? text = some time)
    (second : time? other = some later) :
    text < other ↔ Cut later time ∨ ¬Cut time later ∧ time.instant < later.instant := by
  obtain ⟨date, hour, minute, sec, chars, ending, read, counted, pointed, h, m, s, at_⟩ :=
    time?_eq_some first
  obtain ⟨date', hour', minute', sec', chars', ending', read', counted', pointed', h', m', s', at'⟩ :=
    time?_eq_some second
  obtain ⟨digits, ends⟩ := fractionDigits_eq_some pointed
  obtain ⟨digits', ends'⟩ := fractionDigits_eq_some pointed'
  rw [String.lt_iff_toList_lt, fields_lt_iff read read', number_lt_iff counted counted',
    fields_lt_second_iff date date' h m s h' m' s', ← at_, ← at', ends, ends',
    ends_lt_iff digits digits', digits_lt_iff digits digits']
  obtain ⟨least, most⟩ := fraction_bounds digits
  obtain ⟨least', most'⟩ := fraction_bounds digits'
  unfold Time.instant Cut
  rcases lt_trichotomy time.second later.second with less | equal | more
  · -- Whole seconds lie between.
    have apart : (time.second : ℚ) + 1 ≤ later.second := by exact_mod_cast less
    refine iff_of_true (Or.inl less) (Or.inr ⟨fun cut => by omega, by linarith⟩)
  · simp [equal]
  · have apart : (later.second : ℚ) + 1 ≤ time.second := by exact_mod_cast more
    refine iff_of_false ?_ ?_
    · rintro (less | ⟨equal, _⟩)
      · omega
      · omega
    · rintro (⟨equal, _⟩ | ⟨_, less⟩)
      · omega
      · linarith

/-- A time that goes on is not earlier. -/
theorem Cut.instant_le {time longer : Time} (cut : Cut time longer)
    (denotes : time? text = some longer) : time.instant ≤ longer.instant := by
  have worth := fraction_le_of_prefix cut.2.1 (isDigit_of_time? denotes)
  have whole : (time.second : ℚ) = longer.second := by exact_mod_cast cut.1
  unfold Time.instant
  linarith

end UtcText
