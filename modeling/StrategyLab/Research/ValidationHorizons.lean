import StrategyLab.Lib.Decimal
import StrategyLab.Lib.IsoDates
import StrategyLab.Lib.Raise

/-! Validation horizons: the windows of market data that a study goes back over from one day. -/

namespace Py

/-- The items in front of an index; a negative one is counted from the end. -/
def firstSlice {α : Type} (index : Int) (items : List α) : List α :=
  if 0 ≤ index then items.take index.toNat else items.take (items.length - index.natAbs)

/-- What is in front of an index is one of the items. -/
theorem mem_of_mem_firstSlice {α : Type} {index : Int} {items : List α} {item : α}
    (member : item ∈ firstSlice index items) : item ∈ items := by
  unfold firstSlice at member
  split at member
  · exact List.mem_of_mem_take member
  · exact List.mem_of_mem_take member

end Py

namespace StrategyLab

/-- What reading a date and moving it can raise. -/
inductive DateError where
  | valueError (message : String)
  | invalidIsoformat
  | outOfRange
  deriving DecidableEq, Repr

/-- Whether a text matches the pattern of dates; the pattern takes all digits of Unicode. -/
def dateOnly (value : String) : Bool :=
  (Py.Date.parts? value).any fun found =>
    (found.1 ++ found.2.1 ++ found.2.2).all fun c => (Py.decimalValue c).isSome

/-- Refuse a text of another form than YYYY-MM-DD. -/
def validateDate (value : String) : Except DateError Unit :=
  Raise.ensure (dateOnly value) (.valueError "date must use YYYY-MM-DD")

/-- The day of a text of that form; `fromisoformat` takes the digits of ASCII alone. -/
def dateOf (value : String) : Except DateError Py.Date :=
  match Py.Date.fromIsoFormat value with
  | some date => .ok date
  | none => .error .invalidIsoformat

/-- The same day some years before. -/
def yearsBefore (last : Py.Date) (years : Int) : Except DateError Py.Date :=
  match last.replaceYear (last.year - years) with
  | some first => .ok first
  | none => .error .outOfRange

/-- The start of a study that goes back some years. -/
def startForYears (endDate : String) (years : Int) : Except DateError String := do
  let last ← dateOf endDate
  let first ← yearsBefore last years
  return first.isoformat

/-- How far a validation may go back for market data. -/
structure ProductionValidationHorizonPolicy where
  horizonYears : List Int := [1, 3, 5]
  maxMarketDataRequests : Int := 3

/-- A span of days that market data is asked for. -/
structure HorizonWindow where
  label : String
  start : String
  last : String
  deriving DecidableEq, Repr

namespace ProductionValidationHorizonPolicy

variable (policy : ProductionValidationHorizonPolicy)

/-- The horizons that there are requests for. -/
def requested : List Int := Py.firstSlice policy.maxMarketDataRequests policy.horizonYears

/-- The window that goes back some years. -/
def window (last : Py.Date) (years : Int) : Except DateError HorizonWindow := do
  let first ← yearsBefore last years
  return ⟨toString years ++ "y", first.isoformat, last.isoformat⟩

/-- The windows that end on a day. -/
def windows (endDate : String) : Except DateError (List HorizonWindow) := do
  validateDate endDate
  let last ← dateOf endDate
  policy.requested.mapM (window last)

end ProductionValidationHorizonPolicy

/-- The number that digits of Unicode stand for, behind a number that was read before. -/
def decimalNumber (digits : List Char) (before : Nat) : Option Nat :=
  digits.foldlM (fun number c => (Py.decimalValue c).map (10 * number + ·)) before

/-- The day of the calendar that a text denotes, whatever its digits are. -/
def denotedDate (value : String) : Option Py.Date :=
  (Py.Date.parts? value).bind fun found => do
    let year ← decimalNumber found.1 0
    let month ← decimalNumber found.2.1 0
    let day ← decimalNumber found.2.2 0
    Py.Date.ofParts year month day

/-- One window holds all days of another one. -/
def HorizonWindow.Contains (outer inner : HorizonWindow) : Prop :=
  ∃ first last first' last', Py.Date.fromIsoFormat outer.start = some first ∧
    Py.Date.fromIsoFormat outer.last = some last ∧
    Py.Date.fromIsoFormat inner.start = some first' ∧
    Py.Date.fromIsoFormat inner.last = some last' ∧
    first.rank ≤ first'.rank ∧ last'.rank ≤ last.rank

/-- A window starts before the day that it ends on. -/
def HorizonWindow.EndsOn (window : HorizonWindow) (endDate : String) (last : Py.Date) : Prop :=
  window.last = endDate ∧
    ∃ first, Py.Date.fromIsoFormat window.start = some first ∧ first.rank < last.rank

/-- The windows of a policy and the starts of its horizons are there, each starts before the day
and ends on it, and a longer horizon holds a shorter one. -/
structure HorizonsTotal (policy : ProductionValidationHorizonPolicy) (endDate : String)
    (last : Py.Date) : Prop where
  windows : ∃ windows, policy.windows endDate = .ok windows ∧
    windows.length = policy.requested.length ∧
    (∀ window ∈ windows, window.EndsOn endDate last) ∧
    ∀ (i j : Nat) (shorter longer : Int) (inner outer : HorizonWindow),
      policy.requested[i]? = some shorter → policy.requested[j]? = some longer →
      windows[i]? = some inner → windows[j]? = some outer → shorter ≤ longer →
      outer.Contains inner
  starts : ∀ years ∈ policy.horizonYears, ∃ first, startForYears endDate years = .ok first ∧
    ∃ day, Py.Date.fromIsoFormat first = some day ∧ day.rank < last.rank

section Digits

variable {c : Char} {digits : List Char} {value : String} {date : Py.Date}

/-- A digit of ASCII is one of Unicode, of the same value. -/
theorem decimalValue_of_isDigit (digit : c.isDigit = true) :
    Py.decimalValue c = some (c.toNat - 48) := by
  have bounds := Char.isDigit_iff_toNat.mp digit
  simp only [Char.reduceToNat] at bounds
  unfold Py.decimalValue Py.decimalZeros
  rw [List.find?_cons_of_pos (by simp; omega)]
  rfl

/-- The other zeros lie behind ASCII. -/
theorem zero_or_le_of_mem {start : Nat} (member : start ∈ Py.decimalZeros) :
    start = 48 ∨ 128 ≤ start := by
  have all : Py.decimalZeros.all fun start => start = 48 || 128 ≤ start := by decide
  simpa using List.all_eq_true.mp all start member

/-- The digits of Unicode within ASCII are those of ASCII. -/
theorem isDigit_of_decimalValue {n : Nat} (ascii : c.toNat < 128)
    (reads : Py.decimalValue c = some n) : c.isDigit = true := by
  unfold Py.decimalValue at reads
  obtain ⟨start, found, -⟩ := Option.map_eq_some_iff.mp reads
  have within := List.find?_some found
  have first := zero_or_le_of_mem (List.mem_of_find?_eq_some found)
  simp only [Bool.and_eq_true, decide_eq_true_eq] at within
  rw [Char.isDigit_iff_toNat]
  simp only [Char.reduceToNat]
  omega

/-- Within ASCII the digits of Unicode stand for the number that those of ASCII do. -/
theorem decimalNumber_eq_some_iff {before n : Nat} :
    (decimalNumber digits before = some n ∧ ∀ c ∈ digits, c.toNat < 128) ↔
      (∀ c ∈ digits, c.isDigit = true) ∧ Nat.ofDigitChars 10 digits before = n := by
  induction digits generalizing before with
  | nil => simp [decimalNumber]
  | cons c rest ih =>
    have next (number : Nat) : (decimalNumber (c :: rest) before = some n) ↔
        ∃ digit, Py.decimalValue c = some digit ∧
          decimalNumber rest (10 * before + digit) = some n := by
      unfold decimalNumber
      rw [List.foldlM_cons]
      simp [Option.bind_eq_some_iff]
    simp only [List.mem_cons, forall_eq_or_imp, Nat.ofDigitChars_cons, Char.reduceToNat]
    constructor
    · rintro ⟨reads, ascii, others⟩
      obtain ⟨digit, first, more⟩ := (next 0).mp reads
      have isDigit := isDigit_of_decimalValue ascii first
      obtain rfl := Option.some.inj ((decimalValue_of_isDigit isDigit).symm.trans first)
      obtain ⟨all, value⟩ := ih.mp ⟨more, others⟩
      exact ⟨⟨isDigit, all⟩, value⟩
    · rintro ⟨⟨isDigit, all⟩, value⟩
      obtain ⟨more, others⟩ := ih.mpr ⟨all, value⟩
      have bounds := Char.isDigit_iff_toNat.mp isDigit
      simp only [Char.reduceToNat] at bounds
      exact ⟨(next 0).mpr ⟨_, decimalValue_of_isDigit isDigit, more⟩, by omega, others⟩

/-- The digits that are read are those of ASCII. -/
theorem digitsValue_eq_some_iff {n : Nat} : Py.Date.digitsValue digits = some n ↔
    decimalNumber digits 0 = some n ∧ ∀ c ∈ digits, c.toNat < 128 := by
  rw [decimalNumber_eq_some_iff, Py.Date.digitsValue, ← List.all_eq_true]
  split
  · rename_i all
    simp [all]
  · rename_i other
    simp [other]

/-- The days that are read are those that are denoted with the digits of ASCII. -/
theorem fromIsoFormat_eq_some_iff : Py.Date.fromIsoFormat value = some date ↔
    denotedDate value = some date ∧ ∀ c ∈ value.toList, c.toNat < 128 := by
  rw [Py.Date.fromIsoFormat_eq, denotedDate, Option.bind_eq_some_iff, Option.bind_eq_some_iff]
  constructor
  · rintro ⟨⟨year, month, day⟩, found, reads⟩
    simp only [Option.bind_eq_bind, Option.bind_eq_some_iff] at reads
    obtain ⟨y, isYear, m, isMonth, d, isDay, made⟩ := reads
    obtain ⟨isYear, years⟩ := digitsValue_eq_some_iff.mp isYear
    obtain ⟨isMonth, months⟩ := digitsValue_eq_some_iff.mp isMonth
    obtain ⟨isDay, days⟩ := digitsValue_eq_some_iff.mp isDay
    refine ⟨⟨_, found, ?_⟩, ?_⟩
    · simp only [Option.bind_eq_bind, isYear, isMonth, isDay, Option.bind_some]
      exact made
    · rw [(Py.Date.parts?_eq_some_iff.mp found).1]
      simp only [List.mem_append, List.mem_cons]
      rintro c (member | rfl | member | rfl | member)
      · exact years c member
      · decide
      · exact months c member
      · decide
      · exact days c member
  · rintro ⟨⟨⟨year, month, day⟩, found, reads⟩, ascii⟩
    simp only [Option.bind_eq_bind, Option.bind_eq_some_iff] at reads
    obtain ⟨y, isYear, m, isMonth, d, isDay, made⟩ := reads
    rw [(Py.Date.parts?_eq_some_iff.mp found).1] at ascii
    have years := digitsValue_eq_some_iff.mpr ⟨isYear, fun c member => ascii c (by simp [member])⟩
    have months :=
      digitsValue_eq_some_iff.mpr ⟨isMonth, fun c member => ascii c (by simp [member])⟩
    have days := digitsValue_eq_some_iff.mpr ⟨isDay, fun c member => ascii c (by simp [member])⟩
    refine ⟨_, found, ?_⟩
    simp only [Option.bind_eq_bind, years, months, days, Option.bind_some]
    exact made

/-- A text that denotes a day has the form of a date. -/
theorem validateDate_of_denotedDate (denotes : denotedDate value = some date) :
    validateDate value = .ok () := by
  have read {digits : List Char} {before n : Nat} (reads : decimalNumber digits before = some n) :
      ∀ c ∈ digits, (Py.decimalValue c).isSome := by
    induction digits generalizing before with
    | nil => simp
    | cons c rest ih =>
      unfold decimalNumber at reads
      rw [List.foldlM_cons] at reads
      simp only [Option.bind_eq_bind, Option.bind_eq_some_iff, Option.map_eq_some_iff] at reads
      obtain ⟨_, ⟨digit, first, rfl⟩, more⟩ := reads
      intro other member
      rcases List.mem_cons.mp member with rfl | later
      · rw [first]
        rfl
      · exact ih more other later
  rw [denotedDate, Option.bind_eq_some_iff] at denotes
  obtain ⟨⟨year, month, day⟩, found, reads⟩ := denotes
  simp only [Option.bind_eq_bind, Option.bind_eq_some_iff] at reads
  obtain ⟨y, isYear, m, isMonth, d, isDay, -⟩ := reads
  rw [validateDate, Raise.ensure_eq_ok, dateOnly, found, Option.any_some, List.all_eq_true]
  intro c member
  simp only [List.mem_append] at member
  rcases member with (member | member) | member
  · exact read isYear c member
  · exact read isMonth c member
  · exact read isDay c member

end Digits

section Windows

variable {policy : ProductionValidationHorizonPolicy} {endDate : String} {last first : Py.Date}
  {years : Int}

/-- A date is what is read from its text. -/
theorem dateOf_eq_ok_iff : dateOf endDate = .ok last ↔
    Py.Date.fromIsoFormat endDate = some last := by
  unfold dateOf
  cases Py.Date.fromIsoFormat endDate with
  | none => simp
  | some date => simp

/-- Going back is a move to an earlier year. -/
theorem yearsBefore_eq_ok_iff : yearsBefore last years = .ok first ↔
    last.replaceYear (last.year - years) = some first := by
  unfold yearsBefore
  cases last.replaceYear (last.year - years) with
  | none => simp
  | some moved => simp

/-- A horizon starts on the day that is gone back to. -/
theorem startForYears_eq_ok_iff {start : String} : startForYears endDate years = .ok start ↔
    ∃ last first, Py.Date.fromIsoFormat endDate = some last ∧
      last.replaceYear (last.year - years) = some first ∧ first.isoformat = start := by
  unfold startForYears
  simp only [Raise.bind_eq_ok, dateOf_eq_ok_iff, yearsBefore_eq_ok_iff, Raise.pure_eq_ok,
    exists_and_left]

/-- The windows are read from a date and made one by one. -/
theorem windows_eq_ok_iff {windows : List HorizonWindow} :
    policy.windows endDate = .ok windows ↔ validateDate endDate = .ok () ∧
      ∃ last, Py.Date.fromIsoFormat endDate = some last ∧
        policy.requested.mapM (ProductionValidationHorizonPolicy.window last) = .ok windows := by
  unfold ProductionValidationHorizonPolicy.windows
  simp only [Raise.bind_eq_ok, dateOf_eq_ok_iff]
  exact ⟨fun ⟨_, valid, made⟩ => ⟨valid, made⟩, fun ⟨valid, made⟩ => ⟨(), valid, made⟩⟩

/-- Going back some years leads to an earlier day, and to an earlier one if they are more. -/
theorem rank_replaceYear {year : Int} (moved : last.replaceYear year = some first) :
    (first.rank : Int) = last.rank - 372 * (last.year - year) := by
  obtain ⟨isYear, month, day⟩ := Py.Date.year_replaceYear moved
  simp only [Py.Date.rank]
  omega

end Windows

/-- From the last day of February in a leap year the windows go back to leap years only, and to no
year from a text with digits that are not those of ASCII. -/
theorem horizonsTotal_iff (policy : ProductionValidationHorizonPolicy) (endDate : String)
    (last : Py.Date) (denotes : denotedDate endDate = some last)
    (sound : ∀ years ∈ policy.horizonYears, 0 < years ∧ years < last.year) :
    HorizonsTotal policy endDate last ↔ (∀ c ∈ endDate.toList, c.toNat < 128) ∧
      (last.month = 2 ∧ last.day = 29 →
        ∀ years ∈ policy.horizonYears, Py.isLeap (last.year - years).toNat = true) := by
  have high := last.year_le
  have range : ∀ years ∈ policy.horizonYears,
      1 ≤ (last.year : Int) - years ∧ (last.year : Int) - years ≤ 9999 := by
    intro years member
    have bounds := sound years member
    omega
  constructor
  · intro total
    obtain ⟨windows, made, -⟩ := total.windows
    obtain ⟨-, date, reads, -⟩ := windows_eq_ok_iff.mp made
    refine ⟨(fromIsoFormat_eq_some_iff.mp reads).2, fun lastDay years member => ?_⟩
    obtain ⟨start, started, -⟩ := total.starts years member
    obtain ⟨date, first, reads, moved, -⟩ := startForYears_eq_ok_iff.mp started
    obtain rfl := Option.some.inj (denotes.symm.trans (fromIsoFormat_eq_some_iff.mp reads).1)
    obtain ⟨low, top⟩ := range years member
    exact (Py.Date.replaceYear_isSome_iff low top).mp (by rw [moved]; rfl) lastDay
  · rintro ⟨ascii, leap⟩
    have reads := fromIsoFormat_eq_some_iff.mpr ⟨denotes, ascii⟩
    have text := Py.Date.isoformat_of_fromIsoFormat reads
    -- Every horizon has a day that it goes back to.
    have moves : ∀ years ∈ policy.horizonYears,
        ∃ first, last.replaceYear (last.year - years) = some first := by
      intro years member
      obtain ⟨low, top⟩ := range years member
      exact Option.isSome_iff_exists.mp ((Py.Date.replaceYear_isSome_iff low top).mpr
        fun lastDay => leap lastDay years member)
    have earlier : ∀ years ∈ policy.horizonYears, ∀ first,
        last.replaceYear (last.year - years) = some first → first.rank < last.rank := by
      intro years member first moved
      have rank := rank_replaceYear moved
      have positive := (sound years member).1
      omega
    refine ⟨?_, ?_⟩
    · let day (years : Int) : Py.Date := (last.replaceYear (last.year - years)).getD last
      have moved : ∀ years ∈ policy.requested,
          last.replaceYear (last.year - years) = some (day years) := by
        intro years member
        obtain ⟨first, moved⟩ := moves years (Py.mem_of_mem_firstSlice member)
        simp only [day, moved, Option.getD_some]
      let window (years : Int) : HorizonWindow :=
        ⟨toString years ++ "y", (day years).isoformat, last.isoformat⟩
      refine ⟨policy.requested.map window, windows_eq_ok_iff.mpr
        ⟨validateDate_of_denotedDate denotes, last, reads, ?_⟩, by simp, ?_, ?_⟩
      · rw [Raise.mapM_eq_ok_iff_forall₂, List.forall₂_map_right_iff, List.forall₂_same]
        intro years member
        unfold ProductionValidationHorizonPolicy.window
        exact Raise.bind_eq_ok.mpr ⟨_, yearsBefore_eq_ok_iff.mpr (moved years member), rfl⟩
      · intro made there
        obtain ⟨years, member, rfl⟩ := List.mem_map.mp there
        exact ⟨text, day years, Py.Date.fromIsoFormat_isoformat _,
          earlier years (Py.mem_of_mem_firstSlice member) _ (moved years member)⟩
      · intro i j shorter longer inner outer isShorter isLonger isInner isOuter fewer
        rw [List.getElem?_map, isShorter] at isInner
        rw [List.getElem?_map, isLonger] at isOuter
        obtain rfl := Option.some.inj isInner
        obtain rfl := Option.some.inj isOuter
        have first := rank_replaceYear (moved shorter (List.mem_of_getElem? isShorter))
        have second := rank_replaceYear (moved longer (List.mem_of_getElem? isLonger))
        exact ⟨_, _, _, _, Py.Date.fromIsoFormat_isoformat _, Py.Date.fromIsoFormat_isoformat _,
          Py.Date.fromIsoFormat_isoformat _, Py.Date.fromIsoFormat_isoformat _, by omega, le_rfl⟩
    · intro years member
      obtain ⟨first, moved⟩ := moves years member
      exact ⟨first.isoformat, startForYears_eq_ok_iff.mpr ⟨last, first, reads, moved, rfl⟩, first,
        Py.Date.fromIsoFormat_isoformat _, earlier years member first moved⟩

/-- The default horizons are there from the last day of March. -/
theorem horizons_of_march :
    ∃ last, denotedDate "2024-03-31" = some last ∧ HorizonsTotal {} "2024-03-31" last := by
  have there : (denotedDate "2024-03-31").map (fun last => (last.year, last.month)) =
      some (2024, 3) := by decide +kernel
  obtain ⟨last, denotes, parts⟩ := Option.map_eq_some_iff.mp there
  obtain ⟨year, month⟩ := Prod.mk.inj parts
  refine ⟨last, denotes, (horizonsTotal_iff {} "2024-03-31" last denotes ?_).mpr ⟨by simp, ?_⟩⟩
  · rw [year]
    decide
  · rintro ⟨february, -⟩
    omega

/-- From the last day of February in a leap year no default horizon can be gone back. -/
theorem no_horizons_of_leap_day : validateDate "2024-02-29" = .ok () ∧
    ({} : ProductionValidationHorizonPolicy).windows "2024-02-29" = .error .outOfRange ∧
    startForYears "2024-02-29" 1 = .error .outOfRange ∧
    ∃ last, denotedDate "2024-02-29" = some last ∧
      (∀ years ∈ ({} : ProductionValidationHorizonPolicy).horizonYears,
        0 < years ∧ years < last.year) ∧
      ¬HorizonsTotal {} "2024-02-29" last := by
  have raised : ({} : ProductionValidationHorizonPolicy).windows "2024-02-29" =
      .error .outOfRange := by decide +kernel
  have there : (denotedDate "2024-02-29").map (·.year) = some 2024 := by decide +kernel
  obtain ⟨last, denotes, year⟩ := Option.map_eq_some_iff.mp there
  refine ⟨by decide +kernel, raised, by decide +kernel, last, denotes, ?_, ?_⟩
  · rw [year]
    decide
  · intro total
    obtain ⟨windows, made, -⟩ := total.windows
    rw [raised] at made
    cases made

end StrategyLab
