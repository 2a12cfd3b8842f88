import StrategyLab.Research.AlignedPeers
import StrategyLab.Lib.Dates

/-! Data quality: a pass over the bars of a dataset, its missing dates, and what is vouched for. -/

namespace StrategyLab

open Raise (bind_eq_ok pure_eq_ok ensure_eq_ok)

/-- The verdict on a dataset. -/
inductive DataQualityStatus where
  | pass
  | passWithWarnings
  | fail
  deriving DecidableEq, Repr

/-- Something that was noticed about a dataset. -/
structure DataQualityFinding where
  code : String
  severity : String
  message : String
  deriving DecidableEq

/-- The verdict on a dataset with everything that was noticed. -/
structure DataQualityReport where
  reportId : String
  datasetId : String
  status : DataQualityStatus
  findings : List DataQualityFinding
  generatedAt : String
  deriving DecidableEq

/-- The period a dataset was asked for, and when it was retrieved. -/
structure MarketDataMetadata where
  startDate : String
  endDate : String
  retrievedAt : String
  ordered : startDate ≤ endDate

/-- A dataset with the symbols it declares; the pattern of dates lets no bar be without one. -/
structure DeclaredDataset extends MarketDataset where
  symbols : List String
  metadata : MarketDataMetadata
  dated : ∀ bar ∈ bars, bar.timestamp ≠ ""

/-- The open dates of an exchange from one date to another. -/
structure TradingCalendar where
  expectedOpenDates : String → String → List String

/-- What a caller may set for a check. -/
structure QualityOptions where
  minBars : Int := 3
  maxStaleDays : Int := 3650
  calendar : Option TradingCalendar := none
  missingDateClassifier : Option (String → DataQualityFinding) := none
  zeroVolumeClassifier : Option (MarketBar → DataQualityFinding) := none

/-- The instant of a report, in microseconds and as a text, and the suffix of its id. -/
structure ReportStamp where
  now : Int
  generatedAt : String
  hex : String

/-- What a check raises: a date the calendar does not have, or a day past its end. -/
inductive DataQualityError where
  | valueError
  | overflowError
  deriving DecidableEq, Repr

/-- How far prices may be apart and still count as the same. -/
def ohlcFloatTolerance : ℚ := 1 / 1000000

/-- The open and the close lie between the low and the high. -/
def validOhlc (bar : MarketBar) : Bool :=
  (bar.low - ohlcFloatTolerance ≤ bar.open_ && bar.open_ ≤ bar.high + ohlcFloatTolerance) &&
    (bar.low - ohlcFloatTolerance ≤ bar.close && bar.close ≤ bar.high + ohlcFloatTolerance) &&
    bar.low ≤ bar.high + ohlcFloatTolerance

/-- Report a finding when something is noticed. -/
def reportIf (noticed : Bool) (finding : DataQualityFinding) : List DataQualityFinding :=
  if noticed then [finding] else []

section Check

variable (str : ℚ → String) (fromIsoFormat : String → Except String Int)

/-- The day and the prices of a bar, as findings name them. -/
def barText (bar : MarketBar) : String :=
  s!"symbol={bar.symbol} date={bar.timestamp} open={str bar.open_} " ++
    s!"high={str bar.high} low={str bar.low} close={str bar.close}"

/-- The finding on a bar without volume. -/
def zeroVolumeFinding (classifier : Option (MarketBar → DataQualityFinding)) (bar : MarketBar) :
    DataQualityFinding :=
  match classifier with
  | some classify => classify bar
  | none => ⟨"zero_volume", "warning", "zero volume bar requires review: " ++ barText str bar⟩

/-- What is noticed about the volume of a bar. -/
def volumeFindings (options : QualityOptions) (bar : MarketBar) : List DataQualityFinding :=
  if bar.volume < 0 ∨ bar.tradingValue < 0 then
    [⟨"negative_volume", "error", "volume and trading_value must be non-negative"⟩]
  else if bar.volume = 0 then [zeroVolumeFinding str options.zeroVolumeClassifier bar]
  else reportIf (100000000000 < bar.volume)
    ⟨"abnormal_volume", "warning", "abnormally high volume"⟩

/-- A bar comes before the one that was looked at last. -/
def goesBack (previous : Option String) (bar : MarketBar) : Bool :=
  previous.any fun last => last ≠ "" && bar.timestamp < last

/-- What is noticed about a bar after those that were seen. -/
def barFindings (options : QualityOptions) (symbols : List String) (seen : List (String × String))
    (previous : Option String) (bar : MarketBar) : List DataQualityFinding :=
  reportIf ((bar.symbol, bar.timestamp) ∈ seen)
      ⟨"duplicate_bars", "error", s!"duplicate bar {bar.symbol} {bar.timestamp}"⟩ ++
    reportIf (goesBack previous bar)
      ⟨"timestamp_ordering", "error", "bars must be sorted by timestamp"⟩ ++
    reportIf (bar.symbol ∉ symbols)
      ⟨"symbol_mismatch", "error", s!"bar symbol {bar.symbol} is not in dataset symbols"⟩ ++
    reportIf (!validOhlc bar)
      ⟨"invalid_ohlc", "error", "OHLC values are inconsistent: " ++ barText str bar⟩ ++
    volumeFindings str options bar

/-- What is noticed in the pass over the bars. -/
def scanBars (options : QualityOptions) (symbols : List String) :
    List (String × String) → Option String → List MarketBar → List DataQualityFinding
  | _, _, [] => []
  | seen, previous, bar :: rest =>
    barFindings str options symbols seen previous bar ++
      scanBars options symbols ((bar.symbol, bar.timestamp) :: seen) (some bar.timestamp) rest

/-- All dates from one to another. -/
def dateRange (start end_ : String) : Except DataQualityError (List String) :=
  match Py.Date.fromIsoFormat start, Py.Date.fromIsoFormat end_ with
  | some first, some last =>
    match Py.Date.range first last with
    | some days => .ok (days.map (·.isoformat))
    | none => .error .overflowError
  | _, _ => .error .valueError

/-- The dates a dataset should have bars on: those of its calendar, or all its dates span. -/
def expectedDates (options : QualityOptions) (dataset : DeclaredDataset) (first last : String) :
    Except DataQualityError (List String) :=
  match options.calendar with
  | some calendar =>
    .ok (calendar.expectedOpenDates dataset.metadata.startDate dataset.metadata.endDate)
  | none => dateRange first last

/-- The finding on all missing dates together. -/
def missingDatesFinding (options : QualityOptions) (count : Nat) : DataQualityFinding :=
  let label := if options.calendar.isSome then "trading dates" else "calendar dates"
  ⟨"missing_dates", "warning", s!"missing {count} {label}"⟩

/-- What is noticed about the dates no bar has. -/
def missingFindings (options : QualityOptions) (missing : List String) : List DataQualityFinding :=
  if missing = [] then []
  else
    match options.missingDateClassifier with
    | some classify => missing.map classify
    | none => [missingDatesFinding options missing.length]

/-- What is noticed about the dates of a dataset, if it has any. -/
def dateFindings (options : QualityOptions) (dataset : DeclaredDataset) :
    Except DataQualityError (List DataQualityFinding) :=
  let dates := dataset.bars.map (·.timestamp)
  match dates.min?, dates.max? with
  | some first, some last => do
    let expected ← expectedDates options dataset first last
    return missingFindings options (sortedSet (expected.filter (· ∉ dates)))
  | _, _ => .ok []

/-- What is noticed about the age of a dataset. -/
def staleFindings (options : QualityOptions) (stamp : ReportStamp) (retrievedAt : String) :
    Except DataQualityError (List DataQualityFinding) :=
  match fromIsoFormat (Py.replace retrievedAt "Z" "+00:00") with
  | .error _ => .ok [⟨"stale_data", "error", "retrieved_at is not valid UTC"⟩]
  | .ok retrieved => do
    -- A span of more days than this cannot be written.
    Raise.ensure (options.maxStaleDays.natAbs ≤ 999999999) .overflowError
    return reportIf (options.maxStaleDays * 86400000000 < stamp.now - retrieved)
      ⟨"stale_data", "warning", "dataset retrieved_at is stale"⟩

/-- The verdict that findings lead to. -/
def DataQualityStatus.ofFindings (findings : List DataQualityFinding) : DataQualityStatus :=
  let severities := findings.map (·.severity)
  if "error" ∈ severities then .fail
  else if "warning" ∈ severities then .passWithWarnings
  else .pass

/-- Check a dataset. -/
def DataQualityEngine.validate (stamp : ReportStamp) (dataset : DeclaredDataset)
    (options : QualityOptions) : Except DataQualityError DataQualityReport := do
  let scanned := scanBars str options dataset.symbols [] none dataset.bars
  let short := reportIf (dataset.bars.length < options.minBars)
    ⟨"insufficient_lookback", "error", "dataset has insufficient lookback"⟩
  let missing ← dateFindings options dataset
  let stale ← staleFindings fromIsoFormat options stamp dataset.metadata.retrievedAt
  let findings := scanned ++ short ++ missing ++ stale
  return {
    reportId := s!"quality:{dataset.datasetId}:{stamp.hex}"
    datasetId := dataset.datasetId
    status := .ofFindings findings
    findings
    generatedAt := stamp.generatedAt }

end Check

/-- The open and the close of a bar lie between its low and its high, but for the tolerance. -/
structure ConsistentOhlc (bar : MarketBar) : Prop where
  low_le_open : bar.low - ohlcFloatTolerance ≤ bar.open_
  open_le_high : bar.open_ ≤ bar.high + ohlcFloatTolerance
  low_le_close : bar.low - ohlcFloatTolerance ≤ bar.close
  close_le_high : bar.close ≤ bar.high + ohlcFloatTolerance
  low_le_high : bar.low ≤ bar.high + ohlcFloatTolerance

variable {bar : MarketBar}

/-- The check of prices is that they are consistent. -/
theorem validOhlc_iff : validOhlc bar = true ↔ ConsistentOhlc bar := by
  simp only [validOhlc, Bool.and_eq_true, decide_eq_true_eq]
  constructor
  · rintro ⟨⟨⟨lowOpen, openHigh⟩, lowClose, closeHigh⟩, lowHigh⟩
    exact ⟨lowOpen, openHigh, lowClose, closeHigh, lowHigh⟩
  · intro valid
    exact ⟨⟨⟨valid.low_le_open, valid.open_le_high⟩, valid.low_le_close, valid.close_le_high⟩,
      valid.low_le_high⟩

/-- A bar of a declared symbol with consistent prices and no negative volume. -/
structure SoundBar (symbols : List String) (bar : MarketBar) : Prop where
  declared : bar.symbol ∈ symbols
  consistent : ConsistentOhlc bar
  volume : 0 ≤ bar.volume
  tradingValue : 0 ≤ bar.tradingValue

/-- A bar does not go back behind a named timestamp exactly if it is not before it. -/
theorem goesBack_eq_false {last : String} :
    goesBack (some last) bar = false ↔ last = "" ∨ last ≤ bar.timestamp := by
  simp only [goesBack, Option.any_some, Bool.and_eq_false_iff, decide_eq_false_iff_not, not_not,
    not_lt]

/-- Findings none of which is an error. -/
def ErrorFree (findings : List DataQualityFinding) : Prop :=
  ∀ finding ∈ findings, finding.severity ≠ "error"

variable {findings : List DataQualityFinding}

/-- Findings are free of errors exactly if they do not fail the dataset. -/
theorem errorFree_iff :
    ErrorFree findings ↔ DataQualityStatus.ofFindings findings ≠ .fail := by
  simp only [ErrorFree, DataQualityStatus.ofFindings, List.mem_map]
  constructor
  · intro errorFree
    rw [if_neg (by rintro ⟨finding, member, error⟩; exact errorFree finding member error)]
    split <;> simp
  · intro passed finding member error
    exact passed (if_pos ⟨finding, member, error⟩)

/-- Findings in a row are free of errors exactly if both parts are. -/
@[simp] theorem errorFree_append {first second : List DataQualityFinding} :
    ErrorFree (first ++ second) ↔ ErrorFree first ∧ ErrorFree second := by
  simp only [ErrorFree, List.mem_append, or_imp, forall_and]

variable {finding : DataQualityFinding}

/-- An error is not reported exactly if it is not noticed. -/
theorem errorFree_reportIf {noticed : Bool} (error : finding.severity = "error") :
    ErrorFree (reportIf noticed finding) ↔ noticed = false := by
  cases noticed with
  | false => simp [ErrorFree, reportIf]
  | true => simp [ErrorFree, reportIf, error]

section Pass

variable {str : ℚ → String} {options : QualityOptions} {symbols : List String}
  {seen : List (String × String)} {previous : Option String}

/-- A bar on whose volume no error is reported has none below zero. -/
theorem volume_of_errorFree (errorFree : ErrorFree (volumeFindings str options bar)) :
    0 ≤ bar.volume ∧ 0 ≤ bar.tradingValue := by
  by_cases negative : bar.volume < 0 ∨ bar.tradingValue < 0
  · rw [volumeFindings, if_pos negative] at errorFree
    exact absurd rfl (errorFree _ List.mem_cons_self)
  · omega

/-- A bar on which nothing but warnings is reported is new, not before the last one, and sound. -/
theorem sound_of_barFindings
    (errorFree : ErrorFree (barFindings str options symbols seen previous bar)) :
    (bar.symbol, bar.timestamp) ∉ seen ∧ goesBack previous bar = false ∧ SoundBar symbols bar := by
  simp only [barFindings, errorFree_append] at errorFree
  obtain ⟨⟨⟨⟨fresh, forward⟩, declared⟩, consistent⟩, volume⟩ := errorFree
  rw [errorFree_reportIf rfl] at fresh forward declared consistent
  simp only [decide_eq_false_iff_not, not_not, Bool.not_eq_false'] at fresh declared consistent
  obtain ⟨traded, valued⟩ := volume_of_errorFree volume
  exact ⟨fresh, forward, declared, validOhlc_iff.mp consistent, traded, valued⟩

/-- What is known about bars when their pass has reported no error. -/
structure CleanPass (symbols : List String) (seen : List (String × String))
    (previous : Option String) (bars : List MarketBar) : Prop where
  after : ∀ bar ∈ bars, goesBack previous bar = false
  rising : (bars.map (·.timestamp)).Pairwise (· ≤ ·)
  fresh : ∀ bar ∈ bars, (bar.symbol, bar.timestamp) ∉ seen
  distinct : (bars.map fun bar => (bar.symbol, bar.timestamp)).Nodup
  sound : ∀ bar ∈ bars, SoundBar symbols bar

variable {bars : List MarketBar}

/-- A pass without errors over dated bars has seen what it was to see. -/
theorem cleanPass_of_scanBars (dated : ∀ bar ∈ bars, bar.timestamp ≠ "")
    (errorFree : ErrorFree (scanBars str options symbols seen previous bars)) :
    CleanPass symbols seen previous bars := by
  induction bars generalizing seen previous with
  | nil => exact ⟨by simp, by simp, by simp, by simp, by simp⟩
  | cons bar rest ih =>
    rw [scanBars, errorFree_append] at errorFree
    obtain ⟨here, later⟩ := errorFree
    obtain ⟨fresh, forward, sound⟩ := sound_of_barFindings here
    have clean := ih (fun other member => dated other (List.mem_cons_of_mem _ member)) later
    -- A later bar does not go back behind this one, so it does not go behind the last one either.
    have above (other : MarketBar) (member : other ∈ rest) : bar.timestamp ≤ other.timestamp := by
      rcases goesBack_eq_false.mp (clean.after other member) with unnamed | ordered
      · exact absurd unnamed (dated bar List.mem_cons_self)
      · exact ordered
    refine ⟨?_, ?_, ?_, ?_, ?_⟩
    · intro other member
      rcases List.mem_cons.mp member with rfl | member
      · exact forward
      · cases previous with
        | none => rfl
        | some last =>
          rw [goesBack_eq_false] at forward ⊢
          exact forward.imp_right fun ordered => le_trans ordered (above other member)
    · rw [List.map_cons, List.pairwise_cons]
      refine ⟨?_, clean.rising⟩
      intro timestamp member
      obtain ⟨other, there, rfl⟩ := List.mem_map.mp member
      exact above other there
    · intro other member
      rcases List.mem_cons.mp member with rfl | member
      · exact fresh
      · exact fun there => clean.fresh other member (List.mem_cons_of_mem _ there)
    · rw [List.map_cons, List.nodup_cons]
      refine ⟨?_, clean.distinct⟩
      intro member
      obtain ⟨other, there, same⟩ := List.mem_map.mp member
      exact clean.fresh other there (same ▸ List.mem_cons_self)
    · intro other member
      rcases List.mem_cons.mp member with rfl | member
      · exact sound
      · exact clean.sound other member

/-- After a clean pass the timestamps of each symbol strictly rise. -/
theorem CleanPass.rising_of_symbol
    (clean : CleanPass symbols seen previous bars) (symbol : String) :
    ((bars.filter (·.symbol = symbol)).map (·.timestamp)).Pairwise (· < ·) := by
  have ordered := List.pairwise_map.mp clean.rising
  have distinct := List.pairwise_map.mp clean.distinct
  rw [List.pairwise_map]
  refine List.Pairwise.imp_of_mem ?_ ((ordered.and distinct).filter _)
  intro bar other member there related
  obtain ⟨below, apart⟩ := related
  have same := (List.mem_filter.mp member).2
  have same' := (List.mem_filter.mp there).2
  simp only [decide_eq_true_eq] at same same'
  -- Two bars of one symbol at one timestamp would be duplicates.
  refine lt_of_le_of_ne below fun equal => apart ?_
  rw [same, same', equal]

/-- The finding was given by one of the two classifiers. -/
def Classified (options : QualityOptions) (finding : DataQualityFinding) : Prop :=
  (∃ classify, options.zeroVolumeClassifier = some classify ∧ ∃ bar, classify bar = finding) ∨
    ∃ classify, options.missingDateClassifier = some classify ∧ ∃ day, classify day = finding

/-- What may be reported is reported exactly if it is noticed. -/
theorem mem_reportIf {noticed : Bool} {finding other : DataQualityFinding} :
    other ∈ reportIf noticed finding ↔ noticed = true ∧ other = finding := by
  cases noticed with
  | false => simp [reportIf]
  | true => simp [reportIf]

/-- Findings on a volume name no ordering, unless a classifier does. -/
theorem classified_of_volumeFindings (member : finding ∈ volumeFindings str options bar)
    (ordering : finding.code = "timestamp_ordering") : Classified options finding := by
  rw [volumeFindings] at member
  split at member
  · obtain rfl := List.mem_singleton.mp member
    exact absurd ordering (by decide)
  · split at member
    · obtain rfl := List.mem_singleton.mp member
      cases given : options.zeroVolumeClassifier with
      | none =>
        rw [given] at ordering
        exact absurd ordering (by simp [zeroVolumeFinding])
      | some classify => exact .inl ⟨classify, given, bar, rfl⟩
    · obtain ⟨-, rfl⟩ := mem_reportIf.mp member
      exact absurd ordering (by decide)

/-- On a bar that does not go back no ordering is reported, unless a classifier does. -/
theorem classified_of_barFindings (forward : goesBack previous bar = false)
    (member : finding ∈ barFindings str options symbols seen previous bar)
    (ordering : finding.code = "timestamp_ordering") : Classified options finding := by
  simp only [barFindings, List.mem_append, mem_reportIf] at member
  rcases member with (((⟨-, rfl⟩ | ⟨back, rfl⟩) | ⟨-, rfl⟩) | ⟨-, rfl⟩) | volume
  · exact absurd ordering (by simp)
  · rw [forward] at back
    cases back
  · exact absurd ordering (by simp)
  · exact absurd ordering (by simp)
  · exact classified_of_volumeFindings volume ordering

/-- In a pass over sorted bars no ordering is reported, unless a classifier does. -/
theorem classified_of_scanBars
    (after : ∀ last, previous = some last → ∀ bar ∈ bars, last ≤ bar.timestamp)
    (sorted : (bars.map (·.timestamp)).Pairwise (· ≤ ·))
    (member : finding ∈ scanBars str options symbols seen previous bars)
    (ordering : finding.code = "timestamp_ordering") : Classified options finding := by
  induction bars generalizing seen previous with
  | nil => cases member
  | cons bar rest ih =>
    rw [List.map_cons, List.pairwise_cons] at sorted
    rw [scanBars, List.mem_append] at member
    rcases member with here | later
    · refine classified_of_barFindings ?_ here ordering
      cases previous with
      | none => rfl
      | some last => exact goesBack_eq_false.mpr (.inr (after last rfl bar List.mem_cons_self))
    · -- The bar that was just seen is before all that follow.
      refine ih ?_ sorted.2 later
      intro last same other there
      obtain rfl := Option.some.inj same
      exact sorted.1 _ (List.mem_map_of_mem there)

end Pass

/-- A date the bars of a dataset should have: an open date of the calendar for its period or,
without a calendar, any date from the first to the last one of its bars. -/
def ExpectedDate (options : QualityOptions) (dataset : DeclaredDataset) (day : String) : Prop :=
  match options.calendar with
  | some calendar =>
    day ∈ calendar.expectedOpenDates dataset.metadata.startDate dataset.metadata.endDate
  | none =>
    ∃ first last date : Py.Date,
      ((dataset.bars.map (·.timestamp)).min?.bind Py.Date.fromIsoFormat) = some first ∧
      ((dataset.bars.map (·.timestamp)).max?.bind Py.Date.fromIsoFormat) = some last ∧
      (first.rank ≤ date.rank ∧ date.rank ≤ last.rank) ∧ date.isoformat = day

/-- A missing date is reported: by the finding its classifier gives or, without a classifier, by
one finding that counts the missing dates. -/
def MissingReported (options : QualityOptions) (findings : List DataQualityFinding)
    (day : String) : Prop :=
  match options.missingDateClassifier with
  | some classify => classify day ∈ findings
  | none => ∃ count, 0 < count ∧ missingDatesFinding options count ∈ findings

section Dates

variable {options : QualityOptions} {dataset : DeclaredDataset} {day : String}

/-- What is expected is among the dates that the check computes. -/
theorem mem_expectedDates {first last : String} {expected : List String}
    (least : (dataset.bars.map (·.timestamp)).min? = some first)
    (greatest : (dataset.bars.map (·.timestamp)).max? = some last)
    (computed : expectedDates options dataset first last = .ok expected)
    (wanted : ExpectedDate options dataset day) : day ∈ expected := by
  rw [ExpectedDate] at wanted
  rw [expectedDates] at computed
  cases given : options.calendar with
  | some calendar =>
    rw [given] at wanted computed
    obtain rfl := Except.ok.inj computed
    exact wanted
  | none =>
    rw [given] at wanted computed
    obtain ⟨start, end_, date, starts, ends, between, rfl⟩ := wanted
    rw [least, Option.bind_some] at starts
    rw [greatest, Option.bind_some] at ends
    simp only [dateRange, starts, ends] at computed
    cases days : Py.Date.range start end_ with
    | none =>
      rw [days] at computed
      cases computed
    | some all =>
      rw [days] at computed
      obtain rfl := Except.ok.inj computed
      exact List.mem_map_of_mem ((Py.Date.mem_range days).mpr between)

/-- Every date that is missing is reported. -/
theorem missingReported_of_mem {missing : List String} (member : day ∈ missing) :
    MissingReported options (missingFindings options missing) day := by
  have some_ : missing ≠ [] := List.ne_nil_of_mem member
  rw [MissingReported, missingFindings, if_neg some_]
  cases options.missingDateClassifier with
  | some classify => exact List.mem_map_of_mem member
  | none => exact ⟨missing.length, List.length_pos_of_mem member, List.mem_singleton_self _⟩

/-- A date without bars that is expected is reported among the findings on dates. -/
theorem missingReported_dateFindings
    (found : dateFindings options dataset = .ok findings) (bars : dataset.bars ≠ [])
    (wanted : ExpectedDate options dataset day)
    (missing : ∀ bar ∈ dataset.bars, bar.timestamp ≠ day) :
    MissingReported options findings day := by
  have dates : dataset.bars.map (·.timestamp) ≠ [] := by simpa using bars
  rw [dateFindings] at found
  -- A dataset with bars has a first and a last date.
  cases least : (dataset.bars.map (·.timestamp)).min? with
  | none => exact absurd (List.min?_eq_none_iff.mp least) dates
  | some first =>
    cases greatest : (dataset.bars.map (·.timestamp)).max? with
    | none => exact absurd (List.max?_eq_none_iff.mp greatest) dates
    | some last =>
      simp only [least, greatest] at found
      obtain ⟨expected, computed, done⟩ := bind_eq_ok.mp found
      obtain rfl := pure_eq_ok.mp done
      refine missingReported_of_mem (mem_sortedSet.mpr (List.mem_filter.mpr ⟨?_, ?_⟩))
      · exact mem_expectedDates least greatest computed wanted
      · simpa using missing

/-- Findings on dates name no ordering, unless a classifier does. -/
theorem classified_of_dateFindings (found : dateFindings options dataset = .ok findings)
    (member : finding ∈ findings) (ordering : finding.code = "timestamp_ordering") :
    Classified options finding := by
  rw [dateFindings] at found
  split at found
  · obtain ⟨expected, -, done⟩ := bind_eq_ok.mp found
    obtain rfl := pure_eq_ok.mp done
    rw [missingFindings] at member
    split at member
    · cases member
    · cases given : options.missingDateClassifier with
      | some classify =>
        rw [given] at member
        obtain ⟨day, -, same⟩ := List.mem_map.mp member
        exact .inr ⟨classify, given, day, same⟩
      | none =>
        rw [given] at member
        obtain rfl := List.mem_singleton.mp member
        exact absurd ordering (by simp [missingDatesFinding])
  · obtain rfl := Except.ok.inj found
    cases member

end Dates

section Report

variable {str : ℚ → String} {fromIsoFormat : String → Except String Int} {stamp : ReportStamp}
  {dataset : DeclaredDataset} {options : QualityOptions} {report : DataQualityReport}

/-- A report judges what the pass over the bars, their number, the dates and the age give. -/
theorem qualityReport_eq_ok
    (ran : DataQualityEngine.validate str fromIsoFormat stamp dataset options = .ok report) :
    ∃ missing stale, dateFindings options dataset = .ok missing ∧
      staleFindings fromIsoFormat options stamp dataset.metadata.retrievedAt = .ok stale ∧
      report.findings = scanBars str options dataset.symbols [] none dataset.bars ++
        reportIf (dataset.bars.length < options.minBars)
          ⟨"insufficient_lookback", "error", "dataset has insufficient lookback"⟩ ++
        missing ++ stale ∧
      report.status = .ofFindings report.findings := by
  obtain ⟨missing, found, ran⟩ := bind_eq_ok.mp ran
  obtain ⟨stale, aged, ran⟩ := bind_eq_ok.mp ran
  obtain rfl := pure_eq_ok.mp ran
  exact ⟨missing, stale, found, aged, rfl, rfl⟩

/-- Findings on the age of a dataset name no ordering. -/
theorem ordering_not_mem_staleFindings {retrievedAt : String}
    (aged : staleFindings fromIsoFormat options stamp retrievedAt = .ok findings)
    (member : finding ∈ findings) : finding.code ≠ "timestamp_ordering" := by
  rw [staleFindings] at aged
  split at aged
  · obtain rfl := Except.ok.inj aged
    obtain rfl := List.mem_singleton.mp member
    decide
  · obtain ⟨-, -, done⟩ := bind_eq_ok.mp aged
    obtain rfl := pure_eq_ok.mp done
    obtain ⟨-, rfl⟩ := mem_reportIf.mp member
    decide

/-- A dataset that is not failed has strictly rising timestamps for each symbol and nothing but
sound bars; every expected date that no bar has is reported; and on bars sorted by their
timestamps no ordering is reported by the check itself. -/
theorem validate_vouches
    (ran : DataQualityEngine.validate str fromIsoFormat stamp dataset options = .ok report) :
    (report.status ≠ .fail →
      (∀ symbol, ((dataset.bars.filter (·.symbol = symbol)).map (·.timestamp)).Pairwise (· < ·)) ∧
        ∀ bar ∈ dataset.bars, SoundBar dataset.symbols bar) ∧
    (dataset.bars ≠ [] → ∀ day, ExpectedDate options dataset day →
      (∀ bar ∈ dataset.bars, bar.timestamp ≠ day) →
      MissingReported options report.findings day) ∧
    ((dataset.bars.map (·.timestamp)).Pairwise (· ≤ ·) → ∀ finding ∈ report.findings,
      finding.code = "timestamp_ordering" → Classified options finding) := by
  obtain ⟨missing, stale, found, aged, findings, status⟩ := qualityReport_eq_ok ran
  refine ⟨?_, ?_, ?_⟩
  · intro passed
    rw [status, ← errorFree_iff, findings] at passed
    simp only [errorFree_append] at passed
    have clean := cleanPass_of_scanBars dataset.dated passed.1.1.1
    exact ⟨clean.rising_of_symbol, clean.sound⟩
  · intro bars day wanted absent
    have reported := missingReported_dateFindings found bars wanted absent
    rw [findings]
    rw [MissingReported] at reported ⊢
    -- The findings on dates are a part of all findings.
    split at reported
    · simp [reported]
    · obtain ⟨count, some_, member⟩ := reported
      exact ⟨count, some_, by simp [member]⟩
  · intro sorted finding member ordering
    rw [findings] at member
    simp only [List.mem_append] at member
    rcases member with ((scanned | short) | dated) | old
    · exact classified_of_scanBars (by simp) sorted scanned ordering
    · obtain ⟨-, rfl⟩ := mem_reportIf.mp short
      exact absurd ordering (by decide)
    · exact classified_of_dateFindings found dated ordering
    · exact absurd ordering (ordering_not_mem_staleFindings aged old)

end Report

/-- One week in January. -/
theorem weekOrdered : "2026-01-05" ≤ "2026-01-09" := by decide

/-- A week of a dataset, retrieved at its end. -/
def weekMetadata : MarketDataMetadata where
  startDate := "2026-01-05"
  endDate := "2026-01-09"
  retrievedAt := "2026-01-09T18:00:00Z"
  ordered := weekOrdered

/-- A bar that opens and closes at one price. -/
def evenBar (symbol timestamp : String) (price : ℚ) : MarketBar :=
  ⟨timestamp, symbol, price, price, price, price, 1000, 100000⟩

/-- A symbol whose prices are all below zero. -/
def belowZero : DeclaredDataset where
  datasetId := "dataset:below-zero"
  bars := [evenBar "AAA" "2026-01-05" (-1), evenBar "AAA" "2026-01-06" (-1),
    evenBar "AAA" "2026-01-07" (-1)]
  fixtureBacked := false
  symbols := ["AAA"]
  metadata := weekMetadata
  dated := by decide

/-- Two symbols, one of which has no bar on the second day. -/
def halfMissing : DeclaredDataset where
  datasetId := "dataset:half-missing"
  bars := [evenBar "AAA" "2026-01-05" 10, evenBar "BBB" "2026-01-05" 20,
    evenBar "AAA" "2026-01-06" 10, evenBar "AAA" "2026-01-07" 10, evenBar "BBB" "2026-01-07" 20]
  fixtureBacked := false
  symbols := ["AAA", "BBB"]
  metadata := weekMetadata
  dated := by decide

/-- Two symbols, the bars of one after those of the other. -/
def symbolBySymbol : DeclaredDataset where
  datasetId := "dataset:symbol-by-symbol"
  bars := [evenBar "AAA" "2026-01-05" 10, evenBar "AAA" "2026-01-06" 10,
    evenBar "BBB" "2026-01-05" 20, evenBar "BBB" "2026-01-06" 20]
  fixtureBacked := false
  symbols := ["AAA", "BBB"]
  metadata := weekMetadata
  dated := by decide

/-- A symbol without any bar. -/
def noBars : DeclaredDataset where
  datasetId := "dataset:no-bars"
  bars := []
  fixtureBacked := false
  symbols := ["AAA"]
  metadata := weekMetadata
  dated := by decide

/-- A calendar that is open on the first days of the week. -/
def threeDays : TradingCalendar := ⟨fun _ _ => ["2026-01-05", "2026-01-06", "2026-01-07"]⟩

/-- A check of a dataset at the instant it was retrieved, by a calendar of three open dates. -/
def weekReport (minBars : Int) (dataset : DeclaredDataset) :
    Except DataQualityError DataQualityReport :=
  DataQualityEngine.validate (fun _ => "10.0") (fun _ => .ok 1767981600000000)
    ⟨1767981600000000, "2026-01-09T18:00:00Z", "00"⟩ dataset
    { minBars, calendar := some threeDays }

/-- The report on two symbols one of which misses a day passes, as each symbol's bars rise. -/
theorem halfMissing_vouched :
    ∃ report, weekReport 3 halfMissing = .ok report ∧ report.status ≠ .fail ∧
      ∀ symbol, ((halfMissing.bars.filter (·.symbol = symbol)).map
        (·.timestamp)).Pairwise (· < ·) := by
  obtain ⟨report, ran, passed⟩ : ∃ report, weekReport 3 halfMissing = .ok report ∧
      report.status ≠ .fail := by
    refine ⟨_, rfl, ?_⟩
    decide +kernel
  exact ⟨report, ran, passed, ((validate_vouches ran).1 passed).1⟩

/-- Prices below zero pass, a day that only one of two symbols misses is not reported, bars that
follow each other symbol by symbol are failed, and without bars no open date is reported. -/
theorem quality_departures :
    (∃ report, weekReport 3 belowZero = .ok report ∧ report.status = .pass) ∧
      (∃ report, weekReport 3 halfMissing = .ok report ∧ report.findings = []) ∧
      (∃ report, weekReport 3 symbolBySymbol = .ok report ∧ report.status = .fail ∧
        ⟨"timestamp_ordering", "error", "bars must be sorted by timestamp"⟩ ∈ report.findings) ∧
      ∃ report, weekReport 0 noBars = .ok report ∧ report.findings = [] := by
  refine ⟨⟨_, rfl, ?_⟩, ⟨_, rfl, ?_⟩, ⟨_, rfl, ?_, ?_⟩, ⟨_, rfl, ?_⟩⟩
  all_goals decide +kernel

end StrategyLab
