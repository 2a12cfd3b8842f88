import StrategyLab.Research.BacktestEngine
import Mathlib.Algebra.Order.BigOperators.Group.List
import Mathlib.Order.Bounds.Basic
import Mathlib.Tactic.FieldSimp
import Mathlib.Tactic.Linarith
import Mathlib.Tactic.Ring

/-! Performance metrics: what the figures of a run have to do with each other before rounding. -/

namespace StrategyLab

namespace RiskMetrics

/-- The worst fall of the equity below its highest value so far, before it is rounded. -/
def worstDrawdown (equityCurve : List ℚ) : ℚ :=
  let track := fun (peakAndWorst : ℚ × ℚ) (equity : ℚ) =>
    let peak := max peakAndWorst.1 equity
    let drawdown := if peak = 0 then 0 else (equity - peak) / peak
    (peak, min peakAndWorst.2 drawdown)
  (equityCurve.foldl track (equityCurve.headD 0, 0)).2

/-- The risk metric of an equity curve. -/
def maxDrawdown (equityCurve : List ℚ) : Except String ℚ :=
  if equityCurve = [] then .error "equity_curve is required"
  else .ok (Py.round 6 (worstDrawdown equityCurve))

end RiskMetrics

namespace PerformanceMetricsCalculator

variable (trades : List RealBacktestTrade)

/-- The amounts that were won. -/
def wins : List ℚ := (trades.map (·.pnl)).filter (0 < ·)

/-- The amounts that were lost. -/
def losses : List ℚ := (trades.map (·.pnl)).filter (· < 0)

/-- The share of the trades that won. -/
def winRate : Option ℚ :=
  if trades = [] then none else some (((wins trades).length : ℚ) / trades.length)

/-- What a trade is expected to bring. -/
def expectancy : Option ℚ :=
  if trades = [] then none
  else some ((winRate trades).getD 0 * (meanOf (wins trades)).getD 0 +
    (1 - (winRate trades).getD 0) * (meanOf (losses trades)).getD 0)

/-- The figures of a report are those of a curve and some trades, rounded. -/
structure Reports (metrics : RealPerformanceMetrics) (equities : List ℚ)
    (trades : List RealBacktestTrade) : Prop where
  mdd : metrics.mdd = Py.round 6 (maxDrawdown equities)
  averageTrade : metrics.averageTrade = (meanOf (trades.map (·.pnl))).map (Py.round 6)
  averageWin : metrics.averageWin = (meanOf (wins trades)).map (Py.round 6)
  averageLoss : metrics.averageLoss = (meanOf (losses trades)).map (Py.round 6)
  expectancy : metrics.expectancy = (expectancy trades).map (Py.round 6)

/-- How far the equity fell from one point of a curve to a later one, as a part of the former. -/
def drawdowns (equities : List ℚ) : Set ℚ :=
  {fall | ∃ i j : Nat, i ≤ j ∧ ∃ before after, equities[i]? = some before ∧
    equities[j]? = some after ∧ fall = 1 - after / before}

/-- The figures of a curve and some trades fit together. -/
structure MetricsConsistent (equities : List ℚ) (trades : List RealBacktestTrade) : Prop where
  expectancy : expectancy trades = meanOf (trades.map (·.pnl))
  total : (meanOf (wins trades)).getD 0 * (wins trades).length +
    (meanOf (losses trades)).getD 0 * (losses trades).length = (trades.map (·.pnl)).sum
  drawdown : IsGreatest (drawdowns equities) (maxDrawdown equities)
  range : 0 ≤ maxDrawdown equities ∧ maxDrawdown equities < 1
  agree : maxDrawdown equities = -RiskMetrics.worstDrawdown equities

section Drawdown

variable {equities : List ℚ}

/-- One step of the search for the worst fall. -/
def trackPeak (peakAndWorst : ℚ × ℚ) (equity : ℚ) : ℚ × ℚ :=
  (max peakAndWorst.1 equity, min peakAndWorst.2 (equity / max peakAndWorst.1 equity - 1))

/-- What is known of the points behind a first one. -/
structure Tracked (equities : List ℚ) (peakAndWorst : ℚ × ℚ) : Prop where
  peak : IsGreatest {equity | equity ∈ equities} peakAndWorst.1
  worst : IsGreatest (drawdowns equities) (-peakAndWorst.2)

/-- One more point can only add falls to itself. -/
theorem mem_drawdowns_append {equity fall : ℚ} :
    fall ∈ drawdowns (equities ++ [equity]) ↔ fall ∈ drawdowns equities ∨
      ∃ before ∈ equities ++ [equity], fall = 1 - equity / before := by
  constructor
  · rintro ⟨i, j, ordered, before, after, first, second, rfl⟩
    have short := (List.getElem?_eq_some_iff.mp second).1
    rw [List.length_append, List.length_singleton] at short
    by_cases last : j < equities.length
    · rw [List.getElem?_append_left last] at second
      rw [List.getElem?_append_left (by omega)] at first
      exact .inl ⟨i, j, ordered, before, after, first, second, rfl⟩
    · obtain rfl : j = equities.length := by omega
      rw [List.getElem?_concat_length] at second
      obtain rfl := Option.some.inj second
      exact .inr ⟨before, List.mem_of_getElem? first, rfl⟩
  · rintro (⟨i, j, ordered, before, after, first, second, rfl⟩ | ⟨before, member, rfl⟩)
    · have short := (List.getElem?_eq_some_iff.mp second).1
      refine ⟨i, j, ordered, before, after, ?_, ?_, rfl⟩
      · rw [List.getElem?_append_left (by omega), first]
      · rw [List.getElem?_append_left short, second]
    · obtain ⟨i, first⟩ := List.mem_iff_getElem?.mp member
      have short := (List.getElem?_eq_some_iff.mp first).1
      rw [List.length_append, List.length_singleton] at short
      exact ⟨i, equities.length, by omega, before, equity, first,
        List.getElem?_concat_length .., rfl⟩

/-- A step keeps what is known. -/
theorem Tracked.step {peakAndWorst : ℚ × ℚ} {equity : ℚ} (tracked : Tracked equities peakAndWorst)
    (positive : ∀ point ∈ equities ++ [equity], 0 < point) :
    Tracked (equities ++ [equity]) (trackPeak peakAndWorst equity) := by
  have last : 0 < equity := positive equity (by simp)
  have top : IsGreatest {point | point ∈ equities ++ [equity]} (max peakAndWorst.1 equity) := by
    constructor
    · rcases max_choice peakAndWorst.1 equity with same | same
      · rw [same]
        exact List.mem_append_left _ tracked.peak.1
      · rw [same]
        simp
    · intro point member
      rcases List.mem_append.mp member with old | new
      · exact le_max_of_le_left (tracked.peak.2 old)
      · rw [List.mem_singleton.mp new]
        exact le_max_right _ _
  have peak : 0 < max peakAndWorst.1 equity := lt_max_of_lt_right last
  refine ⟨top, ?_⟩
  rw [trackPeak, neg_inf, neg_sub]
  constructor
  · rcases max_choice (-peakAndWorst.2) (1 - equity / max peakAndWorst.1 equity) with same | same
    · exact mem_drawdowns_append.mpr (.inl (by simpa only [same] using tracked.worst.1))
    · exact mem_drawdowns_append.mpr (.inr ⟨_, top.1, same⟩)
  · intro fall member
    rcases mem_drawdowns_append.mp member with old | ⟨before, there, rfl⟩
    · exact le_max_of_le_left (tracked.worst.2 old)
    · -- The fall from the peak is the deepest one to the new point.
      refine le_max_of_le_right (sub_le_sub_left ?_ 1)
      exact div_le_div_of_nonneg_left last.le (positive before there) (top.2 there)

/-- At the first point nothing has fallen. -/
theorem tracked_singleton {equity : ℚ} (positive : 0 < equity) : Tracked [equity] (equity, 0) := by
  refine ⟨⟨by simp, fun point member => (List.mem_singleton.mp member).le⟩, ?_, ?_⟩
  · refine ⟨0, 0, le_rfl, equity, equity, rfl, rfl, ?_⟩
    rw [div_self positive.ne']
    simp
  · rintro fall ⟨i, j, -, before, after, first, second, rfl⟩
    have same := List.mem_singleton.mp (List.mem_of_getElem? first)
    have same' := List.mem_singleton.mp (List.mem_of_getElem? second)
    rw [same, same', div_self positive.ne']
    simp

/-- Behind a first point the whole curve is tracked. -/
theorem tracked_foldl {first : ℚ} {rest : List ℚ} (positive : ∀ point ∈ first :: rest, 0 < point) :
    Tracked (first :: rest) (rest.foldl trackPeak (first, 0)) := by
  induction rest using List.reverseRecOn with
  | nil => exact tracked_singleton (positive first List.mem_cons_self)
  | append_singleton before last ih =>
    rw [List.foldl_append, List.foldl_cons, List.foldl_nil, ← List.cons_append]
    refine (ih fun point member => positive point ?_).step ?_
    · rw [← List.cons_append]
      exact List.mem_append_left _ member
    · intro point member
      exact positive point (by rwa [← List.cons_append])

/-- Both searches are steps of the one kind. -/
theorem searches_eq {first : ℚ} {rest : List ℚ} (positive : ∀ point ∈ first :: rest, 0 < point) :
    maxDrawdown (first :: rest) = |(rest.foldl trackPeak (first, 0)).2| ∧
      RiskMetrics.worstDrawdown (first :: rest) = (rest.foldl trackPeak (first, 0)).2 := by
  have start : trackPeak (first, 0) first = (first, 0) := by
    simp [trackPeak, (positive first List.mem_cons_self).ne']
  have peak (state : ℚ × ℚ) {point : ℚ} (member : point ∈ first :: rest) :
      max state.1 point ≠ 0 := (lt_max_of_lt_right (positive point member)).ne'
  have whole : (first :: rest).foldl trackPeak (first, 0) = rest.foldl trackPeak (first, 0) := by
    rw [List.foldl_cons, start]
  rw [← whole]
  constructor
  · unfold maxDrawdown
    refine congrArg (fun state : ℚ × ℚ => |state.2|) ?_
    apply List.foldl_ext
    intro state point member
    simp only [trackPeak, if_neg (peak state member)]
  · unfold RiskMetrics.worstDrawdown
    apply congrArg Prod.snd
    apply List.foldl_ext
    intro state point member
    have there := peak state member
    simp only [trackPeak, if_neg there, sub_div, div_self there]

/-- The drawdown that is reported is the deepest fall, on which both searches agree. -/
theorem maxDrawdown_isGreatest (some_ : equities ≠ []) (positive : ∀ point ∈ equities, 0 < point) :
    IsGreatest (drawdowns equities) (maxDrawdown equities) ∧ 0 ≤ maxDrawdown equities ∧
      maxDrawdown equities < 1 ∧ maxDrawdown equities = -RiskMetrics.worstDrawdown equities := by
  obtain ⟨first, rest, rfl⟩ := List.exists_cons_of_ne_nil some_
  obtain ⟨search, other⟩ := searches_eq positive
  have tracked := tracked_foldl positive
  have level : (0 : ℚ) ∈ drawdowns (first :: rest) := by
    refine ⟨0, 0, le_rfl, first, first, rfl, rfl, ?_⟩
    rw [div_self (positive first List.mem_cons_self).ne', sub_self]
  have fallen := tracked.worst.2 level
  have amount : maxDrawdown (first :: rest) = -(rest.foldl trackPeak (first, 0)).2 := by
    rw [search, abs_of_nonpos (by linarith)]
  rw [amount, other]
  refine ⟨tracked.worst, fallen, ?_, rfl⟩
  -- Some of the equity is left at every point.
  obtain ⟨i, j, -, before, after, isBefore, isAfter, fall⟩ := tracked.worst.1
  have left := div_pos (positive after (List.mem_of_getElem? isAfter))
    (positive before (List.mem_of_getElem? isBefore))
  linarith

end Drawdown

section Expectancy

variable {trades : List RealBacktestTrade} {amounts : List ℚ}

/-- The amounts that are neither won nor lost. -/
def evens (trades : List RealBacktestTrade) : List ℚ := (trades.map (·.pnl)).filter (· = 0)

/-- A mean times the number of amounts is their sum. -/
theorem meanOf_mul_length : (meanOf amounts).getD 0 * amounts.length = amounts.sum := by
  unfold meanOf
  split
  · rename_i empty
    simp [empty]
  · rename_i some_
    have length : (amounts.length : ℚ) ≠ 0 := by
      simpa using some_
    rw [Option.getD_some, div_mul_cancel₀ _ length]

/-- Every trade wins, loses or does neither. -/
theorem amounts_split : trades.length = (wins trades).length + (losses trades).length +
      (evens trades).length ∧
    (trades.map (·.pnl)).sum = (wins trades).sum + (losses trades).sum := by
  unfold wins losses evens
  induction trades with
  | nil => simp
  | cons trade rest ih =>
    obtain ⟨count, sum⟩ := ih
    simp only [List.map_cons, List.filter_cons, List.sum_cons, List.length_cons]
    rcases lt_trichotomy trade.pnl 0 with lost | even | won
    · rw [if_neg (by simpa using lost.le), if_pos (by simpa using lost),
        if_neg (by simpa using lost.ne), List.length_cons, List.sum_cons]
      exact ⟨by omega, by linarith⟩
    · rw [if_neg (by simp [even]), if_neg (by simp [even]), if_pos (by simpa using even),
        List.length_cons]
      exact ⟨by omega, by linarith⟩
    · rw [if_pos (by simpa using won), if_neg (by simpa using won.le),
        if_neg (by simpa using won.ne'), List.length_cons, List.sum_cons]
      exact ⟨by omega, by linarith⟩

/-- What is lost is less than nothing. -/
theorem sum_losses_neg (some_ : losses trades ≠ []) : (losses trades).sum < 0 := by
  have all : ∀ amount ∈ losses trades, amount < 0 := by
    intro amount member
    simpa using (List.mem_filter.mp member).2
  obtain ⟨first, rest, same⟩ := List.exists_cons_of_ne_nil some_
  rw [same] at all ⊢
  rw [List.sum_cons]
  have more : rest.sum ≤ 0 :=
    by simpa using List.sum_le_card_nsmul rest 0 fun amount member =>
      (all amount (List.mem_cons_of_mem _ member)).le
  have one := all first List.mem_cons_self
  linarith

/-- A trade that neither wins nor loses is counted as one that loses the mean of the losses. -/
theorem expectancy_eq_iff :
    expectancy trades = meanOf (trades.map (·.pnl)) ↔ evens trades = [] ∨ losses trades = [] := by
  obtain ⟨count, sum⟩ := @amounts_split trades
  have won := @meanOf_mul_length (wins trades)
  have lost := @meanOf_mul_length (losses trades)
  by_cases empty : trades = []
  · subst empty
    simp [expectancy, meanOf, evens]
  · have number : (0 : ℚ) < trades.length := by
      exact_mod_cast List.length_pos_iff.mpr empty
    have count' : (trades.length : ℚ) = (wins trades).length + (losses trades).length +
        (evens trades).length := by exact_mod_cast count
    have mean : meanOf (trades.map (·.pnl)) =
        some ((trades.map (·.pnl)).sum / trades.length) := by
      rw [meanOf, if_neg (by simpa using empty), List.length_map]
    have expected : expectancy trades = some (((wins trades).length / trades.length : ℚ) *
        (meanOf (wins trades)).getD 0 + (1 - (wins trades).length / trades.length) *
          (meanOf (losses trades)).getD 0) := by
      rw [expectancy, if_neg empty, winRate, if_neg empty, Option.getD_some]
    rw [mean, expected, Option.some_inj, sum, ← won, ← lost]
    -- The two differ by the mean loss for each trade that does neither.
    have apart : ((wins trades).length / trades.length : ℚ) * (meanOf (wins trades)).getD 0 +
        (1 - (wins trades).length / trades.length) * (meanOf (losses trades)).getD 0 =
        ((meanOf (wins trades)).getD 0 * (wins trades).length +
          (meanOf (losses trades)).getD 0 * (losses trades).length) / trades.length +
        (evens trades).length * (meanOf (losses trades)).getD 0 / trades.length := by
      field_simp
      rw [count']
      ring
    rw [apart, add_eq_left, div_eq_zero_iff, mul_eq_zero]
    constructor
    · rintro ((none_ | level) | absent)
      · exact .inl (List.length_eq_zero_iff.mp (by exact_mod_cast none_))
      · by_contra other
        rw [not_or] at other
        have less := sum_losses_neg other.2
        rw [← lost, level, zero_mul] at less
        exact lt_irrefl _ less
      · exact absurd absent number.ne'
    · rintro (none_ | none_)
      · exact .inl (.inl (by simp [none_]))
      · exact .inl (.inr (by simp [none_, meanOf]))

end Expectancy

/-- The figures that are reported fit together before they are rounded, unless there are a trade
that lost and one that neither lost nor won. -/
theorem metricsConsistent_iff (equityCurve : List EquityPoint) (trades : List RealBacktestTrade)
    (initialCapital : ℚ) (investedDays totalDays : Nat) (some_ : equityCurve ≠ [])
    (positive : ∀ point ∈ equityCurve, 0 < point.equity) :
    Reports (calculate equityCurve trades initialCapital investedDays totalDays)
      (equityCurve.map (·.equity)) trades ∧
    (MetricsConsistent (equityCurve.map (·.equity)) trades ↔
      (∀ trade ∈ trades, trade.pnl ≠ 0) ∨ ∀ trade ∈ trades, 0 ≤ trade.pnl) := by
  have evens_ : evens trades = [] ↔ ∀ trade ∈ trades, trade.pnl ≠ 0 := by
    simp [evens, List.filter_eq_nil_iff]
  have losses_ : losses trades = [] ↔ ∀ trade ∈ trades, 0 ≤ trade.pnl := by
    simp [losses, List.filter_eq_nil_iff]
  refine ⟨⟨rfl, rfl, rfl, rfl, rfl⟩, ?_⟩
  rw [← evens_, ← losses_, ← expectancy_eq_iff]
  constructor
  · intro consistent
    exact consistent.expectancy
  · intro same
    have filled : equityCurve.map (·.equity) ≠ [] := by simpa using some_
    obtain ⟨greatest, low, high, agree⟩ :=
      maxDrawdown_isGreatest filled (by simpa using positive)
    refine ⟨same, ?_, greatest, ⟨low, high⟩, agree⟩
    rw [meanOf_mul_length, meanOf_mul_length, amounts_split.2]

/-- A trade of one share that was bought at a hundred. -/
def tradeWithPnl (pnl : ℚ) : RealBacktestTrade where
  tradeId := "trade:run:1"
  symbol := "005930"
  entryDate := "2026-07-01"
  exitDate := "2026-07-02"
  entryPrice := 100
  exitPrice := 100 + pnl
  quantity := 1
  pnl
  returnPct := pnl / 100
  exitReason := .endOfDataset

/-- The figures of a won and a lost trade fit together. -/
theorem won_and_lost_consistent :
    MetricsConsistent [100, 110, 90] [tradeWithPnl 10, tradeWithPnl (-20)] :=
  (metricsConsistent_iff [⟨"2026-07-01", 100⟩, ⟨"2026-07-02", 110⟩, ⟨"2026-07-03", 90⟩]
    [tradeWithPnl 10, tradeWithPnl (-20)] 100 2 3 (by simp) (by simp)).2.mpr
    (.inl (by simp [tradeWithPnl]))

/-- A trade that ends as it began counts as a loss: two trades that even out and it are expected to
lose. -/
theorem even_trade_counts_as_loss :
    expectancy [tradeWithPnl 10, tradeWithPnl (-10), tradeWithPnl 0] = some (-10 / 3) ∧
    meanOf ([tradeWithPnl 10, tradeWithPnl (-10), tradeWithPnl 0].map (·.pnl)) = some 0 ∧
    (∀ point ∈ ([100, 110, 100] : List ℚ), 0 < point) ∧
    ¬MetricsConsistent [100, 110, 100] [tradeWithPnl 10, tradeWithPnl (-10), tradeWithPnl 0] := by
  have expected : expectancy [tradeWithPnl 10, tradeWithPnl (-10), tradeWithPnl 0] =
      some (-10 / 3) := by decide +kernel
  have mean : meanOf ([tradeWithPnl 10, tradeWithPnl (-10), tradeWithPnl 0].map (·.pnl)) =
      some 0 := by decide +kernel
  refine ⟨expected, mean, by simp, ?_⟩
  intro consistent
  have same := consistent.expectancy
  rw [expected, mean] at same
  exact absurd same (by decide +kernel)

end PerformanceMetricsCalculator

end StrategyLab
