import StrategyLab.Backtest.CostAccounting
import Mathlib.Data.List.Induction

/-! What holds of the portfolio of a run after every signal, and when. -/

namespace StrategyLab.Backtest

open SimpleBacktestRunner

variable {bars : List MarketBar} {config : BacktestConfig} {signals : List Signal}

/-- The most recent close of a symbol up to an instant; of several bars the last one listed. -/
def recentClose (bars : List MarketBar) (symbol : String) (timestamp : Int) : Option ℚ :=
  ((Py.sortedBy MarketBar.timestamp (bars.filter fun bar =>
    bar.symbol = symbol ∧ bar.timestamp ≤ timestamp)).getLast?).map (·.close)

/-- The worth of some holdings at the most recent closes up to an instant. -/
def recentWorth (bars : List MarketBar) (holdings : Holdings) (timestamp : Int) : ℚ :=
  holdings.worth fun symbol => (recentClose bars symbol timestamp).getD 0

/-- The capital and every close have at most six digits. -/
def SixDigits (bars : List MarketBar) (config : BacktestConfig) : Prop :=
  Py.HasDigits 6 config.initialCapital ∧ ∀ bar ∈ bars, Py.HasDigits 6 bar.close

/-- A point of the curve records the cash of a portfolio and its worth at the most recent closes:
to six digits, and exactly when the amounts have no more; without costs at constant closes that is
the initial capital. -/
structure Valued (bars : List MarketBar) (config : BacktestConfig) (portfolio : Portfolio)
    (point : EquityCurvePoint) : Prop where
  cash : point.cash = sixDigits portfolio.cash
  total : point.totalEquity =
    sixDigits (portfolio.cash + recentWorth bars portfolio.holdings point.timestamp)
  exact_ : SixDigits bars config →
    point.totalEquity = point.cash + recentWorth bars portfolio.holdings point.timestamp
  flat : SixDigits bars config → ConstantCloses bars → config.transactionCostRate = 0 →
    config.slippageRate = 0 → point.totalEquity = config.initialCapital

/-- A signal is carried out within the cash, and everything held has a bar when it is. -/
structure Regular (bars : List MarketBar) (config : BacktestConfig) (portfolio : Portfolio)
    (signal : Signal) (bar : MarketBar) : Prop where
  bought : signal.signalType = .buy → totalCost config bar.close ≤ portfolio.cash →
    (tradeRecord sixDigits config signal .buy bar.close
      (bar.close * (1 + config.slippageRate)) config.quantityPerSignal).cost ≤ portfolio.cash
  sold : signal.signalType = .sell → 0 < portfolio.holdings.get signal.symbol →
    0 ≤ portfolio.cash +
      (sell sixDigits config signal bar.close (portfolio.holdings.get signal.symbol)).proceeds
  valued : ∀ row ∈ portfolio.holdings.rows, row.quantity ≠ 0 →
    (barAt bars row.symbol signal.timestamp).isSome

/-- Every signal of a run that has a bar is regular in the portfolio it is processed in. -/
def RegularRun (bars : List MarketBar) (config : BacktestConfig) (signals : List Signal) : Prop :=
  ∀ before signal rest, signals = before ++ signal :: rest →
    ∀ bar, barAt bars signal.symbol signal.timestamp = some bar →
      Regular bars config (processAll sixDigits bars config before) signal bar

/-- What holds of the portfolio after some signals. -/
structure Consistent (bars : List MarketBar) (config : BacktestConfig) (signals : List Signal) :
    Prop where
  solvent : 0 ≤ (processAll sixDigits bars config signals).cash
  points : ∀ point ∈ (processAll sixDigits bars config signals).equityCurve,
    ∃ earlier, earlier <+: signals ∧
      Valued bars config (processAll sixDigits bars config earlier) point

variable {timestamp : Int}

/-- A bar at an instant is the most recent one up to it. -/
theorem recentClose_of_barAt {symbol : String} {bar : MarketBar}
    (found : barAt bars symbol timestamp = some bar) :
    recentClose bars symbol timestamp = some bar.close := by
  obtain ⟨member, named, instant⟩ := barAt_eq_some found
  let recent := Py.sortedBy MarketBar.timestamp (bars.filter fun bar =>
    bar.symbol = symbol ∧ bar.timestamp ≤ timestamp)
  have sorted : recent.Pairwise fun left right => left.timestamp ≤ right.timestamp :=
    Py.sortedBy_pairwise _ _
  -- The bars at the instant are the last ones of those up to it, in the order they are listed.
  have there : recent.filter (·.timestamp = timestamp) =
      bars.filter fun bar => bar.symbol = symbol ∧ bar.timestamp = timestamp := by
    have exact_ : (bars.filter fun bar => bar.symbol = symbol ∧ bar.timestamp ≤ timestamp).filter
        (·.timestamp = timestamp) =
          bars.filter fun bar => bar.symbol = symbol ∧ bar.timestamp = timestamp := by
      rw [List.filter_filter]
      refine List.filter_congr fun other _ => ?_
      by_cases same : other.timestamp = timestamp <;> simp [same]
    rw [Py.filter_sortedBy, exact_]
    refine Py.sortedBy_eq_self _ ?_
    refine List.pairwise_of_forall_mem_list fun left inLeft right inRight => ?_
    have time {other : MarketBar} (among : other ∈ bars.filter fun bar =>
        bar.symbol = symbol ∧ bar.timestamp = timestamp) : other.timestamp = timestamp := by
      have both := (List.mem_filter.mp among).2
      simp only [decide_eq_true_eq] at both
      exact both.2
    rw [time inLeft, time inRight]
  have inside : bar ∈ recent := by
    rw [Py.mem_sortedBy, List.mem_filter]
    simp [member, named, instant]
  cases ends : recent.getLast? with
  | none => exact absurd (List.getLast?_eq_none_iff.mp ends) (List.ne_nil_of_mem inside)
  | some last =>
    obtain ⟨front, split⟩ := List.getLast?_eq_some_iff.mp ends
    have latest : last.timestamp = timestamp := by
      have lastIn : last ∈ recent := List.mem_of_getLast? ends
      have early : last.timestamp ≤ timestamp := by
        rw [Py.mem_sortedBy, List.mem_filter] at lastIn
        simp only [decide_eq_true_eq] at lastIn
        exact lastIn.2.2
      refine le_antisymm early ?_
      rw [split] at sorted inside
      rcases List.mem_append.mp inside with before | atEnd
      · exact instant ▸ (List.pairwise_append.mp sorted).2.2 bar before last (by simp)
      · rw [← List.mem_singleton.mp atEnd, instant]
    have same : barAt bars symbol timestamp = some last := by
      rw [barAt, ← there, split, List.filter_append, List.filter_cons_of_pos (by simpa using latest)]
      simp
    rw [recentClose]
    change recent.getLast?.map (·.close) = some bar.close
    rw [ends, Option.map_some, Option.some.inj (same.symm.trans found)]

/-- With a bar for everything held, the value at an instant is that at the most recent closes. -/
theorem holdingsValue_eq {holdings : Holdings} (valued : ∀ row ∈ holdings.rows, row.quantity ≠ 0 →
      (barAt bars row.symbol timestamp).isSome) :
    holdingsValue holdings bars timestamp = recentWorth bars holdings timestamp := by
  unfold holdingsValue recentWorth Holdings.worth
  congr 1
  refine List.map_congr_left fun row member => ?_
  cases found : barAt bars row.symbol timestamp with
  | some bar => simp [recentClose_of_barAt found]
  | none =>
    -- What has no bar is not held.
    have nothing : row.quantity = 0 := by
      by_contra held
      have known := valued row member held
      rw [found] at known
      cases known
    simp [nothing]

/-- With a bar for everything held, constant closes give the value at an instant. -/
theorem holdingsValue_constant (constant : ConstantCloses bars) {holdings : Holdings}
    (valued : ∀ row ∈ holdings.rows, row.quantity ≠ 0 →
      (barAt bars row.symbol timestamp).isSome) :
    holdingsValue holdings bars timestamp = holdings.worth (closeOf bars) := by
  unfold holdingsValue Holdings.worth
  congr 1
  refine List.map_congr_left fun row member => ?_
  cases found : barAt bars row.symbol timestamp with
  | some bar =>
    obtain ⟨inside, named, -⟩ := barAt_eq_some found
    rw [← named, closeOf_eq constant inside]
  | none =>
    have nothing : row.quantity = 0 := by
      by_contra held
      have known := valued row member held
      rw [found] at known
      cases known
    simp [nothing]

/-! ### Amounts of six digits -/

variable {portfolio : Portfolio}

/-- The cash of a run has six digits when the capital has. -/
theorem hasDigits_cash (capital : Py.HasDigits 6 config.initialCapital)
    (booked : Booked sixDigits bars config portfolio) : Py.HasDigits 6 portfolio.cash := by
  rw [booked.cash]
  refine capital.add (Py.HasDigits.sum fun amount member => ?_)
  obtain ⟨trade, traded, rfl⟩ := List.mem_map.mp member
  obtain ⟨bar, -, -, recorded⟩ := (booked.made trade traded).bar
  -- Price, fees and slippage of every record are rounded.
  have rounded (x : ℚ) : Py.HasDigits 6 (sixDigits x) := Py.hasDigits_round 6 x
  cases recorded with
  | bought side price fees slippage =>
    simp only [TradeRecord.cashFlow, TradeRecord.cost, side, price, fees, slippage]
    exact ((((rounded _).mul_int _).add (rounded _)).add (rounded _)).neg
  | sold side price fees slippage =>
    simp only [TradeRecord.cashFlow, TradeRecord.proceeds, side, price, fees, slippage,
      sub_eq_add_neg]
    exact (((rounded _).mul_int _).add (rounded _).neg).add (rounded _).neg

/-- A most recent close is the close of a bar. -/
theorem recentClose_mem {symbol : String} {close : ℚ}
    (found : recentClose bars symbol timestamp = some close) : ∃ bar ∈ bars, bar.close = close := by
  obtain ⟨bar, last, same⟩ := Option.map_eq_some_iff.mp found
  have member := List.mem_of_getLast? last
  rw [Py.mem_sortedBy] at member
  exact ⟨bar, (List.mem_filter.mp member).1, same⟩

/-- Holdings of closes with six digits are worth an amount of six digits. -/
theorem hasDigits_recentWorth (closes : ∀ bar ∈ bars, Py.HasDigits 6 bar.close)
    (holdings : Holdings) (timestamp : Int) :
    Py.HasDigits 6 (recentWorth bars holdings timestamp) := by
  refine Py.HasDigits.sum fun amount member => ?_
  obtain ⟨row, -, rfl⟩ := List.mem_map.mp member
  refine Py.HasDigits.mul_int ?_ _
  dsimp only
  cases found : recentClose bars row.symbol timestamp with
  | none => exact ⟨0, by simp⟩
  | some close =>
    obtain ⟨bar, inside, rfl⟩ := recentClose_mem found
    exact closes bar inside

/-- Without costs, at constant closes of six digits, cash and worth stay the initial capital. -/
theorem cash_add_worth (constant : ConstantCloses bars) (digits : SixDigits bars config)
    (noCost : config.transactionCostRate = 0) (noSlippage : config.slippageRate = 0)
    (booked : Booked sixDigits bars config portfolio) :
    portfolio.cash + portfolio.holdings.worth (closeOf bars) = config.initialCapital := by
  have zero : sixDigits 0 = 0 := (show Py.HasDigits 6 0 from ⟨0, by simp⟩).round_eq
  -- Every trade exchanges cash for units at the close, which rounding leaves as it is.
  have flow : ∀ trade ∈ portfolio.trades,
      trade.cashFlow = -(closeOf bars trade.symbol * trade.units) := by
    intro trade traded
    obtain ⟨bar, member, named, recorded⟩ := (booked.made trade traded).bar
    have same : sixDigits bar.close = bar.close := (digits.2 bar member).round_eq
    rw [← named, closeOf_eq constant member]
    cases recorded with
    | bought side price fees slippage =>
      simp [TradeRecord.cashFlow, TradeRecord.cost, TradeRecord.units, side, price, fees,
        slippage, noCost, noSlippage, zero, same]
    | sold side price fees slippage =>
      simp [TradeRecord.cashFlow, TradeRecord.proceeds, TradeRecord.units, side, price, fees,
        slippage, noCost, noSlippage, zero, same]
  have flows : (portfolio.trades.map (·.cashFlow)).sum =
      -unitsWorth (closeOf bars) portfolio.trades := by
    rw [List.map_congr_left flow, unitsWorth, List.sum_neg, List.map_map]
    rfl
  rw [booked.cash, booked.worth, flows]
  ring

/-! ### Signals -/

/-- A regular signal leaves cash, and a value for everything held. -/
theorem Regular.execute {portfolio next : Portfolio} {signal : Signal} {bar : MarketBar}
    (regular : Regular bars config portfolio signal bar)
    (found : barAt bars signal.symbol signal.timestamp = some bar) (solvent : 0 ≤ portfolio.cash)
    (step : Executed sixDigits config signal bar.close portfolio next) :
    0 ≤ next.cash ∧ ∀ row ∈ next.holdings.rows, row.quantity ≠ 0 →
      (barAt bars row.symbol signal.timestamp).isSome := by
  have added {trade : TradeRecord} (named : trade.symbol = signal.symbol) :
      ∀ row ∈ (portfolio.book trade).holdings.rows, row.quantity ≠ 0 →
        (barAt bars row.symbol signal.timestamp).isSome := by
    intro row member held
    rcases mem_add member with old | rfl
    · exact regular.valued row old held
    · rw [named, found]
      rfl
  cases step with
  | held other => exact ⟨solvent, regular.valued⟩
  | refused buys short => exact ⟨solvent, regular.valued⟩
  | bought buys covered =>
    refine ⟨?_, added rfl⟩
    change 0 ≤ portfolio.cash + -(tradeRecord sixDigits config signal .buy bar.close
      (bar.close * (1 + config.slippageRate)) config.quantityPerSignal).cost
    linarith [regular.bought buys covered]
  | sold sells some_ => exact ⟨regular.sold sells some_, added rfl⟩

/-- What a processed signal appends to the curve. -/
theorem process_curve (portfolio : Portfolio) (signal : Signal) {bar : MarketBar}
    (found : barAt bars signal.symbol signal.timestamp = some bar) :
    ∃ next point, Executed sixDigits config signal bar.close portfolio next ∧
      (process sixDigits bars config portfolio signal).cash = next.cash ∧
      (process sixDigits bars config portfolio signal).holdings = next.holdings ∧
      (process sixDigits bars config portfolio signal).equityCurve =
        portfolio.equityCurve ++ [point] ∧
      point.timestamp = signal.timestamp ∧ point.cash = sixDigits next.cash ∧
      point.totalEquity =
        sixDigits (next.cash + holdingsValue next.holdings bars signal.timestamp) := by
  have step := executed sixDigits config signal bar.close portfolio
  have curve : (SimpleBacktestRunner.execute sixDigits config signal bar.close
      portfolio).equityCurve = portfolio.equityCurve := by
    generalize SimpleBacktestRunner.execute sixDigits config signal bar.close portfolio = next
      at step
    cases step <;> rfl
  have marked : process sixDigits bars config portfolio signal = mark sixDigits bars
      signal.timestamp (SimpleBacktestRunner.execute sixDigits config signal bar.close portfolio) := by
    simp only [process, found]
  rw [marked, ← curve]
  exact ⟨_, _, step, rfl, rfl, rfl, rfl, rfl, rfl⟩

/-- A point that records a portfolio in which everything held has a bar is a valued one. -/
theorem valued_of_step {point : EquityCurvePoint} (booked : Booked sixDigits bars config portfolio)
    (valued : ∀ row ∈ portfolio.holdings.rows, row.quantity ≠ 0 →
      (barAt bars row.symbol timestamp).isSome)
    (cash : point.cash = sixDigits portfolio.cash)
    (total : point.totalEquity =
      sixDigits (portfolio.cash + holdingsValue portfolio.holdings bars timestamp))
    (time : point.timestamp = timestamp) : Valued bars config portfolio point := by
  subst time
  have recent := total
  rw [holdingsValue_eq valued] at recent
  refine ⟨cash, recent, fun digits => ?_, fun digits constant noCost noSlippage => ?_⟩
  · have own := hasDigits_cash digits.1 booked
    have worth := hasDigits_recentWorth digits.2 portfolio.holdings point.timestamp
    have whole : sixDigits (portfolio.cash + recentWorth bars portfolio.holdings point.timestamp) =
        portfolio.cash + recentWorth bars portfolio.holdings point.timestamp :=
      (own.add worth).round_eq
    have same : sixDigits portfolio.cash = portfolio.cash := own.round_eq
    rw [recent, cash, whole, same]
  · have same : sixDigits config.initialCapital = config.initialCapital := digits.1.round_eq
    rw [total, holdingsValue_constant constant valued,
      cash_add_worth constant digits noCost noSlippage booked, same]

/-- Every regular signal keeps the portfolio consistent. -/
theorem Consistent.step {signal : Signal} (consistent : Consistent bars config signals)
    (regular : ∀ bar, barAt bars signal.symbol signal.timestamp = some bar →
      Regular bars config (processAll sixDigits bars config signals) signal bar) :
    Consistent bars config (signals ++ [signal]) := by
  have last : processAll sixDigits bars config (signals ++ [signal]) =
      process sixDigits bars config (processAll sixDigits bars config signals) signal := by
    rw [processAll, List.foldl_append]
    rfl
  have earlier : ∀ point ∈ (processAll sixDigits bars config signals).equityCurve,
      ∃ earlier, earlier <+: signals ++ [signal] ∧
        Valued bars config (processAll sixDigits bars config earlier) point := by
    intro point member
    obtain ⟨before, among, valued⟩ := consistent.points point member
    exact ⟨before, among.trans (List.prefix_append _ _), valued⟩
  cases found : barAt bars signal.symbol signal.timestamp with
  | none =>
    have same : processAll sixDigits bars config (signals ++ [signal]) =
        processAll sixDigits bars config signals := by
      rw [last, process, found]
    exact ⟨same ▸ consistent.solvent, same ▸ earlier⟩
  | some bar =>
    obtain ⟨next, point, step, cash, holdings, curve, time, pointCash, pointTotal⟩ :=
      @process_curve bars config (processAll sixDigits bars config signals) signal bar found
    obtain ⟨solvent, valued⟩ := (regular bar found).execute found consistent.solvent step
    rw [← last] at cash holdings curve
    refine ⟨cash ▸ solvent, ?_⟩
    rw [curve]
    intro other member
    rcases List.mem_append.mp member with old | new
    · exact earlier other old
    · rw [List.mem_singleton.mp new]
      exact ⟨signals ++ [signal], List.prefix_refl _,
        valued_of_step (booked_processAll _) (holdings ▸ valued) (cash ▸ pointCash)
          (by rw [pointTotal, cash, holdings]) time⟩

/-- A run of regular signals is consistent after every one of them. -/
theorem consistent_of_regular (regular : RegularRun bars config signals) :
    ∀ {earlier}, earlier <+: signals → Consistent bars config earlier := by
  intro earlier
  -- Induction on the signals from the last one back, since the newest signal acts last.
  induction earlier using List.reverseRecOn with
  | nil =>
    exact fun _ => ⟨config.capital_pos.le, by simp [processAll, Portfolio.start]⟩
  | append_singleton before signal ih =>
    rintro ⟨rest, whole⟩
    rw [List.append_assoc, List.singleton_append] at whole
    exact (ih ⟨signal :: rest, whole⟩).step fun bar found =>
      regular before signal rest whole.symm bar found

/-- In every run the units held of a symbol are those bought less those sold, never negative; and
after every signal of a run of regular signals the cash is not negative and the curve records the
portfolio at the most recent closes. -/
theorem portfolio_invariant {earlier : List Signal} (among : earlier <+: ordered signals) :
    (∀ symbol, (processAll sixDigits bars config earlier).holdings.get symbol =
        unitsOf (processAll sixDigits bars config earlier).trades symbol ∧
      0 ≤ (processAll sixDigits bars config earlier).holdings.get symbol) ∧
      (RegularRun bars config (ordered signals) → Consistent bars config earlier) :=
  ⟨(booked_processAll earlier).get, fun regular => consistent_of_regular regular among⟩

/-- Two signals that are regular make a regular run. -/
theorem regularRun_pair {first second : Signal} {firstBar secondBar : MarketBar}
    (firstFound : barAt bars first.symbol first.timestamp = some firstBar)
    (secondFound : barAt bars second.symbol second.timestamp = some secondBar)
    (firstRegular : Regular bars config (processAll sixDigits bars config []) first firstBar)
    (secondRegular : Regular bars config (processAll sixDigits bars config [first]) second
      secondBar) : RegularRun bars config [first, second] := by
  intro before signal rest whole bar found
  rcases before with - | ⟨one, - | ⟨two, more⟩⟩
  · obtain ⟨rfl, -⟩ := List.cons.inj whole
    obtain rfl := Option.some.inj (firstFound.symm.trans found)
    exact firstRegular
  · obtain ⟨rfl, tail⟩ := List.cons.inj whole
    obtain ⟨rfl, -⟩ := List.cons.inj tail
    obtain rfl := Option.some.inj (secondFound.symm.trans found)
    exact secondRegular
  · have lengths := congrArg List.length whole
    simp at lengths

/-- A unit that is bought and sold again is accounted for. -/
theorem bought_and_sold_consistent :
    Consistent [dayBar 1 100, dayBar 2 110] (thousand 0 le_rfl)
        [daySignal 1 .buy, daySignal 2 .sell] ∧
      (processAll sixDigits [dayBar 1 100, dayBar 2 110] (thousand 0 le_rfl)
        [daySignal 1 .buy, daySignal 2 .sell]).equityCurve.map (·.totalEquity) =
          [999, 1007.9] := by
  have order : ordered [daySignal 1 .buy, daySignal 2 .sell] =
      [daySignal 1 .buy, daySignal 2 .sell] := by decide +kernel
  have regular : RegularRun [dayBar 1 100, dayBar 2 110] (thousand 0 le_rfl)
      (ordered [daySignal 1 .buy, daySignal 2 .sell]) := by
    have first : barAt [dayBar 1 100, dayBar 2 110] "AAA" 1 = some (dayBar 1 100) := by
      decide +kernel
    have second : barAt [dayBar 1 100, dayBar 2 110] "AAA" 2 = some (dayBar 2 110) := by
      decide +kernel
    rw [order]
    exact regularRun_pair first second ⟨by decide +kernel, by decide +kernel, by decide +kernel⟩
      ⟨by decide +kernel, by decide +kernel, by decide +kernel⟩
  have whole : [daySignal 1 .buy, daySignal 2 .sell] <+:
      ordered [daySignal 1 .buy, daySignal 2 .sell] :=
    ⟨[], by rw [order, List.append_nil]⟩
  exact ⟨(portfolio_invariant whole).2 regular, by decide +kernel⟩

/-- A capital of six tenths that buys a million units without costs. -/
def dustConfig : BacktestConfig :=
  { initialCapital := 6 / 10, transactionCostRate := 0, slippageRate := 0,
    quantityPerSignal := 1000000, capital_pos := by norm_num, cost_nonneg := le_rfl,
    slippage_nonneg := le_rfl, quantity_pos := by decide }

/-- A bar of a second symbol on the second day. -/
def secondBar : MarketBar := ⟨"BBB", 2, 50, by decide⟩

/-- A signal for the second symbol that trades nothing. -/
def secondSignal : Signal := ⟨"BBB", 2, .hold, ""⟩

/-- A price below the last digit is charged as that digit and takes the cash below zero; and what
is held without a bar at the instant of a signal is missing from its point. -/
theorem overdrawn_and_undervalued :
    (run sixDigits [dayBar 1 (6 / 10000000)] [daySignal 1 .buy] dustConfig).cash = -4 / 10 ∧
      (run sixDigits [dayBar 1 100, secondBar] [daySignal 1 .buy, secondSignal]
          (thousand 0 le_rfl)).equityCurve.map (·.totalEquity) = [999, 899] ∧
      recentWorth [dayBar 1 100, secondBar] (run sixDigits [dayBar 1 100, secondBar]
        [daySignal 1 .buy, secondSignal] (thousand 0 le_rfl)).holdings 2 = 100 := by
  refine ⟨by decide +kernel, by decide +kernel, by decide +kernel⟩

end StrategyLab.Backtest
