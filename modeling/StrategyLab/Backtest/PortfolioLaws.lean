import StrategyLab.Backtest.SimpleBacktestRunner
import Mathlib.Algebra.BigOperators.Ring.List
import Mathlib.Tactic.Ring
import Mathlib.Tactic.Linarith

/-! What the cash and the holdings of a portfolio owe to its trades. -/

namespace StrategyLab.Backtest

open SimpleBacktestRunner

variable {rounded : ℚ → ℚ} {bars : List MarketBar} {config : BacktestConfig}

/-- The units a trade adds to its symbol. -/
def TradeRecord.units (trade : TradeRecord) : Int :=
  match trade.side with
  | .buy => trade.quantity
  | .sell => -trade.quantity

/-- What a trade adds to the cash. -/
def TradeRecord.cashFlow (trade : TradeRecord) : ℚ :=
  match trade.side with
  | .buy => -trade.cost
  | .sell => trade.proceeds

/-- The worth of some holdings at a price for each symbol. -/
def Holdings.worth (price : String → ℚ) (holdings : Holdings) : ℚ :=
  (holdings.rows.map fun row => price row.symbol * row.quantity).sum

/-- What some trades bought less what they sold, at a price for each symbol. -/
def unitsWorth (price : String → ℚ) (trades : List TradeRecord) : ℚ :=
  (trades.map fun trade => price trade.symbol * trade.units).sum

/-- The units of one symbol that some trades bought less those they sold. -/
def unitsOf (trades : List TradeRecord) (symbol : String) : Int :=
  ((trades.filter (·.symbol = symbol)).map (·.units)).sum

/-- A trade records the price and the costs of a quantity at a close. -/
inductive RecordedAt (rounded : ℚ → ℚ) (config : BacktestConfig) (close : ℚ)
    (trade : TradeRecord) : Prop
  | bought (side : trade.side = .buy)
    (price : trade.price = rounded (close * (1 + config.slippageRate)))
    (fees : trade.fees = rounded
      (close * (1 + config.slippageRate) * trade.quantity * config.transactionCostRate))
    (slippage : trade.slippage = rounded (close * trade.quantity * config.slippageRate))
  | sold (side : trade.side = .sell)
    (price : trade.price = rounded (close * (1 - config.slippageRate)))
    (fees : trade.fees = rounded
      (close * (1 - config.slippageRate) * trade.quantity * config.transactionCostRate))
    (slippage : trade.slippage = rounded (close * trade.quantity * config.slippageRate))

/-- A trade was made at the close of a bar of its symbol. -/
structure Made (rounded : ℚ → ℚ) (bars : List MarketBar) (config : BacktestConfig)
    (trade : TradeRecord) : Prop where
  quantity : 0 < trade.quantity
  bar : ∃ bar ∈ bars, bar.symbol = trade.symbol ∧ RecordedAt rounded config bar.close trade

/-- The cash and the holdings are what the trades make of the initial capital. -/
structure Booked (rounded : ℚ → ℚ) (bars : List MarketBar) (config : BacktestConfig)
    (portfolio : Portfolio) : Prop where
  cash : portfolio.cash = config.initialCapital + (portfolio.trades.map (·.cashFlow)).sum
  worth : ∀ price, portfolio.holdings.worth price = unitsWorth price portfolio.trades
  nonneg : ∀ row ∈ portfolio.holdings.rows, 0 ≤ row.quantity
  made : ∀ trade ∈ portfolio.trades, Made rounded bars config trade

/-! ### Holdings -/

/-- The units held of a symbol are the worth at a price of one for it and nothing for others. -/
theorem get_eq_worth (holdings : Holdings) (symbol : String) :
    (holdings.get symbol : ℚ) = holdings.worth fun other => if other = symbol then 1 else 0 := by
  unfold Holdings.worth Holdings.get
  rw [holdings.sum_eq_filter_add symbol]
  -- Rows of other symbols count nothing.
  have others : ((holdings.rows.filter fun row => row.symbol ≠ symbol).map fun row =>
      (if row.symbol = symbol then (1 : ℚ) else 0) * row.quantity).sum = 0 := by
    refine List.sum_eq_zero fun amount member => ?_
    obtain ⟨row, kept, rfl⟩ := List.mem_map.mp member
    have differs : row.symbol ≠ symbol := by simpa using (List.mem_filter.mp kept).2
    rw [if_neg differs, zero_mul]
  rw [others, zero_add]
  cases found : holdings.find? symbol with
  | none => simp
  | some row => simp [Table.key_of_find? found]

/-- Adding units of a symbol adds their worth. -/
theorem worth_add (holdings : Holdings) (symbol : String) (quantity : Int)
    (price : String → ℚ) : (holdings.add symbol quantity).worth price =
      holdings.worth price + price symbol * quantity := by
  unfold Holdings.worth Holdings.add
  rw [Table.sum_replace]
  unfold Holdings.get
  cases found : holdings.find? symbol with
  | none => simp
  | some row =>
    simp only [Option.map_some, Option.getD_some, Table.key_of_find? found]
    push_cast
    ring

/-- Units of a symbol are not negative when none of the rows is. -/
theorem get_nonneg {holdings : Holdings} (nonneg : ∀ row ∈ holdings.rows, 0 ≤ row.quantity)
    (symbol : String) : 0 ≤ holdings.get symbol := by
  unfold Holdings.get
  cases found : holdings.find? symbol with
  | none => simp
  | some row => simpa using nonneg row (Table.find?_eq_some_iff.mp found).1

/-- The rows after adding units are old ones and the row of the symbol. -/
theorem mem_add {holdings : Holdings} {symbol : String} {quantity : Int} {row : Holding}
    (member : row ∈ (holdings.add symbol quantity).rows) :
    row ∈ holdings.rows ∨ row = ⟨symbol, holdings.get symbol + quantity⟩ := by
  simp only [Holdings.add, Table.replace] at member
  rcases List.mem_append.mp member with old | new
  · exact .inl (List.mem_filter.mp old).1
  · exact .inr (List.mem_singleton.mp new)

/-- The units that trades leave of a symbol are their worth at the price of one for it. -/
theorem unitsOf_eq (trades : List TradeRecord) (symbol : String) :
    (unitsOf trades symbol : ℚ) =
      unitsWorth (fun other => if other = symbol then 1 else 0) trades := by
  unfold unitsOf unitsWorth
  induction trades with
  | nil => simp
  | cons trade rest ih =>
    rw [List.map_cons, List.sum_cons, ← ih]
    by_cases same : trade.symbol = symbol
    · rw [List.filter_cons_of_pos (by simpa using same), List.map_cons, List.sum_cons]
      simp [same]
    · rw [List.filter_cons_of_neg (by simpa using same)]
      simp [same]

variable {portfolio : Portfolio}

/-- The units held of a symbol are those bought less those sold, and never negative. -/
theorem Booked.get (booked : Booked rounded bars config portfolio)
    (symbol : String) : portfolio.holdings.get symbol = unitsOf portfolio.trades symbol ∧
      0 ≤ portfolio.holdings.get symbol := by
  refine ⟨?_, get_nonneg booked.nonneg symbol⟩
  have same : (portfolio.holdings.get symbol : ℚ) = unitsOf portfolio.trades symbol := by
    rw [get_eq_worth, booked.worth, unitsOf_eq]
  exact_mod_cast same

/-! ### Steps -/

/-- A portfolio with one more trade. -/
def Portfolio.book (portfolio : Portfolio) (trade : TradeRecord) : Portfolio :=
  { portfolio with
    cash := portfolio.cash + trade.cashFlow
    holdings := portfolio.holdings.add trade.symbol trade.units
    trades := portfolio.trades ++ [trade] }

/-- What carrying out a signal can do: nothing, or book one trade. -/
inductive Executed (rounded : ℚ → ℚ) (config : BacktestConfig) (signal : Signal) (close : ℚ)
    (portfolio : Portfolio) : Portfolio → Prop
  | held (other : signal.signalType ≠ .buy) : Executed rounded config signal close portfolio portfolio
  | refused (buys : signal.signalType = .buy) (short : portfolio.cash < totalCost config close) :
    Executed rounded config signal close portfolio portfolio
  | bought (buys : signal.signalType = .buy) (covered : totalCost config close ≤ portfolio.cash) :
    Executed rounded config signal close portfolio (portfolio.book
      (tradeRecord rounded config signal .buy close (close * (1 + config.slippageRate))
        config.quantityPerSignal))
  | sold (sells : signal.signalType = .sell) (some_ : 0 < portfolio.holdings.get signal.symbol) :
    Executed rounded config signal close portfolio (portfolio.book
      (sell rounded config signal close (portfolio.holdings.get signal.symbol)))

/-- Carrying out a signal takes one of these steps. -/
theorem executed (rounded : ℚ → ℚ) (config : BacktestConfig) (signal : Signal) (close : ℚ)
    (portfolio : Portfolio) : Executed rounded config signal close portfolio
      (execute rounded config signal close portfolio) := by
  unfold execute
  cases type : signal.signalType with
  | hold => exact .held (by rw [type]; decide)
  | buy =>
    dsimp only
    unfold buy
    by_cases short : portfolio.cash < totalCost config close
    · rw [if_pos short]
      exact .refused type short
    · rw [if_neg short]
      have step := @Executed.bought rounded config signal close portfolio type (not_lt.mp short)
      simpa [Portfolio.book, TradeRecord.cashFlow, TradeRecord.units, tradeRecord,
        sub_eq_add_neg] using step
  | sell =>
    dsimp only
    by_cases some_ : 0 < portfolio.holdings.get signal.symbol
    · rw [if_pos some_]
      exact .sold type some_
    · rw [if_neg some_]
      exact .held (by rw [type]; decide)

/-- Booking a trade keeps the books: its cash flow, its units and its record. -/
theorem Booked.book (booked : Booked rounded bars config portfolio)
    {trade : TradeRecord} (made : Made rounded bars config trade)
    (enough : 0 ≤ portfolio.holdings.get trade.symbol + trade.units) :
    Booked rounded bars config (portfolio.book trade) where
  cash := by
    simp only [Portfolio.book, List.map_append, List.sum_append, List.map_singleton,
      List.sum_singleton, booked.cash, add_assoc]
  worth price := by
    simp only [Portfolio.book, worth_add, booked.worth, unitsWorth, List.map_append,
      List.sum_append, List.map_singleton, List.sum_singleton]
  nonneg row member := by
    rcases mem_add member with old | rfl
    · exact booked.nonneg row old
    · exact enough
  made other member := by
    rcases List.mem_append.mp member with old | new
    · exact booked.made other old
    · rw [List.mem_singleton.mp new]
      exact made

/-- Carrying out a signal at the close of its bar keeps the books. -/
theorem Booked.execute {portfolio next : Portfolio} {signal : Signal} {bar : MarketBar}
    (booked : Booked rounded bars config portfolio) (member : bar ∈ bars)
    (named : bar.symbol = signal.symbol)
    (step : Executed rounded config signal bar.close portfolio next) :
    Booked rounded bars config next := by
  cases step with
  | held other => exact booked
  | refused buys short => exact booked
  | bought buys covered =>
    refine booked.book ⟨config.quantity_pos, bar, member, named, .bought rfl rfl rfl rfl⟩ ?_
    exact add_nonneg (get_nonneg booked.nonneg _) config.quantity_pos.le
  | sold sells some_ =>
    -- No more is sold than is held.
    have most : min config.quantityPerSignal (portfolio.holdings.get signal.symbol) ≤
        portfolio.holdings.get signal.symbol := min_le_right _ _
    refine booked.book ⟨lt_min config.quantity_pos some_, bar, member, named,
      .sold rfl rfl rfl rfl⟩ ?_
    change 0 ≤ portfolio.holdings.get signal.symbol +
      -min config.quantityPerSignal (portfolio.holdings.get signal.symbol)
    omega

/-- The bar found under a symbol and an instant is one of the bars, of that symbol and instant. -/
theorem barAt_eq_some {symbol : String} {timestamp : Int} {bar : MarketBar}
    (found : barAt bars symbol timestamp = some bar) :
    bar ∈ bars ∧ bar.symbol = symbol ∧ bar.timestamp = timestamp := by
  have member := List.mem_of_getLast? found
  simp only [List.mem_filter, decide_eq_true_eq] at member
  exact member

/-- Marking the portfolio keeps the books. -/
theorem Booked.mark (booked : Booked rounded bars config portfolio)
    (timestamp : Int) : Booked rounded bars config (mark rounded bars timestamp portfolio) :=
  ⟨booked.cash, booked.worth, booked.nonneg, booked.made⟩

/-- Every signal keeps the books. -/
theorem Booked.process (booked : Booked rounded bars config portfolio)
    (signal : Signal) : Booked rounded bars config (process rounded bars config portfolio signal) := by
  unfold SimpleBacktestRunner.process
  split
  · rename_i bar found
    obtain ⟨member, named, -⟩ := barAt_eq_some found
    exact (booked.execute member named (executed rounded config signal bar.close portfolio)).mark _
  · exact booked

/-- The books are kept after any number of signals. -/
theorem booked_processAll (signals : List Signal) :
    Booked rounded bars config (processAll rounded bars config signals) := by
  have start : Booked rounded bars config (.start config) :=
    ⟨by simp [Portfolio.start], fun price => rfl, by simp [Portfolio.start],
      by simp [Portfolio.start]⟩
  exact List.foldlRecOn signals _ start fun portfolio booked signal _ => booked.process signal

end StrategyLab.Backtest
