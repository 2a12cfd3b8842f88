import StrategyLab.Backtest.PortfolioLaws
import Mathlib.Algebra.Order.BigOperators.Group.List

/-! What a run without rounding charges, and when it charges every cost once. -/

namespace StrategyLab.Backtest

open SimpleBacktestRunner

variable {bars : List MarketBar} {config : BacktestConfig} {signals : List Signal}

/-- Every symbol has the same close in all of its bars. -/
def ConstantCloses (bars : List MarketBar) : Prop :=
  ∀ bar ∈ bars, ∀ other ∈ bars, bar.symbol = other.symbol → bar.close = other.close

/-- The close of a symbol whose closes are constant. -/
def closeOf (bars : List MarketBar) (symbol : String) : ℚ :=
  ((bars.find? fun bar => bar.symbol = symbol).map (·.close)).getD 0

/-- Nothing is held. -/
def AllSold (portfolio : Portfolio) : Prop := ∀ row ∈ portfolio.holdings.rows, row.quantity = 0

/-- What is missing from the initial capital is the sum of the recorded fees and slippage. -/
def ChargedOnce (config : BacktestConfig) (final : Portfolio) : Prop :=
  config.initialCapital - final.cash =
    (final.trades.map fun trade => trade.fees + trade.slippage).sum

/-- There is no slippage, or nothing of a price can be bought with the initial capital. -/
def NoSlippage (bars : List MarketBar) (signals : List Signal) (config : BacktestConfig) : Prop :=
  config.slippageRate = 0 ∨ ∀ signal ∈ signals, signal.signalType = .buy →
    ∀ bar, barAt bars signal.symbol signal.timestamp = some bar →
      bar.close = 0 ∨ config.initialCapital < totalCost config bar.close

/-- With constant closes the close of a bar is that of its symbol. -/
theorem closeOf_eq (constant : ConstantCloses bars) {bar : MarketBar} (member : bar ∈ bars) :
    closeOf bars bar.symbol = bar.close := by
  unfold closeOf
  cases found : bars.find? fun other => other.symbol = bar.symbol with
  | none => exact absurd (List.find?_eq_none.mp found bar member) (by simp)
  | some first =>
    have same : first.symbol = bar.symbol := by simpa using List.find?_some found
    exact constant first (List.mem_of_find?_eq_some found) bar member same

/-- A trade moves the cash by the worth of its units, its fees, and twice its slippage: once in
the price and once beside it. -/
theorem cashFlow_eq (constant : ConstantCloses bars) {trade : TradeRecord}
    (made : Made id bars config trade) :
    trade.cashFlow =
      -(closeOf bars trade.symbol * trade.units) - trade.fees - 2 * trade.slippage := by
  obtain ⟨bar, member, named, recorded⟩ := made.bar
  rw [← named, closeOf_eq constant member]
  cases recorded with
  | bought side price fees slippage =>
    simp only [TradeRecord.cashFlow, TradeRecord.cost, TradeRecord.units, side, price, slippage,
      id_eq]
    ring
  | sold side price fees slippage =>
    simp only [TradeRecord.cashFlow, TradeRecord.proceeds, TradeRecord.units, side, price,
      slippage, id_eq]
    push_cast
    ring

/-- The slippage of a trade is its share of the close, for every unit. -/
theorem slippage_eq (constant : ConstantCloses bars) {trade : TradeRecord}
    (made : Made id bars config trade) :
    trade.slippage = closeOf bars trade.symbol * trade.quantity * config.slippageRate := by
  obtain ⟨bar, member, named, recorded⟩ := made.bar
  rw [← named, closeOf_eq constant member]
  cases recorded with
  | bought side price fees slippage => exact slippage
  | sold side price fees slippage => exact slippage

variable {portfolio : Portfolio}

/-- The cash that is missing pays for the units held, the fees, and the slippage twice. -/
theorem charged (constant : ConstantCloses bars) (booked : Booked id bars config portfolio) :
    config.initialCapital - portfolio.cash = portfolio.holdings.worth (closeOf bars) +
      (portfolio.trades.map (·.fees)).sum + 2 * (portfolio.trades.map (·.slippage)).sum := by
  have flows : (portfolio.trades.map (·.cashFlow)).sum =
      -(unitsWorth (closeOf bars) portfolio.trades) - (portfolio.trades.map (·.fees)).sum -
        2 * (portfolio.trades.map (·.slippage)).sum := by
    have made := booked.made
    -- Each trade moves its own share.
    generalize portfolio.trades = trades at made
    unfold unitsWorth
    induction trades with
    | nil => simp
    | cons trade rest ih =>
      simp only [List.map_cons, List.sum_cons]
      rw [cashFlow_eq constant (made trade List.mem_cons_self),
        ih fun other member => made other (List.mem_cons_of_mem _ member)]
      ring
  rw [booked.cash, booked.worth, flows]
  ring

/-- When everything is sold, the holdings are worth nothing. -/
theorem worth_of_allSold (sold : AllSold portfolio)
    (price : String → ℚ) : portfolio.holdings.worth price = 0 := by
  refine List.sum_eq_zero fun amount member => ?_
  obtain ⟨row, inside, rfl⟩ := List.mem_map.mp member
  rw [sold row inside]
  simp

/-- Only symbols of price zero were traded. -/
def OnlyFree (bars : List MarketBar) (portfolio : Portfolio) : Prop :=
  ∀ trade ∈ portfolio.trades, closeOf bars trade.symbol = 0

/-- As long as only symbols of price zero were traded, the cash is the initial capital. -/
theorem cash_of_onlyFree (constant : ConstantCloses bars)
    (booked : Booked id bars config portfolio) (free : OnlyFree bars portfolio) :
    portfolio.cash = config.initialCapital := by
  have still : (portfolio.trades.map (·.cashFlow)).sum = 0 := by
    refine List.sum_eq_zero fun amount member => ?_
    obtain ⟨trade, inside, rfl⟩ := List.mem_map.mp member
    obtain ⟨bar, known, named, recorded⟩ := (booked.made trade inside).bar
    have zero : bar.close = 0 := by
      rw [← closeOf_eq constant known, named]
      exact free trade inside
    -- At a close of zero the price and all costs are zero.
    cases recorded with
    | bought side price fees slippage =>
      simp [TradeRecord.cashFlow, TradeRecord.cost, side, price, fees, slippage, zero]
    | sold side price fees slippage =>
      simp [TradeRecord.cashFlow, TradeRecord.proceeds, side, price, fees, slippage, zero]
  rw [booked.cash, still, add_zero]

/-- A symbol that is held was traded. -/
theorem traded_of_held {rounded : ℚ → ℚ} {symbol : String}
    (booked : Booked rounded bars config portfolio) (held : 0 < portfolio.holdings.get symbol) :
    ∃ trade ∈ portfolio.trades, trade.symbol = symbol := by
  by_contra never
  have none : portfolio.trades.filter (·.symbol = symbol) = [] := by
    rw [List.filter_eq_nil_iff]
    exact fun trade member named => never ⟨trade, member, by simpa using named⟩
  rw [(booked.get symbol).1, unitsOf, none] at held
  simp at held

/-- When nothing of a price can be bought with the initial capital, nothing of a price is traded. -/
theorem onlyFree_of_unaffordable (constant : ConstantCloses bars)
    (unaffordable : ∀ signal ∈ signals, signal.signalType = .buy →
      ∀ bar, barAt bars signal.symbol signal.timestamp = some bar →
        bar.close = 0 ∨ config.initialCapital < totalCost config bar.close) :
    OnlyFree bars (processAll id bars config signals) := by
  have both : Booked id bars config (processAll id bars config signals) ∧
      OnlyFree bars (processAll id bars config signals) := by
    have start : Booked id bars config (.start config) ∧ OnlyFree bars (.start config) :=
      ⟨booked_processAll [], by simp [OnlyFree, Portfolio.start]⟩
    refine List.foldlRecOn (motive := fun portfolio =>
      Booked id bars config portfolio ∧ OnlyFree bars portfolio) signals _ start ?_
    intro portfolio known signal member
    obtain ⟨booked, free⟩ := known
    refine ⟨booked.process signal, ?_⟩
    unfold process
    split
    · rename_i bar found
      obtain ⟨inside, named, -⟩ := barAt_eq_some found
      have price := closeOf_eq constant inside
      have grown {trade : TradeRecord} (zero : closeOf bars trade.symbol = 0) :
          OnlyFree bars (portfolio.book trade) := by
        intro other traded
        rcases List.mem_append.mp traded with old | new
        · exact free other old
        · rw [List.mem_singleton.mp new]
          exact zero
      have step := executed id config signal bar.close portfolio
      generalize execute id config signal bar.close portfolio = next at step
      change OnlyFree bars next
      cases step with
      | held other => exact free
      | refused buys short => exact free
      | bought buys covered =>
        refine grown ?_
        -- The cash is still the initial capital, so what it covers has no price.
        rw [cash_of_onlyFree constant booked free] at covered
        rcases unaffordable signal member buys bar found with zero | short
        · change closeOf bars signal.symbol = 0
          rw [← named, price, zero]
        · exact absurd short (not_lt.mpr covered)
      | sold sells some_ =>
        refine grown ?_
        obtain ⟨trade, traded, same⟩ := traded_of_held booked some_
        change closeOf bars signal.symbol = 0
        rw [← same]
        exact free trade traded
    · exact free
  exact both.2

/-- A signal keeps the trades that were made before it. -/
theorem trades_process {rounded : ℚ → ℚ} (portfolio : Portfolio) (signal : Signal) :
    portfolio.trades <+: (process rounded bars config portfolio signal).trades := by
  unfold process
  split
  · rename_i bar found
    have step := executed rounded config signal bar.close portfolio
    generalize execute rounded config signal bar.close portfolio = next at step
    change portfolio.trades <+: next.trades
    cases step with
    | held other => exact List.prefix_refl _
    | refused buys short => exact List.prefix_refl _
    | bought buys covered => exact List.prefix_append _ _
    | sold sells some_ => exact List.prefix_append _ _
  · exact List.prefix_refl _

/-- A run goes on with the trades that were made before. -/
theorem trades_processAll {rounded : ℚ → ℚ} (before rest : List Signal) :
    (processAll rounded bars config before).trades <+:
      (processAll rounded bars config (before ++ rest)).trades := by
  rw [processAll, processAll, List.foldl_append]
  exact List.foldlRecOn (motive := fun portfolio =>
    (before.foldl (process rounded bars config) (.start config)).trades <+: portfolio.trades) rest _
    (List.prefix_refl _) fun portfolio earlier signal _ =>
      earlier.trans (trades_process portfolio signal)

/-- A run in which nothing of a price was traded had nothing of a price to buy. -/
theorem unaffordable_of_onlyFree (constant : ConstantCloses bars)
    (free : OnlyFree bars (processAll id bars config signals)) {signal : Signal}
    (member : signal ∈ signals) (buys : signal.signalType = .buy) {bar : MarketBar}
    (found : barAt bars signal.symbol signal.timestamp = some bar) :
    bar.close = 0 ∨ config.initialCapital < totalCost config bar.close := by
  by_contra priced
  rw [not_or, not_lt] at priced
  obtain ⟨before, rest, rfl⟩ := List.append_of_mem member
  have booked : Booked id bars config (processAll id bars config before) := booked_processAll before
  -- Up to this signal only free symbols were traded, so the whole initial capital is there.
  have cash := cash_of_onlyFree constant booked fun trade traded =>
    free trade ((trades_processAll before (signal :: rest)).subset traded)
  obtain ⟨inside, named, -⟩ := barAt_eq_some found
  have traded : ∃ trade ∈ (processAll id bars config (before ++ [signal])).trades,
      trade.symbol = signal.symbol := by
    rw [processAll, List.foldl_append, ← processAll]
    simp only [List.foldl_cons, List.foldl_nil, process, found]
    have step := executed id config signal bar.close
      (processAll id bars config before)
    generalize execute id config signal bar.close (processAll id bars config before) = next at step
    change ∃ trade ∈ next.trades, trade.symbol = signal.symbol
    cases step with
    | held other => exact absurd buys other
    | refused _ short =>
      rw [cash] at short
      exact absurd short (not_lt.mpr priced.2)
    | bought _ covered => exact ⟨_, List.mem_append_right _ (List.mem_singleton_self _), rfl⟩
    | sold sells some_ =>
      rw [buys] at sells
      cases sells
  obtain ⟨trade, made, same⟩ := traded
  have later := @trades_processAll bars config id (before ++ [signal]) rest
  rw [List.append_assoc, List.singleton_append] at later
  have zero := free trade (later.subset made)
  rw [same, ← named, closeOf_eq constant inside] at zero
  exact priced.1 zero

/-- Processing signals in their order is processing all of them. -/
theorem mem_ordered {signal : Signal} : signal ∈ ordered signals ↔ signal ∈ signals :=
  Py.mem_sortedBy _

/-- Without rounding a run over constant closes that sells everything again is short of the fees
and of twice the slippage; so it charges every cost once exactly when there is no slippage. -/
theorem costs_charged_once (constant : ConstantCloses bars)
    (sold : AllSold (run id bars signals config)) :
    config.initialCapital - (run id bars signals config).cash =
        ((run id bars signals config).trades.map (·.fees)).sum +
          2 * ((run id bars signals config).trades.map (·.slippage)).sum ∧
      (NoSlippage bars signals config → ChargedOnce config (run id bars signals config)) ∧
      ((∀ bar ∈ bars, 0 ≤ bar.close) →
        (ChargedOnce config (run id bars signals config) ↔ NoSlippage bars signals config)) := by
  have booked : Booked id bars config (run id bars signals config) := booked_processAll _
  have total := charged constant booked
  rw [worth_of_allSold sold, zero_add] at total
  have recorded (trades : List TradeRecord) :
      (trades.map fun trade => trade.fees + trade.slippage).sum =
        (trades.map (·.fees)).sum + (trades.map (·.slippage)).sum := List.sum_map_add
  have once : ChargedOnce config (run id bars signals config) ↔
      ((run id bars signals config).trades.map (·.slippage)).sum = 0 := by
    rw [ChargedOnce, total, recorded]
    constructor <;> intro same <;> linarith
  have enough : NoSlippage bars signals config →
      ChargedOnce config (run id bars signals config) := by
    intro none
    rw [once]
    refine List.sum_eq_zero fun amount member => ?_
    obtain ⟨trade, traded, rfl⟩ := List.mem_map.mp member
    rw [slippage_eq constant (booked.made trade traded)]
    rcases none with rate | unaffordable
    · rw [rate, mul_zero]
    · have free := @onlyFree_of_unaffordable bars config (ordered signals) constant
        fun signal ordered_ => unaffordable signal (mem_ordered.mp ordered_)
      rw [free trade traded, zero_mul, zero_mul]
  refine ⟨total, enough, fun priced => ⟨fun chargedOnce => ?_, enough⟩⟩
  rw [once] at chargedOnce
  by_cases rate : config.slippageRate = 0
  · exact .inl rate
  · right
    -- No slippage is negative, so each of them is zero, and nothing of a price was traded.
    have share : ∀ trade ∈ (run id bars signals config).trades, 0 ≤ trade.slippage := by
      intro trade traded
      have made := booked.made trade traded
      obtain ⟨bar, member, named, -⟩ := made.bar
      have price := priced bar member
      have units : (0 : ℚ) ≤ trade.quantity := by exact_mod_cast made.quantity.le
      rw [slippage_eq constant made, ← named, closeOf_eq constant member]
      exact mul_nonneg (mul_nonneg price units) config.slippage_nonneg
    have free : OnlyFree bars (run id bars signals config) := by
      intro trade traded
      have made := booked.made trade traded
      have none : trade.slippage = 0 := by
        refine le_antisymm ?_ (share trade traded)
        rw [← chargedOnce]
        refine List.single_le_sum (fun amount member => ?_) _ (List.mem_map_of_mem traded)
        obtain ⟨other, inside, rfl⟩ := List.mem_map.mp member
        exact share other inside
      have units : (trade.quantity : ℚ) ≠ 0 := by exact_mod_cast made.quantity.ne'
      rw [slippage_eq constant made] at none
      simpa [units, rate] using none
    exact fun signal member buys bar found =>
      unaffordable_of_onlyFree constant free (mem_ordered.mpr member) buys found

/-- A bar of one symbol on one of the first days. -/
def dayBar (day : Int) (close : ℚ) : MarketBar := ⟨"AAA", day, close, by decide⟩

/-- A signal for the symbol on one of the first days. -/
def daySignal (day : Int) (signalType : SignalType) : Signal := ⟨"AAA", day, signalType, ""⟩

/-- A capital of one thousand with a rate of slippage. -/
def thousand (slippageRate : ℚ) (nonneg : 0 ≤ slippageRate) : BacktestConfig :=
  { initialCapital := 1000, transactionCostRate := 1 / 100, slippageRate, quantityPerSignal := 1,
    capital_pos := by norm_num, cost_nonneg := by norm_num, slippage_nonneg := nonneg,
    quantity_pos := by decide }

/-- Without slippage a unit that is bought and sold again costs its fees. -/
theorem fees_charged_once :
    ChargedOnce (thousand 0 le_rfl) (run id [dayBar 1 100, dayBar 2 100]
      [daySignal 1 .buy, daySignal 2 .sell] (thousand 0 le_rfl)) ∧
      (run id [dayBar 1 100, dayBar 2 100] [daySignal 1 .buy, daySignal 2 .sell]
        (thousand 0 le_rfl)).cash = 998 := by
  have constant : ConstantCloses [dayBar 1 100, dayBar 2 100] := by
    unfold ConstantCloses
    decide +kernel
  have sold : AllSold (run id [dayBar 1 100, dayBar 2 100] [daySignal 1 .buy, daySignal 2 .sell]
      (thousand 0 le_rfl)) := by
    unfold AllSold
    decide +kernel
  exact ⟨(costs_charged_once constant sold).2.1 (.inl rfl), by decide +kernel⟩

/-- With one percent of slippage, buying and selling a unit at one hundred costs two more than
the fees and the slippage that are recorded. -/
theorem slippage_charged_twice :
    ConstantCloses [dayBar 1 100, dayBar 2 100] ∧
      AllSold (run id [dayBar 1 100, dayBar 2 100] [daySignal 1 .buy, daySignal 2 .sell]
        (thousand (1 / 100) (by norm_num))) ∧
      ¬ChargedOnce (thousand (1 / 100) (by norm_num)) (run id [dayBar 1 100, dayBar 2 100]
        [daySignal 1 .buy, daySignal 2 .sell] (thousand (1 / 100) (by norm_num))) := by
  unfold ConstantCloses AllSold ChargedOnce
  refine ⟨by decide +kernel, by decide +kernel, by decide +kernel⟩

end StrategyLab.Backtest
