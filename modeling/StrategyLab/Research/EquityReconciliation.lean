import StrategyLab.Research.BacktestEngineLaws

/-! Whether the equity a backtest ends with accounts for all of its trades. -/

namespace StrategyLab

open RuleBasedBacktestEngine

variable {numerals : Py.Numerals} {input : SimulationInput} {initialCapital : ℚ}

/-- What the closed positions gained or lost together. -/
def realizedPnl (closed : List ClosedPosition) : ℚ := (closed.map (·.pnl)).sum

/-- One more closed position adds its own gain or loss. -/
theorem realizedPnl_append (closed : List ClosedPosition) (position : ClosedPosition) :
    realizedPnl (closed ++ [position]) = realizedPnl closed + position.pnl := by
  simp [realizedPnl]

/-- The cash and the position at its cost are the capital and what was realized so far. -/
structure Reconciled (input : SimulationInput) (initialCapital : ℚ) (count : Nat)
    (state : SimulationState) : Prop where
  balance : state.cash + state.quantity * state.entryPrice =
    initialCapital + realizedPnl state.closed
  /-- Without shares there is no entry price. -/
  unpriced : state.quantity ≤ 0 → state.entryPrice = 0
  /-- A position is only held after the warm-up. -/
  warm : state.quantity ≠ 0 → input.warmup < count

/-- The simulation starts reconciled. -/
theorem reconciled_start : Reconciled input initialCapital 0 (.start initialCapital) where
  balance := by simp [SimulationState.start, realizedPnl]
  unpriced _ := rfl
  warm held := absurd rfl held

variable {bar : MarketBar} {state next : SimulationState}

/-- Buying moves cash into the position at its cost. -/
theorem Reconciled.enter {count index : Nat}
    (books : Reconciled input initialCapital count state) (flat : state.quantity = 0)
    (late : input.warmup ≤ index)
    (bought : state.enter input.costRate index bar = .ok next) :
    Reconciled input initialCapital (index + 1) next := by
  obtain ⟨-, -, closed, -, -, some_, none⟩ := enter_eq_ok bought
  have before := books.balance
  rw [flat] at before
  have unpriced := books.unpriced (by omega)
  constructor
  · rw [closed]
    rcases lt_or_ge 0 next.quantity with shares | empty
    · obtain ⟨cash, price, -, -⟩ := some_ shares
      rw [cash, price, ← before]
      push_cast
      ring
    · obtain ⟨cash, price, -⟩ := none empty
      rw [cash, price, unpriced, ← before]
      push_cast
      ring
  · intro empty
    rw [(none empty).2.1, unpriced]
  · intro _
    push_cast
    omega

variable {count : Nat}

/-- Selling turns the position into its proceeds, and the difference is realized. -/
theorem Reconciled.leave {costRate : ℚ} {reason : ExitReason}
    (books : Reconciled input initialCapital count state)
    (sold : state.leave costRate bar reason = .ok next) (later : Nat) :
    Reconciled input initialCapital later next := by
  obtain ⟨-, quantity, price, cash, -, -, position, closed, bought, exit, shares, -⟩ :=
    leave_eq_ok sold
  constructor
  · rw [closed, realizedPnl_append, ← add_assoc, ← books.balance, quantity, cash,
      ClosedPosition.pnl, bought, exit, shares]
    push_cast
    ring
  · exact fun _ => price
  · exact fun held => absurd quantity held

variable {index : Nat}

/-- Every bar keeps the books. -/
theorem Reconciled.step (books : Reconciled input initialCapital index state)
    (stepped : BarStep numerals input index bar state next) :
    Reconciled input initialCapital (index + 1) next := by
  -- Marking the account changes neither the cash nor the position.
  have marked : Reconciled input initialCapital index (state.mark bar) :=
    ⟨books.balance, books.unpriced, books.warm⟩
  have waited : Reconciled input initialCapital (index + 1) (state.mark bar) := by
    refine ⟨books.balance, books.unpriced, fun held => ?_⟩
    have warm := books.warm held
    push_cast
    omega
  cases stepped with
  | warmingUp early => exact waited
  | waited late flat seen refused => exact waited
  | entered late flat seen allowed bought => exact marked.enter flat late bought
  | held late holding seen kept => exact waited
  | exited late holding seen due sold => exact marked.leave sold (index + 1)

/-- The books are kept after any number of bars. -/
theorem reconciled_upTo {state : SimulationState}
    (reached : simulateUpTo numerals input initialCapital count = .ok state) :
    Reconciled input initialCapital count state := by
  refine Loop.upTo_invariant reconciled_start (fun {index before after} books stepped => ?_) reached
  unfold loopBody at stepped
  split at stepped
  · exact books.step (stepBar_eq_ok stepped)
  · obtain rfl := Except.ok.inj stepped
    refine ⟨books.balance, books.unpriced, fun held => ?_⟩
    have warm := books.warm held
    push_cast
    omega

/-- The last equity, the ending equity and the total return account for all closed positions. -/
def Accounted (initialCapital : ℚ) (closed : List ClosedPosition) (result : RealBacktestResult) :
    Prop :=
  let total := Py.round 4 (initialCapital + realizedPnl closed)
  result.equityCurve.getLast?.map (·.equity) = some total ∧
    result.metrics.endingEquity = total ∧
    result.metrics.totalReturn = Py.round 6 (total / initialCapital - 1)

/-- Before the last bar no position is held, or the costs of selling it there round away. -/
def LastExitFree (costRate : ℚ) (state : SimulationState) (last : MarketBar) : Prop :=
  state.quantity = 0 ∨
    Py.round 4 (state.cash + state.quantity * last.close) =
      Py.round 4 (state.cash + state.quantity * (last.close * (1 - costRate)))

instance (costRate : ℚ) (state : SimulationState) (last : MarketBar) :
    Decidable (LastExitFree costRate state last) :=
  inferInstanceAs (Decidable (_ ∨ _))

/-- On the last bar an open position is always due to be closed. -/
theorem exitReason_last {entryPrice priorLow : ℚ} (final : index + 1 = input.bars.length) :
    input.exitReason index bar entryPrice priorLow ≠ none := by
  unfold SimulationInput.exitReason
  split
  · simp
  · split
    · simp
    · simp

/-- With no position left, the cash is what the closed positions made of the capital. -/
theorem Reconciled.cash_of_flat {state : SimulationState}
    (books : Reconciled input initialCapital count state) (flat : state.quantity = 0) :
    state.cash = initialCapital + realizedPnl state.closed := by
  have balance := books.balance
  rw [flat] at balance
  simpa using balance

variable {after final : SimulationState}

/-- A position still open after the loop is closed, and the last equity is the cash it leaves. -/
theorem closeOut_open {last : MarketBar}
    (there : input.bars.getLast? = some last) (books : Reconciled input initialCapital count after)
    (holding : after.quantity ≠ 0) (closing : closeOut input after = .ok final) :
    final.equityCurve.getLast?.map (·.equity) =
      some (Py.round 4 (initialCapital + realizedPnl final.closed)) := by
  simp only [closeOut, there, if_neg holding] at closing
  obtain ⟨sold, left, rest⟩ := Raise.bind_eq_ok.mp closing
  obtain rfl := Except.ok.inj rest
  have settled : Reconciled input initialCapital count sold := books.leave left count
  obtain ⟨-, flat, -⟩ := leave_eq_ok left
  simp [settled.cash_of_flat flat]

/-- A position that was closed in the loop leaves the simulation as it is. -/
theorem closeOut_flat (flat : after.quantity = 0)
    (closing : closeOut input after = .ok final) : final = after := by
  unfold closeOut at closing
  split at closing
  · exact (Except.ok.inj closing).symm
  · rw [if_pos flat] at closing
    exact (Except.ok.inj closing).symm

/-- The last equity accounts for all closed positions exactly when the last bar has no exit whose
costs it misses. -/
theorem lastEquity_iff {before after final : SimulationState} {last : MarketBar}
    (whole : index + 1 = input.bars.length) (there : input.bars.getLast? = some last)
    (books : Reconciled input initialCapital index before)
    (stepped : BarStep numerals input index last before after)
    (closing : closeOut input after = .ok final) :
    final.equityCurve.getLast?.map (·.equity) =
        some (Py.round 4 (initialCapital + realizedPnl final.closed)) ↔
      LastExitFree input.costRate before last := by
  have settled : Reconciled input initialCapital (index + 1) after := books.step stepped
  -- Without an update after the loop, the curve ends with the account before the fill.
  have marked (flat : after.quantity = 0) : final.equityCurve.getLast?.map (·.equity) =
      some (Py.round 4 (before.cash + before.quantity * last.close)) := by
    rw [closeOut_flat flat closing, stepped.equityCurve]
    simp
  have unopened (flat : before.quantity = 0) (still : after.quantity = 0)
      (cash : after.cash = before.cash) :
      final.equityCurve.getLast?.map (·.equity) =
          some (Py.round 4 (initialCapital + realizedPnl final.closed)) ↔
        LastExitFree input.costRate before last := by
    rw [marked still, closeOut_flat still closing, ← settled.cash_of_flat still, cash, flat]
    simp [LastExitFree, flat]
  cases stepped with
  | warmingUp early =>
    have flat : before.quantity = 0 := by
      by_contra holding
      have warm := books.warm holding
      omega
    exact unopened flat flat rfl
  | waited late flat seen refused => exact unopened flat flat rfl
  | entered late flat seen allowed bought =>
    obtain ⟨-, -, -, -, -, -, none⟩ := enter_eq_ok bought
    by_cases still : after.quantity = 0
    · exact unopened flat still (none (by omega)).1
    · -- Bought on the last bar: the block after the loop sells it and updates the curve.
      exact ⟨fun _ => Or.inl flat, fun _ => closeOut_open there settled still closing⟩
  | held late holding seen kept => exact absurd kept (exitReason_last whole)
  | exited late holding seen due sold =>
    -- Sold in the loop: the point of this bar was appended before the fill.
    obtain ⟨-, flat, -, cash, -⟩ := leave_eq_ok sold
    rw [marked flat, closeOut_flat flat closing, ← settled.cash_of_flat flat, cash]
    simp [LastExitFree, holding]

/-- The metrics repeat the last equity and its return on the capital. -/
theorem accounted_iff {runId : String} {dataset : MarketDataset} {final : SimulationState}
    (positive : 0 < initialCapital) :
    Accounted initialCapital final.closed
        (completedResult runId dataset input initialCapital final) ↔
      final.equityCurve.getLast?.map (·.equity) =
        some (Py.round 4 (initialCapital + realizedPnl final.closed)) := by
  constructor
  · exact fun accounted => accounted.1
  · intro same
    refine ⟨same, ?_, ?_⟩
    · simp only [completedResult, PerformanceMetricsCalculator.calculate]
      cases ended : final.equityCurve.getLast? with
      | none => simp [ended] at same
      | some point =>
        simp only [ended, Option.map_some, Option.some.injEq] at same
        simp [same]
    · simp only [completedResult, PerformanceMetricsCalculator.calculate]
      cases ended : final.equityCurve.getLast? with
      | none => simp [ended] at same
      | some point =>
        simp only [ended, Option.map_some, Option.some.injEq] at same
        simp [same, positive.ne']

/-- A run ends with an equity that accounts for every closed position exactly when no position is
carried into the last bar, or selling it there costs less than the rounding shows. -/
theorem equity_reconciles_iff {runId : String} {strategy : CanonicalStrategySpec}
    {dataset : MarketDataset} {assumptions : BacktestExecutionAssumptionSet}
    {result : RealBacktestResult} (ran : run numerals runId strategy dataset assumptions = .ok result)
    (enough : 61 ≤ (tradedBars strategy dataset).length)
    (capital : assumptions.initialCapital.toFloat numerals = .ok initialCapital)
    (positive : 0 < initialCapital) :
    ∃ input final before last,
      Ran numerals runId strategy dataset assumptions result input initialCapital final ∧
      input.bars.getLast? = some last ∧
      simulateUpTo numerals input initialCapital (input.bars.length - 1) = .ok before ∧
      (Accounted initialCapital final.closed result ↔ LastExitFree input.costRate before last) := by
  obtain ⟨input, capital', final, made⟩ := ran_of_run ran enough
  obtain rfl : initialCapital = capital' := Except.ok.inj (capital.symm.trans made.capital)
  obtain ⟨bars, -, -⟩ := prepare_eq_ok made.prepared
  obtain ⟨after, looped, closing⟩ := Raise.bind_eq_ok.mp made.simulated
  -- The last pass of the loop is the one over the last bar.
  have whole : input.bars.length - 1 + 1 = input.bars.length := by
    rw [bars]
    omega
  have there : input.bars[input.bars.length - 1]? = input.bars.getLast? := by
    rw [List.getLast?_eq_getElem?]
  have nonempty : input.bars ≠ [] := by
    intro none
    simp [none] at whole
  have ended : input.bars.getLast? = some (input.bars.getLast nonempty) :=
    List.getLast?_eq_some_getLast nonempty
  rw [simulateUpTo, ← whole] at looped
  obtain ⟨before, reached, stepped⟩ := Loop.upTo_succ_eq_ok.mp looped
  rw [loopBody_of_getElem? (there.trans ended)] at stepped
  refine ⟨input, final, before, _, made, ended, reached, ?_⟩
  rw [made.result, accounted_iff positive]
  exact lastEquity_iff whole ended (reconciled_upTo reached) (stepBar_eq_ok stepped) closing

/-- A breakout over twenty bars with a stop ten percent below the entry. -/
def breakoutSpec : CanonicalStrategySpec :=
  { specId := "spec", symbol := "005930", entry := userRules [("breakout_lookback", .int 20)],
    exit := userRules [("protective_stop_pct", .int 10)], filters := userRules [],
    sourceText := "", createdAt := "2026-07-17T00:00:00Z" }

/-- One percent of costs and a capital of one thousand. -/
def onePercentCosts : BacktestExecutionAssumptionSet :=
  let field := fun value => (⟨value, .default⟩ : ProvenancedValue)
  { commission := field (.float (1 / 100)), tax := field (.int 0), slippage := field (.int 0),
    executionTiming := field (.str "next_close"),
    positionSizing := field (.str "single_position_all_cash"), initialCapital := field (.int 1000) }

/-- A number as two digits. -/
def twoDigits (n : Nat) : String := if n < 10 then s!"0{n}" else s!"{n}"

/-- A day of the first months of a year, counted from zero, on which the price did not move. -/
def stillBar (index : Nat) (close : ℚ) : MarketBar :=
  { timestamp := s!"2026-{twoDigits (index / 28 + 1)}-{twoDigits (index % 28 + 1)}",
    symbol := "005930", open_ := close, high := close, low := close, close, volume := 100,
    tradingValue := 1000 }

/-- Sixty days at ten, and then the given closes. -/
def flatThen (later : List ℚ) : MarketDataset :=
  { datasetId := "dataset", bars := (List.replicate 60 10 ++ later).mapIdx stillBar,
    fixtureBacked := true }

set_option maxRecDepth 4096 in
/-- A position stopped out before the last bar is accounted for. -/
theorem early_exit_accounted :
    ∃ result input final,
      Ran noNumerals "run" breakoutSpec (flatThen [11, 9, 9]) onePercentCosts result input 1000
        final ∧ final.closed.length = 1 ∧ Accounted 1000 final.closed result := by
  have finished : (run noNumerals "run" breakoutSpec (flatThen [11, 9, 9])
      onePercentCosts).toBool = true := by decide +kernel
  cases ran : run noNumerals "run" breakoutSpec (flatThen [11, 9, 9]) onePercentCosts with
  | error raised => simp [ran, Except.toBool] at finished
  | ok result =>
    have capital : onePercentCosts.initialCapital.toFloat noNumerals = .ok 1000 := rfl
    obtain ⟨input, final, before, last, made, -, reached, accounted⟩ :=
      equity_reconciles_iff ran (by decide +kernel) capital (by norm_num)
    have flat : (prepare noNumerals breakoutSpec onePercentCosts
        (tradedBars breakoutSpec (flatThen [11, 9, 9]))
        (peerBars breakoutSpec (flatThen [11, 9, 9])) >>= fun input =>
        simulateUpTo noNumerals input 1000 (input.bars.length - 1) >>= fun before =>
        simulate noNumerals input 1000 >>= fun final =>
        .ok (before.quantity, final.closed.length)).toOption = some (0, 1) := by
      decide +kernel
    simp only [made.prepared, reached, made.simulated, bind, Except.bind, Except.toOption,
      Option.some.injEq, Prod.mk.injEq] at flat
    exact ⟨result, input, final, made, flat.2, accounted.mpr (Or.inl flat.1)⟩

set_option maxRecDepth 4096 in
/-- A position sold on the last bar is reported with a last equity that misses the costs. -/
theorem last_exit_costs_missed :
    ∃ result input final,
      Ran noNumerals "run" breakoutSpec (flatThen [11, 11]) onePercentCosts result input 1000
        final ∧ ¬Accounted 1000 final.closed result := by
  have finished : (run noNumerals "run" breakoutSpec (flatThen [11, 11])
      onePercentCosts).toBool = true := by decide +kernel
  cases ran : run noNumerals "run" breakoutSpec (flatThen [11, 11]) onePercentCosts with
  | error raised => simp [ran, Except.toBool] at finished
  | ok result =>
    obtain ⟨input, capital, final, made⟩ := ran_of_run ran (by decide +kernel)
    obtain rfl : 1000 = capital := Except.ok.inj made.capital
    have values : (prepare noNumerals breakoutSpec onePercentCosts
        (tradedBars breakoutSpec (flatThen [11, 11]))
        (peerBars breakoutSpec (flatThen [11, 11])) >>= fun input =>
        simulate noNumerals input 1000 >>= fun final =>
        .ok (final.equityCurve.getLast?.map (·.equity),
          Py.round 4 (1000 + realizedPnl final.closed))).toOption =
        some (some (9901 / 10), 4901 / 5) := by
      decide +kernel
    simp only [made.prepared, made.simulated, bind, Except.bind, Except.toOption,
      Option.some.injEq, Prod.mk.injEq] at values
    refine ⟨result, input, final, made, fun accounted => ?_⟩
    have same := accounted.1
    rw [made.result] at same
    simp only [completedResult, values.1, values.2, Option.some.injEq] at same
    norm_num at same

end StrategyLab
