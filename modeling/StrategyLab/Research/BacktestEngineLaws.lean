import StrategyLab.Research.BacktestEngine

/-! What one bar of a backtest can do, and what a completed run is made of. -/

namespace StrategyLab

open RuleBasedBacktestEngine

variable {numerals : Py.Numerals} {input : SimulationInput}

/-- A division succeeds exactly when its divisor is not zero. -/
theorem divide_eq_ok {left right quotient : ℚ} :
    divide left right = .ok quotient ↔ right ≠ 0 ∧ left / right = quotient := by
  unfold divide
  split <;> simp_all

@[simp] theorem mark_cash (state : SimulationState) (bar : MarketBar) :
    (state.mark bar).cash = state.cash := rfl

@[simp] theorem mark_quantity (state : SimulationState) (bar : MarketBar) :
    (state.mark bar).quantity = state.quantity := rfl

@[simp] theorem mark_entryPrice (state : SimulationState) (bar : MarketBar) :
    (state.mark bar).entryPrice = state.entryPrice := rfl

@[simp] theorem mark_closed (state : SimulationState) (bar : MarketBar) :
    (state.mark bar).closed = state.closed := rfl

@[simp] theorem mark_equityCurve (state : SimulationState) (bar : MarketBar) :
    (state.mark bar).equityCurve = state.equityCurve ++
      [⟨bar.timestamp, Py.round 4 (state.cash + state.quantity * bar.close)⟩] := rfl

variable {bar : MarketBar} {state next : SimulationState} {index : Nat}

/-- What buying leaves behind: shares when the cash is enough for one, and the same curve. -/
theorem enter_eq_ok {costRate : ℚ} (bought : state.enter costRate index bar = .ok next) :
    let fill := bar.close * (1 + costRate)
    fill ≠ 0 ∧ next.quantity = (state.cash / fill).floor ∧ next.closed = state.closed ∧
      next.equityCurve = state.equityCurve ∧ next.investedDays = state.investedDays ∧
      (0 < next.quantity → next.cash = state.cash - next.quantity * fill ∧
        next.entryPrice = fill ∧ next.entryDate = bar.timestamp ∧ next.entryIndex = index) ∧
      (next.quantity ≤ 0 → next.cash = state.cash ∧ next.entryPrice = state.entryPrice ∧
        next.entryDate = state.entryDate) := by
  intro fill
  obtain ⟨shares, divided, rest⟩ := Raise.bind_eq_ok.mp bought
  obtain ⟨nonzero, rfl⟩ := divide_eq_ok.mp divided
  by_cases enough : 0 < (state.cash / fill).floor
  · rw [if_pos enough] at rest
    obtain rfl := Except.ok.inj rest
    exact ⟨nonzero, rfl, rfl, rfl, rfl, fun _ => ⟨rfl, rfl, rfl, rfl⟩,
      fun none => absurd enough (not_lt.mpr none)⟩
  · rw [if_neg enough] at rest
    obtain rfl := Except.ok.inj rest
    exact ⟨nonzero, rfl, rfl, rfl, rfl, fun some => absurd some enough,
      fun _ => ⟨rfl, rfl, rfl⟩⟩

/-- What selling leaves behind: no shares, and one more closed position. -/
theorem leave_eq_ok {costRate : ℚ}
    {reason : ExitReason} (sold : state.leave costRate bar reason = .ok next) :
    let fill := bar.close * (1 - costRate)
    state.entryPrice ≠ 0 ∧ next.quantity = 0 ∧ next.entryPrice = 0 ∧
      next.cash = state.cash + state.quantity * fill ∧
      next.equityCurve = state.equityCurve ∧ next.investedDays = state.investedDays ∧
      ∃ position : ClosedPosition, next.closed = state.closed ++ [position] ∧
        position.entryPrice = state.entryPrice ∧ position.exitPrice = fill ∧
        position.quantity = state.quantity ∧ position.entryDate = state.entryDate ∧
        position.exitDate = bar.timestamp ∧ position.exitReason = reason := by
  intro fill
  obtain ⟨returnPct, divided, rest⟩ := Raise.bind_eq_ok.mp sold
  obtain ⟨nonzero, rfl⟩ := divide_eq_ok.mp divided
  obtain rfl := Except.ok.inj rest
  exact ⟨nonzero, rfl, rfl, rfl, rfl, rfl, _, rfl, rfl, rfl, rfl, rfl, rfl, rfl⟩

/-- What one bar can do to the simulation. -/
inductive BarStep (numerals : Py.Numerals) (input : SimulationInput) (index : Nat)
    (bar : MarketBar) (state : SimulationState) : SimulationState → Prop
  | warmingUp (early : (index : Int) < input.warmup) :
    BarStep numerals input index bar state (state.mark bar)
  | waited (late : input.warmup ≤ index) (flat : state.quantity = 0) {window : PriorWindow}
    (seen : input.window index = .ok window)
    (refused : input.entryAllowed numerals (input.context window bar) = .ok false) :
    BarStep numerals input index bar state (state.mark bar)
  | entered (late : input.warmup ≤ index) (flat : state.quantity = 0) {window : PriorWindow}
    (seen : input.window index = .ok window)
    (allowed : input.entryAllowed numerals (input.context window bar) = .ok true)
    {next : SimulationState} (bought : (state.mark bar).enter input.costRate index bar = .ok next) :
    BarStep numerals input index bar state next
  | held (late : input.warmup ≤ index) (holding : state.quantity ≠ 0) {window : PriorWindow}
    (seen : input.window index = .ok window)
    (kept : input.exitReason index bar state.entryPrice window.priorLow = none) :
    BarStep numerals input index bar state (state.mark bar)
  | exited (late : input.warmup ≤ index) (holding : state.quantity ≠ 0) {window : PriorWindow}
    (seen : input.window index = .ok window) {reason : ExitReason}
    (due : input.exitReason index bar state.entryPrice window.priorLow = some reason)
    {next : SimulationState} (sold : (state.mark bar).leave input.costRate bar reason = .ok next) :
    BarStep numerals input index bar state next

/-- A bar that does not raise takes one of these steps. -/
theorem stepBar_eq_ok (stepped : stepBar numerals input index bar state = .ok next) :
    BarStep numerals input index bar state next := by
  unfold stepBar at stepped
  dsimp only at stepped
  by_cases early : (index : Int) < input.warmup
  · rw [if_pos early] at stepped
    obtain rfl := Except.ok.inj stepped
    exact .warmingUp early
  · have late : input.warmup ≤ index := not_lt.mp early
    rw [if_neg early] at stepped
    obtain ⟨window, seen, rest⟩ := Raise.bind_eq_ok.mp stepped
    by_cases flat : state.quantity = 0
    · rw [mark_quantity, if_pos flat] at rest
      obtain ⟨allowed, asked, rest⟩ := Raise.bind_eq_ok.mp rest
      cases allowed with
      | true => exact .entered late flat seen asked rest
      | false =>
        obtain rfl := Except.ok.inj rest
        exact .waited late flat seen asked
    · rw [mark_quantity, if_neg flat, mark_entryPrice] at rest
      cases due : input.exitReason index bar state.entryPrice window.priorLow with
      | some reason =>
        rw [due] at rest
        exact .exited late flat seen due rest
      | none =>
        rw [due] at rest
        obtain rfl := Except.ok.inj rest
        exact .held late flat seen due

/-- On a bar of the data the loop body is the step of that bar. -/
theorem loopBody_of_getElem? (there : input.bars[index]? = some bar) (state : SimulationState) :
    loopBody numerals input index state = stepBar numerals input index bar state := by
  simp only [loopBody, there]

/-- Every bar ends the curve with the account marked to its close. -/
theorem BarStep.equityCurve (stepped : BarStep numerals input index bar state next) :
    next.equityCurve = (state.mark bar).equityCurve := by
  cases stepped with
  | warmingUp early => rfl
  | waited late flat seen refused => rfl
  | entered late flat seen allowed bought => exact (enter_eq_ok bought).2.2.2.1
  | held late holding seen kept => rfl
  | exited late holding seen due sold => exact (leave_eq_ok sold).2.2.2.2.1

/-- A bar keeps the closed positions and only adds one that it closes itself. -/
theorem BarStep.closed (stepped : BarStep numerals input index bar state next) :
    ∃ extra, next.closed = state.closed ++ extra ∧
      ∀ position ∈ extra, position.exitDate = bar.timestamp := by
  have nothing : ∃ extra, state.closed = state.closed ++ extra ∧
      ∀ position ∈ extra, position.exitDate = bar.timestamp := ⟨[], by simp, nofun⟩
  cases stepped with
  | warmingUp early => exact nothing
  | waited late flat seen refused => exact nothing
  | entered late flat seen allowed bought =>
    rw [(enter_eq_ok bought).2.2.1]
    exact nothing
  | held late holding seen kept => exact nothing
  | exited late holding seen due sold =>
    obtain ⟨-, -, -, -, -, -, position, closed, -, -, -, -, exit, -⟩ := leave_eq_ok sold
    exact ⟨[position], closed, fun other member => by rw [List.mem_singleton.mp member, exit]⟩

/-- A position was closed on a bar from one position on and before another. -/
def ClosedBetween (input : SimulationInput) (first last : Nat) (position : ClosedPosition) : Prop :=
  ∃ index bar, first ≤ index ∧ index < last ∧ input.bars[index]? = some bar ∧
    position.exitDate = bar.timestamp

/-- What further bars add to the simulation. -/
structure Grows (input : SimulationInput) (first last : Nat) (early late : SimulationState) :
    Prop where
  points : ∃ points, late.equityCurve = early.equityCurve ++ points
  closed : ∃ extra, late.closed = early.closed ++ extra ∧
    ∀ position ∈ extra, ClosedBetween input first last position

/-- One more pass of the loop only adds to the simulation. -/
theorem Grows.step {first last : Nat} {early state next : SimulationState}
    (grows : Grows input first last early state) (ordered : first ≤ last)
    (stepped : loopBody numerals input last state = .ok next) :
    Grows input first (last + 1) early next := by
  obtain ⟨points, curve⟩ := grows.points
  obtain ⟨extra, closed, between⟩ := grows.closed
  have wider : ∀ position ∈ extra, ClosedBetween input first (last + 1) position := by
    intro position member
    obtain ⟨index, bar, after, before, there, exit⟩ := between position member
    exact ⟨index, bar, after, by omega, there, exit⟩
  unfold loopBody at stepped
  split at stepped
  · rename_i bar there
    have step := stepBar_eq_ok stepped
    obtain ⟨sold, more, exits⟩ := step.closed
    constructor
    · exact ⟨points ++ _, by rw [step.equityCurve, mark_equityCurve, curve, List.append_assoc]⟩
    · refine ⟨extra ++ sold, by rw [more, closed, List.append_assoc], fun position member => ?_⟩
      rcases List.mem_append.mp member with old | new
      · exact wider position old
      · exact ⟨last, bar, ordered, by omega, there, exits position new⟩
  · obtain rfl := Except.ok.inj stepped
    exact ⟨⟨points, curve⟩, extra, closed, wider⟩

/-- From one number of bars to a larger one the simulation only grows. -/
theorem grows_since {initialCapital : ℚ} {first : Nat} {early : SimulationState}
    (reached : simulateUpTo numerals input initialCapital first = .ok early) :
    ∀ {more late}, simulateUpTo numerals input initialCapital (first + more) = .ok late →
      Grows input first (first + more) early late := by
  intro more
  induction more with
  | zero =>
    intro late same
    obtain rfl : early = late := Except.ok.inj (reached.symm.trans same)
    exact ⟨⟨[], by simp⟩, [], by simp, nofun⟩
  | succ more ih =>
    intro late further
    obtain ⟨before, earlier, stepped⟩ := Loop.upTo_succ_eq_ok.mp further
    exact (ih earlier).step (by omega) stepped

/-- After as many bars as there are at most, the curve has one point for each of them. -/
theorem length_equityCurve {initialCapital : ℚ} {count : Nat} {state : SimulationState}
    (reached : simulateUpTo numerals input initialCapital count = .ok state)
    (inside : count ≤ input.bars.length) : state.equityCurve.length = count := by
  induction count generalizing state with
  | zero =>
    obtain rfl := Except.ok.inj reached
    rfl
  | succ count ih =>
    obtain ⟨before, earlier, stepped⟩ := Loop.upTo_succ_eq_ok.mp reached
    rw [loopBody_of_getElem? (List.getElem?_eq_getElem (by omega))] at stepped
    rw [(stepBar_eq_ok stepped).equityCurve, mark_equityCurve, List.length_append,
      ih earlier (by omega)]
    rfl

/-- Closing out changes at most the last point, and closes at most one position on the last bar. -/
theorem closeOut_eq_ok {after final : SimulationState} (closing : closeOut input after = .ok final) :
    (final.equityCurve = after.equityCurve ∨
      ∃ point, final.equityCurve = after.equityCurve.dropLast ++ [point]) ∧
      ∃ extra, final.closed = after.closed ++ extra ∧
        ∀ position ∈ extra, ∃ last, input.bars.getLast? = some last ∧
          position.exitDate = last.timestamp := by
  unfold closeOut at closing
  split at closing
  · obtain rfl := Except.ok.inj closing
    exact ⟨Or.inl rfl, [], by simp, nofun⟩
  · rename_i last there
    split at closing
    · obtain rfl := Except.ok.inj closing
      exact ⟨Or.inl rfl, [], by simp, nofun⟩
    · obtain ⟨sold, left, rest⟩ := Raise.bind_eq_ok.mp closing
      obtain rfl := Except.ok.inj rest
      obtain ⟨-, -, -, -, curve, -, position, closed, -, -, -, -, exit, -⟩ := leave_eq_ok left
      refine ⟨Or.inr ⟨_, by rw [← curve]⟩, [position], closed, fun other member => ?_⟩
      rw [List.mem_singleton.mp member]
      exact ⟨last, there, exit⟩

variable {strategy : CanonicalStrategySpec} {assumptions : BacktestExecutionAssumptionSet}

/-- The bars and the peers go into the input as they are, and decide nothing else of it. -/
theorem prepare_eq_ok {bars : List MarketBar} {peers : List (List MarketBar)}
    (prepared : prepare numerals strategy assumptions bars peers = .ok input) :
    input.bars = bars ∧ input.peers = peers ∧ ∀ others otherPeers,
      prepare numerals strategy assumptions others otherPeers =
        .ok { input with bars := others, peers := otherPeers } := by
  obtain ⟨rate, rated, rest⟩ := Raise.bind_eq_ok.mp prepared
  obtain ⟨⟨trigger, entryLookback⟩, triggered, rest⟩ := Raise.bind_eq_ok.mp rest
  obtain ⟨exitLookback, channel, rest⟩ := Raise.bind_eq_ok.mp rest
  obtain ⟨stopPct, stop, rest⟩ := Raise.bind_eq_ok.mp rest
  obtain ⟨rsLookback, strength, rest⟩ := Raise.bind_eq_ok.mp rest
  obtain ⟨regimeLookback, regime, rest⟩ := Raise.bind_eq_ok.mp rest
  obtain rfl := Except.ok.inj rest
  refine ⟨rfl, rfl, fun others otherPeers => ?_⟩
  exact Raise.bind_eq_ok.mpr ⟨rate, rated, Raise.bind_eq_ok.mpr ⟨_, triggered,
    Raise.bind_eq_ok.mpr ⟨exitLookback, channel, Raise.bind_eq_ok.mpr ⟨stopPct, stop,
      Raise.bind_eq_ok.mpr ⟨rsLookback, strength,
        Raise.bind_eq_ok.mpr ⟨regimeLookback, regime, rfl⟩⟩⟩⟩⟩⟩

/-- What a completed run is made of. -/
structure Ran (numerals : Py.Numerals) (runId : String) (strategy : CanonicalStrategySpec)
    (dataset : MarketDataset) (assumptions : BacktestExecutionAssumptionSet)
    (result : RealBacktestResult) (input : SimulationInput) (initialCapital : ℚ)
    (final : SimulationState) : Prop where
  capital : assumptions.initialCapital.toFloat numerals = .ok initialCapital
  prepared : prepare numerals strategy assumptions (tradedBars strategy dataset)
    (peerBars strategy dataset) = .ok input
  simulated : simulate numerals input initialCapital = .ok final
  result : result = completedResult runId dataset input initialCapital final

/-- A run with enough bars that does not raise is a completed simulation. -/
theorem ran_of_run {runId : String} {dataset : MarketDataset} {result : RealBacktestResult}
    (ran : run numerals runId strategy dataset assumptions = .ok result)
    (enough : 61 ≤ (tradedBars strategy dataset).length) :
    ∃ input initialCapital final,
      Ran numerals runId strategy dataset assumptions result input initialCapital final := by
  obtain ⟨_, -, rest⟩ := Raise.bind_eq_ok.mp ran
  have some_ : ¬(1 < (distinctSymbols dataset).length ∧ tradedBars strategy dataset = []) := by
    rintro ⟨-, none⟩
    simp [none] at enough
  dsimp only at rest
  rw [if_neg some_, if_neg (not_lt.mpr enough)] at rest
  obtain ⟨initialCapital, capital, rest⟩ := Raise.bind_eq_ok.mp rest
  obtain ⟨input, prepared, rest⟩ := Raise.bind_eq_ok.mp rest
  obtain ⟨final, simulated, rest⟩ := Raise.bind_eq_ok.mp rest
  exact ⟨input, initialCapital, final, capital, prepared, simulated, (Except.ok.inj rest).symm⟩

end StrategyLab
