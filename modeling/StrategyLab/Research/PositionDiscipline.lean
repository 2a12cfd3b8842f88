import StrategyLab.Research.NoLookAhead

/-! The discipline of the single position: when it is entered, when it is closed, and its cash. -/

namespace StrategyLab

open RuleBasedBacktestEngine

variable {numerals : Py.Numerals} {input : SimulationInput} {initialCapital : ℚ}

/-- The lowest price of the exit channel before a bar. -/
def SimulationInput.channelLow (input : SimulationInput) (index : Nat) : Option ℚ :=
  ((Py.lastSlice input.exitLookback (input.bars.take index)).map (·.low)).min?

/-- The conditions that close a position opened on one bar, on a later one. -/
def SimulationInput.ExitHolds (input : SimulationInput) (opened : MarketBar) (index : Nat)
    (bar : MarketBar) : ExitReason → Prop
  | .protectiveStop => bar.close ≤ opened.close * (1 + input.costRate) * (1 - input.stopPct)
  | .channelLowExit => ∃ low, input.channelLow index = some low ∧ bar.close < low
  | .endOfDataset => index + 1 = input.bars.length

/-- The reasons that are looked at before a reason. -/
def ExitReason.before : ExitReason → List ExitReason
  | .protectiveStop => []
  | .channelLowExit => [.protectiveStop]
  | .endOfDataset => [.protectiveStop, .channelLowExit]

/-- A reason is the first one whose condition holds. -/
def SimulationInput.FirstExit (input : SimulationInput) (opened : MarketBar) (index : Nat)
    (bar : MarketBar) (reason : ExitReason) : Prop :=
  input.ExitHolds opened index bar reason ∧
    ∀ earlier ∈ reason.before, ¬input.ExitHolds opened index bar earlier

/-- The entry condition holds on a bar after the warm-up. -/
def SimulationInput.EntryHolds (numerals : Py.Numerals) (input : SimulationInput) (index : Nat)
    (bar : MarketBar) : Prop :=
  input.warmup ≤ index ∧ ∃ window, input.window index = .ok window ∧
    input.entryAllowed numerals (input.context window bar) = .ok true

/-- From which bar to which one a position was held. -/
structure Episode where
  entered : Nat
  left : Nat
  deriving DecidableEq, Repr

/-- A position was opened where the entry condition held and closed where it was first due. -/
structure Describes (numerals : Py.Numerals) (input : SimulationInput) (episode : Episode)
    (entryDate exitDate : String) (quantity : Int) (reason : ExitReason) : Prop where
  shares : 0 < quantity
  entry : ∃ opened, input.bars[episode.entered]? = some opened ∧ entryDate = opened.timestamp ∧
    input.EntryHolds numerals episode.entered opened ∧
    (∀ index bar, episode.entered < index → index < episode.left →
      input.bars[index]? = some bar → ∀ reason, ¬input.ExitHolds opened index bar reason) ∧
    ∃ closing, input.bars[episode.left]? = some closing ∧ exitDate = closing.timestamp ∧
      (episode.entered < episode.left ∧ input.FirstExit opened episode.left closing reason ∨
        episode.entered = episode.left ∧ episode.left + 1 = input.bars.length ∧
          reason = .endOfDataset)

/-- A bar on which a position was carried in: one of an episode, or the one that is still open. -/
def carriedIn (episodes : List Episode) (since : Option Nat) (index : Nat) : Bool :=
  (episodes.any fun episode => episode.entered < index && index ≤ episode.left) ||
    since.any (· < index)

/-- The position that is open after some bars. -/
structure Open (numerals : Py.Numerals) (input : SimulationInput) (count : Nat)
    (state : SimulationState) (entered : Nat) : Prop where
  shares : 0 < state.quantity
  before : entered < count
  entry : ∃ opened, input.bars[entered]? = some opened ∧ state.entryDate = opened.timestamp ∧
    state.entryPrice = opened.close * (1 + input.costRate) ∧
    input.EntryHolds numerals entered opened ∧
    ∀ index bar, entered < index → index < count → input.bars[index]? = some bar →
      ∀ reason, ¬input.ExitHolds opened index bar reason

/-- What is known after some bars: the episodes so far, and the position that is open, if any. -/
structure Disciplined (numerals : Py.Numerals) (input : SimulationInput) (count : Nat)
    (state : SimulationState) (episodes : List Episode) (since : Option Nat) : Prop where
  solvent : 0 ≤ state.cash
  flat : since = none → state.quantity = 0
  open_ : ∀ entered, since = some entered → Open numerals input count state entered ∧
    ∀ episode ∈ episodes, episode.left < entered
  closed : List.Forall₂ (fun (episode : Episode) (position : ClosedPosition) =>
    Describes numerals input episode position.entryDate position.exitDate position.quantity
      position.exitReason) episodes state.closed
  ordered : episodes.Pairwise fun earlier later => earlier.left < later.entered
  past : ∀ episode ∈ episodes, episode.left < count
  days : state.investedDays = (List.range count).countP (carriedIn episodes since)

/-- Nothing has happened before the first bar. -/
theorem disciplined_start (positive : 0 < initialCapital) :
    Disciplined numerals input 0 (.start initialCapital) [] none where
  solvent := positive.le
  flat _ := rfl
  open_ entered is := by cases is
  closed := .nil
  ordered := .nil
  past episode member := by cases member
  days := rfl

variable {window : PriorWindow}

variable {index : Nat}

/-- The window of a bar ends with the channel low that the conditions speak of. -/
theorem window_channelLow
    (seen : input.window index = .ok window) : input.channelLow index = some window.priorLow := by
  obtain ⟨high, -, rest⟩ := Raise.bind_eq_ok.mp seen
  obtain ⟨low, lowest, rest⟩ := Raise.bind_eq_ok.mp rest
  obtain rfl := Except.ok.inj rest
  unfold BacktestError.orRaise at lowest
  split at lowest
  · rename_i found
    obtain rfl := Except.ok.inj lowest
    exact found
  · cases lowest

variable {reason : ExitReason}

/-- The engine finds a reason exactly when it is the first one whose condition holds. -/
theorem exitReason_eq_some_iff {opened bar : MarketBar}
    {entryPrice : ℚ} (seen : input.window index = .ok window)
    (price : entryPrice = opened.close * (1 + input.costRate)) :
    input.exitReason index bar entryPrice window.priorLow = some reason ↔
      input.FirstExit opened index bar reason := by
  have low := window_channelLow seen
  -- The conditions are tested in the order of the reasons.
  subst price
  unfold SimulationInput.exitReason SimulationInput.FirstExit
  by_cases stopped : bar.close ≤ opened.close * (1 + input.costRate) * (1 - input.stopPct)
  · cases reason <;> simp [SimulationInput.ExitHolds, ExitReason.before, stopped]
  · by_cases fell : bar.close < window.priorLow
    · cases reason <;> simp [SimulationInput.ExitHolds, ExitReason.before, stopped, fell, low]
    · by_cases last : index + 1 = input.bars.length
      · cases reason <;>
          simp [SimulationInput.ExitHolds, ExitReason.before, stopped, fell, last, low]
      · cases reason <;>
          simp [SimulationInput.ExitHolds, ExitReason.before, stopped, fell, last, low]

/-- The engine finds no reason exactly when none of the conditions holds. -/
theorem exitReason_eq_none_iff {opened bar : MarketBar}
    {entryPrice : ℚ} (seen : input.window index = .ok window)
    (price : entryPrice = opened.close * (1 + input.costRate)) :
    input.exitReason index bar entryPrice window.priorLow = none ↔
      ∀ reason, ¬input.ExitHolds opened index bar reason := by
  have low := window_channelLow seen
  subst price
  unfold SimulationInput.exitReason
  constructor
  · intro quiet reason
    split at quiet
    · cases quiet
    · split at quiet
      · cases quiet
      · split at quiet
        · cases quiet
        · rename_i stopped fell last
          cases reason with
          | protectiveStop => exact stopped
          | channelLowExit =>
            rintro ⟨other, found, below⟩
            obtain rfl := Option.some.inj (low.symm.trans found)
            exact fell below
          | endOfDataset => exact last
  · intro quiet
    have stopped : ¬bar.close ≤ opened.close * (1 + input.costRate) * (1 - input.stopPct) :=
      quiet .protectiveStop
    have fell : ¬bar.close < window.priorLow := fun below =>
      quiet .channelLowExit ⟨window.priorLow, low, below⟩
    have last : ¬index + 1 = input.bars.length := quiet .endOfDataset
    rw [if_neg stopped, if_neg fell, if_neg last]

variable {episodes : List Episode} {count : Nat} {state : SimulationState} {since : Option Nat}

/-- Marking the account keeps the discipline and counts the bar when a position is carried in. -/
theorem Disciplined.mark (disciplined : Disciplined numerals input count state episodes since)
    (bar : MarketBar) :
    (state.mark bar).investedDays = (List.range (count + 1)).countP (carriedIn episodes since) := by
  -- No closed episode reaches this bar, so it is carried in exactly when a position is open.
  have closed : (episodes.any fun episode => episode.entered < count && count ≤ episode.left) =
      false := by
    rw [List.any_eq_false]
    intro episode member
    have past := disciplined.past episode member
    simp only [Bool.and_eq_true, decide_eq_true_eq, not_and]
    omega
  rw [List.range_succ, List.countP_append, ← disciplined.days]
  cases since with
  | none =>
    have flat := disciplined.flat rfl
    simp [SimulationState.mark, flat, carriedIn, closed]
  | some entered =>
    obtain ⟨open_, -⟩ := disciplined.open_ entered rfl
    have holding : state.quantity ≠ 0 := open_.shares.ne'
    simp [SimulationState.mark, holding, carriedIn, open_.before]

variable {bar : MarketBar}

/-- A bar on which nothing is bought or sold keeps the discipline. -/
theorem Disciplined.wait (disciplined : Disciplined numerals input count state episodes since)
    (there : input.bars[count]? = some bar)
    (quiet : ∀ entered opened, since = some entered → input.bars[entered]? = some opened →
      state.entryPrice = opened.close * (1 + input.costRate) →
        ∀ reason, ¬input.ExitHolds opened count bar reason) :
    Disciplined numerals input (count + 1) (state.mark bar) episodes since where
  solvent := disciplined.solvent
  flat := disciplined.flat
  open_ entered is := by
    obtain ⟨open_, after⟩ := disciplined.open_ entered is
    obtain ⟨opened, at_, date, price, allowed, held⟩ := open_.entry
    refine ⟨⟨open_.shares, Nat.lt_succ_of_lt open_.before, opened, at_, date, price, allowed, ?_⟩,
      after⟩
    intro index other late early located
    rcases Nat.lt_succ_iff_lt_or_eq.mp early with before | rfl
    · exact held index other late before located
    · obtain rfl := Option.some.inj (there.symm.trans located)
      exact quiet entered opened is at_ price
  closed := disciplined.closed
  ordered := disciplined.ordered
  past episode member := Nat.lt_succ_of_lt (disciplined.past episode member)
  days := disciplined.mark bar

/-- A position opened on a bar is not carried into it. -/
theorem carriedIn_open :
    (List.range (count + 1)).countP (carriedIn episodes (some count)) =
      (List.range (count + 1)).countP (carriedIn episodes none) := by
  refine List.countP_congr fun index member => ?_
  have inside := List.mem_range.mp member
  have early : ¬count < index := by omega
  simp [carriedIn, early]

/-- A position closed on a bar is carried into the bars behind its entry up to this one. -/
theorem carriedIn_close {entered left : Nat} :
    (List.range (left + 1)).countP (carriedIn (episodes ++ [⟨entered, left⟩]) none) =
      (List.range (left + 1)).countP (carriedIn episodes (some entered)) := by
  refine List.countP_congr fun index member => ?_
  have inside : index ≤ left := Nat.le_of_lt_succ (List.mem_range.mp member)
  simp [carriedIn, inside]

/-- Buying where the entry condition holds opens a position, or leaves the account as it is. -/
theorem Disciplined.enter {state next : SimulationState}
    (disciplined : Disciplined numerals input count state episodes none)
    (there : input.bars[count]? = some bar) (positive : 0 < bar.close)
    (costs : 0 ≤ input.costRate) (allowed : input.EntryHolds numerals count bar)
    (bought : (state.mark bar).enter input.costRate count bar = .ok next) :
    ∃ since, Disciplined numerals input (count + 1) next episodes since := by
  obtain ⟨-, quantity, closed, -, days, some_, empty⟩ := enter_eq_ok bought
  have fill : 0 < bar.close * (1 + input.costRate) := by positivity
  have solvent := disciplined.solvent
  -- The cash is not negative, so neither is the number of shares it pays for.
  have shares : 0 ≤ next.quantity := by
    rw [quantity, mark_cash]
    exact Int.floor_nonneg.mpr (div_nonneg solvent fill.le)
  have waited := disciplined.wait there (by rintro _ _ ⟨⟩)
  rcases shares.lt_or_eq with bought | none
  · obtain ⟨cash, price, date, -⟩ := some_ bought
    refine ⟨some count, ?_, by simp, ?_, ?_, disciplined.ordered, waited.past, ?_⟩
    · -- The number of shares is rounded down, so they cost at most the cash.
      have paid : (next.quantity : ℚ) * (bar.close * (1 + input.costRate)) ≤ state.cash := by
        rw [quantity, mark_cash, ← le_div_iff₀ fill]
        exact Int.floor_le _
      rw [cash, mark_cash]
      linarith
    · rintro entered ⟨⟩
      refine ⟨⟨bought, Nat.lt_succ_self _, bar, there, date, price, allowed, ?_⟩, disciplined.past⟩
      intro index other late early
      omega
    · rw [closed]
      exact disciplined.closed
    · rw [days, carriedIn_open]
      exact waited.days
  · obtain ⟨cash, -⟩ := empty none.symm.le
    refine ⟨Option.none, ?_, fun _ => none.symm, by simp, ?_, disciplined.ordered, waited.past, ?_⟩
    · rw [cash]
      exact solvent
    · rw [closed]
      exact disciplined.closed
    · rw [days]
      exact waited.days

/-- What is recorded of an open position that is closed on a bar. -/
theorem Open.describes {count index : Nat} {entered : Nat}
    (open_ : Open numerals input count state entered)
    (reached : index ≤ count) (there : input.bars[index]? = some bar)
    (due : ∀ opened, input.bars[entered]? = some opened →
      state.entryPrice = opened.close * (1 + input.costRate) →
        entered < index ∧ input.FirstExit opened index bar reason ∨
          entered = index ∧ index + 1 = input.bars.length ∧ reason = .endOfDataset) :
    Describes numerals input ⟨entered, index⟩ state.entryDate bar.timestamp state.quantity
      reason := by
  obtain ⟨opened, at_, date, price, allowed, held⟩ := open_.entry
  refine ⟨open_.shares, opened, at_, date, allowed, ?_, bar, there, rfl, due opened at_ price⟩
  intro between other late early
  exact held between other late (lt_of_lt_of_le early reached)

/-- Selling the open position ends its episode. -/
theorem Disciplined.leave {count index : Nat} {state before next : SimulationState} {entered : Nat}
    (disciplined : Disciplined numerals input count state episodes (some entered))
    (sold : before.leave input.costRate bar reason = .ok next) (reached : count ≤ index + 1)
    (positive : 0 < bar.close) (costs : input.costRate < 1)
    (described : Describes numerals input ⟨entered, index⟩ before.entryDate bar.timestamp
      before.quantity reason)
    (same : before.cash = state.cash ∧ before.closed = state.closed)
    (days : before.investedDays = (List.range (index + 1)).countP
      (carriedIn episodes (some entered))) :
    Disciplined numerals input (index + 1) next (episodes ++ [⟨entered, index⟩]) none := by
  obtain ⟨-, flat, -, cash, -, sameDays, position, closed, -, -, shares, entry, exit, why⟩ :=
    leave_eq_ok sold
  obtain ⟨-, after⟩ := disciplined.open_ entered rfl
  refine ⟨?_, fun _ => flat, by simp, ?_, ?_, ?_, ?_⟩
  · -- The costs stay below the whole price, so selling brings cash in.
    have proceeds : 0 ≤ (before.quantity : ℚ) * (bar.close * (1 - input.costRate)) := by
      have held : (0 : ℚ) ≤ before.quantity := by exact_mod_cast described.shares.le
      have fill : 0 ≤ bar.close * (1 - input.costRate) :=
        mul_nonneg positive.le (sub_nonneg.mpr costs.le)
      exact mul_nonneg held fill
    rw [cash, same.1]
    exact add_nonneg disciplined.solvent proceeds
  · rw [closed, same.2]
    refine List.rel_append disciplined.closed (.cons ?_ .nil)
    rw [entry, exit, shares, why]
    exact described
  · rw [List.pairwise_append]
    exact ⟨disciplined.ordered, List.pairwise_singleton _ _, fun earlier member later is => by
      rw [List.mem_singleton.mp is]
      exact after earlier member⟩
  · intro episode member
    rcases List.mem_append.mp member with old | new
    · exact lt_of_lt_of_le (disciplined.past episode old) reached
    · rw [List.mem_singleton.mp new]
      exact Nat.lt_succ_self _
  · rw [sameDays, days, carriedIn_close]

/-- Every bar keeps the discipline. -/
theorem Disciplined.step {state next : SimulationState}
    (disciplined : Disciplined numerals input count state episodes since)
    (there : input.bars[count]? = some bar) (positive : 0 < bar.close)
    (costs : 0 ≤ input.costRate ∧ input.costRate < 1)
    (stepped : BarStep numerals input count bar state next) :
    ∃ episodes since, Disciplined numerals input (count + 1) next episodes since := by
  -- Without shares no position is open.
  have closed (flat : state.quantity = 0) : since = none := by
    cases since with
    | none => rfl
    | some entered => exact absurd flat (disciplined.open_ entered rfl).1.shares.ne'
  cases stepped with
  | warmingUp early =>
    refine ⟨episodes, since, disciplined.wait there fun entered opened is at_ price => ?_⟩
    -- During the warm-up nothing has been entered yet.
    obtain ⟨open_, -⟩ := disciplined.open_ entered is
    obtain ⟨_, -, -, -, ⟨late, -⟩, -⟩ := open_.entry
    have before := open_.before
    omega
  | waited late flat seen refused =>
    exact ⟨episodes, since, disciplined.wait there fun entered opened is => by
      rw [closed flat] at is
      cases is⟩
  | entered late flat seen allowed bought =>
    obtain rfl := closed flat
    obtain ⟨since, entered⟩ := disciplined.enter there positive costs.1
      ⟨late, _, seen, allowed⟩ bought
    exact ⟨episodes, since, entered⟩
  | held late holding seen kept =>
    exact ⟨episodes, since, disciplined.wait there fun entered opened is at_ price =>
      (exitReason_eq_none_iff seen price).mp kept⟩
  | @exited _ _ _ seen reason due _ sold =>
    cases since with
    | none => exact absurd (disciplined.flat rfl) ‹_›
    | some entered =>
      obtain ⟨open_, -⟩ := disciplined.open_ entered rfl
      have described : Describes numerals input ⟨entered, count⟩ state.entryDate bar.timestamp
          state.quantity reason :=
        open_.describes le_rfl there fun opened at_ price =>
          .inl ⟨open_.before, (exitReason_eq_some_iff seen price).mp due⟩
      exact ⟨_, none, disciplined.leave sold (Nat.le_succ _) positive costs.2 described
        ⟨rfl, rfl⟩ (disciplined.mark bar)⟩

/-- The discipline is kept after any number of bars. -/
theorem disciplined_upTo (capital : 0 < initialCapital)
    (positive : ∀ bar ∈ input.bars, 0 < bar.close)
    (costs : 0 ≤ input.costRate ∧ input.costRate < 1)
    (reached : simulateUpTo numerals input initialCapital count = .ok state)
    (inside : count ≤ input.bars.length) :
    ∃ episodes since, Disciplined numerals input count state episodes since := by
  -- Induction on the number of bars; the step lemma takes the bar that comes next.
  induction count generalizing state with
  | zero =>
    obtain rfl := Except.ok.inj reached
    exact ⟨[], none, disciplined_start capital⟩
  | succ count ih =>
    obtain ⟨before, earlier, stepped⟩ := Loop.upTo_succ_eq_ok.mp reached
    obtain ⟨episodes, since, disciplined⟩ := ih earlier (by omega)
    have there : input.bars[count]? = some input.bars[count] := List.getElem?_eq_getElem inside
    rw [loopBody_of_getElem? there] at stepped
    exact disciplined.step there (positive _ (List.getElem_mem inside)) costs
      (stepBar_eq_ok stepped)

/-- A position that is still open after the last bar was opened on it, and is closed there. -/
theorem disciplined_closeOut {after final : SimulationState}
    (disciplined : Disciplined numerals input input.bars.length after episodes since)
    (positive : ∀ bar ∈ input.bars, 0 < bar.close) (costs : input.costRate < 1)
    (closing : closeOut input after = .ok final) :
    ∃ episodes, Disciplined numerals input input.bars.length final episodes none := by
  cases since with
  | none =>
    rw [closeOut_flat (disciplined.flat rfl) closing]
    exact ⟨episodes, disciplined⟩
  | some entered =>
    obtain ⟨open_, -⟩ := disciplined.open_ entered rfl
    obtain ⟨opened, at_, date, price, allowed, held⟩ := open_.entry
    -- Had it been opened earlier, the end of the data would have closed it.
    have last : entered + 1 = input.bars.length := by
      by_contra earlier
      have before := open_.before
      have there : input.bars[input.bars.length - 1]? = some input.bars[input.bars.length - 1] :=
        List.getElem?_eq_getElem (by omega)
      refine held (input.bars.length - 1) _ (by omega) (by omega) there .endOfDataset ?_
      change input.bars.length - 1 + 1 = input.bars.length
      omega
    have ended : input.bars.getLast? = some opened := by
      rw [List.getLast?_eq_getElem?, ← at_]
      congr 1
      omega
    simp only [closeOut, ended, if_neg open_.shares.ne'] at closing
    obtain ⟨sold, left, rest⟩ := Raise.bind_eq_ok.mp closing
    obtain rfl := Except.ok.inj rest
    have described : Describes numerals input ⟨entered, entered⟩ after.entryDate opened.timestamp
        after.quantity .endOfDataset :=
      open_.describes open_.before.le at_ fun _ _ _ => .inr ⟨rfl, last, rfl⟩
    have settled := disciplined.leave left last.ge (positive opened (List.mem_of_getElem? at_))
      costs described ⟨rfl, rfl⟩ (by rw [last]; exact disciplined.days)
    rw [last] at settled
    exact ⟨_, settled.solvent, settled.flat, by simp, settled.closed, settled.ordered, settled.past,
      settled.days⟩

variable {strategy : CanonicalStrategySpec} {dataset : MarketDataset}

/-- The traded bars of a dataset with distinct timestamps follow one another in time. -/
theorem tradedBars_strict (distinct : DistinctTimestamps dataset) :
    (tradedBars strategy dataset).Pairwise fun left right => left.timestamp < right.timestamp := by
  by_cases single : (distinctSymbols dataset).length ≤ 1
  · -- The only symbol is traded, whatever the strategy calls it.
    cases bars : dataset.bars with
    | nil => simp [tradedBars, distinctSymbols, sortedBars, Py.sortedBy, bars]
    | cons bar rest =>
      have same : tradedBars strategy dataset =
          tradedBars { strategy with symbol := bar.symbol } dataset := by
        rw [tradedBars, tradedBars, if_pos single, if_pos single]
      rw [same]
      exact tradedBars_rising distinct ⟨bar, by simp [bars], rfl⟩
  · by_cases traded : ∃ bar ∈ dataset.bars, bar.symbol = strategy.symbol
    · exact tradedBars_rising distinct traded
    · have none : dataset.bars.filter (·.symbol = strategy.symbol) = [] := by
        rw [List.filter_eq_nil_iff]
        intro bar member named
        exact traded ⟨bar, member, by simpa using named⟩
      simp [tradedBars, single, none, sortedBars, Py.sortedBy]

/-- The traded bars are bars of the dataset. -/
theorem mem_of_tradedBars (traded : bar ∈ tradedBars strategy dataset) : bar ∈ dataset.bars := by
  unfold tradedBars at traded
  split at traded
  · simpa [sortedBars] using traded
  · rw [sortedBars, Py.mem_sortedBy] at traded
    exact (List.mem_filter.mp traded).1

variable {assumptions : BacktestExecutionAssumptionSet}

/-- A run without enough bars is rejected and has no trades. -/
theorem rejected_of_run {runId : String} {result : RealBacktestResult}
    (ran : run numerals runId strategy dataset assumptions = .ok result)
    (short : (tradedBars strategy dataset).length < 61) :
    result.status = .rejected ∧ result.trades = [] := by
  have empty {warning : String} (made : emptyResult numerals runId strategy dataset assumptions
      warning = .ok result) : result.status = .rejected ∧ result.trades = [] := by
    obtain ⟨capital, -, rest⟩ := Raise.bind_eq_ok.mp made
    obtain rfl := Except.ok.inj rest
    exact ⟨rfl, rfl⟩
  obtain ⟨_, -, rest⟩ := Raise.bind_eq_ok.mp ran
  dsimp only at rest
  split at rest
  · exact empty rest
  · exact empty rest

/-- The costs of a simulation are those of the assumptions. -/
theorem prepare_costRate {bars : List MarketBar} {peers : List (List MarketBar)}
    (prepared : prepare numerals strategy assumptions bars peers = .ok input) :
    RuleBasedBacktestEngine.costRate numerals assumptions = .ok input.costRate := by
  obtain ⟨rate, rated, rest⟩ := Raise.bind_eq_ok.mp prepared
  obtain ⟨⟨trigger, entryLookback⟩, -, rest⟩ := Raise.bind_eq_ok.mp rest
  obtain ⟨exitLookback, -, rest⟩ := Raise.bind_eq_ok.mp rest
  obtain ⟨stopPct, -, rest⟩ := Raise.bind_eq_ok.mp rest
  obtain ⟨rsLookback, -, rest⟩ := Raise.bind_eq_ok.mp rest
  obtain ⟨regimeLookback, -, rest⟩ := Raise.bind_eq_ok.mp rest
  obtain rfl := Except.ok.inj rest
  exact rated

/-- The discipline of a whole run, as its result shows it. -/
structure KeepsDiscipline (numerals : Py.Numerals) (input : SimulationInput) (initialCapital : ℚ)
    (final : SimulationState) (result : RealBacktestResult) : Prop where
  solvent : ∀ count state, count ≤ input.bars.length →
    simulateUpTo numerals input initialCapital count = .ok state →
      0 ≤ state.cash ∧ 0 ≤ state.quantity
  closedOut : 0 ≤ final.cash ∧ final.quantity = 0
  chronological : result.trades.Pairwise fun earlier later => earlier.exitDate < later.entryDate
  episodes : ∃ episodes, List.Forall₂ (fun (episode : Episode) (trade : RealBacktestTrade) =>
      Describes numerals input episode trade.entryDate trade.exitDate trade.quantity
        trade.exitReason) episodes result.trades ∧
    episodes.Pairwise (fun earlier later => earlier.left < later.entered) ∧
    final.investedDays = (List.range input.bars.length).countP (carriedIn episodes none)

/-- What is known of two lists item by item is known of the records of the second one. -/
theorem forall₂_records {α : Type} {known : α → ClosedPosition → Prop}
    {recorded : α → RealBacktestTrade → Prop} {runId : String}
    (reads : ∀ item position index, known item position →
      recorded item (position.record runId index)) {items : List α} {closed : List ClosedPosition}
    (all : List.Forall₂ known items closed) :
    List.Forall₂ recorded items
      (closed.mapIdx fun index position => position.record runId index) := by
  rw [List.forall₂_iff_get] at all ⊢
  refine ⟨by rw [all.1, List.length_mapIdx], fun index first second => ?_⟩
  simp only [List.get_eq_getElem, List.getElem_mapIdx]
  exact reads _ _ _ (all.2 index first (by simpa using second))

/-- Trades whose episodes follow one another on bars that follow one another do not overlap. -/
theorem chronological_of_episodes {trades : List RealBacktestTrade}
    (rising : input.bars.Pairwise fun left right => left.timestamp < right.timestamp)
    (described : List.Forall₂ (fun (episode : Episode) (trade : RealBacktestTrade) =>
      Describes numerals input episode trade.entryDate trade.exitDate trade.quantity
        trade.exitReason) episodes trades)
    (ordered : episodes.Pairwise fun earlier later => earlier.left < later.entered) :
    trades.Pairwise fun earlier later => earlier.exitDate < later.entryDate := by
  rw [List.forall₂_iff_get] at described
  obtain ⟨length, each⟩ := described
  rw [List.pairwise_iff_getElem] at ordered rising ⊢
  intro first second inFirst inSecond before
  -- The exit of the one is on an earlier bar than the entry of the other.
  obtain ⟨-, _, -, -, -, -, closing, left, exit, -⟩ := each first (by omega) inFirst
  obtain ⟨-, opened, entered, entry, -⟩ := each second (by omega) inSecond
  have apart := ordered first second (by omega) (by omega) before
  obtain ⟨inLeft, rfl⟩ := List.getElem?_eq_some_iff.mp left
  obtain ⟨inEntered, rfl⟩ := List.getElem?_eq_some_iff.mp entered
  simp only [List.get_eq_getElem] at exit entry inLeft inEntered
  rw [exit, entry]
  exact rising _ _ inLeft inEntered apart

/-- Every run keeps the discipline of its one position: the cash never falls below zero, trades are
entered where the entry condition holds and closed where the first exit condition does. -/
theorem position_discipline {runId : String} {strategy : CanonicalStrategySpec}
    {dataset : MarketDataset} {assumptions : BacktestExecutionAssumptionSet}
    {result : RealBacktestResult} {costs : ℚ}
    (ran : run numerals runId strategy dataset assumptions = .ok result)
    (distinct : DistinctTimestamps dataset) (positive : ∀ bar ∈ dataset.bars, 0 < bar.close)
    (capital : assumptions.initialCapital.toFloat numerals = .ok initialCapital)
    (funded : 0 < initialCapital)
    (rate : RuleBasedBacktestEngine.costRate numerals assumptions = .ok costs)
    (cheap : 0 ≤ costs ∧ costs < 1) :
    result.status = .rejected ∧ result.trades = [] ∨
      ∃ input final, Ran numerals runId strategy dataset assumptions result input initialCapital
          final ∧ KeepsDiscipline numerals input initialCapital final result := by
  rcases lt_or_ge (tradedBars strategy dataset).length 61 with short | enough
  · exact .inl (rejected_of_run ran short)
  · obtain ⟨input, _, final, made⟩ := ran_of_run ran enough
    obtain rfl := Except.ok.inj (capital.symm.trans made.capital)
    obtain ⟨bars, -, -⟩ := prepare_eq_ok made.prepared
    obtain rfl := Except.ok.inj (rate.symm.trans (prepare_costRate made.prepared))
    have priced : ∀ bar ∈ input.bars, 0 < bar.close := by
      rw [bars]
      exact fun bar member => positive bar (mem_of_tradedBars member)
    obtain ⟨after, looped, closing⟩ := Raise.bind_eq_ok.mp made.simulated
    obtain ⟨episodes, since, disciplined⟩ := disciplined_upTo funded priced cheap looped le_rfl
    obtain ⟨episodes, settled⟩ := disciplined_closeOut disciplined priced cheap.2 closing
    have described : List.Forall₂ (fun (episode : Episode) (trade : RealBacktestTrade) =>
        Describes numerals input episode trade.entryDate trade.exitDate trade.quantity
          trade.exitReason) episodes
        (final.closed.mapIdx fun index position => position.record runId index) :=
      forall₂_records (fun _ _ _ known => known) settled.closed
    refine .inr ⟨input, final, made, ?_, ⟨settled.solvent, settled.flat rfl⟩, ?_, ?_⟩
    · intro count state inside reached
      obtain ⟨episodes, since, disciplined⟩ := disciplined_upTo funded priced cheap reached inside
      refine ⟨disciplined.solvent, ?_⟩
      cases since with
      | none => exact (disciplined.flat rfl).ge
      | some entered => exact (disciplined.open_ entered rfl).1.shares.le
    · rw [made.result]
      exact chronological_of_episodes (bars ▸ tradedBars_strict distinct) described settled.ordered
    · rw [made.result]
      exact ⟨episodes, described, settled.ordered, settled.days⟩

set_option maxRecDepth 4096 in
/-- A run that stops one position out keeps the discipline. -/
theorem early_exit_disciplined :
    ∃ result input final,
      Ran noNumerals "run" breakoutSpec (flatThen [11, 9, 9]) onePercentCosts result input 1000
        final ∧ KeepsDiscipline noNumerals input 1000 final result ∧ result.trades.length = 1 := by
  have finished : ((run noNumerals "run" breakoutSpec (flatThen [11, 9, 9])
      onePercentCosts).toOption.map fun result => (result.status, result.trades.length)) =
        some (.completed, 1) := by decide +kernel
  cases ran : run noNumerals "run" breakoutSpec (flatThen [11, 9, 9]) onePercentCosts with
  | error raised => simp [ran, Except.toOption] at finished
  | ok result =>
    have distinct : DistinctTimestamps (flatThen [11, 9, 9]) := by
      unfold DistinctTimestamps
      decide +kernel
    simp only [ran, Except.toOption, Option.map_some, Option.some.injEq, Prod.mk.injEq] at finished
    rcases @position_discipline noNumerals 1000 "run" breakoutSpec (flatThen [11, 9, 9])
        onePercentCosts result (1 / 100) ran distinct (by decide +kernel) rfl (by norm_num)
        (by decide +kernel) (by norm_num) with ⟨rejected, -⟩ | ⟨input, final, made, keeps⟩
    · rw [finished.1] at rejected
      cases rejected
    · exact ⟨result, input, final, made, keeps, finished.2⟩

end StrategyLab
