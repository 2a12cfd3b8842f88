import StrategyLab.Research.MultiSymbolRun
import StrategyLab.Research.PositionDiscipline

/-! The timing of fills: on which bar a trade is decided, and on which one it is filled. -/

namespace StrategyLab

open RuleBasedBacktestEngine

variable {numerals : Py.Numerals} {input : SimulationInput} {initialCapital : ℚ}

/-- No position is carried into a bar, after a number of closed ones. -/
def FlatBefore (numerals : Py.Numerals) (input : SimulationInput) (initialCapital : ℚ)
    (number index : Nat) : Prop :=
  ∃ state, simulateUpTo numerals input initialCapital index = .ok state ∧ state.quantity = 0 ∧
    state.closed.length = number

/-- A position is carried into a bar, after a number of closed ones. -/
def HeldBefore (numerals : Py.Numerals) (input : SimulationInput) (initialCapital : ℚ)
    (number index : Nat) : Prop :=
  ∃ state, simulateUpTo numerals input initialCapital index = .ok state ∧ state.quantity ≠ 0 ∧
    state.closed.length = number

/-- The position of a trade is opened on a bar. -/
def OpensTrade (numerals : Py.Numerals) (input : SimulationInput) (initialCapital : ℚ)
    (number index : Nat) : Prop :=
  FlatBefore numerals input initialCapital number index ∧
    HeldBefore numerals input initialCapital number (index + 1)

/-- The position of a trade is closed on a bar. -/
def ClosesTrade (numerals : Py.Numerals) (input : SimulationInput) (initialCapital : ℚ)
    (number index : Nat) : Prop :=
  HeldBefore numerals input initialCapital number index ∧
    FlatBefore numerals input initialCapital (number + 1) (index + 1)

/-- The entry condition becomes true on a bar: it holds there, and it did not since the account has
no position. -/
def EntryBecomesTrue (numerals : Py.Numerals) (input : SimulationInput) (initialCapital : ℚ)
    (number index : Nat) : Prop :=
  FlatBefore numerals input initialCapital number index ∧
    (∃ bar, input.bars[index]? = some bar ∧ input.EntryHolds numerals index bar) ∧
    ∀ earlier < index, FlatBefore numerals input initialCapital number earlier →
      ∀ bar, input.bars[earlier]? = some bar → ¬input.EntryHolds numerals earlier bar

/-- An exit rule fires on a bar: the position is carried into it, and the rule is the first one to
hold. -/
def RuleFires (numerals : Py.Numerals) (input : SimulationInput) (initialCapital : ℚ)
    (number index : Nat) (reason : ExitReason) : Prop :=
  HeldBefore numerals input initialCapital number index ∧
    ∃ entered opened bar, OpensTrade numerals input initialCapital number entered ∧
      input.bars[entered]? = some opened ∧ input.bars[index]? = some bar ∧
      input.FirstExit opened index bar reason

/-- A trade is filled at the close after its decision, with costs. -/
structure FilledNextClose (numerals : Py.Numerals) (input : SimulationInput) (initialCapital : ℚ)
    (number : Nat) (trade : RealBacktestTrade) : Prop where
  /-- The entry is filled on the bar after the one on which its condition became true. -/
  entry : ∃ decided bar, EntryBecomesTrue numerals input initialCapital number decided ∧
    OpensTrade numerals input initialCapital number (decided + 1) ∧
    input.bars[decided + 1]? = some bar ∧ trade.entryDate = bar.timestamp ∧
    trade.entryPrice = Py.round 4 (bar.close * (1 + input.costRate))
  /-- An exit by a rule is filled on the bar after the one on which the rule fired. -/
  exit : trade.exitReason ≠ .endOfDataset →
    ∃ fired bar, RuleFires numerals input initialCapital number fired trade.exitReason ∧
      ClosesTrade numerals input initialCapital number (fired + 1) ∧
      input.bars[fired + 1]? = some bar ∧ trade.exitDate = bar.timestamp ∧
      trade.exitPrice = Py.round 4 (bar.close * (1 - input.costRate))

/-- Every trade is filled at the close after its decision. -/
def FillsNextClose (numerals : Py.Numerals) (input : SimulationInput) (initialCapital : ℚ)
    (trades : List RealBacktestTrade) : Prop :=
  ∀ number trade, trades[number]? = some trade →
    FilledNextClose numerals input initialCapital number trade

/-- An amount pays for one share at the close of a bar. -/
def SimulationInput.Affords (input : SimulationInput) (amount : ℚ) (bar : MarketBar) : Prop :=
  0 < (amount / (bar.close * (1 + input.costRate))).floor

/-- A bar opens a position for an account that has not traded yet. -/
def SimulationInput.Buys (numerals : Py.Numerals) (input : SimulationInput) (initialCapital : ℚ)
    (index : Nat) : Prop :=
  ∃ bar, input.bars[index]? = some bar ∧ input.EntryHolds numerals index bar ∧
    input.Affords initialCapital bar

/-- The condition first holds on a bar where no share can be paid for, it holds again on the next
bar where one can, and no exit rule holds on any bar behind that. -/
def SimulationInput.BuysLateAndHolds (numerals : Py.Numerals) (input : SimulationInput)
    (initialCapital : ℚ) : Prop :=
  ∃ decided bar opened, input.bars[decided]? = some bar ∧
    input.EntryHolds numerals decided bar ∧
    (∀ earlier < decided, ∀ other, input.bars[earlier]? = some other →
      ¬input.EntryHolds numerals earlier other) ∧
    ¬input.Affords initialCapital bar ∧ input.bars[decided + 1]? = some opened ∧
    input.EntryHolds numerals (decided + 1) opened ∧ input.Affords initialCapital opened ∧
    ∀ later other, decided + 1 < later → input.bars[later]? = some other →
      ∀ reason ≠ .endOfDataset, ¬input.ExitHolds opened later other reason

/-- An account with shares but without a price they were bought at; it cannot sell them. -/
def SimulationState.Stuck (state : SimulationState) : Prop :=
  state.quantity ≠ 0 ∧ state.entryPrice = 0

variable {index : Nat} {state next : SimulationState}

/-- A bar leaves an account stuck. -/
theorem BarStep.stuck {bar : MarketBar}
    (stepped : BarStep numerals input index bar state next) (stuck : state.Stuck) :
    next.Stuck := by
  cases stepped with
  | warmingUp early => exact stuck
  | waited late flat seen refused => exact absurd flat stuck.1
  | entered late flat seen allowed bought => exact absurd flat stuck.1
  | held late holding seen kept => exact stuck
  | exited late holding seen due sold =>
    -- Selling divides by the price that is missing.
    exact absurd stuck.2 (leave_eq_ok sold).1

/-- What is reached with one more bar is reached by the step of that bar. -/
theorem barStep_of_upTo {n : Nat} {next : SimulationState} (inside : n < input.bars.length)
    (reached : simulateUpTo numerals input initialCapital (n + 1) = .ok next) :
    ∃ before, simulateUpTo numerals input initialCapital n = .ok before ∧
      BarStep numerals input n input.bars[n] before next := by
  obtain ⟨before, earlier, stepped⟩ := Loop.upTo_succ_eq_ok.mp reached
  rw [loopBody_of_getElem? (List.getElem?_eq_getElem inside)] at stepped
  exact ⟨before, earlier, stepBar_eq_ok stepped⟩

/-- An account that is stuck after some bars is so after more of them. -/
theorem stuck_since {first : Nat} {early : SimulationState} (stuck : early.Stuck)
    (reached : simulateUpTo numerals input initialCapital first = .ok early) :
    ∀ {more late}, first + more ≤ input.bars.length →
      simulateUpTo numerals input initialCapital (first + more) = .ok late → late.Stuck := by
  intro more
  induction more with
  | zero =>
    intro late _ same
    obtain rfl : early = late := Except.ok.inj (reached.symm.trans same)
    exact stuck
  | succ more ih =>
    intro late inside further
    obtain ⟨before, earlier, stepped⟩ := barStep_of_upTo (n := first + more) (by omega) further
    exact stepped.stuck (ih (by omega) earlier)

variable {count : Nat}

/-- A simulation that is carried out is never stuck. -/
theorem not_stuck {final state : SimulationState}
    (simulated : simulate numerals input initialCapital = .ok final)
    (inside : count ≤ input.bars.length)
    (reached : simulateUpTo numerals input initialCapital count = .ok state) : ¬state.Stuck := by
  intro stuck
  obtain ⟨after, looped, closing⟩ := Raise.bind_eq_ok.mp simulated
  have whole : count + (input.bars.length - count) = input.bars.length := by omega
  have still : after.Stuck := stuck_since stuck reached whole.le (by rwa [whole])
  cases ended : input.bars.getLast? with
  | none =>
    -- Without bars nothing was bought.
    rw [List.getLast?_eq_none_iff] at ended
    rw [ended] at inside
    obtain rfl := Nat.le_zero.mp inside
    obtain rfl := Except.ok.inj reached
    exact stuck.1 rfl
  | some last =>
    simp only [closeOut, ended, if_neg still.1] at closing
    obtain ⟨sold, left, -⟩ := Raise.bind_eq_ok.mp closing
    exact (leave_eq_ok left).1 still.2

/-- An account that has not traded yet. -/
structure SimulationState.Quiet (state : SimulationState) (initialCapital : ℚ) : Prop where
  flat : state.quantity = 0
  price : state.entryPrice = 0
  closed : state.closed = []
  cash : state.cash = initialCapital

/-- As long as no bar buys, the account does not trade. -/
theorem quiet_upTo {final : SimulationState}
    (simulated : simulate numerals input initialCapital = .ok final)
    (inside : count ≤ input.bars.length)
    (none_ : ∀ index < count, ¬input.Buys numerals initialCapital index) {state : SimulationState}
    (reached : simulateUpTo numerals input initialCapital count = .ok state) :
    state.Quiet initialCapital := by
  -- Induction on the number of bars; buying for the whole capital is what a bar could do.
  induction count generalizing state with
  | zero =>
    obtain rfl := Except.ok.inj reached
    exact ⟨rfl, rfl, rfl, rfl⟩
  | succ count ih =>
    obtain ⟨before, earlier, stepped⟩ := barStep_of_upTo (by omega) reached
    have quiet := ih (by omega) (fun index below => none_ index (by omega)) earlier
    have there := List.getElem?_eq_getElem (l := input.bars) (i := count) (by omega)
    cases stepped with
    | warmingUp early => exact ⟨quiet.flat, quiet.price, quiet.closed, quiet.cash⟩
    | waited late flat seen refused => exact ⟨quiet.flat, quiet.price, quiet.closed, quiet.cash⟩
    | entered late flat seen allowed bought =>
      obtain ⟨-, quantity, closed, -, -, -, empty⟩ := enter_eq_ok bought
      have few : ¬input.Affords initialCapital input.bars[count] := fun enough =>
        none_ count (Nat.lt_succ_self _) ⟨_, there, ⟨late, _, seen, allowed⟩, enough⟩
      have most : state.quantity ≤ 0 := by
        rw [quantity, mark_cash, quiet.cash]
        exact not_lt.mp few
      obtain ⟨cash, price, -⟩ := empty most
      rw [mark_entryPrice, quiet.price] at price
      refine ⟨?_, price, closed.trans quiet.closed, cash.trans quiet.cash⟩
      -- A negative number of shares would leave the account stuck.
      by_contra negative
      exact not_stuck simulated inside reached ⟨negative, price⟩
    | held late holding seen kept => exact absurd quiet.flat holding
    | exited late holding seen due sold => exact absurd quiet.flat holding

/-- The position that was opened first is carried. -/
structure SimulationInput.Carries (input : SimulationInput) (opened : MarketBar)
    (state : SimulationState) : Prop where
  holding : state.quantity ≠ 0
  price : state.entryPrice = opened.close * (1 + input.costRate)
  date : state.entryDate = opened.timestamp
  closed : state.closed = []

/-- The first bar that buys opens a position. -/
theorem carries_of_buys {opened : MarketBar}
    (quiet : state.Quiet initialCapital) (holds : input.EntryHolds numerals index opened)
    (affords : input.Affords initialCapital opened)
    (stepped : BarStep numerals input index opened state next) : input.Carries opened next := by
  obtain ⟨late, window, seen, allowed⟩ := holds
  cases stepped with
  | warmingUp early => omega
  | waited _ flat again refused =>
    obtain rfl := Except.ok.inj (seen.symm.trans again)
    rw [allowed] at refused
    cases refused
  | entered _ flat again _ bought =>
    obtain ⟨-, quantity, closed, -, -, some_, -⟩ := enter_eq_ok bought
    have enough : 0 < next.quantity := by
      rw [quantity, mark_cash, quiet.cash]
      exact affords
    obtain ⟨-, price, date, -⟩ := some_ enough
    exact ⟨enough.ne', price, date, closed.trans quiet.closed⟩
  | held _ holding => exact absurd quiet.flat holding
  | exited _ holding => exact absurd quiet.flat holding

/-- On a later bar the position is carried on where no condition holds, and closed for the first one
that does. -/
theorem SimulationInput.Carries.step {opened bar : MarketBar} (carries : input.Carries opened state)
    (late : input.warmup ≤ index) (stepped : BarStep numerals input index bar state next) :
    (∀ reason, ¬input.ExitHolds opened index bar reason) ∧ input.Carries opened next ∨
      ∃ position : ClosedPosition, input.FirstExit opened index bar position.exitReason ∧
        next.quantity = 0 ∧ next.closed = [position] ∧
        position.entryPrice = opened.close * (1 + input.costRate) ∧
        position.entryDate = opened.timestamp := by
  cases stepped with
  | warmingUp early => omega
  | waited _ flat => exact absurd flat carries.holding
  | entered _ flat => exact absurd flat carries.holding
  | held _ holding seen kept =>
    exact Or.inl ⟨(exitReason_eq_none_iff seen carries.price).mp kept, carries.holding,
      carries.price, carries.date, carries.closed⟩
  | exited _ holding seen due sold =>
    obtain ⟨-, flat, -, -, -, -, position, closed, price, -, -, entry, -, why⟩ := leave_eq_ok sold
    refine Or.inr ⟨position, ?_, flat, ?_, price.trans carries.price, entry.trans carries.date⟩
    · rw [why]
      exact (exitReason_eq_some_iff seen carries.price).mp due
    · rw [closed, mark_closed, carries.closed, List.nil_append]

/-- The first position is carried up to the first bar on which one of the conditions holds. -/
theorem carries_upTo {entered : Nat} {opened : MarketBar} {early : SimulationState}
    (late : input.warmup ≤ entered) (start : input.Carries opened early)
    (reached : simulateUpTo numerals input initialCapital (entered + 1) = .ok early) :
    ∀ {more state}, entered + 1 + more ≤ input.bars.length →
      (∀ index bar, entered < index → index < entered + 1 + more → input.bars[index]? = some bar →
        ∀ reason, ¬input.ExitHolds opened index bar reason) →
      simulateUpTo numerals input initialCapital (entered + 1 + more) = .ok state →
        input.Carries opened state := by
  intro more
  induction more with
  | zero =>
    intro state _ _ same
    obtain rfl : early = state := Except.ok.inj (reached.symm.trans same)
    exact start
  | succ more ih =>
    intro state inside quiet further
    obtain ⟨before, earlier, stepped⟩ :=
      barStep_of_upTo (n := entered + 1 + more) (by omega) further
    have there := List.getElem?_eq_getElem (l := input.bars) (i := entered + 1 + more) (by omega)
    have carries := ih (by omega)
      (fun index bar after below => quiet index bar after (by omega)) earlier
    rcases carries.step (by omega) stepped with ⟨-, on⟩ | ⟨position, ended, -⟩
    · exact on
    · exact absurd ended.1 (quiet _ _ (by omega) (by omega) there _)

/-- The bar on which an account buys first. -/
structure FirstBuy (numerals : Py.Numerals) (input : SimulationInput) (initialCapital : ℚ)
    (entered : Nat) (opened : MarketBar) : Prop where
  there : input.bars[entered]? = some opened
  holds : input.EntryHolds numerals entered opened
  affords : input.Affords initialCapital opened
  first : ∀ earlier < entered, ¬input.Buys numerals initialCapital earlier

/-- If any bar buys, one of them is the first. -/
theorem firstBuy_of_buys (buys : input.Buys numerals initialCapital index) :
    ∃ entered opened, FirstBuy numerals input initialCapital entered opened := by
  classical
  have some_ : ∃ index, input.Buys numerals initialCapital index := ⟨index, buys⟩
  obtain ⟨opened, there, holds, affords⟩ := Nat.find_spec some_
  exact ⟨Nat.find some_, opened, there, holds, affords, fun _ => Nat.find_min some_⟩

section Completed

variable {final : SimulationState} {entered : Nat} {opened : MarketBar}

/-- A simulation that is carried out gets through every number of bars. -/
theorem reached_of_simulate (simulated : simulate numerals input initialCapital = .ok final)
    (inside : count ≤ input.bars.length) :
    ∃ state, simulateUpTo numerals input initialCapital count = .ok state := by
  obtain ⟨after, looped, -⟩ := Raise.bind_eq_ok.mp simulated
  exact Loop.upTo_of_le looped inside

section FirstBuy

variable (buy : FirstBuy numerals input initialCapital entered opened)

include buy

/-- The bar that buys first is one of the bars. -/
theorem FirstBuy.inside : entered < input.bars.length :=
  (List.getElem?_eq_some_iff.mp buy.there).1

variable (simulated : simulate numerals input initialCapital = .ok final)

include simulated

/-- Up to the bar that buys first, the account does not trade. -/
theorem FirstBuy.quiet {count : Nat} (early : count ≤ entered) {state : SimulationState}
    (reached : simulateUpTo numerals input initialCapital count = .ok state) :
    state.Quiet initialCapital :=
  quiet_upTo simulated (early.trans buy.inside.le)
    (fun index below => buy.first index (by omega)) reached

/-- Up to the bar that buys first, the account is flat. -/
theorem FirstBuy.flatBefore (early : count ≤ entered) :
    FlatBefore numerals input initialCapital 0 count := by
  obtain ⟨state, reached⟩ := reached_of_simulate simulated (early.trans buy.inside.le)
  have quiet := buy.quiet simulated early reached
  exact ⟨state, reached, quiet.flat, by rw [quiet.closed]; rfl⟩

/-- The bar that buys first leaves a position that is carried. -/
theorem FirstBuy.carries {state : SimulationState}
    (reached : simulateUpTo numerals input initialCapital (entered + 1) = .ok state) :
    input.Carries opened state := by
  obtain ⟨before, earlier, stepped⟩ := barStep_of_upTo buy.inside reached
  rw [(List.getElem?_eq_some_iff.mp buy.there).2] at stepped
  exact carries_of_buys (buy.quiet simulated le_rfl earlier) buy.holds buy.affords stepped

/-- Behind the bar that buys first, its position is carried or has been closed. -/
theorem FirstBuy.carries_or_closed :
    ∀ {more state}, simulateUpTo numerals input initialCapital (entered + 1 + more) = .ok state →
      input.Carries opened state ∨ state.closed ≠ [] := by
  intro more
  induction more with
  | zero =>
    intro state reached
    exact Or.inl (buy.carries simulated reached)
  | succ more ih =>
    intro state further
    obtain ⟨before, earlier, stepped⟩ := Loop.upTo_succ_eq_ok.mp further
    unfold loopBody at stepped
    split at stepped
    · have step := stepBar_eq_ok stepped
      rcases ih earlier with carries | closed
      · have late : input.warmup ≤ ((entered + 1 + more : Nat) : Int) := by
          have after := buy.holds.1
          omega
        rcases carries.step late step with ⟨-, on⟩ | ⟨position, -, -, closed, -⟩
        · exact Or.inl on
        · exact Or.inr (by simp [closed])
      · -- What has been closed stays in the list.
        obtain ⟨extra, grown, -⟩ := step.closed
        exact Or.inr (by simp [grown, closed])
    · obtain rfl := Except.ok.inj stepped
      exact ih earlier

/-- The bar that buys first opens the position of the first trade. -/
theorem FirstBuy.opensTrade : OpensTrade numerals input initialCapital 0 entered := by
  refine ⟨buy.flatBefore simulated le_rfl, ?_⟩
  obtain ⟨state, reached⟩ := reached_of_simulate simulated (Nat.succ_le_of_lt buy.inside)
  have carries := buy.carries simulated reached
  exact ⟨state, reached, carries.holding, by rw [carries.closed]; rfl⟩

/-- No other bar opens the position of the first trade. -/
theorem FirstBuy.eq_of_opensTrade (opens : OpensTrade numerals input initialCapital 0 index) :
    index = entered := by
  obtain ⟨⟨before, reached, flat, number⟩, ⟨after, next, held, -⟩⟩ := opens
  rcases Nat.lt_trichotomy index entered with early | same | late
  · exact absurd (buy.quiet simulated early next).flat held
  · exact same
  · obtain ⟨more, rfl⟩ := Nat.exists_eq_add_of_le late
    rcases buy.carries_or_closed simulated reached with carries | closed
    · exact absurd flat carries.holding
    · exact absurd (List.length_eq_zero_iff.mp number) closed

end FirstBuy

/-- What becomes of the position that was opened first. -/
structure FirstTrade (numerals : Py.Numerals) (input : SimulationInput) (initialCapital : ℚ)
    (final : SimulationState) (entered : Nat) (opened : MarketBar) (position : ClosedPosition) :
    Prop where
  /-- It is the first one that was closed, and the only one if the data ended before. -/
  closed : ∃ rest, final.closed = position :: rest ∧
    (position.exitReason = .endOfDataset → rest = [])
  /-- It was bought at the close of its bar. -/
  price : position.entryPrice = opened.close * (1 + input.costRate)
  /-- It was bought on its bar. -/
  date : position.entryDate = opened.timestamp
  /-- It was closed where a condition held first, or it was opened on the last bar. -/
  ends : (∃ left closing, entered < left ∧ input.bars[left]? = some closing ∧
      input.FirstExit opened left closing position.exitReason ∧
      (∀ index bar, entered < index → index < left → input.bars[index]? = some bar →
        ∀ reason, ¬input.ExitHolds opened index bar reason) ∧
      ∃ state, simulateUpTo numerals input initialCapital (left + 1) = .ok state ∧
        state.closed = [position]) ∨
    entered + 1 = input.bars.length ∧ position.exitReason = .endOfDataset

/-- The position that was opened first is closed as the rules say. -/
theorem FirstBuy.firstTrade (buy : FirstBuy numerals input initialCapital entered opened)
    (simulated : simulate numerals input initialCapital = .ok final) :
    ∃ position, FirstTrade numerals input initialCapital final entered opened position := by
  classical
  obtain ⟨after, looped, closing⟩ := Raise.bind_eq_ok.mp simulated
  have late := buy.holds.1
  obtain ⟨early, started⟩ := reached_of_simulate simulated (Nat.succ_le_of_lt buy.inside)
  have carries := buy.carries simulated started
  by_cases ends : ∃ index, entered < index ∧ ∃ bar, input.bars[index]? = some bar ∧
      ∃ reason, input.ExitHolds opened index bar reason
  · -- The first such bar closes the position.
    obtain ⟨behind, bar, there, reason, holds⟩ := Nat.find_spec ends
    have quiet : ∀ index bar, entered < index → index < Nat.find ends →
        input.bars[index]? = some bar → ∀ reason, ¬input.ExitHolds opened index bar reason :=
      fun index bar after below there reason holds =>
        Nat.find_min ends below ⟨after, bar, there, reason, holds⟩
    generalize Nat.find ends = left at behind there holds quiet
    obtain ⟨inside, same⟩ := List.getElem?_eq_some_iff.mp there
    obtain ⟨more, rfl⟩ := Nat.exists_eq_add_of_le behind
    obtain ⟨state, reached⟩ :=
      reached_of_simulate simulated (Nat.succ_le_of_lt inside)
    obtain ⟨before, earlier, stepped⟩ := barStep_of_upTo inside reached
    have carried := carries_upTo late carries started inside.le quiet earlier
    rw [same] at stepped
    rcases carried.step (by omega) stepped with ⟨none_, -⟩ | ⟨position, due, flat, closed, price,
      date⟩
    · exact absurd holds (none_ reason)
    · refine ⟨position, ?_, price, date, Or.inl ⟨_, bar, behind, there, due, quiet, state, reached,
        closed⟩⟩
      rcases Nat.lt_or_ge (entered + 1 + more + 1) input.bars.length with short | long
      · -- Only the last bar closes a position because of the end.
        obtain ⟨-, extra, grown, -⟩ := simulate_since reached simulated short
        refine ⟨extra, by rw [grown, closed]; rfl, fun ended => ?_⟩
        have last : entered + 1 + more + 1 = input.bars.length := by
          have holds := due.1
          rw [ended] at holds
          exact holds
        omega
      · have whole : input.bars.length = entered + 1 + more + 1 := by omega
        rw [whole] at looped
        obtain rfl := Except.ok.inj (reached.symm.trans looped)
        exact ⟨[], by rw [closeOut_flat flat closing, closed], fun _ => rfl⟩
  · -- The last bar would close the position, so it is the one that opened it.
    have last : entered + 1 = input.bars.length := by
      by_contra more
      have inside := buy.inside
      refine ends ⟨input.bars.length - 1, by omega, _,
        List.getElem?_eq_getElem (by omega), .endOfDataset, ?_⟩
      change input.bars.length - 1 + 1 = input.bars.length
      omega
    rw [← last] at looped
    obtain rfl := Except.ok.inj (started.symm.trans looped)
    have ended : input.bars.getLast? = some opened := by
      rw [List.getLast?_eq_getElem?, ← last, Nat.add_sub_cancel]
      exact buy.there
    simp only [closeOut, ended, if_neg carries.holding] at closing
    obtain ⟨sold, left, rest⟩ := Raise.bind_eq_ok.mp closing
    obtain rfl := Except.ok.inj rest
    obtain ⟨-, -, -, -, -, -, position, closed, price, -, -, date, -, why⟩ := leave_eq_ok left
    refine ⟨position, ⟨[], ?_, fun _ => rfl⟩, price.trans carries.price, date.trans carries.date,
      Or.inr ⟨last, why⟩⟩
    change sold.closed = [position]
    rw [closed, carries.closed, List.nil_append]

variable {runId : String}

variable {position : ClosedPosition}

section

variable (trade : FirstTrade numerals input initialCapital final entered opened position)

include trade

/-- The first trade of a simulation is the record of the position that was closed first. -/
theorem FirstTrade.record :
    (final.closed.mapIdx fun index position => position.record runId index)[0]? =
      some (position.record runId 0) := by
  obtain ⟨rest, closed, -⟩ := trade.closed
  rw [closed]
  simp

/-- A rule that closes the first position fires on the bar that is sold at. -/
theorem FirstTrade.not_exit
    (buy : FirstBuy numerals input initialCapital entered opened)
    (simulated : simulate numerals input initialCapital = .ok final)
    (rule : position.exitReason ≠ .endOfDataset) :
    ¬FilledNextClose numerals input initialCapital 0 (position.record runId 0) := by
  intro filled
  obtain ⟨fired, _, ⟨⟨carried, reached, holding, -⟩, _, first, other, opens, there, at_, due⟩,
    closes, -⟩ := filled.exit rule
  rw [buy.eq_of_opensTrade simulated opens] at there
  obtain rfl := Option.some.inj (buy.there.symm.trans there)
  -- A position is carried into the bar, so it was bought before.
  have after : entered < fired := by
    by_contra early
    exact holding (buy.quiet simulated (not_lt.mp early) reached).flat
  rcases trade.ends with ⟨left, closing, -, -, -, quiet, state, sold, closed⟩ | ⟨-, ended⟩
  · rcases Nat.lt_or_ge fired left with before | late
    · exact quiet fired other after before at_ _ due.1
    · -- Behind the bar of the sale no position of the first trade is carried.
      obtain ⟨⟨state', reached', -, number'⟩, -⟩ := closes
      obtain ⟨more, same⟩ := Nat.exists_eq_add_of_le (show left + 1 ≤ fired + 1 by omega)
      rw [same] at reached'
      obtain ⟨extra, grown, -⟩ := (grows_since sold reached').closed
      rw [grown, closed] at number'
      simp at number'
  · exact rule ended

end

section

variable (simulated : simulate numerals input initialCapital = .ok final)

include simulated

/-- An account whose trades are all filled at the close after their decision, and that buys, buys late
and holds its shares to the end. -/
theorem buysLateAndHolds_of_fills (buy : FirstBuy numerals input initialCapital entered opened)
    (fills : FillsNextClose numerals input initialCapital
      (final.closed.mapIdx fun index position => position.record runId index)) :
    input.BuysLateAndHolds numerals initialCapital := by
  obtain ⟨position, trade⟩ := buy.firstTrade simulated
  have filled := fills 0 (position.record runId 0) trade.record
  obtain ⟨decided, _, ⟨-, ⟨bar, there, holds⟩, before⟩, opens, -⟩ := filled.entry
  obtain rfl := buy.eq_of_opensTrade simulated opens
  refine ⟨decided, bar, opened, there, holds, fun earlier below other at_ => ?_, fun affords => ?_,
    buy.there, buy.holds, buy.affords, ?_⟩
  · exact before earlier below (buy.flatBefore simulated (by omega)) other at_
  · exact buy.first decided (Nat.lt_succ_self _) ⟨bar, there, holds, affords⟩
  · intro later other after at_ reason rule holds
    -- The rule would be the reason to sell, on that bar or on an earlier one.
    refine trade.not_exit buy simulated (fun ended => ?_) filled
    rcases trade.ends with ⟨left, closing, -, sold, due, quiet, -⟩ | ⟨last, -⟩
    · have late : left ≤ later := by
        by_contra early
        exact quiet later other after (not_le.mp early) at_ reason holds
      rw [ended] at due
      have last : left + 1 = input.bars.length := due.1
      have inside := (List.getElem?_eq_some_iff.mp at_).1
      obtain rfl : later = left := by omega
      obtain rfl := Option.some.inj (sold.symm.trans at_)
      refine due.2 reason ?_ holds
      cases reason with
      | protectiveStop => simp [ExitReason.before]
      | channelLowExit => simp [ExitReason.before]
      | endOfDataset => exact absurd rfl rule
    · have inside := (List.getElem?_eq_some_iff.mp at_).1
      omega

/-- An account that never buys has no trades. -/
theorem closed_of_not_buys
    (none_ : ∀ index, ¬input.Buys numerals initialCapital index) : final.closed = [] := by
  obtain ⟨after, looped, closing⟩ := Raise.bind_eq_ok.mp simulated
  have quiet := quiet_upTo simulated le_rfl (fun index _ => none_ index) looped
  rw [closeOut_flat quiet.flat closing]
  exact quiet.closed

/-- An account that buys late and holds its shares to the end is filled at the close after its
decision. -/
theorem fills_of_buysLateAndHolds (late : input.BuysLateAndHolds numerals initialCapital) :
    FillsNextClose numerals input initialCapital
      (final.closed.mapIdx fun index position => position.record runId index) := by
  obtain ⟨decided, bar, opened, there, holds, before, poor, at_, again, affords, kept⟩ := late
  have buy : FirstBuy numerals input initialCapital (decided + 1) opened := by
    refine ⟨at_, again, affords, fun earlier below => ?_⟩
    rintro ⟨other, located, allowed, enough⟩
    rcases Nat.lt_succ_iff_lt_or_eq.mp below with early | rfl
    · exact before earlier early other located allowed
    · obtain rfl := Option.some.inj (there.symm.trans located)
      exact poor enough
  obtain ⟨position, trade⟩ := buy.firstTrade simulated
  -- Without a rule to sell, only the end of the data closes the position.
  have ended : position.exitReason = .endOfDataset := by
    by_contra rule
    rcases trade.ends with ⟨left, closing, after, sold, due, -⟩ | ⟨-, ended⟩
    · exact kept left closing after sold _ rule due.1
    · exact rule ended
  obtain ⟨rest, closed, only⟩ := trade.closed
  obtain rfl := only ended
  intro number record found
  rw [closed] at found
  cases number with
  | succ number => simp at found
  | zero =>
    obtain rfl : position.record runId 0 = record := by simpa using found
    refine ⟨⟨decided, opened, ?_, buy.opensTrade simulated, at_, trade.date, ?_⟩, ?_⟩
    · exact ⟨buy.flatBefore simulated (by omega), ⟨bar, there, holds⟩,
        fun earlier below _ => before earlier below⟩
    · change Py.round 4 position.entryPrice = _
      rw [trade.price]
    · intro rule
      exact absurd ended rule

end

end Completed

/-- Every trade of a run is filled at the close after its decision. -/
def ExecutesNextClose (numerals : Py.Numerals) (strategy : CanonicalStrategySpec)
    (dataset : MarketDataset) (assumptions : BacktestExecutionAssumptionSet)
    (result : RealBacktestResult) : Prop :=
  ∀ input initialCapital, assumptions.initialCapital.toFloat numerals = .ok initialCapital →
    prepare numerals strategy assumptions (tradedBars strategy dataset)
      (peerBars strategy dataset) = .ok input →
      FillsNextClose numerals input initialCapital result.trades

/-- No bar that meets the entry condition lets the initial capital buy a share, or the first one that
does comes right behind the first one at all, and no exit rule holds behind it. -/
def NothingToTime (numerals : Py.Numerals) (strategy : CanonicalStrategySpec)
    (dataset : MarketDataset) (assumptions : BacktestExecutionAssumptionSet) : Prop :=
  ∀ input initialCapital, assumptions.initialCapital.toFloat numerals = .ok initialCapital →
    prepare numerals strategy assumptions (tradedBars strategy dataset)
      (peerBars strategy dataset) = .ok input →
      (∀ index, ¬input.Buys numerals initialCapital index) ∨
        input.BuysLateAndHolds numerals initialCapital

/-- A run with default assumptions fills its trades at the close after their decision exactly when
there is nothing to time: the engine decides and fills at one and the same close. -/
theorem executesNextClose_iff {runId : String} {strategy : CanonicalStrategySpec}
    {dataset : MarketDataset} {result : RealBacktestResult}
    (ran : run numerals runId strategy dataset defaultExecutionAssumptions = .ok result) :
    ExecutesNextClose numerals strategy dataset defaultExecutionAssumptions result ↔
      NothingToTime numerals strategy dataset defaultExecutionAssumptions := by
  rcases lt_or_ge (tradedBars strategy dataset).length 61 with short | enough
  · -- There are no trades, and no bar lies behind the warm-up.
    constructor
    · intro _ input initialCapital _ prepared
      refine Or.inl fun index buys => ?_
      obtain ⟨bar, there, ⟨late, -⟩, -⟩ := buys
      have inside := (List.getElem?_eq_some_iff.mp there).1
      rw [(prepare_eq_ok prepared).1] at inside
      have warm : 60 ≤ input.warmup := le_max_left _ _
      omega
    · intro _ input initialCapital _ _ number trade found
      rw [(rejected_of_run ran short).2] at found
      cases found
  · obtain ⟨input, initialCapital, final, made⟩ := ran_of_run ran enough
    have trades : result.trades =
        final.closed.mapIdx fun index position => position.record runId index := by
      rw [made.result]
      rfl
    constructor
    · intro fills other amount capital prepared
      obtain rfl := Except.ok.inj (made.capital.symm.trans capital)
      obtain rfl := Except.ok.inj (made.prepared.symm.trans prepared)
      by_cases none_ : ∀ index, ¬input.Buys numerals initialCapital index
      · exact Or.inl none_
      · obtain ⟨index, buys⟩ := not_forall_not.mp none_
        obtain ⟨entered, opened, buy⟩ := firstBuy_of_buys buys
        have filled := fills input initialCapital capital prepared
        rw [trades] at filled
        exact Or.inr (buysLateAndHolds_of_fills made.simulated buy filled)
    · intro nothing other amount capital prepared
      obtain rfl := Except.ok.inj (made.capital.symm.trans capital)
      obtain rfl := Except.ok.inj (made.prepared.symm.trans prepared)
      rw [trades]
      rcases nothing input initialCapital capital prepared with none_ | late
      · intro number trade found
        rw [closed_of_not_buys made.simulated none_] at found
        cases found
      · exact fills_of_buysLateAndHolds made.simulated late

set_option maxRecDepth 4096 in
/-- A run with a breakout that is stopped out makes one trade. -/
theorem stopped_out_run : ∃ result, run noNumerals "run" breakoutSpec (flatThen [11, 9, 9])
    defaultExecutionAssumptions = .ok result ∧ result.trades.length = 1 := by
  have finished : ((run noNumerals "run" breakoutSpec (flatThen [11, 9, 9])
      defaultExecutionAssumptions).toOption.map fun result => result.trades.length) = some 1 := by
    decide +kernel
  cases ran : run noNumerals "run" breakoutSpec (flatThen [11, 9, 9])
      defaultExecutionAssumptions with
  | error raised => simp [ran, Except.toOption] at finished
  | ok result =>
    simp only [ran, Except.toOption, Option.map_some, Option.some.injEq] at finished
    exact ⟨result, rfl, finished⟩

/-- A run with a breakout that is stopped out has something to time. -/
theorem stopped_out_timing :
    ∃ result, run noNumerals "run" breakoutSpec (flatThen [11, 9, 9])
        defaultExecutionAssumptions = .ok result ∧ result.trades.length = 1 ∧
      (ExecutesNextClose noNumerals breakoutSpec (flatThen [11, 9, 9]) defaultExecutionAssumptions
          result ↔
        NothingToTime noNumerals breakoutSpec (flatThen [11, 9, 9])
          defaultExecutionAssumptions) := by
  obtain ⟨result, ran, finished⟩ := stopped_out_run
  exact ⟨result, ran, finished, executesNextClose_iff ran⟩

set_option maxRecDepth 4096 in
/-- A breakout is bought at the very close that breaks out, and stopped out at the very close that
falls below the stop. -/
theorem timing_departures :
    ∃ result, run noNumerals "run" breakoutSpec (flatThen [11, 9, 9])
        defaultExecutionAssumptions = .ok result ∧
      ¬ExecutesNextClose noNumerals breakoutSpec (flatThen [11, 9, 9]) defaultExecutionAssumptions
        result := by
  obtain ⟨result, ran, finished⟩ := stopped_out_run
  refine ⟨result, ran, fun executes => ?_⟩
  obtain ⟨input, initialCapital, final, made⟩ := ran_of_run ran (by decide +kernel)
  obtain rfl : 1000000 = initialCapital := Except.ok.inj made.capital
  have bars : input.bars.length = 63 := by
    rw [(prepare_eq_ok made.prepared).1]
    decide +kernel
  -- A position is carried into the bar after the breakout, and closed on that bar.
  have states : (prepare noNumerals breakoutSpec defaultExecutionAssumptions
      (tradedBars breakoutSpec (flatThen [11, 9, 9]))
      (peerBars breakoutSpec (flatThen [11, 9, 9])) >>= fun input =>
      simulateUpTo noNumerals input 1000000 61 >>= fun held =>
      simulateUpTo noNumerals input 1000000 62 >>= fun sold =>
      .ok (held.quantity, sold.closed.length)).toOption = some (90686, 1) := by
    decide +kernel
  obtain ⟨held, reached⟩ := reached_of_simulate made.simulated (show 61 ≤ _ by omega)
  obtain ⟨sold, reached'⟩ := reached_of_simulate made.simulated (show 62 ≤ _ by omega)
  simp only [made.prepared, reached, reached', bind, Except.bind, Except.toOption,
    Option.some.injEq, Prod.mk.injEq] at states
  have filled := executes input 1000000 made.capital made.prepared 0 result.trades[0]
    (List.getElem?_eq_getElem (by omega))
  obtain ⟨decided, _, ⟨-, ⟨bar, there, ⟨late, -⟩⟩, -⟩, ⟨⟨state, now, flat, number⟩, -⟩, at_, -⟩ :=
    filled.entry
  have warm : 60 ≤ input.warmup := le_max_left _ _
  have inside := (List.getElem?_eq_some_iff.mp at_).1
  -- The decision comes after the warm-up, so the entry would be on one of the last two bars.
  rcases (show decided = 60 ∨ decided = 61 by omega) with rfl | rfl
  · obtain rfl := Except.ok.inj (reached.symm.trans now)
    omega
  · obtain rfl := Except.ok.inj (reached'.symm.trans now)
    omega

end StrategyLab
