import StrategyLab.Lib.Machine
import StrategyLab.Lib.Table
import Mathlib.Algebra.Order.Field.Rat
import Mathlib.Data.List.Sort

/-! Forward verification of a crypto strategy: bars, rebalances, and the trades of their baskets. -/

namespace StrategyLab

/-- How floats behave: arithmetic, comparison, the folds over lists, and the order of a list of
scores that sorting gives, which is some order of them also with floats that are no number. -/
structure Floats (F : Type) where
  ofRat : ℚ → F
  isNan : F → Bool
  isZero : F → Bool
  neg : F → F
  add : F → F → F
  sub : F → F → F
  mul : F → F → F
  div : F → F → F
  less : F → F → Bool
  max : List F → F
  min : List F → F
  sum : List F → F
  sortDescending : List (F × String) → List (F × String)
  sorted : ∀ scored, (sortDescending scored).Perm scored

/-- A bar of a symbol. -/
structure Bar (F : Type) where
  time : Int
  open_ : F
  high : F
  low : F
  close : F
  volume : F

/-- What of the specification of a strategy its verification looks at. -/
structure ForwardSpec where
  universe_ : List String
  lookbackBars : Nat
  holdBars : Nat
  liquidityWindowBars : Nat
  liquidityFloorUsd : ℚ
  minEligibleForRebalance : Nat
  deriving DecidableEq, Repr

/-- The symbols of the strategy. -/
def forwardUniverse : List String :=
  ["ADAUSDT", "AVAXUSDT", "BNBUSDT", "BRUSDT", "BTCUSDT", "DOGEUSDT", "ENAUSDT", "ETHUSDT",
    "HYPEUSDT", "NEARUSDT", "NMRUSDT", "ORCAUSDT", "PUMPUSDT", "QNTUSDT", "RLCUSDT", "SANDUSDT",
    "SOLUSDT", "SUIUSDT", "TAOUSDT", "UNIUSDT", "WLDUSDT", "XRPUSDT", "ZECUSDT"]

/-- The frozen specification of the strategy. -/
def strategySpec : ForwardSpec where
  universe_ := forwardUniverse
  lookbackBars := 576
  holdBars := 576
  liquidityWindowBars := 2016
  liquidityFloorUsd := 50000
  minEligibleForRebalance := 8

/-- The bars that are needed before the first decision. -/
def ForwardSpec.warmupNeeded (spec : ForwardSpec) : Nat :=
  spec.lookbackBars + spec.liquidityWindowBars

/-- The regime that the return of the reference symbol stands for. -/
inductive BtcRegime where
  | unknown
  | up
  | down
  | flat
  deriving DecidableEq, Repr

section Decisions

variable {F : Type} (floats : Floats F)

/-- The bar of five minutes, if the last one starts four minutes after the first one. -/
def fiveMinuteBar (first second third fourth fifth : Bar F) : Option (Bar F) :=
  if fifth.time - first.time ≠ 240000 then none
  else
    let minutes := [first, second, third, fourth, fifth]
    some {
      time := fifth.time
      open_ := first.open_
      high := floats.max (minutes.map Bar.high)
      low := floats.min (minutes.map Bar.low)
      close := fifth.close
      volume := floats.sum (minutes.map Bar.volume) }

/-- The bars of five minutes: every five rows in turn that span five minutes are one. -/
def to5mBars : List (Bar F) → List (Bar F)
  | first :: second :: third :: fourth :: fifth :: rest =>
    match fiveMinuteBar floats first second third fourth fifth with
    | none => to5mBars rest
    | some bar => bar :: to5mBars rest
  | _ => []

/-- The running mean of the volume in dollars, where the window is full. -/
def rollingMeanDollarVolume (bars : List (Bar F)) (window : Nat) : List (Option F) :=
  let volumes := bars.map fun bar => floats.mul bar.close bar.volume
  let zero := floats.ofRat 0
  ((List.range volumes.length).foldl (fun (sum, means) i =>
    let sum := floats.add sum (volumes.getD i zero)
    let sum := if window ≤ i then floats.sub sum (volumes.getD (i - window) zero) else sum
    (sum, means ++ [if window ≤ i + 1 then some (floats.div sum (floats.ofRat window)) else none]))
    (zero, [])).2

/-- The regime of a trailing return. -/
def classifyBtcRegime : Option F → BtcRegime
  | none => .unknown
  | some trailing =>
    if floats.less (floats.ofRat (1 / 100)) trailing then .up
    else if floats.less trailing (floats.ofRat (-1 / 100)) then .down
    else .flat

/-- The return from a price, if that is not zero. -/
def returnFrom (before after : F) : Option F :=
  if floats.isZero before then none
  else some (floats.sub (floats.div after before) (floats.ofRat 1))

variable (spec : ForwardSpec)

/-- The score of a symbol at an index of its bars, if it has the history and the volume. -/
def score (bars : List (Bar F)) (decisionIdx : Nat) : Option F :=
  match bars[decisionIdx]? with
  | none => none
  | some now =>
    if decisionIdx < spec.lookbackBars then none
    else
      match (rollingMeanDollarVolume floats (bars.take (decisionIdx + 1))
          spec.liquidityWindowBars)[decisionIdx]? with
      | some (some liquidity) =>
        if floats.less liquidity (floats.ofRat spec.liquidityFloorUsd) then none
        else
          (bars[decisionIdx - spec.lookbackBars]?).bind fun before =>
            returnFrom floats before.close now.close
      | _ => none

/-- The symbols that are scored, with their scores. -/
def scored (barsBySymbol : String → Option (List (Bar F))) (decisionIdx : Nat) :
    List (F × String) :=
  spec.universe_.filterMap fun symbol =>
    ((barsBySymbol symbol).bind fun bars => score floats spec bars decisionIdx).map (·, symbol)

/-- What is decided about a basket. -/
structure Basket where
  decidedAtMs : Int
  eligibleCount : Nat
  picked : List String
  btcRegime : BtcRegime
  deriving DecidableEq, Repr

/-- Decide the basket at an index: the best quarter of the symbols that are scored there. -/
def decideRebalance (barsBySymbol : String → Option (List (Bar F))) (decisionIdx : Nat) :
    Option Basket := do
  let btcBars ← barsBySymbol "BTCUSDT"
  let btcNow ← btcBars[decisionIdx]?
  if decisionIdx < spec.lookbackBars then none
  let btcBefore ← btcBars[decisionIdx - spec.lookbackBars]?
  let scored := scored floats spec barsBySymbol decisionIdx
  if scored.length < spec.minEligibleForRebalance then none
  -- A quarter is rounded up, and is one symbol at least.
  let quarter := Nat.max 1 ((scored.length + 3) / 4)
  return {
    decidedAtMs := btcNow.time
    eligibleCount := scored.length
    picked := ((floats.sortDescending scored).take quarter).map Prod.snd
    btcRegime := classifyBtcRegime floats (returnFrom floats btcBefore.close btcNow.close) }

/-- A basket is decided exactly if the reference has its bars and enough symbols are scored. -/
theorem decideRebalance_eq_some_iff {barsBySymbol : String → Option (List (Bar F))}
    {decisionIdx : Nat} {basket : Basket} :
    decideRebalance floats spec barsBySymbol decisionIdx = some basket ↔
      ∃ btcBars btcNow btcBefore, barsBySymbol "BTCUSDT" = some btcBars ∧
        btcBars[decisionIdx]? = some btcNow ∧ spec.lookbackBars ≤ decisionIdx ∧
        btcBars[decisionIdx - spec.lookbackBars]? = some btcBefore ∧
        spec.minEligibleForRebalance ≤ (scored floats spec barsBySymbol decisionIdx).length ∧
        basket = {
          decidedAtMs := btcNow.time
          eligibleCount := (scored floats spec barsBySymbol decisionIdx).length
          picked := ((floats.sortDescending (scored floats spec barsBySymbol decisionIdx)).take
            (Nat.max 1 (((scored floats spec barsBySymbol decisionIdx).length + 3) / 4))).map
              Prod.snd
          btcRegime := classifyBtcRegime floats
            (returnFrom floats btcBefore.close btcNow.close) } := by
  unfold decideRebalance
  cases barsBySymbol "BTCUSDT" with
  | none => simp
  | some btcBars =>
    cases now : btcBars[decisionIdx]? with
    | none => simp [now]
    | some btcNow =>
      cases before : btcBars[decisionIdx - spec.lookbackBars]? with
      | none => simp [now, before]
      | some btcBefore =>
        by_cases history : decisionIdx < spec.lookbackBars
        · simp [now, before, history]
        · by_cases few : (scored floats spec barsBySymbol decisionIdx).length <
              spec.minEligibleForRebalance
          · simp [now, before, history, few]
          · simp [now, before, history, few, Nat.not_lt.mp history, Nat.not_lt.mp few, eq_comm]

/-- A symbol is scored exactly if it is one of the strategy and has a score. -/
theorem mem_scored {barsBySymbol : String → Option (List (Bar F))} {decisionIdx : Nat}
    {member : F × String} : member ∈ scored floats spec barsBySymbol decisionIdx ↔
      member.2 ∈ spec.universe_ ∧ ∃ bars, barsBySymbol member.2 = some bars ∧
        score floats spec bars decisionIdx = some member.1 := by
  unfold scored
  rw [List.mem_filterMap]
  constructor
  · rintro ⟨symbol, inside, made⟩
    obtain ⟨value, scored, rfl⟩ := Option.map_eq_some_iff.mp made
    obtain ⟨bars, found, value_⟩ := Option.bind_eq_some_iff.mp scored
    exact ⟨inside, bars, found, value_⟩
  · rintro ⟨inside, bars, found, value⟩
    exact ⟨member.2, inside, by rw [found, Option.bind_some, value]; rfl⟩

/-- A symbol that has a score has the history for it. -/
theorem lookbackBars_le_of_score {bars : List (Bar F)} {decisionIdx : Nat} {value : F}
    (made : score floats spec bars decisionIdx = some value) : spec.lookbackBars ≤ decisionIdx := by
  unfold score at made
  split at made
  · cases made
  · split at made
    · cases made
    · rename_i history
      exact Nat.not_lt.mp history

/-- The funding that a long position pays between two moments, in percent. -/
def fundingCostPct (events : List (Int × F)) (startMs endMs : Int) : F :=
  events.foldl (fun total event =>
    if startMs ≤ event.1 ∧ event.1 < endMs then
      floats.add total (floats.neg (floats.mul event.2 (floats.ofRat 100)))
    else total) (floats.ofRat 0)

end Decisions

/-- A basket that is recorded under its index. -/
structure RebalanceDecision extends Basket where
  rebalanceIndex : Nat
  deriving DecidableEq, Repr

/-- Where a trade stands. -/
inductive TradeStatus where
  | open_
  | closed
  deriving DecidableEq, Repr

/-- A trade of a symbol of a basket. -/
structure ForwardTrade (F : Type) where
  rebalanceIndex : Nat
  symbol : String
  entryTimeMs : Int
  exitTimeMs : Int
  entryPrice : F
  exitPrice : Option F
  pricePct : Option F
  fundingPct : Option F
  btcRegime : BtcRegime
  status : TradeStatus

/-- What a trade is stored under. -/
def ForwardTrade.key {F : Type} (trade : ForwardTrade F) : Nat × String :=
  (trade.rebalanceIndex, trade.symbol)

/-- A trade that is closed at a price. -/
def ForwardTrade.close {F : Type} (trade : ForwardTrade F) (exitPrice pricePct fundingPct : F) :
    ForwardTrade F :=
  { trade with
    exitPrice := some exitPrice
    pricePct := some pricePct
    fundingPct := some fundingPct
    status := .closed }

/-- A trade that is closed is stored where it was. -/
theorem ForwardTrade.close_key {F : Type} (exitPrice pricePct fundingPct : F)
    (trade : ForwardTrade F) : (trade.close exitPrice pricePct fundingPct).key = trade.key :=
  rfl

/-- A row of one minute of a symbol. -/
structure StoredMinute (F : Type) where
  symbol : String
  minute : Bar F

/-- What a minute is stored under. -/
def StoredMinute.key {F : Type} (row : StoredMinute F) : String × Int :=
  (row.symbol, row.minute.time)

/-- The tables of the minutes, of the rebalances and of the trades of one version. -/
structure ForwardState (F : Type) where
  minutes : Table (StoredMinute.key (F := F))
  rebalances : Table RebalanceDecision.rebalanceIndex
  trades : Table (ForwardTrade.key (F := F))

/-- One commit. -/
inductive ForwardWrite (F : Type) where
  | upsertBars (symbol : String) (minutes : List (Bar F))
  | recordRebalance (decision : RebalanceDecision)
  | openTrade (trade : ForwardTrade F)
  | closeTrade (rebalanceIndex : Nat) (symbol : String) (exitPrice pricePct fundingPct : F)

/-- A call of `poll_once`: what the fetchers answer, where `none` is a fetcher that raises or a row
that is no row of numbers; the time; and the commits after which the process stops, if it does. -/
structure Poll (F : Type) where
  klines : String → Option (List (Option (Bar F)))
  funding : String → Int → Option (List (Int × F))
  nowMs : Int
  stopAfter : Option Nat

/-- What a poll that comes to its end returns. -/
structure PollResult where
  opened : Nat
  closed : Nat
  barsCollectedBtc : Nat
  warmupNeeded : Nat
  deriving DecidableEq, Repr

namespace ForwardState

variable {F : Type} (floats : Floats F) (spec : ForwardSpec) (state : ForwardState F)

/-- Nothing is stored yet. -/
def initial : ForwardState F := ⟨.empty, .empty, .empty⟩

/-- Store a minute, unless there is one of its time or one of its numbers is none. -/
def insertMinute (symbol : String) (state : ForwardState F) (minute : Bar F) : ForwardState F :=
  if [minute.open_, minute.high, minute.low, minute.close, minute.volume].any floats.isNan then
    state
  else { state with minutes := (state.minutes.insert? ⟨symbol, minute⟩).getD state.minutes }

/-- Close a trade that is open. -/
def closeTrade (rebalanceIndex : Nat) (symbol : String) (exitPrice pricePct fundingPct : F) :
    ForwardState F :=
  { state with
    trades := state.trades.update
      (fun trade => trade.rebalanceIndex = rebalanceIndex ∧ trade.symbol = symbol ∧
        trade.status = .open_)
      (fun trade => trade.close exitPrice pricePct fundingPct)
      (ForwardTrade.close_key exitPrice pricePct fundingPct) }

/-- Carry out one commit. -/
def apply : ForwardWrite F → ForwardState F
  | .upsertBars symbol minutes => minutes.foldl (insertMinute floats symbol) state
  | .recordRebalance decision =>
    { state with rebalances := (state.rebalances.insert? decision).getD state.rebalances }
  | .openTrade trade => { state with trades := (state.trades.insert? trade).getD state.trades }
  | .closeTrade rebalanceIndex symbol exitPrice pricePct fundingPct =>
    state.closeTrade rebalanceIndex symbol exitPrice pricePct fundingPct

/-- Carry out commits in order. -/
def applyAll (writes : List (ForwardWrite F)) : ForwardState F :=
  writes.foldl (apply floats) state

/-- The minutes of a symbol in the order of their times. -/
def load1mRows (symbol : String) : List (Bar F) :=
  ((state.minutes.rows.filter fun row => row.symbol = symbol).map StoredMinute.minute).mergeSort
    fun first second => first.time ≤ second.time

/-- The bars of a symbol of the universe. -/
def barsBySymbol (symbol : String) : Option (List (Bar F)) :=
  if symbol ∈ spec.universe_ then some (to5mBars floats (state.load1mRows symbol)) else none

/-- The bars of the reference symbol. -/
def btcBars : List (Bar F) := (state.barsBySymbol floats spec "BTCUSDT").getD []

/-- One more than the highest index that is recorded. -/
def nextRebalanceIndex : Nat :=
  state.rebalances.rows.foldl (fun next row => Nat.max next (row.rebalanceIndex + 1)) 0

/-- The index of the bar that the next decision is made at. -/
def decisionIdx : Nat := spec.warmupNeeded - 1 + state.nextRebalanceIndex * spec.holdBars

/-- The decision that is due, if its bar and the one after it are there. -/
def decision : Option RebalanceDecision :=
  let btcBars := state.btcBars floats spec
  let decisionIdx := state.decisionIdx spec
  if spec.warmupNeeded + 1 ≤ btcBars.length ∧ decisionIdx < btcBars.length ∧
      decisionIdx + 1 < btcBars.length then
    (decideRebalance floats spec (state.barsBySymbol floats spec) decisionIdx).map fun basket =>
      { basket with rebalanceIndex := state.nextRebalanceIndex }
  else none

/-- The bar that a symbol is bought at, if it has one behind the bar of the decision. -/
def entryBar (symbol : String) : Option (Bar F) :=
  ((state.barsBySymbol floats spec symbol).getD [])[state.decisionIdx spec + 1]?

/-- When a trade that is opened with a bar ends. -/
def exitTime (entry : Bar F) : Int :=
  match (state.btcBars floats spec)[state.decisionIdx spec + 1 + spec.holdBars]? with
  | some bar => bar.time
  | none => entry.time + spec.holdBars * 5 * 60000

/-- The trades that are opened for a decision; a symbol without a bar to buy at is left out. -/
def openings (decision : RebalanceDecision) : List (ForwardWrite F) :=
  decision.picked.filterMap fun symbol => (state.entryBar floats spec symbol).map fun entry =>
    .openTrade {
      rebalanceIndex := decision.rebalanceIndex
      symbol
      entryTimeMs := entry.time
      exitTimeMs := state.exitTime floats spec entry
      entryPrice := entry.open_
      exitPrice := none
      pricePct := none
      fundingPct := none
      btcRegime := decision.btcRegime
      status := .open_ }

/-- The commits of the decision that is due, if there is one. -/
def decisionWrites : List (ForwardWrite F) :=
  match state.decision floats spec with
  | none => []
  | some decision => .recordRebalance decision :: state.openings floats spec decision

/-- The open trades that end until a moment. -/
def openTradesDue (asOfMs : Int) : List (ForwardTrade F) :=
  state.trades.rows.filter fun trade => trade.status = .open_ ∧ trade.exitTimeMs ≤ asOfMs

/-- The commits that close trades, up to a fetcher that raises. -/
def closings (poll : Poll F) (barsBySymbol : String → Option (List (Bar F))) :
    List (ForwardTrade F) → List (ForwardWrite F) × Bool
  | [] => ([], true)
  | trade :: rest =>
    match ((barsBySymbol trade.symbol).getD []).find? (trade.exitTimeMs ≤ ·.time) with
    | none => closings poll barsBySymbol rest
    | some exit =>
      if floats.isZero trade.entryPrice then closings poll barsBySymbol rest
      else
        match poll.funding trade.symbol trade.entryTimeMs with
        | none => ([], false)
        | some events =>
          let pricePct := floats.mul (floats.ofRat 100)
            (floats.sub (floats.div exit.open_ trade.entryPrice) (floats.ofRat 1))
          let fundingPct := fundingCostPct floats events trade.entryTimeMs trade.exitTimeMs
          let (writes, done) := closings poll barsBySymbol rest
          (.closeTrade trade.rebalanceIndex trade.symbol exit.open_ pricePct fundingPct :: writes,
            done)

/-- The commits that store the rows of symbols, up to a fetcher or a row that raises. -/
def upserts (poll : Poll F) : List String → List (ForwardWrite F) × Bool
  | [] => ([], true)
  | symbol :: rest =>
    match poll.klines symbol with
    | none => ([], false)
    | some [] => upserts poll rest
    | some rows =>
      match rows.mapM id with
      | none => ([], false)
      | some minutes =>
        let (writes, done) := upserts poll rest
        (.upsertBars symbol minutes :: writes, done)

/-- The state when all rows are stored. -/
def fetched (poll : Poll F) : ForwardState F :=
  state.applyAll floats (upserts poll spec.universe_).1

/-- The moment up to which trades are closed. -/
def latestMs (poll : Poll F) : Int :=
  match (state.btcBars floats spec).getLast? with
  | some bar => bar.time
  | none => poll.nowMs

/-- The commits of a poll in order, and whether it comes to its end. -/
def pollWrites (poll : Poll F) : List (ForwardWrite F) × Bool :=
  let (stored, done) := upserts poll spec.universe_
  if done then
    let fetched := state.fetched floats spec poll
    let decided := fetched.decisionWrites floats spec
    let after := fetched.applyAll floats decided
    let (closed, done) := closings floats poll (fetched.barsBySymbol floats spec)
      (after.openTradesDue (fetched.latestMs floats spec poll))
    (stored ++ (decided ++ closed), done)
  else (stored, false)

/-- Poll once: the commits up to the one after which the process stops, if it does. -/
def pollOnce (poll : Poll F) : Option PollResult × ForwardState F :=
  let (writes, done) := state.pollWrites floats spec poll
  let fetched := state.fetched floats spec poll
  let committed := poll.stopAfter.elim writes writes.take
  (if done ∧ committed.length = writes.length then
      some {
        opened := ((fetched.decision floats spec).map fun decision =>
          (fetched.openings floats spec decision).length).getD 0
        closed := writes.countP fun write => write matches .closeTrade ..
        barsCollectedBtc := (fetched.btcBars floats spec).length
        warmupNeeded := spec.warmupNeeded }
    else none, state.applyAll floats committed)

end ForwardState

/-- The verification as a machine. -/
def forwardMachine {F : Type} (floats : Floats F) (spec : ForwardSpec) :
    Machine (ForwardState F) (Poll F) (Option PollResult) :=
  ⟨fun state poll => state.pollOnce floats spec poll⟩

end StrategyLab
