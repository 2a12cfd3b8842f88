import StrategyLab.Lib.Fifo
import StrategyLab.Lib.Python
import StrategyLab.Lib.Sorted
import Mathlib.Data.Prod.Lex
import Mathlib.Data.String.Basic

/-! Live round trips: confirmed fills of a ledger matched first in, first out. -/

namespace StrategyLab

/-- The status of an order that was filled for certain. -/
def confirmedStatus : String := "FILLED_CONFIRMED"

/-- An order as it was observed; no evidence is kept of a quantity or a price that cannot be. -/
structure LiveOrder where
  evidenceId : String
  observedAt : String
  market : String
  strategy : String
  side : String
  symbol : String
  qty : ℚ
  price : ℚ
  status : String
  detail : String
  sourcePath : String
  reconciledAt : Option String
  completeness : String
  qty_pos : 0 < qty
  price_nonneg : 0 ≤ price
  deriving DecidableEq

namespace LiveOrder

/-- The order was filled for certain. -/
def confirmed (order : LiveOrder) : Bool := order.status = confirmedStatus

/-- The market, the strategy and the symbol under which the lots of an order are kept. -/
def key (order : LiveOrder) : String × String × String :=
  (order.market, order.strategy, order.symbol)

/-- The order is a buy; every other side is treated as a sell. -/
def isBuy (order : LiveOrder) : Bool := order.side = "BUY"

end LiveOrder

/-- A quantity that was bought and sold. -/
structure LiveRoundTrip where
  market : String
  strategy : String
  symbol : String
  qty : ℚ
  entryPrice : ℚ
  exitPrice : ℚ
  entryAt : String
  exitAt : String
  realizedPnl : ℚ
  realizedReturn : ℚ
  entryEvidenceId : String
  exitEvidenceId : String
  deriving DecidableEq

/-- The market, the strategy and the symbol of a round trip. -/
def LiveRoundTrip.key (trip : LiveRoundTrip) : String × String × String :=
  (trip.market, trip.strategy, trip.symbol)

/-- Quantities up to this one count as nothing. -/
def quantityTolerance : ℚ := 1 / 1000000000000

/-- The round trip of a sell with a part of a lot. -/
def roundTrip (sell : LiveOrder) (part : Fifo.Lot LiveOrder) : LiveRoundTrip where
  market := sell.market
  strategy := sell.strategy
  symbol := sell.symbol
  qty := part.qty
  entryPrice := part.owner.price
  exitPrice := sell.price
  entryAt := part.owner.observedAt
  exitAt := sell.observedAt
  realizedPnl := (sell.price - part.owner.price) * part.qty
  realizedReturn := if 0 < part.owner.price then sell.price / part.owner.price - 1 else 0
  entryEvidenceId := part.owner.evidenceId
  exitEvidenceId := sell.evidenceId

/-- The lots in stock, and the round trips and unmatched sells so far. -/
structure MatchState where
  inventory : String × String × String → List (Fifo.Lot LiveOrder)
  trips : List LiveRoundTrip
  unmatched : List LiveOrder

/-- Put a buy into stock, or match a sell with the oldest lots. -/
def matchOrder (state : MatchState) (order : LiveOrder) : MatchState :=
  let lots := state.inventory order.key
  if order.isBuy then
    { state with
      inventory := Function.update state.inventory order.key (lots ++ [⟨order.qty, order⟩]) }
  else
    let drawn := Fifo.draw quantityTolerance order.qty lots
    { inventory := Function.update state.inventory order.key drawn.left
      trips := state.trips ++ drawn.parts.map (roundTrip order)
      unmatched := state.unmatched ++ if quantityTolerance < drawn.missing then [order] else [] }

/-- The round trips of some orders, and the sells that were not matched in full. -/
structure RoundTrips where
  trips : List LiveRoundTrip
  unmatched : List LiveOrder
  deriving DecidableEq

/-- Confirmed orders in the order in which they were observed. -/
def observedOrders (orders : List LiveOrder) : List LiveOrder :=
  Py.sortedBy (fun order => toLex (order.observedAt, order.evidenceId))
    (orders.filter (·.confirmed))

/-- Reconstruct the round trips of a ledger. -/
def reconstructRoundTrips (orders : List LiveOrder) : RoundTrips :=
  let final := (observedOrders orders).foldl matchOrder ⟨fun _ => [], [], []⟩
  ⟨final.trips, final.unmatched⟩

/-- A row of the ledger: its texts, its numbers where they can be read, and what is kept of it. -/
structure RawOrder where
  datetime : String
  market : String
  strategy : String
  side : String
  symbol : String
  qty : Option ℚ
  price : Option ℚ
  status : String
  detail : String
  reconciledAt : Option String

/-- How texts are written in capitals and small letters, numbers as texts, and texts hashed. -/
structure LedgerTexts where
  upper : String → String
  lower : String → String
  str : ℚ → String
  sha256 : String → String
  ledgerPath : String

section Ledger

variable (texts : LedgerTexts)

/-- What the status of an order says about its evidence. -/
def completenessOf (status : String) : String :=
  if status = confirmedStatus then "confirmed"
  else if status ∈ ["DRY_RUN", "EXPIRED_NOT_FILLED"] then "non_live"
  else "unresolved"

/-- Read the order in a row at a position of the ledger; a row without identity is not read. -/
def normalize (row : RawOrder) (position : Nat) : Option LiveOrder := do
  let market := Py.strip (texts.upper row.market)
  let strategy := Py.strip (texts.lower row.strategy)
  let side := Py.strip (texts.upper row.side)
  let symbol := Py.strip (texts.upper row.symbol)
  let status := Py.strip (texts.upper row.status)
  let at_ := Py.strip row.datetime
  let qty ← row.qty
  let price ← row.price
  if market = "" ∨ strategy = "" ∨ side ∉ ["BUY", "SELL"] ∨ symbol = "" ∨ status = "" ∨ at_ = ""
  then none
  else if valid : 0 < qty ∧ 0 ≤ price then
    let raw := "|".intercalate [toString position, at_, market, strategy, side, symbol,
      texts.str qty, texts.str price, status]
    some {
      evidenceId := "live-order:" ++ .ofList ((texts.sha256 raw).toList.take 20)
      observedAt := at_
      market, strategy, side, symbol, qty, price, status
      detail := row.detail
      sourcePath := texts.ledgerPath
      reconciledAt := row.reconciledAt.filter (· ≠ "")
      completeness := completenessOf status
      qty_pos := valid.1
      price_nonneg := valid.2 }
  else none

/-- Read the orders of a ledger, each at its position. -/
def ledgerOrders (ledger : List RawOrder) : List LiveOrder :=
  ledger.zipIdx.filterMap fun entry => normalize texts entry.1 entry.2

end Ledger

/-- What is known of one key: its lots, its round trips and its unmatched sells. -/
@[ext] structure KeyState where
  lots : List (Fifo.Lot LiveOrder)
  trips : List LiveRoundTrip
  unmatched : List LiveOrder

/-- Put a buy of the key into stock, or match a sell of the key. -/
def KeyState.take (state : KeyState) (order : LiveOrder) : KeyState :=
  if order.isBuy then { state with lots := state.lots ++ [⟨order.qty, order⟩] }
  else
    let drawn := Fifo.draw quantityTolerance order.qty state.lots
    { lots := drawn.left
      trips := state.trips ++ drawn.parts.map (roundTrip order)
      unmatched := state.unmatched ++ if quantityTolerance < drawn.missing then [order] else [] }

/-- What a state knows of one key. -/
def MatchState.at (state : MatchState) (key : String × String × String) : KeyState where
  lots := state.inventory key
  trips := state.trips.filter (·.key = key)
  unmatched := state.unmatched.filter (·.key = key)

/-- What the round trips of a ledger say about one key. -/
def RoundTrips.at (result : RoundTrips) (key : String × String × String) : RoundTrips where
  trips := result.trips.filter (·.key = key)
  unmatched := result.unmatched.filter (·.key = key)

section Keys

/-- The round trips of a sell have its key. -/
@[simp] theorem key_roundTrip (sell : LiveOrder) (part : Fifo.Lot LiveOrder) :
    (roundTrip sell part).key = sell.key := rfl

/-- The round trips of a sell are all of its key. -/
theorem filter_roundTrips (sell : LiveOrder) (parts : List (Fifo.Lot LiveOrder))
    (key : String × String × String) :
    (parts.map (roundTrip sell)).filter (·.key = key) =
      if sell.key = key then parts.map (roundTrip sell) else [] := by
  split
  · rename_i own
    refine List.filter_eq_self.mpr fun trip member => ?_
    obtain ⟨part, -, rfl⟩ := List.mem_map.mp member
    exact decide_eq_true own
  · rename_i other
    refine List.filter_eq_nil_iff.mpr fun trip member => ?_
    obtain ⟨part, -, rfl⟩ := List.mem_map.mp member
    simp only [key_roundTrip, other, decide_false, Bool.false_eq_true, not_false_eq_true]

/-- An order changes what is known of its own key and of no other one. -/
theorem at_matchOrder (state : MatchState) (order : LiveOrder) (key : String × String × String) :
    (matchOrder state order).at key =
      if order.key = key then (state.at key).take order else state.at key := by
  by_cases own : order.key = key
  · subst own
    rw [if_pos rfl]
    by_cases buys : order.isBuy = true
    · simp [matchOrder, KeyState.take, buys, MatchState.at]
    · -- All new round trips are of the key, and so is the order if it is not matched.
      simp only [matchOrder, KeyState.take, if_neg buys, MatchState.at, Function.update_self,
        List.filter_append, filter_roundTrips, if_true]
      by_cases short : quantityTolerance <
          (Fifo.draw quantityTolerance order.qty (state.inventory order.key)).missing
      · simp [short]
      · simp [short]
  · rw [if_neg own]
    have apart : key ≠ order.key := fun same => own same.symm
    by_cases buys : order.isBuy = true
    · simp [matchOrder, buys, MatchState.at, Function.update_of_ne apart]
    · simp only [matchOrder, if_neg buys, MatchState.at, Function.update_of_ne apart,
        List.filter_append, filter_roundTrips, if_neg own, List.append_nil]
      split
      · simp [own]
      · simp

/-- What is known of a key comes from the orders of the key alone. -/
theorem at_foldl (orders : List LiveOrder) (state : MatchState) (key : String × String × String) :
    (orders.foldl matchOrder state).at key =
      (orders.filter (·.key = key)).foldl KeyState.take (state.at key) := by
  induction orders generalizing state with
  | nil => rfl
  | cons order rest ih =>
    rw [List.foldl_cons, ih, at_matchOrder]
    by_cases own : order.key = key
    · simp [own]
    · simp [own]

end Keys

end StrategyLab
