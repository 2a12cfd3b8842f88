import StrategyLab.Research.LiveRoundTrips
import Mathlib.Algebra.BigOperators.Ring.List
import Mathlib.Tactic.Ring

/-! FIFO conservation: what round trips take from buys and from sells, and what orders they need. -/

variable {orders other : List LiveOrder}

namespace StrategyLab

/-- The quantity of the round trips entered at an instant. -/
def enteredAt (trips : List LiveRoundTrip) (instant : String) : ℚ :=
  ((trips.filter (·.entryAt = instant)).map (·.qty)).sum

/-- The quantity of the round trips left at an instant. -/
def exitedAt (trips : List LiveRoundTrip) (instant : String) : ℚ :=
  ((trips.filter (·.exitAt = instant)).map (·.qty)).sum

/-- A round trip sells what was bought strictly before it. -/
def Pairs (orders : List LiveOrder) (trip : LiveRoundTrip) : Prop :=
  ∃ buy ∈ orders, ∃ sell ∈ orders, (buy.isBuy = true ∧ sell.isBuy = false) ∧
    buy.observedAt < sell.observedAt ∧ 0 < trip.qty ∧ trip = roundTrip sell ⟨trip.qty, buy⟩

/-- What holds of a key after some of its orders, in the order in which they were observed. -/
structure Matched (done : List LiveOrder) (state : KeyState) : Prop where
  stocked : ∀ lot ∈ state.lots, 0 < lot.qty ∧ lot.owner ∈ done ∧ lot.owner.isBuy = true
  rising : (state.lots.map fun lot => lot.owner.observedAt).Pairwise (· < ·)
  pairs : ∀ trip ∈ state.trips, Pairs done trip
  entries : (state.trips.map (·.entryAt)).Pairwise (· ≤ ·)
  behind : ∀ trip ∈ state.trips, ∀ lot ∈ state.lots, trip.entryAt ≤ lot.owner.observedAt
  consumed : ∀ buy ∈ done, buy.isBuy = true → enteredAt state.trips buy.observedAt +
    Fifo.held (·.observedAt = buy.observedAt) state.lots ≤ buy.qty
  served : ∀ sell ∈ done, sell.isBuy = false →
    exitedAt state.trips sell.observedAt ≤ sell.qty ∧
      (sell ∈ state.unmatched ↔ quantityTolerance < sell.qty - exitedAt state.trips sell.observedAt)
  sells : ∀ sell ∈ state.unmatched, sell ∈ done ∧ sell.isBuy = false

section Quantities

/-- Round trips in a row enter together. -/
@[simp] theorem enteredAt_append (first second : List LiveRoundTrip) (instant : String) :
    enteredAt (first ++ second) instant = enteredAt first instant + enteredAt second instant := by
  simp [enteredAt, List.filter_append]

/-- Round trips in a row are left together. -/
@[simp] theorem exitedAt_append (first second : List LiveRoundTrip) (instant : String) :
    exitedAt (first ++ second) instant = exitedAt first instant + exitedAt second instant := by
  simp [exitedAt, List.filter_append]

variable {trips : List LiveRoundTrip} {instant : String}

/-- Nothing is entered at an instant that no round trip has. -/
theorem enteredAt_eq_zero
    (never : ∀ trip ∈ trips, trip.entryAt ≠ instant) : enteredAt trips instant = 0 := by
  rw [enteredAt, List.filter_eq_nil_iff.mpr]
  · rfl
  · intro trip member
    simp [never trip member]

/-- Nothing is left at an instant that no round trip has. -/
theorem exitedAt_eq_zero
    (never : ∀ trip ∈ trips, trip.exitAt ≠ instant) : exitedAt trips instant = 0 := by
  rw [exitedAt, List.filter_eq_nil_iff.mpr]
  · rfl
  · intro trip member
    simp [never trip member]

/-- The round trips of a sell enter when the lots of their parts were bought. -/
theorem enteredAt_roundTrips (sell : LiveOrder) (parts : List (Fifo.Lot LiveOrder))
    (instant : String) :
    enteredAt (parts.map (roundTrip sell)) instant =
      Fifo.held (·.observedAt = instant) parts := by
  rw [enteredAt, Fifo.held, List.filter_map, List.map_map]
  rfl

/-- The round trips of a sell are left when it was observed. -/
theorem exitedAt_roundTrips (sell : LiveOrder) (parts : List (Fifo.Lot LiveOrder)) :
    exitedAt (parts.map (roundTrip sell)) sell.observedAt = (parts.map (·.qty)).sum := by
  rw [exitedAt, List.filter_eq_self.mpr, List.map_map]
  · rfl
  · intro trip member
    obtain ⟨part, -, rfl⟩ := List.mem_map.mp member
    simp [roundTrip]

/-- No order was observed at an instant after all of them. -/
theorem Pairs.before {done : List LiveOrder} {trip : LiveRoundTrip}
    (pairs : Pairs done trip) (later : ∀ other ∈ done, other.observedAt < instant) :
    trip.entryAt < instant ∧ trip.exitAt < instant := by
  obtain ⟨buy, bought, sell, sold, -, -, -, made⟩ := pairs
  rw [made]
  exact ⟨later buy bought, later sell sold⟩

/-- What pairs some orders pairs more of them. -/
theorem Pairs.mono {done more : List LiveOrder} {trip : LiveRoundTrip} (pairs : Pairs done trip)
    (among : done ⊆ more) : Pairs more trip := by
  obtain ⟨buy, bought, sell, sold, rest⟩ := pairs
  exact ⟨buy, among bought, sell, among sold, rest⟩

end Quantities

section Steps

variable {done : List LiveOrder} {state : KeyState} {order : LiveOrder}

/-- A buy that is observed after all orders goes to the end of the stock. -/
theorem Matched.take_buy (matched : Matched done state)
    (later : ∀ other ∈ done, other.observedAt < order.observedAt) (buys : order.isBuy = true) :
    Matched (done ++ [order]) (state.take order) := by
  have among : done ⊆ done ++ [order] := List.subset_append_left _ _
  have newest (trip : LiveRoundTrip) (member : trip ∈ state.trips) :=
    (matched.pairs trip member).before later
  have stockBefore (lot : Fifo.Lot LiveOrder) (member : lot ∈ state.lots) :
      lot.owner.observedAt < order.observedAt := later _ (matched.stocked lot member).2.1
  rw [KeyState.take, if_pos buys]
  refine ⟨?_, ?_, ?_, matched.entries, ?_, ?_, ?_, ?_⟩
  · intro lot member
    rcases List.mem_append.mp member with old | new
    · obtain ⟨some_, bought, side⟩ := matched.stocked lot old
      exact ⟨some_, among bought, side⟩
    · obtain rfl := List.mem_singleton.mp new
      exact ⟨order.qty_pos, by simp, buys⟩
  · rw [List.map_append, List.pairwise_append]
    refine ⟨matched.rising, by simp, ?_⟩
    intro instant member other single
    obtain ⟨lot, there, rfl⟩ := List.mem_map.mp member
    obtain rfl := List.mem_singleton.mp single
    exact stockBefore lot there
  · intro trip member
    exact (matched.pairs trip member).mono among
  · intro trip member lot inStock
    rcases List.mem_append.mp inStock with old | new
    · exact matched.behind trip member lot old
    · obtain rfl := List.mem_singleton.mp new
      exact le_of_lt (newest trip member).1
  · intro buy member side
    rw [Fifo.held_append]
    rcases List.mem_append.mp member with old | new
    · -- The new lot was observed after every old buy.
      have apart : ¬order.observedAt = buy.observedAt := (later buy old).ne'
      simpa [apart] using matched.consumed buy old side
    · obtain rfl := List.mem_singleton.mp new
      have empty : Fifo.held (·.observedAt = buy.observedAt) state.lots = 0 :=
        Fifo.held_eq_zero fun lot inStock => decide_eq_false (stockBefore lot inStock).ne
      rw [enteredAt_eq_zero fun trip inTrips => (newest trip inTrips).1.ne, empty]
      simp
  · intro sell member side
    rcases List.mem_append.mp member with old | new
    · exact matched.served sell old side
    · obtain rfl := List.mem_singleton.mp new
      rw [buys] at side
      cases side
  · intro sell member
    obtain ⟨sold, side⟩ := matched.sells sell member
    exact ⟨among sold, side⟩

/-- A sell that is observed after all orders takes from the stock, oldest lot first. -/
theorem Matched.take_sell (matched : Matched done state)
    (later : ∀ other ∈ done, other.observedAt < order.observedAt) (sells : order.isBuy = false) :
    Matched (done ++ [order]) (state.take order) := by
  have among : done ⊆ done ++ [order] := List.subset_append_left _ _
  have positive : ∀ lot ∈ state.lots, 0 < lot.qty := fun lot member =>
    (matched.stocked lot member).1
  have tolerated : 0 ≤ quantityTolerance := by norm_num [quantityTolerance]
  have newest (trip : LiveRoundTrip) (member : trip ∈ state.trips) :=
    (matched.pairs trip member).before later
  rw [KeyState.take, if_neg (by simp [sells])]
  dsimp only
  -- What is drawn for the sell, as the laws of drawing describe it.
  have sum := @Fifo.draw_sum _ quantityTolerance order.qty state.lots
  have missing := @Fifo.draw_missing _ quantityTolerance order.qty state.lots
    (le_of_lt order.qty_pos)
  have taken := fun part member =>
    @Fifo.draw_part _ quantityTolerance order.qty state.lots positive tolerated part member
  have leaves := fun lot member =>
    @Fifo.draw_left _ quantityTolerance order.qty state.lots positive tolerated lot member
  have bounded := fun cond =>
    @Fifo.held_draw _ quantityTolerance order.qty state.lots positive cond
  have parts := @Fifo.draw_parts_rising _ _ quantityTolerance order.qty state.lots
    LiveOrder.observedAt _ matched.rising
  have behind := fun part lot => @Fifo.draw_behind _ _ quantityTolerance order.qty state.lots
    LiveOrder.observedAt _ matched.rising part lot
  have left := @Fifo.draw_left_sublist _ quantityTolerance order.qty state.lots
  generalize Fifo.draw quantityTolerance order.qty state.lots = drawn at *
  -- A part belongs to a buy that was observed before the sell, and stays behind old round trips.
  have bought (part : Fifo.Lot LiveOrder) (member : part ∈ drawn.parts) :
      0 < part.qty ∧ part.owner ∈ done ∧ part.owner.isBuy = true ∧
        ∀ trip ∈ state.trips, trip.entryAt ≤ part.owner.observedAt := by
    obtain ⟨some_, lot, inStock, same⟩ := taken part member
    obtain ⟨-, there, side⟩ := matched.stocked lot inStock
    rw [← same]
    exact ⟨some_, there, side, fun trip made => matched.behind trip made lot inStock⟩
  refine ⟨?_, ?_, ?_, ?_, ?_, ?_, ?_, ?_⟩
  · intro lot member
    obtain ⟨some_, before, inStock, same⟩ := leaves lot member
    obtain ⟨-, there, side⟩ := matched.stocked before inStock
    rw [← same]
    exact ⟨some_, among there, side⟩
  · have owners : ((state.lots.map (·.owner)).map LiveOrder.observedAt).Pairwise (· < ·) := by
      rw [List.map_map]
      exact matched.rising
    have kept := owners.sublist (left.map LiveOrder.observedAt)
    rwa [List.map_map] at kept
  · intro trip member
    rcases List.mem_append.mp member with old | new
    · exact (matched.pairs trip old).mono among
    · obtain ⟨part, inParts, rfl⟩ := List.mem_map.mp new
      obtain ⟨some_, there, side, -⟩ := bought part inParts
      exact ⟨part.owner, among there, order, by simp, ⟨side, sells⟩, later _ there, some_, rfl⟩
  · rw [List.map_append, List.pairwise_append, List.map_map]
    refine ⟨matched.entries, parts, ?_⟩
    intro entry member other new
    obtain ⟨trip, made, rfl⟩ := List.mem_map.mp member
    obtain ⟨part, inParts, rfl⟩ := List.mem_map.mp new
    exact (bought part inParts).2.2.2 trip made
  · intro trip member lot inStock
    rcases List.mem_append.mp member with old | new
    · obtain ⟨-, before, there, same⟩ := leaves lot inStock
      rw [← same]
      exact matched.behind trip old before there
    · obtain ⟨part, inParts, rfl⟩ := List.mem_map.mp new
      exact behind part lot inParts inStock
  · intro buy member side
    rcases List.mem_append.mp member with old | new
    · rw [enteredAt_append, enteredAt_roundTrips]
      have before := matched.consumed buy old side
      have now := bounded (·.observedAt = buy.observedAt)
      linarith
    · obtain rfl := List.mem_singleton.mp new
      rw [sells] at side
      cases side
  · intro sell member side
    rcases List.mem_append.mp member with old | new
    · -- Round trips of the new sell are left after every old one.
      have apart : ∀ trip ∈ drawn.parts.map (roundTrip order), trip.exitAt ≠ sell.observedAt := by
        intro trip made
        obtain ⟨part, -, rfl⟩ := List.mem_map.mp made
        exact (later sell old).ne'
      have absent : sell ≠ order := by
        rintro rfl
        exact absurd (later sell old) (lt_irrefl _)
      have before := matched.served sell old side
      rw [exitedAt_append, exitedAt_eq_zero apart, add_zero, List.mem_append]
      refine ⟨before.1, before.2.symm.trans ?_ |>.symm⟩
      constructor
      · exact .inl
      · rintro (listed | single)
        · exact listed
        · split at single
          · exact absurd (List.mem_singleton.mp single) absent
          · cases single
    · obtain rfl := List.mem_singleton.mp new
      rw [exitedAt_append, exitedAt_eq_zero fun trip made => (newest trip made).2.ne, zero_add,
        exitedAt_roundTrips]
      have unlisted : sell ∉ state.unmatched := by
        intro listed
        exact absurd (later sell (matched.sells sell listed).1) (lt_irrefl _)
      have rest : sell.qty - (drawn.parts.map (·.qty)).sum = drawn.missing := by linarith
      refine ⟨by linarith, ?_⟩
      rw [rest, List.mem_append]
      by_cases short : quantityTolerance < drawn.missing
      · simp [short]
      · simp [short, unlisted]
  · intro sell member
    rcases List.mem_append.mp member with old | new
    · obtain ⟨sold, side⟩ := matched.sells sell old
      exact ⟨among sold, side⟩
    · split at new
      · obtain rfl := List.mem_singleton.mp new
        exact ⟨by simp, sells⟩
      · cases new

end Steps

/-- Orders of a key in the order in which they were observed are matched. -/
theorem matched_of_rising {orders : List LiveOrder}
    (rising : (orders.map (·.observedAt)).Pairwise (· < ·)) :
    Matched orders (orders.foldl KeyState.take ⟨[], [], []⟩) := by
  -- Induction on the orders that were observed last.
  induction orders using List.reverseRecOn with
  | nil =>
    exact ⟨by simp, by simp, by simp, by simp, by simp, by simp, by simp, by simp⟩
  | append_singleton before order ih =>
    rw [List.map_append, List.pairwise_append] at rising
    obtain ⟨earlier, -, apart⟩ := rising
    have later : ∀ other ∈ before, other.observedAt < order.observedAt := fun other member =>
      apart _ (List.mem_map_of_mem member) _ (by simp)
    rw [List.foldl_append, List.foldl_cons, List.foldl_nil]
    cases side : order.isBuy with
    | true => exact (ih earlier).take_buy later side
    | false => exact (ih earlier).take_sell later side

/-- The confirmed orders of a key. -/
def keyOrders (orders : List LiveOrder) (key : String × String × String) : List LiveOrder :=
  orders.filter fun order => order.confirmed && order.key = key

/-- No two confirmed orders of one key were observed at the same instant. -/
def DistinctTimes (orders : List LiveOrder) : Prop :=
  ∀ key, ((keyOrders orders key).map (·.observedAt)).Nodup

/-- The part of a sell that no round trip has. -/
def unmatchedPart (result : RoundTrips) (sell : LiveOrder) : ℚ :=
  sell.qty - exitedAt result.trips sell.observedAt

/-- The buys among some orders. -/
def buysOf (orders : List LiveOrder) : List LiveOrder := orders.filter (·.isBuy)

/-- The sells among some orders. -/
def sellsOf (orders : List LiveOrder) : List LiveOrder := orders.filter (!·.isBuy)

/-- The round trips of a key share its sells with their unmatched parts, stay within the buys that
precede, pair a buy with a later sell in the order of the buys, and realize what the parts were
sold for less what they cost; the sells with an unmatched part above the tolerance are listed. -/
structure FifoConserved (orders : List LiveOrder) (result : RoundTrips) : Prop where
  within : ∀ sell ∈ sellsOf orders, 0 ≤ unmatchedPart result sell
  listed : ∀ sell, sell ∈ result.unmatched ↔
    sell ∈ sellsOf orders ∧ quantityTolerance < unmatchedPart result sell
  conserved : (result.trips.map (·.qty)).sum + ((sellsOf orders).map (unmatchedPart result)).sum =
    ((sellsOf orders).map (·.qty)).sum
  preceded : ∀ instant, ((result.trips.filter (·.exitAt ≤ instant)).map (·.qty)).sum ≤
    (((buysOf orders).filter (·.observedAt < instant)).map (·.qty)).sum
  pairs : ∀ trip ∈ result.trips, Pairs orders trip
  inOrder : (result.trips.map (·.entryAt)).Pairwise (· ≤ ·)
  realized : (result.trips.map (·.realizedPnl)).sum =
    ((sellsOf orders).map fun sell => sell.price * exitedAt result.trips sell.observedAt).sum -
      ((buysOf orders).map fun buy => buy.price * enteredAt result.trips buy.observedAt).sum

section Sums

variable {orders : List LiveOrder} {state : KeyState}

variable {trips : List LiveRoundTrip}

/-- A sum over round trips is taken sell by sell. -/
theorem sum_bySell (distinct : (orders.map (·.observedAt)).Nodup)
    (pairs : ∀ trip ∈ trips, Pairs orders trip) (weight : LiveRoundTrip → ℚ) :
    (trips.map weight).sum =
      ((sellsOf orders).map fun sell =>
        ((trips.filter (·.exitAt = sell.observedAt)).map weight).sum).sum := by
  refine Fifo.sum_grouped weight ?_ ?_
  · exact distinct.sublist (List.filter_sublist.map _)
  · intro trip member
    obtain ⟨_, _, sell, sold, sides, _, _, made⟩ := pairs trip member
    refine ⟨sell, List.mem_filter.mpr ⟨sold, by simp [sides.2]⟩, ?_⟩
    rw [made]
    rfl

/-- A sum over round trips is taken buy by buy, over the buys that they come from. -/
theorem sum_byBuy (distinct : (orders.map (·.observedAt)).Nodup) {cond : LiveOrder → Bool}
    (pairs : ∀ trip ∈ trips, ∃ buy ∈ orders, buy.isBuy = true ∧ cond buy = true ∧
      buy.observedAt = trip.entryAt) (weight : LiveRoundTrip → ℚ) :
    (trips.map weight).sum =
      (((buysOf orders).filter cond).map fun buy =>
        ((trips.filter (·.entryAt = buy.observedAt)).map weight).sum).sum := by
  refine Fifo.sum_grouped weight ?_ ?_
  · exact distinct.sublist ((List.filter_sublist.trans List.filter_sublist).map _)
  · intro trip member
    obtain ⟨buy, bought, side, meets, same⟩ := pairs trip member
    exact ⟨buy, List.mem_filter.mpr ⟨List.mem_filter.mpr ⟨bought, side⟩, meets⟩, same⟩

/-- At one price, what round trips turn over is the price times their quantity. -/
theorem sum_price {price : ℚ} {weight : LiveRoundTrip → ℚ}
    (priced : ∀ trip ∈ trips, weight trip = price * trip.qty) :
    (trips.map weight).sum = price * (trips.map (·.qty)).sum := by
  rw [← List.sum_map_mul_left]
  exact congrArg List.sum (List.map_congr_left priced)

/-- Orders of a key that are matched conserve their quantities. -/
theorem Matched.conserves (matched : Matched orders state)
    (distinct : (orders.map (·.observedAt)).Nodup) :
    FifoConserved orders ⟨state.trips, state.unmatched⟩ := by
  have positive : ∀ trip ∈ state.trips, 0 < trip.qty := by
    intro trip member
    obtain ⟨_, _, _, _, _, _, some_, _⟩ := matched.pairs trip member
    exact some_
  -- Orders observed at the same instant are the same order.
  have unique : ∀ one ∈ orders, ∀ other ∈ orders, one.observedAt = other.observedAt →
      one = other := fun one first other second =>
    List.inj_on_of_nodup_map distinct first second
  refine ⟨?_, ?_, ?_, ?_, matched.pairs, matched.entries, ?_⟩
  · intro sell member
    obtain ⟨sold, side⟩ := List.mem_filter.mp member
    exact sub_nonneg.mpr (matched.served sell sold (by simpa using side)).1
  · intro sell
    constructor
    · intro listed
      obtain ⟨sold, side⟩ := matched.sells sell listed
      exact ⟨List.mem_filter.mpr ⟨sold, by simp [side]⟩,
        (matched.served sell sold side).2.mp listed⟩
    · rintro ⟨member, short⟩
      obtain ⟨sold, side⟩ := List.mem_filter.mp member
      exact (matched.served sell sold (by simpa using side)).2.mpr short
  · rw [sum_bySell distinct matched.pairs, ← List.sum_map_add]
    refine congrArg List.sum (List.map_congr_left fun sell _ => ?_)
    simp only [unmatchedPart, exitedAt]
    ring
  · intro instant
    have early : ∀ trip ∈ state.trips.filter (·.exitAt ≤ instant), ∃ buy ∈ orders,
        buy.isBuy = true ∧ decide (buy.observedAt < instant) = true ∧
          buy.observedAt = trip.entryAt := by
      intro trip member
      obtain ⟨made, left⟩ := List.mem_filter.mp member
      obtain ⟨buy, bought, sell, _, sides, before, _, whole⟩ := matched.pairs trip made
      rw [whole] at left ⊢
      exact ⟨buy, bought, sides.1,
        decide_eq_true (lt_of_lt_of_le before (of_decide_eq_true left)), rfl⟩
    rw [sum_byBuy distinct early]
    refine List.sum_le_sum fun buy member => ?_
    obtain ⟨bought, side⟩ := List.mem_filter.mp (List.mem_filter.mp member).1
    -- Of a buy no more is taken in time than is taken at all, and no more than it had.
    have some_ : (((state.trips.filter (·.exitAt ≤ instant)).filter
        (·.entryAt = buy.observedAt)).map (·.qty)).sum ≤
          enteredAt state.trips buy.observedAt := by
      refine List.Sublist.sum_le_sum ((List.filter_sublist.filter _).map _) ?_
      intro qty inTrips
      obtain ⟨trip, there, rfl⟩ := List.mem_map.mp inTrips
      exact le_of_lt (positive trip (List.mem_filter.mp there).1)
    have rest : 0 ≤ Fifo.held (·.observedAt = buy.observedAt) state.lots := by
      refine List.sum_nonneg ?_
      intro qty inLots
      obtain ⟨lot, there, rfl⟩ := List.mem_map.mp inLots
      exact le_of_lt (matched.stocked lot (List.mem_filter.mp there).1).1
    have most := matched.consumed buy bought side
    linarith
  · have split : (state.trips.map (·.realizedPnl)).sum =
        (state.trips.map fun trip => trip.exitPrice * trip.qty).sum -
          (state.trips.map fun trip => trip.entryPrice * trip.qty).sum := by
      rw [eq_sub_iff_add_eq, ← List.sum_map_add]
      refine congrArg List.sum (List.map_congr_left fun trip member => ?_)
      obtain ⟨buy, _, sell, _, _, _, _, made⟩ := matched.pairs trip member
      rw [made]
      simp only [roundTrip]
      ring
    have entered : ∀ trip ∈ state.trips, ∃ buy ∈ orders, buy.isBuy = true ∧ true = true ∧
        buy.observedAt = trip.entryAt := by
      intro trip member
      obtain ⟨buy, bought, sell, _, sides, _, _, made⟩ := matched.pairs trip member
      refine ⟨buy, bought, sides.1, rfl, ?_⟩
      rw [made]
      rfl
    rw [split, sum_bySell distinct matched.pairs, sum_byBuy distinct entered]
    have all : (buysOf orders).filter (fun _ => true) = buysOf orders :=
      List.filter_eq_self.mpr fun _ _ => rfl
    rw [all]
    congr 1
    · refine congrArg List.sum (List.map_congr_left fun sell member => sum_price ?_)
      intro trip exits
      obtain ⟨made, same⟩ := List.mem_filter.mp exits
      obtain ⟨buy, _, other, sold, _, _, _, whole⟩ := matched.pairs trip made
      rw [whole] at same ⊢
      obtain rfl := unique other sold sell (List.mem_filter.mp member).1 (of_decide_eq_true same)
      rfl
    · refine congrArg List.sum (List.map_congr_left fun buy member => sum_price ?_)
      intro trip enters
      obtain ⟨made, same⟩ := List.mem_filter.mp enters
      obtain ⟨other, bought, sell, _, _, _, _, whole⟩ := matched.pairs trip made
      rw [whole] at same ⊢
      obtain rfl := unique other bought buy (List.mem_filter.mp member).1 (of_decide_eq_true same)
      rfl

end Sums

/-- An order without the id of its evidence. -/
def LiveOrder.anonymous (order : LiveOrder) : LiveOrder := { order with evidenceId := "" }

/-- A round trip without the ids of its evidence. -/
def LiveRoundTrip.anonymous (trip : LiveRoundTrip) : LiveRoundTrip :=
  { trip with entryEvidenceId := "", exitEvidenceId := "" }

/-- Round trips and unmatched sells without the ids of their evidence. -/
def RoundTrips.anonymous (result : RoundTrips) : RoundTrips where
  trips := result.trips.map (·.anonymous)
  unmatched := result.unmatched.map (·.anonymous)

section Reordering

/-- The observed orders of a key in their order. -/
def observedOf (orders : List LiveOrder) (key : String × String × String) : List LiveOrder :=
  (observedOrders orders).filter (·.key = key)

/-- The observed orders of a key are its confirmed orders. -/
theorem observedOf_perm (orders : List LiveOrder) (key : String × String × String) :
    (observedOf orders key).Perm (keyOrders orders key) := by
  have sorted := (Py.sortedBy_perm (fun order : LiveOrder => toLex (order.observedAt,
    order.evidenceId)) (orders.filter (·.confirmed))).filter (·.key = key)
  rw [List.filter_filter] at sorted
  refine sorted.trans (List.Perm.of_eq (List.filter_congr fun order _ => ?_))
  exact Bool.and_comm _ _

/-- The observed orders of a key rise, if no two were observed at the same instant. -/
theorem observedOf_rising {orders : List LiveOrder} (distinct : DistinctTimes orders)
    (key : String × String × String) :
    ((observedOf orders key).map (·.observedAt)).Pairwise (· < ·) := by
  have apart : ((observedOf orders key).map (·.observedAt)).Nodup :=
    ((observedOf_perm orders key).map _).nodup_iff.mpr (distinct key)
  have ordered := (Py.sortedBy_pairwise (fun order : LiveOrder => toLex (order.observedAt,
    order.evidenceId)) (orders.filter (·.confirmed))).filter (·.key = key)
  rw [List.pairwise_map]
  refine (ordered.and (List.pairwise_map.mp apart)).imp ?_
  intro earlier later related
  obtain ⟨below, different⟩ := related
  -- The instant decides before the id does.
  rcases Prod.Lex.toLex_le_toLex.mp below with before | ⟨same, -⟩
  · exact before
  · exact absurd same different

/-- What a ledger says about a key comes from the observed orders of the key. -/
theorem reconstructRoundTrips_at (orders : List LiveOrder) (key : String × String × String) :
    (reconstructRoundTrips orders).at key =
      ⟨((observedOf orders key).foldl KeyState.take ⟨[], [], []⟩).trips,
        ((observedOf orders key).foldl KeyState.take ⟨[], [], []⟩).unmatched⟩ := by
  have known := at_foldl (observedOrders orders) ⟨fun _ => [], [], []⟩ key
  simp only [MatchState.at, List.filter_nil] at known
  rw [observedOf, ← known]
  rfl

/-- Conservation does not ask in which order the orders are listed. -/
theorem FifoConserved.of_perm {result : RoundTrips}
    (same : orders.Perm other) (conserved : FifoConserved orders result) :
    FifoConserved other result := by
  have sells : (sellsOf orders).Perm (sellsOf other) := same.filter _
  have buys : (buysOf orders).Perm (buysOf other) := same.filter _
  refine ⟨?_, ?_, ?_, ?_, ?_, conserved.inOrder, ?_⟩
  · intro sell member
    exact conserved.within sell (sells.mem_iff.mpr member)
  · intro sell
    rw [conserved.listed, sells.mem_iff]
  · rw [← (sells.map _).sum_eq, ← (sells.map _).sum_eq]
    exact conserved.conserved
  · intro instant
    rw [← ((buys.filter _).map _).sum_eq]
    exact conserved.preceded instant
  · intro trip member
    exact (conserved.pairs trip member).mono same.subset
  · rw [← (sells.map _).sum_eq, ← (buys.map _).sum_eq]
    exact conserved.realized

/-- A state of a key without the ids of its evidence. -/
def KeyState.anonymous (state : KeyState) : KeyState where
  lots := state.lots.map fun lot => ⟨lot.qty, lot.owner.anonymous⟩
  trips := state.trips.map (·.anonymous)
  unmatched := state.unmatched.map (·.anonymous)

/-- Matching an order does not look at ids of evidence. -/
theorem KeyState.take_anonymous (state : KeyState) (order : LiveOrder) :
    (state.take order).anonymous = state.anonymous.take order.anonymous := by
  have side : order.anonymous.isBuy = order.isBuy := rfl
  cases buys : order.isBuy with
  | true =>
    rw [KeyState.take, KeyState.take, if_pos buys, if_pos (side.trans buys)]
    simp only [KeyState.anonymous, List.map_append]
    rfl
  | false =>
    rw [KeyState.take, KeyState.take, if_neg (by simp [buys]), if_neg (by simp [side, buys])]
    simp only [KeyState.anonymous, Fifo.draw_map, List.map_append, List.map_map]
    refine KeyState.ext rfl rfl ?_
    -- An order is not matched in full with its id exactly if it is not without.
    simp only [List.append_cancel_left_eq]
    have qty : order.anonymous.qty = order.qty := rfl
    rw [qty]
    split
    · rfl
    · rfl

/-- Matching orders without ids gives what the orders give, without ids. -/
theorem foldl_take_anonymous (orders : List LiveOrder) (state : KeyState) :
    (orders.foldl KeyState.take state).anonymous =
      (orders.map (·.anonymous)).foldl KeyState.take state.anonymous := by
  induction orders generalizing state with
  | nil => rfl
  | cons order rest ih =>
    rw [List.foldl_cons, ih, KeyState.take_anonymous, List.map_cons, List.foldl_cons]

/-- Orders of a key that are the same but for their ids give the same but for the ids. -/
theorem at_anonymous_congr (distinct : DistinctTimes orders)
    (otherDistinct : DistinctTimes other) {key : String × String × String}
    (same : ((keyOrders other key).map (·.anonymous)).Perm
      ((keyOrders orders key).map (·.anonymous))) :
    ((reconstructRoundTrips other).at key).anonymous =
      ((reconstructRoundTrips orders).at key).anonymous := by
  -- Both lists rise by the instants, so without ids they are one list.
  have instants (orders : List LiveOrder) :
      ((observedOf orders key).map (·.anonymous)).map (·.observedAt) =
        (observedOf orders key).map (·.observedAt) := by
    rw [List.map_map]
    rfl
  have rising {orders : List LiveOrder} (distinct : DistinctTimes orders) :
      ((observedOf orders key).map (·.anonymous)).Pairwise
        fun one two => one.observedAt ≤ two.observedAt := by
    have below := observedOf_rising distinct key
    rw [← instants] at below
    exact (List.pairwise_map.mp below).imp le_of_lt
  have agree : (observedOf other key).map (·.anonymous) =
      (observedOf orders key).map (·.anonymous) := by
    refine Py.eq_of_perm_of_rising ?_ ?_ (rising otherDistinct) (rising distinct)
    · exact ((observedOf_perm other key).map _).trans
        (same.trans ((observedOf_perm orders key).map _).symm)
    · rw [instants]
      exact (observedOf_rising otherDistinct key).imp fun below => below.ne
  have left := foldl_take_anonymous (observedOf other key) ⟨[], [], []⟩
  have right := foldl_take_anonymous (observedOf orders key) ⟨[], [], []⟩
  rw [agree, ← right] at left
  rw [reconstructRoundTrips_at, reconstructRoundTrips_at]
  simp only [RoundTrips.anonymous]
  exact RoundTrips.mk.injEq _ _ _ _ ▸
    ⟨congrArg KeyState.trips left, congrArg KeyState.unmatched left⟩

/-- The orders of a ledger without ids do not depend on their positions. -/
theorem ledgerOrders_anonymous (texts : LedgerTexts) (ledger : List RawOrder) :
    (ledgerOrders texts ledger).map (·.anonymous) =
      ledger.filterMap fun row => (normalize texts row 0).map (·.anonymous) := by
  have free (row : RawOrder) (position : Nat) :
      (normalize texts row position).map (·.anonymous) =
        (normalize texts row 0).map (·.anonymous) := by
    cases amount : row.qty with
    | none => simp only [normalize, amount, Option.bind_eq_bind, Option.bind_none, Option.map_none]
    | some qty =>
      cases quoted : row.price with
      | none =>
        simp only [normalize, amount, quoted, Option.bind_eq_bind, Option.bind_some,
          Option.bind_none, Option.map_none]
      | some price =>
        -- Only the id depends on the position, and every test is the same.
        simp only [normalize, amount, quoted, Option.bind_eq_bind, Option.bind_some]
        split_ifs
        · simp only [Option.map_none]
        · simp only [Option.map_some, LiveOrder.anonymous]
        · simp only [Option.map_none]
  have rows : ledger = ledger.zipIdx.map Prod.fst := by
    simp
  rw [ledgerOrders, List.map_filterMap]
  conv_rhs => rw [rows, List.filterMap_map]
  exact List.filterMap_congr fun entry _ => free entry.1 entry.2

end Reordering

/-- Orders that are listed in another way are the same orders of each key. -/
theorem keyOrders_perm (same : other.Perm orders)
    (key : String × String × String) : (keyOrders other key).Perm (keyOrders orders key) :=
  same.filter _

/-- Instants do not depend on how orders are listed. -/
theorem DistinctTimes.of_perm (distinct : DistinctTimes orders)
    (same : other.Perm orders) : DistinctTimes other := fun key =>
  ((keyOrders_perm same key).map _).nodup_iff.mpr (distinct key)

/-- Taking the ids away keeps the orders of a key. -/
theorem keyOrders_anonymous (orders : List LiveOrder) (key : String × String × String) :
    (keyOrders orders key).map (·.anonymous) = keyOrders (orders.map (·.anonymous)) key := by
  rw [keyOrders, keyOrders, List.filter_map]
  rfl

/-- If no key has two confirmed orders of one instant, the round trips of each key conserve its
quantities; however the orders are listed, each key has the same round trips and unmatched sells,
and they come in the same order if no two orders share instant and id; and however the ledger is
listed they are the same but for the ids, which name positions of the ledger. -/
theorem reconstructRoundTrips_conserves {orders : List LiveOrder}
    (distinct : DistinctTimes orders) :
    (∀ key, FifoConserved (keyOrders orders key) ((reconstructRoundTrips orders).at key)) ∧
    (∀ other, other.Perm orders →
      (∀ key, (reconstructRoundTrips other).at key = (reconstructRoundTrips orders).at key) ∧
      (((orders.filter (·.confirmed)).map fun order => (order.observedAt, order.evidenceId)).Nodup →
        reconstructRoundTrips other = reconstructRoundTrips orders)) ∧
    ∀ texts ledger permuted, ledgerOrders texts ledger = orders → permuted.Perm ledger → ∀ key,
      ((reconstructRoundTrips (ledgerOrders texts permuted)).at key).anonymous =
        ((reconstructRoundTrips orders).at key).anonymous := by
  refine ⟨?_, ?_, ?_⟩
  · intro key
    rw [reconstructRoundTrips_at]
    have rising := observedOf_rising distinct key
    exact ((matched_of_rising rising).conserves (rising.imp fun below => below.ne)).of_perm
      (observedOf_perm orders key)
  · intro other same
    refine ⟨?_, ?_⟩
    · intro key
      -- The observed orders of a key rise by their instants, so they are one list.
      have agree : observedOf other key = observedOf orders key := by
        refine Py.eq_of_perm_of_rising ?_ ?_
          ((List.pairwise_map.mp (observedOf_rising (distinct.of_perm same) key)).imp le_of_lt)
          ((List.pairwise_map.mp (observedOf_rising distinct key)).imp le_of_lt)
        · exact (observedOf_perm other key).trans
            ((keyOrders_perm same key).trans (observedOf_perm orders key).symm)
        · exact (observedOf_rising (distinct.of_perm same) key).imp fun below => below.ne
      rw [reconstructRoundTrips_at, reconstructRoundTrips_at, agree]
    · intro apart
      have agree : observedOrders other = observedOrders orders := by
        have confirmed := same.filter (·.confirmed)
        refine Py.eq_of_perm_of_rising ?_ ?_ (Py.sortedBy_pairwise _ _) (Py.sortedBy_pairwise _ _)
        · exact (Py.sortedBy_perm _ _).trans (confirmed.trans (Py.sortedBy_perm _ _).symm)
        · exact ((((Py.sortedBy_perm _ _).trans confirmed).map _).nodup_iff).mpr apart
      rw [reconstructRoundTrips, reconstructRoundTrips, agree]
  · rintro texts ledger permuted rfl same key
    have renamed : ((ledgerOrders texts permuted).map (·.anonymous)).Perm
        ((ledgerOrders texts ledger).map (·.anonymous)) := by
      rw [ledgerOrders_anonymous, ledgerOrders_anonymous]
      exact same.filterMap _
    have keys (key : String × String × String) :
        ((keyOrders (ledgerOrders texts permuted) key).map (·.anonymous)).Perm
          ((keyOrders (ledgerOrders texts ledger) key).map (·.anonymous)) := by
      rw [keyOrders_anonymous, keyOrders_anonymous]
      exact renamed.filter _
    -- An instant is kept when the id is taken away.
    have instants (orders : List LiveOrder) : (orders.map (·.anonymous)).map (·.observedAt) =
        orders.map (·.observedAt) := by
      rw [List.map_map]
      rfl
    have otherDistinct : DistinctTimes (ledgerOrders texts permuted) := by
      intro other
      have times := ((keys other).map (·.observedAt)).nodup_iff
      rw [instants, instants] at times
      exact times.mpr (distinct other)
    exact at_anonymous_congr distinct otherDistinct (keys key)

/-- The hashes of five texts that name an order by its position. -/
def orderDigests : List (String × String) :=
  [("0|2026-06-16 06:20:12|US|turtle|BUY|HBAN|1.0|17.5|FILLED_CONFIRMED",
      "118231c5eb0dd374456f6c3655ef25410d5a35ba96c3a27e54e485ff57393607"),
    ("1|2026-07-29 06:20:07|US|turtle|SELL|HBAN|3.0|17.0|FILLED_CONFIRMED",
      "015a03ea5502c688b8a9e9dd7c45c7699f9887e532be17374895f2da88760d97"),
    ("0|2026-07-29 06:20:07|US|turtle|SELL|HBAN|3.0|17.0|FILLED_CONFIRMED",
      "4d3b37ae46805c33d454eae847b37c11767504301e1b38e2c99096b23ba7198e"),
    ("1|2026-06-16 06:20:12|US|turtle|BUY|HBAN|1.0|17.5|FILLED_CONFIRMED",
      "879953c2f97e4160abc0995a155e399194568b7805da41179e9024f823642db1"),
    ("0|2026-07-29 06:20:07|US|turtle|SELL|HBAN|1e-13|17.0|FILLED_CONFIRMED",
      "d7be7a5a95ffe5cf3f45c4181ecace6fe09829fd88c5d360620e8f6e835f8ae3")]

/-- The texts of a ledger in ASCII with a few numbers. -/
def sampleTexts : LedgerTexts where
  upper text := .ofList (text.toList.map Char.toUpper)
  lower text := .ofList (text.toList.map Char.toLower)
  str number :=
    if number = 1 then "1.0" else if number = 3 then "3.0" else if number = 17 then "17.0"
    else if number = 35 / 2 then "17.5" else "1e-13"
  sha256 text := (orderDigests.lookup text).getD ""
  ledgerPath := "/root/MyMoneyGuard/order_ledger.json"

/-- A confirmed order of one share or more. -/
def fill (datetime side : String) (qty price : ℚ) : RawOrder where
  datetime
  market := "US"
  strategy := "turtle"
  side
  symbol := "HBAN"
  qty := some qty
  price := some price
  status := "FILLED_CONFIRMED"
  detail := ""
  reconciledAt := none

/-- A share is bought. -/
def boughtOne : RawOrder := fill "2026-06-16 06:20:12" "BUY" 1 (35 / 2)

/-- Three shares are sold. -/
def soldThree : RawOrder := fill "2026-07-29 06:20:07" "SELL" 3 17

/-- Next to nothing is sold. -/
def soldDust : RawOrder := fill "2026-07-29 06:20:07" "SELL" (1 / 10000000000000) 17

/-- The order that is read from such a row. -/
def observedFill (evidenceId observedAt side : String) (qty price : ℚ) (some_ : 0 < qty)
    (paid : 0 ≤ price) : LiveOrder where
  evidenceId := "live-order:" ++ evidenceId
  observedAt
  market := "US"
  strategy := "turtle"
  side
  symbol := "HBAN"
  qty
  price
  status := "FILLED_CONFIRMED"
  detail := ""
  sourcePath := "/root/MyMoneyGuard/order_ledger.json"
  reconciledAt := none
  completeness := "confirmed"
  qty_pos := some_
  price_nonneg := paid

/-- One share is a quantity. -/
theorem oneShare_pos : (0 : ℚ) < 1 := by norm_num

/-- Three shares are a quantity. -/
theorem threeShares_pos : (0 : ℚ) < 3 := by norm_num

/-- What the share was bought for is a price. -/
theorem boughtPrice_nonneg : (0 : ℚ) ≤ 35 / 2 := by norm_num

/-- What the shares were sold for is a price. -/
theorem soldPrice_nonneg : (0 : ℚ) ≤ 17 := by norm_num

/-- Three shares are sold where one was bought. -/
def oversold : List LiveOrder :=
  [observedFill "118231c5eb0dd374456f" "2026-06-16 06:20:12" "BUY" 1 (35 / 2) oneShare_pos
      boughtPrice_nonneg,
    observedFill "015a03ea5502c688b8a9" "2026-07-29 06:20:07" "SELL" 3 17 threeShares_pos
      soldPrice_nonneg]

/-- The orders of the same rows when the sell is listed first. -/
def soldFirst : List LiveOrder :=
  [observedFill "4d3b37ae46805c33d454" "2026-07-29 06:20:07" "SELL" 3 17 threeShares_pos
      soldPrice_nonneg,
    observedFill "879953c2f97e4160abc0" "2026-06-16 06:20:12" "BUY" 1 (35 / 2) oneShare_pos
      boughtPrice_nonneg]

/-- Both are read from a ledger of the same two rows. -/
theorem ledgerOrders_twice :
    ledgerOrders sampleTexts [boughtOne, soldThree] = oversold ∧
      ledgerOrders sampleTexts [soldThree, boughtOne] = soldFirst := by
  constructor
  · decide +kernel
  · decide +kernel

/-- Orders with distinct instants have them under each key. -/
theorem distinctTimes_of_nodup {orders : List LiveOrder}
    (distinct : (orders.map (·.observedAt)).Nodup) : DistinctTimes orders := fun _ =>
  distinct.sublist (List.filter_sublist.map _)

/-- Where three shares are sold and one was bought, the round trips conserve quantities. -/
theorem oversold_conserved :
    FifoConserved (keyOrders oversold ("US", "turtle", "HBAN"))
      ((reconstructRoundTrips oversold).at ("US", "turtle", "HBAN")) := by
  have instants : (oversold.map (·.observedAt)).Nodup := by decide +kernel
  have distinct : DistinctTimes oversold := distinctTimes_of_nodup instants
  exact (reconstructRoundTrips_conserves distinct).1 ("US", "turtle", "HBAN")

/-- A sell of three shares of which two are unmatched is listed with all three, the same rows in
another order give other round trips, and a sell within the tolerance is not listed at all. -/
theorem fifo_departures :
    (((reconstructRoundTrips oversold).unmatched.map fun sell => (sell.qty,
      unmatchedPart ((reconstructRoundTrips oversold).at ("US", "turtle", "HBAN")) sell)) =
        [(3, 2)]) ∧
    reconstructRoundTrips (ledgerOrders sampleTexts [soldThree, boughtOne]) ≠
      reconstructRoundTrips (ledgerOrders sampleTexts [boughtOne, soldThree]) ∧
    (ledgerOrders sampleTexts [soldDust]).map (·.qty) = [1 / 10000000000000] ∧
    reconstructRoundTrips (ledgerOrders sampleTexts [soldDust]) = ⟨[], []⟩ := by
  refine ⟨by decide +kernel, ?_, by decide +kernel, by decide +kernel⟩
  rw [ledgerOrders_twice.1, ledgerOrders_twice.2]
  decide +kernel

end StrategyLab
