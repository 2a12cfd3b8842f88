import StrategyLab.Research.FlatMarket
import Mathlib.Data.List.Perm.Subperm

/-! Forward trades: which rebalances are followed by the trades of all of their symbols. -/

namespace StrategyLab

namespace ForwardState

variable {F : Type} {floats : Floats F} {spec : ForwardSpec} {state : ForwardState F}

/-- Rows that are stored leave the rebalances and the trades as they are. -/
theorem apply_upsertBars (symbol : String) (minutes : List (Bar F)) :
    (state.apply floats (.upsertBars symbol minutes)).rebalances = state.rebalances ∧
      (state.apply floats (.upsertBars symbol minutes)).trades = state.trades := by
  change (minutes.foldl (insertMinute floats symbol) state).rebalances = state.rebalances ∧
    (minutes.foldl (insertMinute floats symbol) state).trades = state.trades
  induction minutes generalizing state with
  | nil => exact ⟨rfl, rfl⟩
  | cons minute rest ih =>
    rw [List.foldl_cons]
    have one : (insertMinute floats symbol state minute).rebalances = state.rebalances ∧
        (insertMinute floats symbol state minute).trades = state.trades := by
      unfold insertMinute
      split <;> exact ⟨rfl, rfl⟩
    exact ⟨ih.1.trans one.1, ih.2.trans one.2⟩

variable {decision : RebalanceDecision} {index : Nat}

/-- A commit leaves a rebalance that is stored as it is. -/
theorem rebalance_apply
    (found : state.rebalances.find? index = some decision) (write : ForwardWrite F) :
    (state.apply floats write).rebalances.find? index = some decision := by
  cases write with
  | upsertBars symbol minutes => rwa [(apply_upsertBars symbol minutes).1]
  | recordRebalance other =>
    change ((state.rebalances.insert? other).getD state.rebalances).find? index = some decision
    rw [Table.find?_getD_insert?, found, Option.some_or]
  | openTrade trade => exact found
  | closeTrade rebalanceIndex symbol exitPrice pricePct fundingPct => exact found

/-- A commit leaves a trade that is closed as it is. -/
theorem closed_apply {key : Nat × String} {trade : ForwardTrade F}
    (found : state.trades.find? key = some trade) (closed : trade.status = .closed)
    (write : ForwardWrite F) : (state.apply floats write).trades.find? key = some trade := by
  cases write with
  | upsertBars symbol minutes => rwa [(apply_upsertBars symbol minutes).2]
  | recordRebalance other => exact found
  | openTrade other =>
    change ((state.trades.insert? other).getD state.trades).find? key = some trade
    rw [Table.find?_getD_insert?, found, Option.some_or]
  | closeTrade rebalanceIndex symbol exitPrice pricePct fundingPct =>
    -- Only open trades are closed.
    simp [apply, ForwardState.closeTrade, found, closed]

/-- Whether a commit opens a trade that is stored under a key. -/
def Opens (key : Nat × String) : ForwardWrite F → Prop
  | .openTrade trade => trade.key = key
  | _ => False

/-- There is a trade after a commit exactly if there was one, or the commit opens it. -/
theorem isSome_trade_apply (key : Nat × String) (write : ForwardWrite F) :
    ((state.apply floats write).trades.find? key).isSome ↔
      (state.trades.find? key).isSome ∨ Opens key write := by
  cases write with
  | upsertBars symbol minutes => simp [(apply_upsertBars symbol minutes).2, Opens]
  | recordRebalance other => simp [apply, Opens]
  | openTrade trade =>
    change (((state.trades.insert? trade).getD state.trades).find? key).isSome ↔ _
    rw [Table.find?_getD_insert?, Option.isSome_or, Bool.or_eq_true]
    refine or_congr_right ?_
    by_cases same : key = trade.key
    · simp [Opens, same]
    · simp [Opens, same, Ne.symm same]
  | closeTrade rebalanceIndex symbol exitPrice pricePct fundingPct =>
    simp [apply, ForwardState.closeTrade, Opens]

/-- There is a trade after commits exactly if there was one, or one of them opens it. -/
theorem isSome_trade_applyAll (key : Nat × String) (writes : List (ForwardWrite F)) :
    ((state.applyAll floats writes).trades.find? key).isSome ↔
      (state.trades.find? key).isSome ∨ ∃ write ∈ writes, Opens key write := by
  induction writes generalizing state with
  | nil => simp [applyAll]
  | cons write rest ih =>
    have step := @isSome_trade_apply F floats state key write
    rw [applyAll, List.foldl_cons]
    rw [← applyAll, ih, step, List.exists_mem_cons_iff, or_assoc]

/-- A rebalance is stored after commits exactly if it was, or one of them is the first one of its
index. -/
theorem rebalance_applyAll
    (found : state.rebalances.find? index = some decision) (writes : List (ForwardWrite F)) :
    (state.applyAll floats writes).rebalances.find? index = some decision := by
  induction writes generalizing state with
  | nil => exact found
  | cons write rest ih => exact ih (rebalance_apply found write)

/-- Commits leave a trade that is closed as it is. -/
theorem closed_applyAll {key : Nat × String} {trade : ForwardTrade F}
    (found : state.trades.find? key = some trade) (closed : trade.status = .closed)
    (writes : List (ForwardWrite F)) :
    (state.applyAll floats writes).trades.find? key = some trade := by
  induction writes generalizing state with
  | nil => exact found
  | cons write rest ih => exact ih (closed_apply found closed write)

/-- Commits that record no rebalance leave the rebalances as they are. -/
theorem rebalances_applyAll {writes : List (ForwardWrite F)}
    (none_ : ∀ decision, .recordRebalance decision ∉ writes) :
    (state.applyAll floats writes).rebalances = state.rebalances := by
  induction writes generalizing state with
  | nil => rfl
  | cons write rest ih =>
    have later := @ih (state.apply floats write) fun decision member =>
      none_ decision (List.mem_cons_of_mem _ member)
    have now : (state.apply floats write).rebalances = state.rebalances := by
      cases write with
      | upsertBars symbol minutes => exact (apply_upsertBars symbol minutes).1
      | recordRebalance decision => exact absurd List.mem_cons_self (none_ decision)
      | openTrade trade => rfl
      | closeTrade rebalanceIndex symbol exitPrice pricePct fundingPct => rfl
    exact later.trans now

/-- The next index is above all that are recorded. -/
theorem lt_nextRebalanceIndex (member : decision ∈ state.rebalances.rows) :
    decision.rebalanceIndex < state.nextRebalanceIndex := by
  unfold nextRebalanceIndex
  -- The fold only grows, and it passes every row.
  have grows : ∀ (rows : List RebalanceDecision) (next : Nat), next ≤ rows.foldl
      (fun next row => Nat.max next (row.rebalanceIndex + 1)) next := by
    intro rows
    induction rows with
    | nil => exact fun next => Nat.le_refl next
    | cons row rest ih => exact fun next => (Nat.le_max_left _ _).trans (ih _)
  have general : ∀ (rows : List RebalanceDecision) (next : Nat), decision ∈ rows →
      decision.rebalanceIndex < rows.foldl
        (fun next row => Nat.max next (row.rebalanceIndex + 1)) next := by
    intro rows
    induction rows with
    | nil => exact fun next member => by cases member
    | cons row rest ih =>
      intro next member
      rcases List.mem_cons.mp member with rfl | later
      · exact lt_of_lt_of_le (Nat.lt_succ_self _)
          ((Nat.le_max_right next _).trans (grows rest _))
      · exact ih _ later
  exact general state.rebalances.rows 0 member

/-- No rebalance is recorded under the next index. -/
theorem find?_nextRebalanceIndex : state.rebalances.find? state.nextRebalanceIndex = none := by
  rw [Table.find?_eq_none_iff]
  intro decision member same
  have below := lt_nextRebalanceIndex member
  omega

/-- The commits of a poll that are carried out. -/
def commits (floats : Floats F) (spec : ForwardSpec) (state : ForwardState F) (poll : Poll F) :
    List (ForwardWrite F) :=
  poll.stopAfter.elim (state.pollWrites floats spec poll).1
    (state.pollWrites floats spec poll).1.take

/-- The state that a poll leaves is the one of its commits. -/
theorem next_eq (poll : Poll F) : (forwardMachine floats spec).next state poll =
    state.applyAll floats (state.commits floats spec poll) :=
  rfl

/-- Every commit in front of the decision stores rows. -/
theorem upserts_spec (poll : Poll F) (symbols : List String) :
    ∀ write ∈ (upserts poll symbols).1, ∃ symbol minutes, write = .upsertBars symbol minutes := by
  induction symbols with
  | nil => exact fun write member => by cases member
  | cons symbol rest ih =>
    intro write member
    unfold upserts at member
    split at member
    · cases member
    · exact ih write member
    · split at member
      · cases member
      · rename_i minutes _
        rcases List.mem_cons.mp member with rfl | later
        · exact ⟨symbol, minutes, rfl⟩
        · exact ih write later

/-- Every commit behind the decision closes a trade. -/
theorem closings_spec (poll : Poll F) (bars : String → Option (List (Bar F)))
    (due : List (ForwardTrade F)) : ∀ write ∈ (closings floats poll bars due).1,
      ∃ rebalanceIndex symbol exitPrice pricePct fundingPct,
        write = .closeTrade rebalanceIndex symbol exitPrice pricePct fundingPct := by
  induction due with
  | nil => exact fun write member => by cases member
  | cons trade rest ih =>
    intro write member
    unfold closings at member
    split at member
    · exact ih write member
    · split at member
      · exact ih write member
      · split at member
        · cases member
        · rcases List.mem_cons.mp member with rfl | later
          · exact ⟨_, _, _, _, _, rfl⟩
          · exact ih write later

/-- Stored rows leave the rebalances as they are. -/
theorem fetched_rebalances (poll : Poll F) :
    (state.fetched floats spec poll).rebalances = state.rebalances := by
  refine rebalances_applyAll fun decision member => ?_
  obtain ⟨_, _, same⟩ := upserts_spec poll _ _ member
  cases same

/-- The rebalance that a poll records: the decision that is due, if the poll comes to it. -/
def recorded (floats : Floats F) (spec : ForwardSpec) (state : ForwardState F) (poll : Poll F) :
    Option RebalanceDecision :=
  if (upserts poll spec.universe_).2 ∧
      poll.stopAfter.all fun stop => (upserts poll spec.universe_).1.length < stop then
    (state.fetched floats spec poll).decision floats spec
  else none

/-- A decision has the next index. -/
theorem index_of_decision (decided : state.decision floats spec = some decision) :
    decision.rebalanceIndex = state.nextRebalanceIndex := by
  unfold ForwardState.decision at decided
  dsimp only at decided
  split at decided
  · obtain ⟨basket, -, rfl⟩ := Option.map_eq_some_iff.mp decided
    rfl
  · cases decided

variable {poll : Poll F}

/-- A poll records its decision under an index that is free. -/
theorem index_of_recorded (done : state.recorded floats spec poll = some decision) :
    decision.rebalanceIndex = state.nextRebalanceIndex := by
  unfold recorded at done
  split at done
  · rw [index_of_decision done, nextRebalanceIndex, fetched_rebalances, nextRebalanceIndex]
  · cases done

/-- The trade that is opened for a symbol of a decision. -/
theorem openings_spec (decision : RebalanceDecision) (symbol : String) :
    (∃ write ∈ state.openings floats spec decision,
        Opens (decision.rebalanceIndex, symbol) write) ↔
      symbol ∈ decision.picked ∧ (state.entryBar floats spec symbol).isSome := by
  unfold openings
  simp only [List.mem_filterMap, Option.map_eq_some_iff]
  constructor
  · rintro ⟨write, ⟨other, member, entry, found, rfl⟩, same⟩
    obtain rfl : other = symbol := congrArg Prod.snd same
    exact ⟨member, by rw [found]; rfl⟩
  · rintro ⟨member, some_⟩
    obtain ⟨entry, found⟩ := Option.isSome_iff_exists.mp some_
    exact ⟨_, ⟨symbol, member, entry, found, rfl⟩, rfl⟩

/-- What a poll commits to is among its commits. -/
theorem mem_pollWrites {write : ForwardWrite F} (member : write ∈ state.commits floats spec poll) :
    write ∈ (state.pollWrites floats spec poll).1 := by
  unfold commits at member
  cases stop : poll.stopAfter with
  | none =>
    rw [stop] at member
    exact member
  | some stop' =>
    rw [stop] at member
    exact List.mem_of_mem_take member

/-- A poll stores its rows first, and goes on if none of them raises. -/
theorem pollWrites_eq (poll : Poll F) : (state.pollWrites floats spec poll).1 =
    if (upserts poll spec.universe_).2 then (upserts poll spec.universe_).1 ++
      ((state.fetched floats spec poll).decisionWrites floats spec ++ (closings floats poll
        ((state.fetched floats spec poll).barsBySymbol floats spec)
        (((state.fetched floats spec poll).applyAll floats
          ((state.fetched floats spec poll).decisionWrites floats spec)).openTradesDue
            ((state.fetched floats spec poll).latestMs floats spec poll))).1)
    else (upserts poll spec.universe_).1 := by
  have unfolded : state.pollWrites floats spec poll =
      if (upserts poll spec.universe_).2 then (_, _) else (_, _) := rfl
  rw [unfolded]
  split <;> rfl

/-- The commits of a poll that stores all of its rows. -/
theorem pollWrites_of_done {poll : Poll F} (done : (upserts poll spec.universe_).2 = true) :
    ∃ closed : List (ForwardWrite F),
      (∀ write ∈ closed, ∃ rebalanceIndex symbol exitPrice pricePct fundingPct,
        write = .closeTrade rebalanceIndex symbol exitPrice pricePct fundingPct) ∧
      (state.pollWrites floats spec poll).1 = (upserts poll spec.universe_).1 ++
        ((state.fetched floats spec poll).decisionWrites floats spec ++ closed) := by
  have shape := @pollWrites_eq F floats spec state poll
  rw [if_pos done] at shape
  exact ⟨_, closings_spec poll _ _, shape⟩

/-- A poll that records nothing opens nothing. -/
theorem commits_of_not_recorded (none_ : state.recorded floats spec poll = none) :
    ∀ write ∈ state.commits floats spec poll,
      (∀ decision, write ≠ .recordRebalance decision) ∧ ∀ key, ¬Opens key write := by
  have of_upsert : ∀ write ∈ (upserts poll spec.universe_).1,
      (∀ decision, write ≠ .recordRebalance decision) ∧ ∀ key, ¬Opens key write := by
    intro write member
    obtain ⟨symbol, minutes, rfl⟩ := upserts_spec poll _ write member
    exact ⟨fun decision same => (by cases same), fun key opens => opens⟩
  intro write member
  cases done : (upserts poll spec.universe_).2 with
  | false =>
    -- The rows are not all stored, so nothing comes behind them.
    have all := mem_pollWrites member
    rw [pollWrites_eq, if_neg (by simp [done])] at all
    exact of_upsert write all
  | true =>
    obtain ⟨closed, closes, whole⟩ := @pollWrites_of_done F floats spec state _ done
    by_cases reached : poll.stopAfter.all
        (fun stop => decide ((upserts poll spec.universe_).1.length < stop)) = true
    · have undecided : (state.fetched floats spec poll).decision floats spec = none := by
        unfold recorded at none_
        rwa [if_pos ⟨done, reached⟩] at none_
      have all := mem_pollWrites member
      rw [whole, decisionWrites, undecided, List.nil_append, List.mem_append] at all
      rcases all with stored | closing
      · exact of_upsert write stored
      · obtain ⟨_, _, _, _, _, rfl⟩ := closes write closing
        exact ⟨fun decision same => (by cases same), fun key opens => opens⟩
    · -- The process stops while the rows are stored.
      cases stop : poll.stopAfter with
      | none => simp [stop] at reached
      | some stop' =>
        simp only [stop, Option.all_some, decide_eq_true_eq, Nat.not_lt] at reached
        unfold commits at member
        rw [stop, Option.elim_some, whole, List.take_append_of_le_length reached] at member
        exact of_upsert write (List.mem_of_mem_take member)

/-- A poll that records a rebalance commits to it, and then to its trades and to those that it
closes, up to its stop. -/
theorem commits_of_recorded (some_ : state.recorded floats spec poll = some decision) :
    ∃ closed : List (ForwardWrite F),
      (∀ write ∈ closed, ∃ rebalanceIndex symbol exitPrice pricePct fundingPct,
        write = .closeTrade rebalanceIndex symbol exitPrice pricePct fundingPct) ∧
      state.commits floats spec poll = (upserts poll spec.universe_).1 ++
        .recordRebalance decision :: poll.stopAfter.elim
          ((state.fetched floats spec poll).openings floats spec decision ++ closed)
          fun stop => ((state.fetched floats spec poll).openings floats spec decision ++
            closed).take (stop - (upserts poll spec.universe_).1.length - 1) := by
  unfold recorded at some_
  split at some_
  · rename_i both
    obtain ⟨closed, closes, whole⟩ := @pollWrites_of_done F floats spec state _ both.1
    refine ⟨closed, closes, ?_⟩
    unfold commits
    rw [whole, decisionWrites, some_]
    cases stop : poll.stopAfter with
    | none => rfl
    | some stop' =>
      have reached := both.2
      simp only [stop, Option.all_some, decide_eq_true_eq] at reached
      obtain ⟨more, rfl⟩ := Nat.exists_eq_add_of_lt reached
      have left : (upserts poll spec.universe_).1.length + more + 1 -
          (upserts poll spec.universe_).1.length = more + 1 := by omega
      simp only [Option.elim_some, List.take_append, left, Nat.add_sub_cancel, List.take_succ_cons,
        List.cons_append]
      rw [List.take_of_length_le (by omega)]
  · cases some_

/-- Every symbol of a recorded basket has its trade. -/
def Settled (state : ForwardState F) : Prop :=
  ∀ decision ∈ state.rebalances.rows, ∀ symbol ∈ decision.picked,
    (state.trades.find? (decision.rebalanceIndex, symbol)).isSome

/-- Trades belong to rebalances that are recorded. -/
def Owned (state : ForwardState F) : Prop :=
  ∀ index symbol, (state.trades.find? (index, symbol)).isSome →
    (state.rebalances.find? index).isSome

/-- A poll that records a rebalance finds a bar to buy each of its symbols at, and does not stop
before all of them are bought. -/
def Clear (floats : Floats F) (spec : ForwardSpec) (state : ForwardState F) (poll : Poll F) :
    Prop :=
  ∀ decision, state.recorded floats spec poll = some decision →
    (∀ symbol ∈ decision.picked,
      ((state.fetched floats spec poll).entryBar floats spec symbol).isSome) ∧
    ∀ stop, poll.stopAfter = some stop →
      (upserts poll spec.universe_).1.length + 1 + decision.picked.length ≤ stop

/-- The rebalances after a poll: those before it, and the one that it records. -/
theorem rebalances_next (poll : Poll F) (decision : RebalanceDecision) :
    decision ∈ ((forwardMachine floats spec).next state poll).rebalances.rows ↔
      decision ∈ state.rebalances.rows ∨ state.recorded floats spec poll = some decision := by
  rw [next_eq]
  cases done : state.recorded floats spec poll with
  | none =>
    rw [rebalances_applyAll fun other member =>
      (commits_of_not_recorded done _ member).1 other rfl]
    simp
  | some new =>
    obtain ⟨closed, closes, whole⟩ := commits_of_recorded done
    have free : state.rebalances.find? new.rebalanceIndex = none := by
      rw [index_of_recorded done]
      exact find?_nextRebalanceIndex
    -- Only the record itself changes the rebalances.
    have stored : (state.applyAll floats (upserts poll spec.universe_).1).rebalances =
        state.rebalances := fetched_rebalances poll
    obtain ⟨grown, built⟩ : ∃ grown, state.rebalances.insert? new = some grown := by
      cases built : state.rebalances.insert? new with
      | none =>
        obtain ⟨old, found⟩ := Table.insert?_eq_none_iff.mp built
        rw [free] at found
        cases found
      | some grown => exact ⟨grown, rfl⟩
    have rest : ∀ (other : ForwardState F) (writes : List (ForwardWrite F)),
        (∀ write ∈ writes, write ∈ (state.fetched floats spec poll).openings floats spec new ++
          closed) → (other.applyAll floats writes).rebalances = other.rebalances := by
      intro other writes among
      refine rebalances_applyAll fun decision member => ?_
      rcases List.mem_append.mp (among _ member) with opening | closing
      · obtain ⟨symbol, -, made⟩ := List.mem_filterMap.mp opening
        obtain ⟨entry, -, same⟩ := Option.map_eq_some_iff.mp made
        cases same
      · obtain ⟨_, _, _, _, _, same⟩ := closes _ closing
        cases same
    rw [whole, applyAll, List.foldl_append, List.foldl_cons]
    rw [← applyAll, ← applyAll, rest]
    · change decision ∈ (((state.applyAll floats (upserts poll spec.universe_).1).rebalances.insert?
        new).getD _).rows ↔ _
      rw [stored, built, Option.getD_some, (Table.insert?_eq_some_iff.mp built).2]
      simp [eq_comm]
    · intro write member
      cases stop : poll.stopAfter with
      | none =>
        rw [stop] at member
        exact member
      | some stop' =>
        rw [stop] at member
        exact List.mem_of_mem_take member

/-- There is a trade after a poll exactly if there was one, or the poll commits to open it. -/
theorem isSome_trade_next (poll : Poll F) (key : Nat × String) :
    (((forwardMachine floats spec).next state poll).trades.find? key).isSome ↔
      (state.trades.find? key).isSome ∨
        ∃ write ∈ state.commits floats spec poll, Opens key write := by
  rw [next_eq]
  exact isSome_trade_applyAll key _

/-- A poll opens trades only for the rebalance that it records. -/
theorem recorded_of_opens {symbol : String}
    (opened : ∃ write ∈ state.commits floats spec poll, Opens (index, symbol) write) :
    ∃ decision, state.recorded floats spec poll = some decision ∧
      decision.rebalanceIndex = index := by
  obtain ⟨write, member, opens⟩ := opened
  cases done : state.recorded floats spec poll with
  | none => exact absurd opens ((commits_of_not_recorded done write member).2 _)
  | some decision =>
    refine ⟨decision, rfl, ?_⟩
    obtain ⟨closed, closes, whole⟩ := commits_of_recorded done
    rw [whole, List.mem_append, List.mem_cons] at member
    rcases member with stored | rfl | later
    · obtain ⟨_, _, rfl⟩ := upserts_spec poll _ _ stored
      cases opens
    · cases opens
    · have among : write ∈ (state.fetched floats spec poll).openings floats spec decision ++
          closed := by
        cases stop : poll.stopAfter with
        | none =>
          rw [stop] at later
          exact later
        | some stop' =>
          rw [stop] at later
          exact List.mem_of_mem_take later
      rcases List.mem_append.mp among with opening | closing
      · obtain ⟨other, -, made⟩ := List.mem_filterMap.mp opening
        obtain ⟨entry, -, rfl⟩ := Option.map_eq_some_iff.mp made
        exact congrArg Prod.fst opens
      · obtain ⟨_, _, _, _, _, rfl⟩ := closes _ closing
        cases opens

/-- A poll keeps the trades with their rebalances. -/
theorem owned_next (owned : state.Owned) (poll : Poll F) :
    ((forwardMachine floats spec).next state poll).Owned := by
  intro index symbol there
  rcases (isSome_trade_next poll (index, symbol)).mp there with before | opened
  · obtain ⟨decision, found⟩ := Option.isSome_iff_exists.mp (owned index symbol before)
    rw [next_eq, rebalance_applyAll found]
    rfl
  · obtain ⟨decision, done, rfl⟩ := recorded_of_opens opened
    have member := (@rebalances_next F floats spec _ poll decision).mpr (.inr done)
    rw [Table.find?_of_mem member]
    rfl

/-- A trade that a recorded rebalance lacks is never opened. -/
theorem lost_next (member : decision ∈ state.rebalances.rows)
    {symbol : String} (lost : state.trades.find? (decision.rebalanceIndex, symbol) = none)
    (poll : Poll F) : ((forwardMachine floats spec).next state poll).trades.find?
      (decision.rebalanceIndex, symbol) = none := by
  rw [← Option.not_isSome_iff_eq_none] at lost ⊢
  intro there
  rcases (isSome_trade_next poll _).mp there with before | opened
  · exact lost before
  · -- A poll opens trades for an index above all that are recorded.
    obtain ⟨new, done, same⟩ := recorded_of_opens opened
    have above := lt_nextRebalanceIndex member
    have index := index_of_recorded done
    omega

/-- The symbols of a basket are distinct. -/
theorem nodup_picked (distinct : spec.universe_.Nodup)
    (decided : state.decision floats spec = some decision) : decision.picked.Nodup := by
  have symbols : ∀ bars idx,
      ((scored floats spec bars idx).map Prod.snd).Sublist spec.universe_ := by
    intro bars idx
    unfold scored
    induction spec.universe_ with
    | nil => exact List.Sublist.refl _
    | cons symbol rest ih =>
      rw [List.filterMap_cons]
      cases (bars symbol).bind fun bars => score floats spec bars idx with
      | none => exact ih.trans (List.sublist_cons_self _ _)
      | some value => exact ih.cons_cons _
  unfold ForwardState.decision at decided
  dsimp only at decided
  split at decided
  · obtain ⟨basket, made, rfl⟩ := Option.map_eq_some_iff.mp decided
    obtain ⟨_, _, _, -, -, -, -, -, rfl⟩ := (decideRebalance_eq_some_iff floats spec).mp made
    dsimp only
    rw [List.map_take]
    refine List.Nodup.sublist (List.take_sublist _ _) ?_
    exact ((floats.sorted _).map Prod.snd).nodup_iff.mpr (distinct.sublist (symbols _ _))
  · cases decided

/-- The symbol that a commit opens a trade of. -/
def openedSymbol : ForwardWrite F → Option String
  | .openTrade trade => some trade.symbol
  | _ => none

/-- The trades that a poll commits to open. -/
def opened (floats : Floats F) (spec : ForwardSpec) (state : ForwardState F) (poll : Poll F)
    (decision : RebalanceDecision) : List (ForwardWrite F) :=
  poll.stopAfter.elim ((state.fetched floats spec poll).openings floats spec decision) fun stop =>
    ((state.fetched floats spec poll).openings floats spec decision).take
      (stop - (upserts poll spec.universe_).1.length - 1)

/-- A poll that records a rebalance opens these trades, and no others. -/
theorem opens_iff (done : state.recorded floats spec poll = some decision) (key : Nat × String) :
    (∃ write ∈ state.commits floats spec poll, Opens key write) ↔
      ∃ write ∈ state.opened floats spec poll decision, Opens key write := by
  obtain ⟨closed, closes, whole⟩ := commits_of_recorded done
  have closing : ∀ write ∈ closed, ¬Opens key write := by
    intro write member opens
    obtain ⟨_, _, _, _, _, rfl⟩ := closes write member
    cases opens
  have stored : ∀ write ∈ (upserts poll spec.universe_).1, ¬Opens key write := by
    intro write member opens
    obtain ⟨_, _, rfl⟩ := upserts_spec poll _ write member
    cases opens
  constructor
  · rintro ⟨write, member, opens⟩
    refine ⟨write, ?_, opens⟩
    rw [whole, List.mem_append, List.mem_cons] at member
    rcases member with before | rfl | later
    · exact absurd opens (stored write before)
    · cases opens
    · unfold opened
      cases stop : poll.stopAfter with
      | none =>
        rw [stop] at later
        exact (List.mem_append.mp later).resolve_right fun member => closing write member opens
      | some stop' =>
        rw [stop, Option.elim_some, List.take_append, List.mem_append] at later
        refine later.resolve_right fun member => ?_
        exact closing write (List.mem_of_mem_take member) opens
  · rintro ⟨write, member, opens⟩
    refine ⟨write, ?_, opens⟩
    rw [whole, List.mem_append, List.mem_cons]
    refine .inr (.inr ?_)
    unfold opened at member
    cases stop : poll.stopAfter with
    | none =>
      rw [stop] at member
      exact List.mem_append_left _ member
    | some stop' =>
      rw [stop] at member
      rw [Option.elim_some, List.take_append]
      exact List.mem_append_left _ member

/-- As many trades are opened at most as there are openings. -/
theorem picked_length_le {writes : List (ForwardWrite F)} {picked : List String}
    (distinct : picked.Nodup)
    (all : ∀ symbol ∈ picked, ∃ write ∈ writes, Opens (index, symbol) write) :
    picked.length ≤ writes.length := by
  have among : picked ⊆ writes.filterMap openedSymbol := by
    intro symbol member
    obtain ⟨write, opening, opens⟩ := all symbol member
    refine List.mem_filterMap.mpr ⟨write, opening, ?_⟩
    cases write with
    | openTrade trade => exact congrArg some (congrArg Prod.snd opens)
    | upsertBars symbol minutes => cases opens
    | recordRebalance decision => cases opens
    | closeTrade rebalanceIndex symbol exitPrice pricePct fundingPct => cases opens
  exact (List.subperm_of_subset distinct among).length_le.trans (List.length_filterMap_le _ _)

/-- A poll that records a rebalance opens the trades of all of its symbols exactly if each of them
has a bar to be bought at, and the poll does not stop before. -/
theorem opens_all_iff (distinct : spec.universe_.Nodup)
    (done : state.recorded floats spec poll = some decision) :
    (∀ symbol ∈ decision.picked, ∃ write ∈ state.commits floats spec poll,
        Opens (decision.rebalanceIndex, symbol) write) ↔
      (∀ symbol ∈ decision.picked,
        ((state.fetched floats spec poll).entryBar floats spec symbol).isSome) ∧
      ∀ stop, poll.stopAfter = some stop →
        (upserts poll spec.universe_).1.length + 1 + decision.picked.length ≤ stop := by
  have decided : (state.fetched floats spec poll).decision floats spec = some decision ∧
      ∀ stop, poll.stopAfter = some stop → (upserts poll spec.universe_).1.length < stop := by
    unfold recorded at done
    split at done
    · rename_i both
      refine ⟨done, fun stop same => ?_⟩
      have reached := both.2
      simpa [same] using reached
    · cases done
  simp only [opens_iff done]
  constructor
  · intro all
    refine ⟨fun symbol member => ?_, fun stop same => ?_⟩
    · obtain ⟨write, among, opens⟩ := all symbol member
      refine ((openings_spec decision symbol).mp ⟨write, ?_, opens⟩).2
      unfold opened at among
      cases stop : poll.stopAfter with
      | none =>
        rw [stop] at among
        exact among
      | some stop' =>
        rw [stop] at among
        exact List.mem_of_mem_take among
    · -- There are no more trades than commits behind the record.
      have many := picked_length_le (nodup_picked distinct decided.1) all
      have reached := decided.2 stop same
      rw [opened, same, Option.elim_some, List.length_take] at many
      omega
  · intro both symbol member
    obtain ⟨bars, stops⟩ := both
    obtain ⟨write, among, opens⟩ := (openings_spec decision symbol).mpr ⟨member, bars symbol member⟩
    refine ⟨write, ?_, opens⟩
    unfold opened
    cases stop : poll.stopAfter with
    | none => exact among
    | some stop' =>
      have enough := stops stop' stop
      have few : ((state.fetched floats spec poll).openings floats spec decision).length ≤
          decision.picked.length := List.length_filterMap_le _ _
      rw [Option.elim_some, List.take_of_length_le (by omega)]
      exact among

/-- A poll leaves every basket with its trades exactly if it is clear. -/
theorem settled_next_iff (distinct : spec.universe_.Nodup) (owned : state.Owned)
    (settled : state.Settled) (poll : Poll F) :
    ((forwardMachine floats spec).next state poll).Settled ↔ Clear floats spec state poll := by
  constructor
  · intro later decision done
    rw [← opens_all_iff distinct done]
    intro symbol member
    have there := later decision ((rebalances_next poll decision).mpr (.inr done)) symbol member
    refine ((isSome_trade_next poll _).mp there).resolve_left fun before => ?_
    -- There was no trade of the new index before.
    have known := owned _ _ before
    rw [index_of_recorded done, find?_nextRebalanceIndex] at known
    cases known
  · intro clear decision member symbol picked
    rw [isSome_trade_next]
    rcases (rebalances_next poll decision).mp member with before | done
    · exact .inl (settled decision before symbol picked)
    · exact .inr ((opens_all_iff distinct done).mpr (clear decision done) symbol picked)

end ForwardState

/-- The state that an endless sequence of polls of the strategy reaches. -/
def forwardAt {F : Type} (floats : Floats F) (polls : Nat → Poll F) (n : Nat) : ForwardState F :=
  (forwardMachine floats strategySpec).stateAt .initial polls n

/-- No trade is lost or made twice while the polls go on: an index is decided once, its basket
stays, each of its symbols gets one trade, and a closed trade stays as it is. -/
structure NoTradeLost {F : Type} (floats : Floats F) (polls : Nat → Poll F) : Prop where
  once : ∀ n decision, .recordRebalance decision ∈
    ((forwardAt floats polls n).pollWrites floats strategySpec (polls n)).1 →
    (forwardAt floats polls n).rebalances.find? decision.rebalanceIndex = none
  basket : ∀ n m, n ≤ m → ∀ decision ∈ (forwardAt floats polls n).rebalances.rows,
    (forwardAt floats polls m).rebalances.find? decision.rebalanceIndex = some decision
  traded : ∀ n, ∀ decision ∈ (forwardAt floats polls n).rebalances.rows,
    ∀ symbol ∈ decision.picked, ∃ m, n ≤ m ∧ ∃! trade,
      trade ∈ (forwardAt floats polls m).trades.rows ∧
        trade.key = (decision.rebalanceIndex, symbol)
  closed : ∀ n m, n ≤ m → ∀ trade ∈ (forwardAt floats polls n).trades.rows,
    trade.status = .closed → (forwardAt floats polls m).trades.find? trade.key = some trade

section Endless

open ForwardState

variable {F : Type} {floats : Floats F} {polls : Nat → Poll F}

/-- What every poll preserves is preserved from one moment to a later one. -/
theorem forwardAt_of_le {P : ForwardState F → Prop}
    (kept : ∀ state poll, P state → P ((forwardMachine floats strategySpec).next state poll))
    {n m : Nat} (le : n ≤ m) (start : P (forwardAt floats polls n)) :
    P (forwardAt floats polls m) := by
  induction le with
  | refl => exact start
  | step _ ih => exact kept _ _ ih

/-- Trades belong to recorded rebalances at every moment. -/
theorem owned_forwardAt (n : Nat) : (forwardAt floats polls n).Owned := by
  have start : (initial : ForwardState F).Owned := by
    intro index symbol there
    cases there
  exact Machine.stateAt_invariant _ (fun state poll (owned : state.Owned) => owned_next owned poll)
    polls start n

/-- A poll decides an index that is free. -/
theorem find?_of_decided {state : ForwardState F} {poll : Poll F} {decision : RebalanceDecision}
    (member : .recordRebalance decision ∈ (state.pollWrites floats strategySpec poll).1) :
    state.rebalances.find? decision.rebalanceIndex = none := by
  rw [pollWrites_eq] at member
  split at member
  · rcases List.mem_append.mp member with stored | later
    · obtain ⟨_, _, same⟩ := upserts_spec poll _ _ stored
      cases same
    · rcases List.mem_append.mp later with decided | closing
      · unfold decisionWrites at decided
        split at decided
        · cases decided
        · rename_i other made
          rcases List.mem_cons.mp decided with same | opening
          · cases same
            rw [index_of_decision made, nextRebalanceIndex, fetched_rebalances,
              ← nextRebalanceIndex]
            exact find?_nextRebalanceIndex
          · obtain ⟨symbol, -, opens⟩ := List.mem_filterMap.mp opening
            obtain ⟨entry, -, same⟩ := Option.map_eq_some_iff.mp opens
            cases same
      · obtain ⟨_, _, _, _, _, same⟩ := closings_spec poll _ _ _ closing
        cases same
  · obtain ⟨_, _, same⟩ := upserts_spec poll _ _ member
    cases same

/-- If no trade is lost while the polls go on, every poll is clear. -/
theorem clear_of_noTradeLost (kept : NoTradeLost floats polls) (n : Nat) :
    Clear floats strategySpec (forwardAt floats polls n) (polls n) := by
  have settled : ∀ n, (forwardAt floats polls n).Settled := by
    intro n decision member symbol picked
    by_contra lost
    rw [Option.not_isSome_iff_eq_none] at lost
    -- What is lost now is lost at every later moment.
    obtain ⟨m, later, trade, ⟨there, named⟩, -⟩ := kept.traded n decision member symbol picked
    have both := forwardAt_of_le
      (P := fun state : ForwardState F => decision ∈ state.rebalances.rows ∧
        state.trades.find? (decision.rebalanceIndex, symbol) = none)
      (fun state poll both => ⟨(rebalances_next poll decision).mpr (.inl both.1),
        lost_next both.1 both.2 poll⟩) later ⟨member, lost⟩
    rw [← named, Table.find?_of_mem there] at both
    cases both.2
  have distinct : strategySpec.universe_.Nodup := by decide
  exact (settled_next_iff distinct (owned_forwardAt n) (settled n) (polls n)).mp (settled (n + 1))

/-- If every poll is clear, every recorded basket has its trades. -/
theorem settled_of_clear
    (clear : ∀ n, Clear floats strategySpec (forwardAt floats polls n) (polls n)) (n : Nat) :
    (forwardAt floats polls n).Settled := by
  have distinct : strategySpec.universe_.Nodup := by decide
  induction n with
  | zero =>
    intro decision member
    cases member
  | succ n ih =>
    exact (settled_next_iff distinct (owned_forwardAt n) ih (polls n)).mpr (clear n)

end Endless

/-- No trade is lost while the polls go on exactly if every poll is clear. -/
theorem noTradeLost_iff_clear {F : Type} (floats : Floats F) (polls : Nat → Poll F) :
    NoTradeLost floats polls ↔
      ∀ n, ForwardState.Clear floats strategySpec (forwardAt floats polls n) (polls n) := by
  constructor
  · exact clear_of_noTradeLost
  · intro clear
    refine ⟨fun n decision member => find?_of_decided member,
      fun n m le decision member => ?_, fun n decision member symbol picked => ?_,
      fun n m le trade member is => ?_⟩
    · exact forwardAt_of_le (P := fun state =>
        state.rebalances.find? decision.rebalanceIndex = some decision)
        (fun state poll found => ForwardState.rebalance_applyAll found _) le
        (Table.find?_of_mem member)
    · have traded := settled_of_clear clear n decision member symbol picked
      obtain ⟨trade, found⟩ := Option.isSome_iff_exists.mp traded
      refine ⟨n, Nat.le_refl n, trade, Table.find?_eq_some_iff.mp found, fun other both => ?_⟩
      have same := Table.find?_of_mem both.1
      rw [both.2, found] at same
      exact (Option.some.inj same).symm
    · exact forwardAt_of_le (P := fun state => state.trades.find? trade.key = some trade)
        (fun state poll found => ForwardState.closed_applyAll found is _) le
        (Table.find?_of_mem member)

/-- A poll of a flat market that stops when its rebalance is recorded, and then polls that find no
new row. -/
def stoppedPolls : Nat → Poll ℚ
  | 0 => {
    klines _ := some ((flatMinutes 0 2593).map some)
    funding _ _ := some []
    nowMs := 777900000
    stopAfter := some 24 }
  | _ + 1 => {
    klines _ := some []
    funding _ _ := some []
    nowMs := 778200000
    stopAfter := none }

namespace ForwardState

/-- The rows that every symbol has are stored for one symbol after the other. -/
theorem upserts_same {F : Type} {poll : Poll F} {minutes : List (Bar F)} (some_ : minutes ≠ [])
    (symbols : List String) (all : ∀ symbol, poll.klines symbol = some (minutes.map some)) :
    upserts poll symbols = (symbols.map fun symbol => .upsertBars symbol minutes, true) := by
  have read : (minutes.map some).mapM id = some minutes := by
    have each : minutes.mapM (m := Option) (fun minute => pure (id minute)) =
        pure (minutes.map id) := List.mapM_pure
    rw [List.map_id] at each
    rw [List.mapM_map]
    exact each
  obtain ⟨first, others, rows⟩ := List.exists_cons_of_ne_nil
    (List.map_eq_nil_iff.not.mpr some_ : minutes.map some ≠ [])
  rw [rows] at read
  induction symbols with
  | nil => rfl
  | cons symbol rest ih =>
    rw [upserts, all, rows]
    simp only [read, ih, List.map_cons]

/-- The stopped poll stores the rows of all symbols. -/
theorem stored_stoppedPolls : upserts (stoppedPolls 0) strategySpec.universe_ =
    (forwardUniverse.map fun symbol => .upsertBars symbol (flatMinutes 0 2593), true) := by
  have some_ : flatMinutes 0 (2592 + 1) ≠ [] := by
    intro empty
    rw [flatMinutes] at empty
    cases empty
  exact upserts_same some_ forwardUniverse fun symbol => rfl

/-- The stopped poll records a rebalance of six symbols. -/
theorem recorded_stoppedPolls : ∃ decision,
    (initial (F := ℚ)).recorded rationals strategySpec (stoppedPolls 0) = some decision ∧
      decision.picked.length = 6 := by
  have bars : ∀ symbol ∈ forwardUniverse,
      ((initial (F := ℚ)).fetched rationals strategySpec (stoppedPolls 0)).barsBySymbol rationals
        strategySpec symbol = some (flatBars 0 2593) := by
    intro symbol member
    have loaded := @load1mRows_upserts ℚ rationals forwardUniverse (flatMinutes 0 2593)
      (fun _ => rfl) (pairwise_flatMinutes 0 2593) (by decide) symbol member
    have universe_ : strategySpec.universe_ = forwardUniverse := rfl
    rw [barsBySymbol, if_pos (universe_ ▸ member), fetched, stored_stoppedPolls]
    dsimp only
    rw [loaded, to5mBars_flatMinutes]
  have btc : ((initial (F := ℚ)).fetched rationals strategySpec (stoppedPolls 0)).btcBars rationals
      strategySpec = flatBars 0 2593 := by
    rw [btcBars, bars "BTCUSDT" (by decide)]
    rfl
  have next : ((initial (F := ℚ)).fetched rationals strategySpec
      (stoppedPolls 0)).nextRebalanceIndex = 0 := by
    rw [nextRebalanceIndex, fetched_rebalances]
    rfl
  have due : ((initial (F := ℚ)).fetched rationals strategySpec (stoppedPolls 0)).decisionIdx
      strategySpec = 2591 := by
    rw [decisionIdx, next]
    rfl
  obtain ⟨basket, decided, six⟩ := decideRebalance_flat (by omega : 2592 ≤ 2591 + 1)
    fun symbol member => ⟨flatBars 0 2593, bars symbol member, by simp, fun bar => mem_flatBars⟩
  have warmup : strategySpec.warmupNeeded = 2592 := rfl
  refine ⟨{ basket with rebalanceIndex := 0 }, ?_, six⟩
  unfold recorded
  have last : (forwardUniverse.map fun symbol =>
      ForwardWrite.upsertBars symbol (flatMinutes 0 2593)).length < 24 := by
    rw [List.length_map]
    decide
  have stop : (stoppedPolls 0).stopAfter = some 24 := rfl
  simp only [stored_stoppedPolls, stop, Option.all_some, last, decide_true, and_self, if_true]
  unfold ForwardState.decision
  simp only [btc, due, warmup, length_flatBars]
  rw [if_pos (by omega), decided, Option.map_some, next]

end ForwardState

/-- The trades of the stopped poll are lost. -/
theorem stoppedPolls_lose : ¬NoTradeLost rationals stoppedPolls := by
  intro kept
  obtain ⟨decision, done, six⟩ := ForwardState.recorded_stoppedPolls
  obtain ⟨-, stops⟩ := clear_of_noTradeLost kept 0 decision done
  have enough := stops 24 rfl
  have stored : (ForwardState.upserts (stoppedPolls 0) strategySpec.universe_).1.length = 23 := by
    rw [ForwardState.stored_stoppedPolls, List.length_map]
    rfl
  omega

end StrategyLab
