import StrategyLab.Adapters.Trading

/-! Replayed trading requests: positions change once, and when simulated results stay stored. -/

namespace StrategyLab

open TradingExecutionService TradingRepository

/-- The id under which the result of a request is stored. -/
def resultIdOf (requestId : String) : String := s!"trading-result:{requestId}"

/-- Results of different requests are stored under different ids. -/
theorem resultIdOf_injective {left right : String} (same : resultIdOf left = resultIdOf right) :
    left = right := by
  simpa [resultIdOf, toString, String.append_right_inj] using same

/-- A request is stored exactly when neither its id nor its key is taken. -/
theorem addRequest_spec {repository : TradingRepository} {request : TradingRequest} :
    (repository.addRequest request = none ∧
        (¬repository.KeyFree request ∨ ∃ old ∈ repository.requests.rows,
          old.requestId = request.requestId)) ∨
      ∃ grown, repository.addRequest request = some grown ∧
        grown.requests.rows = repository.requests.rows ++ [request] ∧
        grown.results = repository.results ∧
        repository.requests.find? request.requestId = none := by
  unfold addRequest
  by_cases free : repository.KeyFree request
  · rw [dif_pos free]
    split
    · rename_i grown inserted
      obtain ⟨unused, rows⟩ := Table.insert?_eq_some_iff.mp inserted
      exact .inr ⟨_, rfl, rows, rfl, unused⟩
    · rename_i refused
      obtain ⟨old, found⟩ := Table.insert?_eq_none_iff.mp refused
      obtain ⟨member, same⟩ := Table.find?_eq_some_iff.mp found
      exact .inl ⟨rfl, .inr ⟨old, member, same⟩⟩
  · rw [dif_neg free]
    exact .inl ⟨rfl, .inl free⟩

variable {request : TradingRequest}

/-- A request that is stored comes after the requests that were. -/
theorem addRequest_rows {repository grown : TradingRepository}
    (added : repository.addRequest request = some grown) :
    grown.requests.rows = repository.requests.rows ++ [request] := by
  rcases @addRequest_spec repository request with ⟨none_, -⟩ | ⟨_, same, rows, -, -⟩
  · rw [none_] at added
    cases added
  · rw [← Option.some.inj (same.symm.trans added)]
    exact rows

/-- What executing a request does. -/
inductive Executed (state : TradingState) (request : TradingRequest) :
    TradingResult × TradingState → Prop where
  /-- A duplicate is rejected, and its rejection is stored. -/
  | duplicate (result : TradingResult) (taken : state.repository.addRequest request = none)
    (own : result.resultId = resultIdOf request.requestId) (rejected : result.status = .rejected) :
    Executed state request (result, { state with repository := state.repository.addResult result })
  /-- A new request is stored and performed, and its result is stored. -/
  | performed (result : TradingResult) (repository : TradingRepository)
    (adapter : PaperTradingAdapter)
    (added : state.repository.addRequest request = some repository)
    (own : result.resultId = resultIdOf request.requestId) :
    Executed state request (result, ⟨repository.addResult result, adapter⟩)

/-- Whatever a request comes to is answered under its own id. -/
theorem perform_resultId {config : PaperTradingConfig} {adapter : PaperTradingAdapter}
    {decision : TradingDecision} {result : TradingResult}
    (performed : (perform config adapter request decision).1 = .ok result) :
    result.resultId = resultIdOf request.requestId := by
  unfold perform at performed
  split at performed
  · obtain rfl := Except.ok.inj performed
    rfl
  · split at performed
    · obtain rfl := Except.ok.inj performed
      rfl
    · split at performed
      · obtain rfl := Except.ok.inj performed
        rfl
      · unfold PaperTradingAdapter.simulateOrder at performed
        split at performed
        · cases performed
        · split at performed
          · obtain rfl := Except.ok.inj performed
            rfl
          · dsimp only at performed
            split at performed
            · split at performed
              · cases performed
              · obtain rfl := Except.ok.inj performed
                rfl
            · obtain rfl := Except.ok.inj performed
              rfl

variable (config : PaperTradingConfig) (policy : TradingRiskPolicy)

/-- Every execution is of one of these kinds. -/
theorem execute_executed (state : TradingState) (request : TradingRequest) :
    Executed state request (execute config policy state request) := by
  unfold execute
  split
  · rename_i taken
    exact .duplicate _ taken rfl rfl
  · rename_i repository added
    split
    · rename_i result adapter performed
      exact .performed _ _ _ added (perform_resultId (congrArg Prod.fst performed))
    · exact .performed _ _ _ added rfl

/-- Executing a request changes what the adapter reports as its positions. -/
def ChangesPositions (state : TradingState) (request : TradingRequest) : Prop :=
  ((tradingMachine config policy).next state request).adapter.getPositions ≠
    state.adapter.getPositions

instance (state : TradingState) (request : TradingRequest) :
    Decidable (ChangesPositions config policy state request) :=
  inferInstanceAs (Decidable (_ ≠ _))

/-- How often the requests of a kind change the positions. -/
def timesChanged (kind : TradingRequest → Bool) (start : TradingState)
    (requests : List TradingRequest) : Int :=
  (tradingMachine config policy).tally
    (fun state request =>
      if ChangesPositions config policy state request ∧ kind request = true then 1 else 0)
    start requests

/-- Requests are only added to the table, and one that changes the positions is. -/
theorem requests_step (state : TradingState) (request : TradingRequest) :
    ((tradingMachine config policy).next state request).repository.requests.rows =
        state.repository.requests.rows ∧ ¬ChangesPositions config policy state request ∨
      ((tradingMachine config policy).next state request).repository.requests.rows =
        state.repository.requests.rows ++ [request] := by
  have executed := execute_executed config policy state request
  unfold ChangesPositions
  change _ ∨ (execute config policy state request).2.repository.requests.rows = _
  change (execute config policy state request).2.repository.requests.rows = _ ∧
    ¬(execute config policy state request).2.adapter.getPositions ≠ _ ∨ _
  generalize execute config policy state request = outcome at executed
  cases executed with
  | duplicate result taken own rejected => exact .inl ⟨rfl, fun changed => changed rfl⟩
  | performed result repository adapter added own =>
    have rows := addRequest_rows added
    exact .inr rows

/-- The requests of a kind that change the positions are all stored. -/
theorem timesChanged_le (kind : TradingRequest → Bool) (start : TradingState)
    (requests : List TradingRequest) :
    timesChanged config policy kind start requests ≤
      ((tradingMachine config policy).run start requests).repository.requests.rows.countP kind := by
  -- Each change pays with the row it adds.
  let stored : TradingState → Int := fun state => state.repository.requests.rows.countP kind
  have paid (state : TradingState) (request : TradingRequest) :
      stored state + (if ChangesPositions config policy state request ∧ kind request = true
        then 1 else 0) ≤ stored ((tradingMachine config policy).next state request) := by
    dsimp only [stored]
    rcases requests_step config policy state request with ⟨same, unchanged⟩ | grown
    · rw [same, if_neg fun both => unchanged both.1]
      omega
    · rw [grown, List.countP_append, List.countP_singleton]
      split
      · rename_i both
        rw [if_pos both.2]
        omega
      · omega
  have total := @Machine.tally_le_potential _ _ _ (tradingMachine config policy)
    (fun _ _ => True) (fun _ => True) _ stored (fun _ _ _ _ => trivial)
    (fun state request _ _ => paid state request) start requests
    ((tradingMachine config policy).guarded_of_forall (fun _ _ _ => trivial) start) trivial
  have first : 0 ≤ stored start := Int.natCast_nonneg _
  dsimp only [stored] at first total
  unfold timesChanged
  omega

/-- At most one stored request carries an id. -/
theorem countP_requestId_le (repository : TradingRepository) (requestId : String) :
    repository.requests.rows.countP (·.requestId = requestId) ≤ 1 := by
  have single := List.nodup_iff_count_le_one.mp repository.requests.distinct requestId
  rw [List.count, List.countP_map] at single
  refine le_trans (List.countP_mono_left fun request _ carries => ?_) single
  simpa using carries

/-- At most one stored request carries a key. -/
theorem countP_key_le (repository : TradingRepository) (key : String) :
    repository.requests.rows.countP (·.idempotencyKey = some key) ≤ 1 := by
  have single := List.nodup_iff_count_le_one.mp repository.keysDistinct key
  rw [List.count, List.countP_filterMap] at single
  refine le_trans (List.countP_mono_left fun request _ carries => ?_) single
  simp only [decide_eq_true_eq] at carries
  simp [carries]

/-- What is asked of a sequence of requests: positions change once for an id and for a key, and a
result that was simulated stays stored as such. -/
structure ReplaySafe (start : TradingState) (requests : List TradingRequest) : Prop where
  perRequest : ∀ requestId,
    timesChanged config policy (·.requestId = requestId) start requests ≤ 1
  perKey : ∀ key, timesChanged config policy (·.idempotencyKey = some key) start requests ≤ 1
  stays : ∀ before request middle after, requests = before ++ request :: (middle ++ after) →
    ((tradingMachine config policy).answer ((tradingMachine config policy).run start before)
      request).status = .simulated →
    ∃ result, ((tradingMachine config policy).run start
        (before ++ request :: middle)).repository.results.find? (resultIdOf request.requestId) =
          some result ∧ result.status = .simulated

/-- A request is submitted with the id of an earlier one that was answered as simulated. -/
def ResubmitsSimulated (start : TradingState) (requests : List TradingRequest) : Prop :=
  ∃ before request middle again after,
    requests = before ++ request :: (middle ++ again :: after) ∧
    ((tradingMachine config policy).answer ((tradingMachine config policy).run start before)
      request).status = .simulated ∧ again.requestId = request.requestId

variable {state : TradingState}

/-- A request answered as simulated is stored, and so is its result. -/
theorem simulated_stored
    (simulated : ((tradingMachine config policy).answer state request).status = .simulated) :
    request ∈ ((tradingMachine config policy).next state request).repository.requests.rows ∧
      ∃ result, ((tradingMachine config policy).next state request).repository.results.find?
          (resultIdOf request.requestId) = some result ∧ result.status = .simulated := by
  have executed := execute_executed config policy state request
  change (execute config policy state request).1.status = _ at simulated
  change request ∈ (execute config policy state request).2.repository.requests.rows ∧
    ∃ result, (execute config policy state request).2.repository.results.find? _ = _ ∧ _
  generalize execute config policy state request = outcome at executed simulated
  cases executed with
  | duplicate result taken own rejected =>
    rw [rejected] at simulated
    cases simulated
  | performed result repository adapter added own =>
    refine ⟨?_, result, ?_, simulated⟩
    · simp [addResult, addRequest_rows added]
    · rw [← own]
      exact Table.find?_replace_self _ _

/-- A stored request stays stored. -/
theorem stored_run {start : TradingState}
    (stored : request ∈ start.repository.requests.rows) (requests : List TradingRequest) :
    request ∈ ((tradingMachine config policy).run start requests).repository.requests.rows := by
  refine @Machine.invariant _ _ _ (tradingMachine config policy)
    (fun state => request ∈ state.repository.requests.rows) (fun state other member => ?_) start
    requests stored
  rcases requests_step config policy state other with ⟨same, -⟩ | grown
  · rw [same]
    exact member
  · rw [grown]
    exact List.mem_append_left _ member

/-- Only a request with the same id replaces a stored result. -/
theorem result_step {requestId : String} (other : request.requestId ≠ requestId) :
    ((tradingMachine config policy).next state request).repository.results.find?
        (resultIdOf requestId) = state.repository.results.find? (resultIdOf requestId) := by
  have executed := execute_executed config policy state request
  change (execute config policy state request).2.repository.results.find? _ = _
  generalize execute config policy state request = outcome at executed
  have apart {result : TradingResult} (own : result.resultId = resultIdOf request.requestId) :
      resultIdOf requestId ≠ result.resultId := by
    intro same
    exact other (resultIdOf_injective (same.trans own).symm)
  cases executed with
  | duplicate result taken own rejected =>
    exact (Table.find?_replace _ _ _).trans (if_neg (apart own))
  | performed result repository adapter added own =>
    rcases @addRequest_spec state.repository request with
      ⟨none, -⟩ | ⟨grown, same, -, results, -⟩
    · rw [none] at added
      cases added
    · obtain rfl := Option.some.inj (added.symm.trans same)
      refine (Table.find?_replace _ _ _).trans ((if_neg (apart own)).trans ?_)
      rw [results]

/-- A request with the id of a stored one is rejected, and its rejection is stored. -/
theorem resubmitted_rejected {request again : TradingRequest}
    (stored : request ∈ state.repository.requests.rows)
    (same : again.requestId = request.requestId) :
    ∃ result, ((tradingMachine config policy).next state again).repository.results.find?
        (resultIdOf request.requestId) = some result ∧ result.status = .rejected := by
  have executed := execute_executed config policy state again
  change ∃ result, (execute config policy state again).2.repository.results.find? _ = _ ∧ _
  generalize execute config policy state again = outcome at executed
  cases executed with
  | duplicate result taken own rejected =>
    refine ⟨result, ?_, rejected⟩
    rw [← same, ← own]
    exact Table.find?_replace_self _ _
  | performed result repository adapter added own =>
    rcases @addRequest_spec state.repository again with ⟨none, -⟩ | ⟨_, -, -, -, free⟩
    · rw [none] at added
      cases added
    · rw [same] at free
      exact absurd (Table.find?_of_mem stored) (by simp [free])

/-- Positions change at most once for an id and for a key in every sequence of requests, and
simulated results stay stored in exactly those that submit no id again which was simulated. -/
theorem replay_safe_iff (start : TradingState) (requests : List TradingRequest) :
    ReplaySafe config policy start requests ↔
      ¬ResubmitsSimulated config policy start requests := by
  constructor
  · rintro safe ⟨before, request, middle, again, after, split, simulated, same⟩
    have stays := safe.stays before request (middle ++ [again]) after (by simp [split]) simulated
    obtain ⟨result, found, status⟩ := stays
    have stored := stored_run config policy (simulated_stored config policy simulated).1 middle
    have whole : (tradingMachine config policy).run start
        (before ++ request :: (middle ++ [again])) = (tradingMachine config policy).next
          ((tradingMachine config policy).run start (before ++ request :: middle)) again := by
      simp
    rw [whole] at found
    have here : request ∈ ((tradingMachine config policy).run start
        (before ++ request :: middle)).repository.requests.rows := by
      simpa using stored
    obtain ⟨rejection, replaced, rejected⟩ := resubmitted_rejected config policy here same
    obtain rfl := Option.some.inj (found.symm.trans replaced)
    rw [status] at rejected
    cases rejected
  · intro never
    refine ⟨fun requestId => ?_, fun key => ?_,
      fun before request middle after split simulated => ?_⟩
    · have stored := timesChanged_le config policy (·.requestId = requestId) start requests
      have single := countP_requestId_le
        ((tradingMachine config policy).run start requests).repository requestId
      omega
    · have stored := timesChanged_le config policy (·.idempotencyKey = some key) start requests
      have single := countP_key_le
        ((tradingMachine config policy).run start requests).repository key
      omega
    · obtain ⟨result, found, status⟩ := (simulated_stored config policy simulated).2
      refine ⟨result, ?_, status⟩
      -- No later request carries the id, so none replaces the result.
      have others : ∀ other ∈ middle, other.requestId ≠ request.requestId := by
        intro other member same
        obtain ⟨left, right, rfl⟩ := List.append_of_mem member
        exact never ⟨before, request, left, other, right ++ after, by simp [split], simulated,
          same⟩
      rw [Machine.run_append, Machine.run_cons]
      exact @Machine.guarded_invariant _ _ _ (tradingMachine config policy)
        (fun _ other => other.requestId ≠ request.requestId)
        (fun state => state.repository.results.find? (resultIdOf request.requestId) = some result)
        (fun state other differs kept => (result_step config policy differs).trans kept) _ middle
        ((tradingMachine config policy).guarded_of_forall (fun other member _ =>
          others other member) _) found

/-- A request to buy a symbol. -/
def sampleBuy : TradingRequest :=
  { requestId := "request-1", intent := .simulateBuy, symbol := "005930", side := some .buy,
    quantity := 1, orderType := .limit, limitPrice := some 100, actorRef := "actor:redacted",
    createdAt := "2026-07-17T00:00:00Z", idempotencyKey := some "key-1",
    priced := fun price is => by cases is; decide }

/-- A simulated order that is submitted again is stored as rejected. -/
theorem resubmitted_order_rejected :
    ¬ReplaySafe {} {} ⟨.empty, .empty⟩ [sampleBuy, sampleBuy] := by
  intro safe
  have simulated : ((tradingMachine {} {}).answer ⟨.empty, .empty⟩ sampleBuy).status =
      .simulated := by decide +kernel
  obtain ⟨result, found, status⟩ := safe.stays [] sampleBuy [sampleBuy] [] rfl simulated
  have stored : ((((tradingMachine {} {}).run ⟨.empty, .empty⟩
      [sampleBuy, sampleBuy]).repository.results.find? (resultIdOf "request-1")).map
        (·.status)) = some .rejected := by decide +kernel
  have same : some result.status = some TradingStatus.rejected :=
    (congrArg (Option.map TradingResult.status) found).symm.trans stored
  rw [status] at same
  cases same

end StrategyLab
