import StrategyLab.Adapters.PaperForward
import StrategyLab.Adapters.TradingReplay
import StrategyLab.Lib.Numeral
import StrategyLab.Lib.Raise

/-! Laws of the paper sessions: what an order comes to, and what a call does to the tables. -/

namespace StrategyLab

open TradingExecutionService

/-- The characters of the id of an observation. -/
theorem paperObservationId_toList (sessionId : String) (number : Nat) :
    (paperObservationId sessionId number).toList =
      "paper-observation:".toList ++ (sessionId.toList ++ ':' :: (Nat.repr number).toList) := by
  unfold paperObservationId
  simp only [toString, String.toList_append, List.append_assoc]
  rfl

/-- The characters of the id of a request. -/
theorem paperRequestId_toList (sessionId : String) (number : Nat) :
    (paperRequestId sessionId number).toList =
      "paper-session:".toList ++ (sessionId.toList ++ ':' :: (Nat.repr number).toList) := by
  unfold paperRequestId
  simp only [toString, String.toList_append, List.append_assoc]
  rfl

/-- The id of an observation determines its session and its number. -/
theorem paperObservationId_injective {first second : String} {n m : Nat}
    (same : paperObservationId first n = paperObservationId second m) :
    first = second ∧ n = m := by
  -- The number has no colon in it, so the last colon is the one before the number.
  have texts := congrArg String.toList same
  rw [paperObservationId_toList, paperObservationId_toList] at texts
  obtain ⟨sessions, numbers⟩ := Numeral.split_last (by decide) (List.append_cancel_left texts)
  exact ⟨String.toList_inj.mp sessions, numbers⟩

/-- The id of a request determines its session and its number. -/
theorem paperRequestId_injective {first second : String} {n m : Nat}
    (same : paperRequestId first n = paperRequestId second m) : first = second ∧ n = m := by
  have texts := congrArg String.toList same
  rw [paperRequestId_toList, paperRequestId_toList] at texts
  obtain ⟨sessions, numbers⟩ := Numeral.split_last (by decide) (List.append_cancel_left texts)
  exact ⟨String.toList_inj.mp sessions, numbers⟩

/-- What the request of an order carries. -/
structure BuiltFor (order : PaperOrder) (number : Nat) (request : TradingRequest) : Prop where
  requestId : request.requestId = paperRequestId order.sessionId number
  key : request.idempotencyKey = some (paperIdempotencyKey order)
  simulated : request.intent = .simulateBuy ∨ request.intent = .simulateSell
  observed : request.createdAt = order.at_

/-- A request that is built carries what its order asks for. -/
theorem buildPaperRequest_eq_ok {order : PaperOrder} {actorRef : String} {number : Nat}
    {request : TradingRequest} (built : buildPaperRequest order actorRef number = .ok request) :
    BuiltFor order number request := by
  unfold buildPaperRequest at built
  split_ifs at built
  all_goals cases built
  all_goals
    constructor
    · rfl
    · rfl
    · simp
    · rfl

/-- A reason is given for a check exactly if the check fails. -/
@[simp] theorem mem_reasonIf {fails : Bool} {reason given : String} :
    given ∈ reasonIf fails reason ↔ fails = true ∧ given = reason := by
  cases fails <;> simp [reasonIf]

/-- A request is taken for a duplicate by the policy exactly if its key was seen. -/
theorem duplicate_mem_validate {policy : TradingRiskPolicy} {request : TradingRequest}
    {account : AccountSnapshot} {positions : List PositionSnapshot} {seen : List String} :
    "duplicate trading request" ∈ (policy.validate request account positions seen).reasons ↔
      ∃ key, request.idempotencyKey = some key ∧ key ≠ "" ∧ key ∈ seen := by
  simp only [TradingRiskPolicy.validate]
  split <;> simp [Option.any_eq_true]

/-- What the policy validates has no reasons against it. -/
theorem validate_status {policy : TradingRiskPolicy} {request : TradingRequest}
    {account : AccountSnapshot} {positions : List PositionSnapshot} {seen : List String} :
    (policy.validate request account positions seen).status = .validated ∧
        (policy.validate request account positions seen).reasons = [] ∨
      (policy.validate request account positions seen).status = .rejected := by
  have decided : (policy.validate request account positions seen).status =
      if (policy.validate request account positions seen).reasons.isEmpty then .validated
      else .rejected := rfl
  rw [decided]
  split
  · rename_i none_
    exact .inl ⟨rfl, List.isEmpty_iff.mp none_⟩
  · exact .inr rfl

variable {config : PaperTradingConfig} {state : TradingState} {request : TradingRequest}

/-- A request is simulated: it is new, and the adapter validates it and does not fail. -/
structure Simulates (config : PaperTradingConfig) (state : TradingState)
    (request : TradingRequest) : Prop where
  fresh : state.repository.addRequest request ≠ none
  validated : (state.adapter.validateRequest config request {}).status = .validated
  works : config.failSimulation = false

/-- What comes of a request to simulate an order. -/
inductive OrderOutcome (config : PaperTradingConfig) (state : TradingState)
    (request : TradingRequest) : TradingResult × TradingState → Prop where
  /-- The request is taken for a duplicate, and nothing is simulated. -/
  | duplicate (result : TradingResult) (taken : state.repository.addRequest request = none)
    (own : result.resultId = resultIdOf request.requestId) (status : result.status = .rejected)
    (reasons : result.decision.reasons = ["duplicate trading request"]) :
    OrderOutcome config state request
      (result, { state with repository := state.repository.addResult result })
  /-- The request is stored, and the policy refuses it. -/
  | refused (result : TradingResult) (repository : TradingRepository)
    (added : state.repository.addRequest request = some repository)
    (own : result.resultId = resultIdOf request.requestId)
    (status : result.status = .rejected ∨ result.status = .blocked)
    (decision : result.decision = state.adapter.validateRequest config request {})
    (rejected : (state.adapter.validateRequest config request {}).status = .rejected) :
    OrderOutcome config state request (result, ⟨repository.addResult result, state.adapter⟩)
  /-- The request is stored, and the adapter fails on it. -/
  | failed (result : TradingResult) (repository : TradingRepository)
    (added : state.repository.addRequest request = some repository)
    (own : result.resultId = resultIdOf request.requestId) (status : result.status = .failed)
    (reasons : result.decision.reasons = ["RuntimeError"]) (fails : config.failSimulation = true) :
    OrderOutcome config state request (result, ⟨repository.addResult result, state.adapter⟩)
  /-- The request is stored, and the adapter simulates its order. -/
  | simulated (result : TradingResult) (repository : TradingRepository)
    (adapter : PaperTradingAdapter)
    (added : state.repository.addRequest request = some repository)
    (own : result.resultId = resultIdOf request.requestId) (status : result.status = .simulated)
    (reasons : result.decision.reasons = [])
    (keys : ∀ key ∈ adapter.idempotencyKeys,
      key ∈ state.adapter.idempotencyKeys ∨ request.idempotencyKey = some key)
    (simulates : Simulates config state request) :
    OrderOutcome config state request (result, ⟨repository.addResult result, adapter⟩)

/-- What the adapter simulates of a validated request. -/
theorem simulateOrder_validated (asked : request.intent = .simulateBuy ∨
    request.intent = .simulateSell) {adapter : PaperTradingAdapter}
    (validated : (adapter.validateRequest config request {}).reasons = []) :
    (config.failSimulation = true ∧
        adapter.simulateOrder config request = (.error "RuntimeError", adapter)) ∨
      config.failSimulation = false ∧ ∃ result next,
        adapter.simulateOrder config request = (.ok result, next) ∧
        result.resultId = resultIdOf request.requestId ∧ result.status = .simulated ∧
        result.decision.reasons = [] ∧ ∀ key ∈ next.idempotencyKeys,
          key ∈ adapter.idempotencyKeys ∨ request.idempotencyKey = some key := by
  simp only [PaperTradingAdapter.validateRequest, TradingRiskPolicy.validate,
    List.append_eq_nil_iff] at validated
  obtain ⟨⟨⟨⟨⟨⟨⟨⟨enabled, -⟩, -⟩, -⟩, named⟩, -⟩, -⟩, -⟩, -⟩ := validated
  have enabled : config.adapterEnabled = true := by
    cases on : config.adapterEnabled <;> simp [reasonIf, on] at enabled ⊢
  have wanted : request.symbol ≠ "" := by
    intro empty
    rcases asked with buy | sell
    · simp [empty, reasonIf, buy] at named
    · simp [empty, reasonIf, sell] at named
  cases fails : config.failSimulation with
  | true => exact .inl ⟨rfl, by simp [PaperTradingAdapter.simulateOrder, fails]⟩
  | false =>
    refine .inr ⟨rfl, ?_⟩
    simp only [PaperTradingAdapter.simulateOrder, fails, enabled, Bool.false_eq_true, if_false,
      reduceCtorEq]
    rw [if_pos ⟨asked, wanted⟩]
    -- The symbol and the time of the request are in their formats, so the position can be written.
    have written (quantity price : ℚ) : PaperTradingAdapter.position request.symbol quantity price
        request.createdAt = .ok ⟨request.symbol, quantity, price, quantity * price,
          request.createdAt⟩ := by
      simp [PaperTradingAdapter.position, request.onSymbol wanted, request.timed]
    rw [written]
    refine ⟨_, _, rfl, rfl, rfl, rfl, ?_⟩
    intro key member
    rcases List.mem_append.mp member with old | new
    · exact .inl old
    · rw [List.mem_filter, Option.mem_toList] at new
      exact .inr new.1

/-- Every execution of a request to simulate an order comes to one of these outcomes. -/
theorem execute_outcome (asked : request.intent = .simulateBuy ∨ request.intent = .simulateSell) :
    OrderOutcome config state request (execute config {} state request) := by
  unfold execute
  split
  · rename_i taken
    exact .duplicate _ taken rfl rfl rfl
  · rename_i repository added
    have notAnalyze : request.intent ≠ .analyze := by rcases asked with buy | sell <;> simp [*]
    have notCancel : request.intent ≠ .cancelSimulatedOrder := by
      rcases asked with buy | sell <;> simp [*]
    rcases @validate_status { ({} : TradingRiskPolicy) with
        adapterEnabled := true && config.adapterEnabled } request PaperTradingAdapter.account
        state.adapter.getPositions state.adapter.idempotencyKeys with ⟨validated, none_⟩ | rejected
    · -- A validated request goes to the adapter.
      have goes : perform config state.adapter request
          (state.adapter.validateRequest config request {}) =
            state.adapter.simulateOrder config request := by
        unfold perform
        rw [if_neg notAnalyze, if_neg notCancel, if_neg]
        exact fun other => by cases validated.symm.trans other
      rw [goes]
      rcases simulateOrder_validated asked none_ with ⟨fails, raised⟩ | ⟨works, result, next,
        done, own, status, reasons, keys⟩
      · rw [raised]
        exact .failed _ _ added rfl rfl rfl fails
      · rw [done]
        refine .simulated _ _ _ added own status reasons keys ⟨?_, validated, works⟩
        rw [added]
        exact Option.some_ne_none _
    · have refused : (perform config state.adapter request
          (state.adapter.validateRequest config request {})) = (.ok (tradingResult request
            (if (state.adapter.validateRequest config request {}).action = .blockLiveExecution
              then .blocked else .rejected)
            ("; ".intercalate (state.adapter.validateRequest config request {}).reasons)
            (some PaperTradingAdapter.account) state.adapter.getPositions
            (state.adapter.validateRequest config request {})), state.adapter) := by
        unfold perform
        exact if_pos rejected
      rw [refused]
      refine .refused _ _ added rfl ?_ rfl rejected
      change (if _ then TradingStatus.blocked else .rejected) = _ ∨
        (if _ then TradingStatus.blocked else .rejected) = _
      split
      · exact .inr rfl
      · exact .inl rfl

/-- A result that says that its request was a duplicate. -/
def TradingResult.Duplicate (result : TradingResult) : Prop :=
  "duplicate trading request" ∈ result.decision.reasons

instance (result : TradingResult) : Decidable result.Duplicate :=
  inferInstanceAs (Decidable (_ ∈ _))

/-- The keys that the adapter has seen are those of stored requests. -/
def TradingState.KeysStored (state : TradingState) : Prop :=
  ∀ key ∈ state.adapter.idempotencyKeys,
    key ∈ state.repository.requests.rows.filterMap (·.idempotencyKey)

/-- A request is said to be a duplicate exactly if its id or its key is taken. -/
theorem execute_duplicate (stored : state.KeysStored)
    (asked : request.intent = .simulateBuy ∨ request.intent = .simulateSell) :
    (execute config {} state request).1.Duplicate ↔ state.repository.addRequest request = none := by
  have outcome := @execute_outcome config state request asked
  generalize execute config {} state request = done at outcome ⊢
  unfold TradingResult.Duplicate
  cases outcome with
  | duplicate result taken own status reasons => simp [reasons, taken]
  | refused result repository added own status decision rejected =>
    simp only [added, reduceCtorEq, iff_false]
    rw [decision]
    intro said
    obtain ⟨key, carries, -, seen⟩ := duplicate_mem_validate.mp said
    -- The key would be that of a stored request, and the request would not have been added.
    have distinct := repository.keysDistinct
    rw [addRequest_rows added, List.filterMap_append] at distinct
    refine (List.nodup_append.mp distinct).2.2 key (stored key seen) key ?_ rfl
    simp [carries]
  | failed result repository added own status reasons fails => simp [reasons, added]
  | simulated result repository adapter added own status reasons keys simulates =>
    simp [reasons, added]

/-- A request is answered as simulated exactly if it is simulated. -/
theorem execute_simulated (asked : request.intent = .simulateBuy ∨ request.intent = .simulateSell) :
    (execute config {} state request).1.status = .simulated ↔ Simulates config state request := by
  have outcome := @execute_outcome config state request asked
  generalize execute config {} state request = done at outcome ⊢
  cases outcome with
  | duplicate result taken own status reasons =>
    simp only [status, reduceCtorEq, false_iff]
    exact fun simulates => simulates.fresh taken
  | refused result repository added own status decision rejected =>
    constructor
    · intro simulated
      rcases status with other | other <;> cases simulated.symm.trans other
    · intro simulates
      cases simulates.validated.symm.trans rejected
  | failed result repository added own status reasons fails =>
    simp only [status, reduceCtorEq, false_iff]
    exact fun simulates => by cases simulates.works.symm.trans fails
  | simulated result repository adapter added own status reasons keys simulates =>
    simp [status, simulates]

/-- Whatever comes of an order is answered under its own id, with one of four statuses. -/
theorem execute_answer (config : PaperTradingConfig) (state : TradingState)
    (asked : request.intent = .simulateBuy ∨ request.intent = .simulateSell) :
    (execute config {} state request).1.resultId = resultIdOf request.requestId ∧
      (execute config {} state request).1.status ∈
        [TradingStatus.simulated, .rejected, .blocked, .failed] := by
  have outcome := @execute_outcome config state request asked
  generalize execute config {} state request = done at outcome ⊢
  cases outcome with
  | duplicate result taken own status reasons => exact ⟨own, by simp [status]⟩
  | refused result repository added own status decision rejected =>
    exact ⟨own, by rcases status with is | is <;> simp [is]⟩
  | failed result repository added own status reasons fails => exact ⟨own, by simp [status]⟩
  | simulated result repository adapter added own status reasons keys simulates =>
    exact ⟨own, by simp [status]⟩

/-- The keys of the adapter stay those of stored requests. -/
theorem execute_keysStored (stored : state.KeysStored)
    (asked : request.intent = .simulateBuy ∨ request.intent = .simulateSell) :
    (execute config {} state request).2.KeysStored := by
  have outcome := @execute_outcome config state request asked
  generalize execute config {} state request = done at outcome ⊢
  -- A request that is added keeps the stored keys, and brings its own.
  have kept {repository : TradingRepository} {key : String}
      (added : state.repository.addRequest request = some repository)
      (known : key ∈ state.repository.requests.rows.filterMap (·.idempotencyKey) ∨
        request.idempotencyKey = some key) :
      key ∈ repository.requests.rows.filterMap (·.idempotencyKey) := by
    rw [addRequest_rows added, List.filterMap_append]
    rcases known with old | carries
    · exact List.mem_append_left _ old
    · exact List.mem_append_right _ (by simp [carries])
  cases outcome with
  | duplicate result taken own status reasons => exact stored
  | refused result repository added own status decision rejected =>
    intro key seen
    have known := kept added (.inl (stored key seen))
    exact known
  | failed result repository added own status reasons fails =>
    intro key seen
    have known := kept added (.inl (stored key seen))
    exact known
  | simulated result repository adapter added own status reasons keys simulates =>
    intro key seen
    have known := kept added ((keys key seen).imp_left (stored key))
    exact known

/-- A status that is never left. -/
def PaperTradingSessionStatus.Ended (status : PaperTradingSessionStatus) : Prop :=
  status = .completed ∨ status = .cancelled

namespace PaperForwardState

variable {state : PaperForwardState} {order : PaperOrder} {actorRef : String}
  {active : ChampionRegistryEntry} {request : TradingRequest}

/-- What holds when an order can be executed. -/
structure Prepared (state : PaperForwardState) (order : PaperOrder)
    (active : ChampionRegistryEntry) (request : TradingRequest) : Prop where
  session : ∃ session, state.sessions.find? order.sessionId = some session ∧
    session.status = .active ∧ session.championVersionId = active.activeVersionId ∧
    session.fingerprint = active.fingerprint
  built : BuiltFor order (state.nextNumber order.sessionId) request

variable {session : PaperTradingSession} {sessionId : String}

/-- A session that is read is one that is stored. -/
theorem getSession_eq_ok :
    state.getSession sessionId = .ok session ↔ state.sessions.find? sessionId = some session := by
  unfold getSession
  cases state.sessions.find? sessionId <;> simp

/-- An order is prepared only for an active session of the active champion. -/
theorem prepare_eq_ok (prepared : state.prepare order actorRef = .ok (active, request)) :
    Prepared state order active request := by
  unfold prepare at prepared
  obtain ⟨session, got, prepared⟩ := Raise.bind_eq_ok.mp prepared
  obtain ⟨_, allowed, prepared⟩ := Raise.bind_eq_ok.mp prepared
  obtain ⟨champion, _, prepared⟩ := Raise.bind_eq_ok.mp prepared
  obtain ⟨_, same, prepared⟩ := Raise.bind_eq_ok.mp prepared
  obtain ⟨asked, built, prepared⟩ := Raise.bind_eq_ok.mp prepared
  obtain ⟨rfl, rfl⟩ := Prod.mk.inj (Except.ok.inj prepared)
  simp only [requireStatus, require_eq_ok, List.mem_singleton, decide_eq_true_eq] at allowed
  simp only [requireSameChampion, require_eq_ok, Bool.and_eq_true, decide_eq_true_eq] at same
  exact ⟨⟨session, getSession_eq_ok.mp got, allowed, same.1, same.2⟩,
    buildPaperRequest_eq_ok built⟩

/-- An order of a session that is not active is refused, and nothing changes. -/
theorem simulateOrder_inactive {config : PaperTradingConfig} {lostAfter : Option PaperCommit}
    (found : state.sessions.find? order.sessionId = some session)
    (inactive : session.status ≠ .active) :
    ∃ raised, state.simulateOrder config order actorRef lostAfter =
      (some (.error raised), state) := by
  cases prepared : state.prepare order actorRef with
  | error raised => exact ⟨raised, by simp [simulateOrder, prepared]⟩
  | ok both =>
    obtain ⟨other, same, is, -⟩ := (prepare_eq_ok prepared).session
    obtain rfl := Option.some.inj (found.symm.trans same)
    exact absurd is inactive

/-- What a change leaves of a session. -/
structure Continues (old new : PaperTradingSession) : Prop where
  sessionId : new.sessionId = old.sessionId
  championVersionId : new.championVersionId = old.championVersionId
  fingerprint : new.fingerprint = old.fingerprint
  errors : new.errors = old.errors

/-- What a call that neither simulates an order nor summarizes a session does to the tables. -/
inductive Moved (state : PaperForwardState) : PaperForwardState → Prop where
  | same : Moved state state
  | restarted : Moved state state.restarted
  | promoted (champions : ChampionRegistryRepository) : Moved state { state with champions }
  | created (session : PaperTradingSession) (sessions : Table PaperTradingSession.sessionId)
    (inserted : state.sessions.insert? session = some sessions) (clean : session.errors = []) :
    Moved state { state with sessions }
  | changed (old new : PaperTradingSession)
    (found : state.sessions.find? old.sessionId = some old) (open_ : ¬old.status.Ended)
    (continues : Continues old new) :
    Moved state { state with sessions := state.sessions.assign new }

variable {allowed : List PaperTradingSessionStatus}
  {change : PaperTradingSession → PaperTradingSession}

/-- A session that is changed has an allowed status, and the change is made to it. -/
theorem changed_eq_ok {sameChampion : Bool} {updated : PaperTradingSession}
    (done : state.changed sessionId allowed sameChampion change = .ok updated) :
    ∃ session, state.sessions.find? sessionId = some session ∧ session.status ∈ allowed ∧
      updated = change session := by
  unfold changed at done
  obtain ⟨session, got, done⟩ := Raise.bind_eq_ok.mp done
  obtain ⟨_, may, done⟩ := Raise.bind_eq_ok.mp done
  simp only [requireStatus, require_eq_ok, decide_eq_true_eq] at may
  -- What is checked after the status can only raise.
  have last : ((change session).validate >>= fun _ => pure (change session)) = .ok updated := by
    cases sameChampion with
    | false => exact done
    | true =>
      obtain ⟨_, _, done⟩ := Raise.bind_eq_ok.mp done
      obtain ⟨_, _, done⟩ := Raise.bind_eq_ok.mp done
      exact done
  obtain ⟨_, _, done⟩ := Raise.bind_eq_ok.mp last
  exact ⟨session, getSession_eq_ok.mp got, may, (Except.ok.inj done).symm⟩

/-- A change that is allowed only before the end moves the sessions. -/
theorem moved_store {sameChampion : Bool}
    (before : ∀ status ∈ allowed, ¬status.Ended) (continues : ∀ old, Continues old (change old)) :
    Moved state (state.store (state.changed sessionId allowed sameChampion change)).2 := by
  unfold store
  split
  · exact .same
  · rename_i session done
    obtain ⟨old, found, may, rfl⟩ := changed_eq_ok done
    obtain rfl := Table.key_of_find? found
    exact .changed old (change old) found (before _ may) (continues old)

/-- A session that is created has no errors yet. -/
theorem moved_createSession (sessionId slot : String)
    (championVersionId fingerprint : Option String) (createdAt : String) :
    Moved state (state.createSession sessionId slot championVersionId fingerprint createdAt).2 := by
  unfold createSession
  split
  · exact .same
  · rename_i session sessions made
    obtain ⟨active, -, made⟩ := Raise.bind_eq_ok.mp made
    obtain ⟨_, _, made⟩ := Raise.bind_eq_ok.mp made
    obtain ⟨_, _, made⟩ := Raise.bind_eq_ok.mp made
    obtain ⟨_, _, made⟩ := Raise.bind_eq_ok.mp made
    split at made
    · cases made
    · rename_i grown inserted
      obtain ⟨rfl, rfl⟩ := Prod.mk.inj (Except.ok.inj made)
      exact .created _ _ inserted rfl

/-- A session is started only before its end. -/
theorem moved_start (sessionId at_ : String) : Moved state (state.start sessionId at_).2 := by
  unfold start
  split
  · exact .same
  · split
    · exact .same
    · exact moved_store (by simp [PaperTradingSessionStatus.Ended]) fun _ => ⟨rfl, rfl, rfl, rfl⟩

/-- A session is paused only before its end. -/
theorem moved_pause (sessionId : String) : Moved state (state.pause sessionId).2 :=
  moved_store (by simp [PaperTradingSessionStatus.Ended]) fun _ => ⟨rfl, rfl, rfl, rfl⟩

/-- A session is resumed only before its end. -/
theorem moved_resume (sessionId : String) : Moved state (state.resume sessionId).2 :=
  moved_store (by simp [PaperTradingSessionStatus.Ended]) fun _ => ⟨rfl, rfl, rfl, rfl⟩

/-- A session is cancelled only before its end. -/
theorem moved_cancel (sessionId at_ : String) : Moved state (state.cancel sessionId at_).2 :=
  moved_store (by simp [PaperTradingSessionStatus.Ended]) fun _ => ⟨rfl, rfl, rfl, rfl⟩

/-- The state after a session is completed and before it is summarized. -/
def closed (state : PaperForwardState) (session : PaperTradingSession) : PaperForwardState :=
  { state with sessions := state.sessions.assign session }

/-- The state after a session is summarized. -/
def summarized (state : PaperForwardState) (session : PaperTradingSession)
    (generatedAt : String) : PaperForwardState :=
  { state with summaries := state.summaries.assign (state.summarize session generatedAt) }

/-- A session that is completed moves to its end. -/
theorem completed_eq_ok {sessionId at_ : String}
    (done : state.completed sessionId at_ = .ok session) :
    ∃ old, state.sessions.find? old.sessionId = some old ∧ ¬old.status.Ended ∧
      Continues old session ∧ session.sessionId = sessionId ∧ session.status = .completed := by
  obtain ⟨old, found, may, rfl⟩ := changed_eq_ok done
  have named := Table.key_of_find? found
  refine ⟨old, by rw [named]; exact found, ?_, ⟨rfl, rfl, rfl, rfl⟩, named, rfl⟩
  rcases List.mem_cons.mp may with is | rest
  · simp [is, PaperTradingSessionStatus.Ended]
  · simp [List.mem_singleton.mp rest, PaperTradingSessionStatus.Ended]

/-- A completion that can be made closes the session, and then summarizes it. -/
theorem complete_of_ok {sessionId at_ : String} {lost : Bool}
    (done : state.completed sessionId at_ = .ok session) :
    (state.complete sessionId at_ lost).2 =
      if lost then (state.closed session).restarted
      else (state.closed session).summarized session at_ := by
  obtain ⟨-, -, -, -, named, -⟩ := completed_eq_ok done
  have found : (state.closed session).sessions.find? sessionId = some session := by
    simp [closed, Table.find?_assign, named]
  unfold complete
  rw [done]
  cases lost with
  | true => rfl
  | false =>
    change ((state.closed session).summary sessionId at_).2 = _
    simp only [summary, found]
    rfl

/-- A completion that cannot be made changes nothing. -/
theorem complete_of_error {sessionId at_ : String} {lost : Bool} {raised : ServiceError}
    (done : state.completed sessionId at_ = .error raised) :
    (state.complete sessionId at_ lost).2 = state := by
  unfold complete
  rw [done]

/-- A session that is found is summarized. -/
theorem summary_of_found {sessionId generatedAt : String}
    (found : state.sessions.find? sessionId = some session) :
    (state.summary sessionId generatedAt).2 = state.summarized session generatedAt := by
  simp only [summary, found]
  rfl

/-- A session that is not found is not summarized. -/
theorem summary_of_missing {sessionId generatedAt : String}
    (missing : state.sessions.find? sessionId = none) :
    (state.summary sessionId generatedAt).2 = state := by
  simp only [summary, missing]

/-- A session that has ended stays as it is, whatever the call. -/
theorem ended_moved {next : PaperForwardState}
    (moved : Moved state next) (found : state.sessions.find? session.sessionId = some session)
    (ended : session.status.Ended) : next.sessions.find? session.sessionId = some session := by
  cases moved with
  | same => exact found
  | restarted => exact found
  | promoted champions => exact found
  | created other sessions inserted clean => exact Table.find?_insert?_of_found inserted found
  | changed old new there open_ continues =>
    rw [Table.find?_assign, if_neg]
    · exact found
    · intro same
      rw [continues.sessionId] at same
      rw [same] at found
      obtain rfl := Option.some.inj (there.symm.trans found)
      exact open_ ended

/-- Observing a result changes the observations only. -/
theorem observe_eq_ok {result : TradingResult} {observed : PaperForwardState}
    (done : state.observe order result = .ok observed) :
    ∃ observations, { state with observations } = observed := by
  unfold observe at done
  obtain ⟨_, _, done⟩ := Raise.bind_eq_ok.mp done
  split at done
  · cases done
  · rename_i observations inserted
    exact ⟨observations, Except.ok.inj done⟩

/-- The sessions do not change while an order is simulated. -/
theorem simulateOrder_sessions (config : PaperTradingConfig) (state : PaperForwardState)
    (order : PaperOrder) (actorRef : String) (lostAfter : Option PaperCommit) :
    (state.simulateOrder config order actorRef lostAfter).2.sessions = state.sessions ∧
      (state.simulateOrder config order actorRef lostAfter).2.summaries = state.summaries := by
  have placed (request : TradingRequest) : (state.place order request).sessions = state.sessions ∧
      (state.place order request).summaries = state.summaries := by
    unfold place
    split <;> exact ⟨rfl, rfl⟩
  unfold simulateOrder
  split
  · exact ⟨rfl, rfl⟩
  · split
    · exact placed _
    · dsimp only
      split
      · exact ⟨rfl, rfl⟩
      · split
        · exact ⟨rfl, rfl⟩
        · rename_i observed done
          obtain ⟨_, rfl⟩ := observe_eq_ok done
          split <;> exact ⟨rfl, rfl⟩

end PaperForwardState

end StrategyLab
