import StrategyLab.Adapters.PaperForwardLaws
import StrategyLab.Adapters.StrategyExecution

/-! Executed plans: one order for each, outcomes that last, and plans that can be run. -/

namespace StrategyLab

/-- The id of a run determines its plan. -/
theorem executionRunId_injective {left right : String}
    (same : executionRunId left = executionRunId right) : left = right :=
  (String.append_right_inj _).mp same

/-- The id of an order determines its plan. -/
theorem executionOrderId_injective {left right : String}
    (same : executionOrderId left = executionOrderId right) : left = right :=
  (String.append_right_inj _).mp same

/-- The id of an order is not empty. -/
theorem executionOrderId_ne_empty (planId : String) : executionOrderId planId ≠ "" := by
  intro empty
  unfold executionOrderId at empty
  rw [String.append_eq_empty_iff] at empty
  exact absurd empty.1 (by decide)

namespace StrategyExecutionState

/-- The order of a plan can be built exactly if there are an actor and a time. -/
theorem buildOrder_cases (planId actorRef at_ : String) :
    ((actorRef = "" ∨ isoUtc at_ = false) ∧
        ∃ raised, buildOrder planId actorRef at_ = .error raised) ∨
      actorRef ≠ "" ∧ isoUtc at_ = true ∧
        ∃ request, buildOrder planId actorRef at_ = .ok request ∧
          request.requestId = executionOrderId planId ∧
          request.idempotencyKey = some (executionOrderId planId) ∧
          request.intent = .simulateBuy ∧
          (PaperTradingAdapter.empty.validateRequest {} request {}).status = .validated := by
  unfold buildOrder
  by_cases actor : actorRef = ""
  · rw [dif_neg (by simp [actor])]
    exact .inl ⟨.inl actor, _, rfl⟩
  · rw [dif_pos ⟨executionOrderId_ne_empty planId, actor⟩]
    by_cases timed : isoUtc at_ = true
    · rw [dif_pos timed]
      refine .inr ⟨actor, timed, _, rfl, rfl, rfl, rfl, ?_⟩
      -- One share of PAPER for one is within every bound.
      simp only [PaperTradingAdapter.validateRequest, TradingRiskPolicy.validate]
      have symbol : symbolPattern "PAPER" = true := by decide
      simp [reasonIf, symbol, notional, quantityAfter, PaperTradingAdapter.getPositions,
        PaperTradingAdapter.empty, PaperTradingAdapter.account]
    · rw [dif_neg timed]
      exact .inl ⟨.inr (by simpa using timed), _, rfl⟩

/-- What the tables have to do with each other. -/
structure Sound (state : StrategyExecutionState) : Prop where
  planned : ∀ plan ∈ state.plans.rows, plan.planId = executionPlanId plan.requestId ∧
    (plan.status = .blocked ∨ plan.status = .ready ∧ plan.mode = .paper)
  named : ∀ run ∈ state.runs.rows, run.runId = executionRunId run.planId
  ended : ∀ run ∈ state.runs.rows, run.status = .completed ∧ run.mode ≠ .live ∨
    run.status = .blocked ∨ run.status = .failed
  kept : ∀ run ∈ state.runs.rows, ∃ plan, state.plans.find? run.planId = some plan
  bought : ∀ run ∈ state.runs.rows, run.status = .completed → ∃ request ∈
    state.trading.requests.rows, request.requestId = executionOrderId run.planId
  stored : ∀ request ∈ state.trading.requests.rows, ∃ planId ∈ state.ordered,
    request.requestId = executionOrderId planId ∧
    request.idempotencyKey = some (executionOrderId planId)
  once : state.ordered.Nodup
  ordered : ∀ planId ∈ state.ordered, ∃ request ∈ state.trading.requests.rows,
    request.requestId = executionOrderId planId

variable {policy : StrategyExecutionPolicy} {state : StrategyExecutionState}

/-- No run is under way when another one starts. -/
theorem Sound.no_active_run (sound : Sound state) (championVersionId : String)
    (mode : StrategyExecutionMode) : state.hasActiveRun championVersionId mode = false := by
  unfold hasActiveRun
  rw [List.any_eq_false]
  intro run member
  rcases sound.ended run member with ⟨is, -⟩ | is | is <;> simp [is]

/-- The order of a plan is stored: one was simulated, or refused, before. -/
def OrderStored (state : StrategyExecutionState) (planId : String) : Prop :=
  ∃ request ∈ state.trading.requests.rows, request.requestId = executionOrderId planId

/-- The champion of a plan is active in a slot. -/
def ActiveIn (state : StrategyExecutionState) (slot : String) (plan : StrategyExecutionPlan) :
    Prop :=
  ∃ active, state.champions.getActive slot = some active ∧
    active.activeVersionId = plan.championVersionId ∧ active.fingerprint = plan.fingerprint

/-- The champion of a plan is active in the slot that runs look at. -/
def Current (state : StrategyExecutionState) (plan : StrategyExecutionPlan) : Prop :=
  state.ActiveIn defaultChampionSlot plan

/-- The champion of a plan is active in the slot that the plan was made for. -/
def Own (state : StrategyExecutionState) (plan : StrategyExecutionPlan) : Prop :=
  ∃ request, state.requests.find? plan.requestId = some request ∧
    state.ActiveIn request.slot plan

/-- An order is taken for a duplicate exactly if it is stored. -/
theorem Sound.addRequest_eq_none_iff (sound : Sound state) {planId : String}
    {request : TradingRequest} (id : request.requestId = executionOrderId planId)
    (key : request.idempotencyKey = some (executionOrderId planId)) :
    state.trading.addRequest request = none ↔ state.OrderStored planId := by
  constructor
  · intro refused
    rcases @addRequest_spec state.trading request with ⟨-, busy | ⟨old, member, same⟩⟩ |
      ⟨grown, added, -⟩
    · simp only [TradingRepository.KeyFree, key, Option.mem_def, Option.some.injEq, forall_eq',
        not_not, List.mem_filterMap] at busy
      obtain ⟨old, member, carries⟩ := busy
      obtain ⟨other, -, named, keyed⟩ := sound.stored old member
      obtain rfl := executionOrderId_injective (Option.some.inj (keyed.symm.trans carries))
      exact ⟨old, member, named⟩
    · exact ⟨old, member, same.trans id⟩
    · rw [refused] at added
      cases added
  · intro taken
    obtain ⟨old, member, same⟩ := taken
    cases added : state.trading.addRequest request with
    | none => rfl
    | some grown =>
      have distinct := grown.requests.distinct
      rw [addRequest_rows added, List.map_append] at distinct
      refine absurd rfl ((List.nodup_append.mp distinct).2.2 old.requestId
        (List.mem_map.mpr ⟨old, member, rfl⟩) old.requestId ?_)
      simp [same, id]

/-- What becomes of a run. -/
inductive RunOutcome (state : StrategyExecutionState) (planId actorRef at_ : String) :
    Except ServiceError StrategyExecutionRun × StrategyExecutionState → Prop where
  /-- There is no such plan. -/
  | missing (raised : ServiceError) (none_ : state.plans.find? planId = none) :
    RunOutcome state planId actorRef at_ (.error raised, state)
  /-- The plan is blocked, or its champion is not the one that runs look at. -/
  | blocked (plan : StrategyExecutionPlan) (run : StrategyExecutionRun)
    (found : state.plans.find? planId = some plan)
    (not_ : ¬state.Current plan ∨ plan.status = .blocked) (id : run.runId = executionRunId planId)
    (owner : run.planId = planId) (status : run.status = .blocked) :
    RunOutcome state planId actorRef at_ (.ok run, state.addRun run)
  /-- The order of the plan cannot be built. -/
  | refused (plan : StrategyExecutionPlan) (raised : ServiceError)
    (found : state.plans.find? planId = some plan) (current : state.Current plan)
    (ready : plan.status = .ready) (bad : actorRef = "" ∨ isoUtc at_ = false) :
    RunOutcome state planId actorRef at_ (.error raised, state)
  /-- The order is simulated, and the run is complete. -/
  | completed (plan : StrategyExecutionPlan) (run : StrategyExecutionRun)
    (trading : TradingRepository) (request : TradingRequest)
    (found : state.plans.find? planId = some plan) (current : state.Current plan)
    (ready : plan.status = .ready) (paper : plan.mode = .paper)
    (good : actorRef ≠ "" ∧ isoUtc at_ = true) (fresh : ¬state.OrderStored planId)
    (rows : trading.requests.rows = state.trading.requests.rows ++ [request])
    (named : request.requestId = executionOrderId planId)
    (keyed : request.idempotencyKey = some (executionOrderId planId))
    (id : run.runId = executionRunId planId) (owner : run.planId = planId)
    (mode : run.mode = .paper) (status : run.status = .completed) :
    RunOutcome state planId actorRef at_ (.ok run,
      { state with trading, ordered := state.ordered ++ [planId] }.addRun run)
  /-- The order is a duplicate, and the run has failed. -/
  | failed (plan : StrategyExecutionPlan) (run : StrategyExecutionRun)
    (trading : TradingRepository) (found : state.plans.find? planId = some plan)
    (current : state.Current plan) (ready : plan.status = .ready)
    (good : actorRef ≠ "" ∧ isoUtc at_ = true) (taken : state.OrderStored planId)
    (rows : trading.requests.rows = state.trading.requests.rows)
    (id : run.runId = executionRunId planId) (owner : run.planId = planId)
    (status : run.status = .failed) :
    RunOutcome state planId actorRef at_ (.ok run, { state with trading }.addRun run)

/-- Every run becomes one of these. -/
theorem run_outcome (sound : Sound state) (planId actorRef at_ : String) :
    RunOutcome state planId actorRef at_ (state.run planId actorRef at_) := by
  unfold run
  cases found : state.plans.find? planId with
  | none => exact .missing _ found
  | some plan =>
    obtain rfl := Table.key_of_find? found
    have member := (Table.find?_eq_some_iff.mp found).1
    have current_iff : ((state.champions.getActive defaultChampionSlot).any fun active =>
        active.activeVersionId = plan.championVersionId &&
          active.fingerprint = plan.fingerprint) = true ↔ state.Current plan := by
      unfold Current ActiveIn
      cases state.champions.getActive defaultChampionSlot <;> simp
    dsimp only
    split
    · rename_i stale
      refine .blocked plan _ found (.inl fun current => ?_) rfl rfl rfl
      rw [current_iff.mpr current] at stale
      cases stale
    · rename_i now
      have current := current_iff.mp (by simpa using now)
      split
      · rename_i blocked
        exact .blocked plan _ found (.inr blocked) rfl rfl rfl
      · rename_i unblocked
        obtain ⟨ready, paper⟩ := (sound.planned plan member).2.resolve_left unblocked
        rw [sound.no_active_run, if_neg (by simp), if_neg (by simp [paper])]
        rcases buildOrder_cases plan.planId actorRef at_ with ⟨bad, raised, done⟩ |
          ⟨actor, timed, request, done, id, key, intent, validated⟩
        · rw [done]
          exact .refused plan raised found current ready bad
        · rw [done]
          have asked : request.intent = .simulateBuy ∨ request.intent = .simulateSell := .inl intent
          dsimp only
          -- A new adapter validates the order, so only a stored one is not simulated.
          have outcome : OrderOutcome {} ⟨state.trading, .empty⟩ request
              (TradingExecutionService.execute {} {} ⟨state.trading, .empty⟩ request) :=
            execute_outcome asked
          generalize TradingExecutionService.execute {} {} ⟨state.trading, .empty⟩ request =
            answered at outcome ⊢
          cases outcome with
          | duplicate result taken own status reasons =>
            simp only [status, reduceCtorEq, decide_false, Bool.false_eq_true, if_false]
            exact .failed plan _ _ found current ready ⟨actor, timed⟩
              ((sound.addRequest_eq_none_iff id key).mp taken) rfl rfl rfl rfl
          | refused result repository added own status decision rejected =>
            cases validated.symm.trans rejected
          | failed result repository added own status reasons fails => cases fails
          | simulated result repository adapter added own status reasons keys simulates =>
            simp only [status, decide_true, if_true]
            have rows := addRequest_rows added
            refine .completed plan _ _ request found current ready paper ⟨actor, timed⟩
              (fun taken => ?_) rows id key rfl rfl paper rfl
            exact simulates.fresh ((sound.addRequest_eq_none_iff id key).mpr taken)

variable {request : StrategyExecutionRequest}

/-- Only a request for paper is decided to be ready. -/
theorem decision_ready
    {decided : StrategyExecutionDecision} (made : state.decision policy request = .ok decided)
    (ready : decided.status = .ready) : request.mode = .paper := by
  unfold decision at made
  cases mode : request.mode with
  | paper => rfl
  | disabled =>
    simp only [mode] at made
    obtain rfl := Except.ok.inj made
    cases ready
  | live =>
    -- Every decision about a live request is to block it.
    simp only [mode] at made
    obtain ⟨loaded, -, made⟩ := Raise.bind_eq_ok.mp made
    cases loaded with
    | none =>
      obtain rfl := Except.ok.inj made
      cases ready
    | some report =>
      cases status : report.status <;> simp only [status] at made
      case liveEligible =>
        split at made <;> (obtain rfl := Except.ok.inj made; cases ready)
      all_goals
        obtain rfl := Except.ok.inj made
        cases ready

variable {plan : StrategyExecutionPlan}

/-- A plan is ready only on paper, and is stored under the id of its request. -/
theorem planned_spec (done : state.planned policy request = .ok plan) :
    plan.planId = executionPlanId plan.requestId ∧
      (plan.status = .blocked ∨ plan.status = .ready ∧ plan.mode = .paper) := by
  -- Every plan is the one of a decision, and only the decision for paper is to be ready.
  have of_decision : ∀ championVersionId strategyRef fingerprint decision,
      (decision.status = .ready → request.mode = .paper) →
      (planOf policy request championVersionId strategyRef fingerprint decision).planId =
          executionPlanId request.requestId ∧
        ((planOf policy request championVersionId strategyRef fingerprint decision).status =
            .blocked ∨
          (planOf policy request championVersionId strategyRef fingerprint decision).status =
              .ready ∧
            request.mode = .paper) := by
    intro championVersionId strategyRef fingerprint decision only
    refine ⟨rfl, ?_⟩
    by_cases ready : decision.status = .ready
    · exact .inr ⟨by simp [planOf, ready], only ready⟩
    · exact .inl (by simp [planOf, ready])
  unfold planned at done
  obtain ⟨-, -, done⟩ := Raise.bind_eq_ok.mp done
  split at done
  · obtain ⟨-, -, done⟩ := Raise.bind_eq_ok.mp done
    obtain rfl := Except.ok.inj done
    exact of_decision _ _ _ _ (by simp)
  · split at done
    · obtain rfl := Except.ok.inj done
      exact of_decision _ _ _ _ (by simp)
    · split at done
      · obtain rfl := Except.ok.inj done
        exact of_decision _ _ _ _ (by simp)
      · obtain ⟨decided, made, done⟩ := Raise.bind_eq_ok.mp done
        obtain rfl := Except.ok.inj done
        refine of_decision _ _ _ _ fun ready => ?_
        exact decision_ready made ready

/-- Before the first call nothing is stored. -/
theorem sound_initial (champions : ChampionRegistryRepository)
    (revalidations : Option PaperRevalidationReports) :
    Sound (initial champions revalidations) where
  planned _ member := by cases member
  named _ member := by cases member
  ended _ member := by cases member
  kept _ member := by cases member
  bought _ member := by cases member
  stored _ member := by cases member
  once := List.nodup_nil
  ordered _ member := by cases member

/-- A plan that is stored keeps the tables sound. -/
theorem Sound.addPlan (sound : Sound state) (request : StrategyExecutionRequest)
    (done : state.planned policy request = .ok plan) :
    Sound (state.addPlan request plan) where
  planned other member := by
    rcases Table.mem_replace member with rfl | old
    · exact planned_spec done
    · exact sound.planned other old
  named := sound.named
  ended := sound.ended
  kept run member := by
    obtain ⟨old, found⟩ := sound.kept run member
    by_cases same : run.planId = plan.planId
    · exact ⟨plan, by simp [StrategyExecutionState.addPlan, same]⟩
    · exact ⟨old, by
        simpa [StrategyExecutionState.addPlan, Table.find?_replace, same] using found⟩
  bought := sound.bought
  stored := sound.stored
  once := sound.once
  ordered := sound.ordered

/-- A run that is stored for a plan keeps the tables sound. -/
theorem Sound.addRun (sound : Sound state)
    {run : StrategyExecutionRun} (found : state.plans.find? run.planId = some plan)
    (id : run.runId = executionRunId run.planId)
    (ended : run.status = .completed ∧ run.mode ≠ .live ∨ run.status = .blocked ∨
      run.status = .failed)
    (bought : run.status = .completed → state.OrderStored run.planId) :
    Sound (state.addRun run) where
  planned := sound.planned
  named other member := by
    rcases Table.mem_replace member with rfl | old
    · exact id
    · exact sound.named other old
  ended other member := by
    rcases Table.mem_replace member with rfl | old
    · exact ended
    · exact sound.ended other old
  kept other member := by
    rcases Table.mem_replace member with rfl | old
    · exact ⟨plan, found⟩
    · exact sound.kept other old
  bought other member := by
    rcases Table.mem_replace member with rfl | old
    · exact bought
    · exact sound.bought other old
  stored := sound.stored
  once := sound.once
  ordered := sound.ordered

/-- Everything that happens keeps the tables sound. -/
theorem sound_step (op : StrategyExecutionOp) (sound : Sound state) :
    Sound ((strategyExecutionMachine policy).next state op) := by
  cases op with
  | plan request =>
    change Sound (state.plan policy request).2
    unfold plan
    cases done : state.planned policy request with
    | error raised => exact sound
    | ok plan => exact sound.addPlan request done
  | run planId actorRef at_ =>
    change Sound (state.run planId actorRef at_).2
    have outcome := run_outcome sound planId actorRef at_
    generalize state.run planId actorRef at_ = answered at outcome ⊢
    cases outcome with
    | missing raised none_ => exact sound
    | refused plan raised found current ready bad => exact sound
    | blocked plan run found not_ id owner status =>
      rw [← owner] at found id
      exact sound.addRun found id (.inr (.inl status)) (by simp [status])
    | completed plan run trading request found current ready paper good fresh rows named keyed id
        owner mode status =>
      -- The new order is stored before its run is.
      have bought : Sound { state with trading, ordered := state.ordered ++ [planId] } :=
        { planned := sound.planned
          named := sound.named
          ended := sound.ended
          kept := sound.kept
          bought := by
            intro other member is
            obtain ⟨old, there, same⟩ := sound.bought other member is
            exact ⟨old, by rw [rows]; exact List.mem_append_left _ there, same⟩
          stored := by
            intro other member
            rw [rows, List.mem_append, List.mem_singleton] at member
            rcases member with old | rfl
            · obtain ⟨already, there, both⟩ := sound.stored other old
              exact ⟨already, List.mem_append_left _ there, both⟩
            · exact ⟨planId, by simp, named, keyed⟩
          once := by
            refine List.nodup_append.mpr ⟨sound.once, List.nodup_singleton _, ?_⟩
            intro already there _ is same
            rw [List.mem_singleton] at is
            subst is same
            exact fresh (sound.ordered already there)
          ordered := by
            intro already there
            rw [List.mem_append, List.mem_singleton] at there
            rcases there with old | rfl
            · obtain ⟨other, member, same⟩ := sound.ordered already old
              exact ⟨other, by rw [rows]; exact List.mem_append_left _ member, same⟩
            · exact ⟨request, by rw [rows]; simp, named⟩ }
      rw [← owner] at found id
      refine bought.addRun found id (.inl ⟨status, by simp [mode]⟩) fun _ => ?_
      exact ⟨request, by rw [rows]; simp, named.trans (by rw [owner])⟩
    | failed plan run trading found current ready good taken rows id owner status =>
      have same : Sound { state with trading } :=
        { sound with
          bought := by simpa only [rows] using sound.bought
          stored := by simpa only [rows] using sound.stored
          ordered := by simpa only [rows] using sound.ordered }
      rw [← owner] at found id
      exact same.addRun found id (.inr (.inr status)) (by simp [status])
  | promote champions => exact { sound with }
  | revalidate revalidations => exact { sound with }

/-- An order is stored exactly if it was simulated. -/
theorem Sound.orderStored_iff (sound : Sound state) (planId : String) :
    state.OrderStored planId ↔ planId ∈ state.ordered := by
  constructor
  · intro taken
    obtain ⟨request, member, same⟩ := taken
    obtain ⟨other, there, named, -⟩ := sound.stored request member
    rwa [executionOrderId_injective (same.symm.trans named)]
  · intro there
    exact sound.ordered planId there

/-- A completed run that is stored stays completed in a later state. -/
def StaysCompleted (state later : StrategyExecutionState) : Prop :=
  ∀ run ∈ state.runs.rows, run.status = .completed →
    ∃ stored ∈ later.runs.rows, stored.runId = run.runId ∧ stored.status = .completed

/-- A completed run stays, and a ready plan of the active champion of its own slot completes. -/
structure Kept (policy : StrategyExecutionPolicy) (state : StrategyExecutionState)
    (op : StrategyExecutionOp) : Prop where
  stays : state.StaysCompleted ((strategyExecutionMachine policy).next state op)
  runnable : ∀ planId actorRef at_ plan, op = .run planId actorRef at_ →
    state.plans.find? planId = some plan → plan.status = .ready → state.Own plan →
    planId ∉ state.ordered → actorRef ≠ "" → isoUtc at_ = true →
    ∃ run, (state.run planId actorRef at_).1 = .ok run ∧ run.status = .completed

/-- A plan that has completed is not run again, unless its order cannot be built; and the champion
of a ready plan is also active in the slot that runs look at. -/
def Clear (state : StrategyExecutionState) : StrategyExecutionOp → Prop
  | .run planId actorRef at_ =>
    (∀ run ∈ state.runs.rows, run.planId = planId → run.status = .completed →
      ∀ plan, state.plans.find? planId = some plan →
        state.Current plan ∧ plan.status = .ready ∧ (actorRef = "" ∨ isoUtc at_ = false)) ∧
    ∀ plan, state.plans.find? planId = some plan → plan.status = .ready → state.Own plan →
      planId ∉ state.ordered → actorRef ≠ "" → isoUtc at_ = true → state.Current plan
  | _ => True

/-- A state with the same runs keeps those that are completed. -/
theorem StaysCompleted.of_runs {later : StrategyExecutionState}
    (same : later.runs = state.runs) : state.StaysCompleted later := by
  intro run member completed
  exact ⟨run, by rw [same]; exact member, rfl, completed⟩

/-- Runs that stay completed over two stretches stay so over both. -/
theorem StaysCompleted.trans {middle later : StrategyExecutionState}
    (first : state.StaysCompleted middle) (second : middle.StaysCompleted later) :
    state.StaysCompleted later := by
  intro run member completed
  obtain ⟨stored, there, same, is⟩ := first run member completed
  obtain ⟨last, there, again, is⟩ := second stored there is
  exact ⟨last, there, again.trans same, is⟩

/-- A run that is stored keeps the completed runs exactly if it is completed, or there was no
completed run of its plan. -/
theorem Sound.staysCompleted_addRun_iff (sound : Sound state)
    {later : StrategyExecutionState} (same : later.runs = state.runs)
    {run : StrategyExecutionRun} (id : run.runId = executionRunId run.planId) :
    state.StaysCompleted (later.addRun run) ↔ run.status = .completed ∨
      ∀ old ∈ state.runs.rows, old.planId = run.planId → old.status ≠ .completed := by
  have rows : (later.addRun run).runs = state.runs.replace run := by
    rw [← same]
    rfl
  constructor
  · intro stays
    by_cases completed : run.status = .completed
    · exact .inl completed
    · refine .inr fun old member owner is => ?_
      obtain ⟨stored, there, named, is⟩ := stays old member is
      have found := Table.find?_of_mem there
      -- The run that was stored over the old one is not completed.
      rw [rows, Table.find?_replace, if_pos] at found
      · obtain rfl := Option.some.inj found
        exact completed is
      · rw [named, sound.named old member, owner, id]
  · intro either old member completed
    by_cases owner : old.planId = run.planId
    · rcases either with is | others
      · refine ⟨run, ?_, ?_, is⟩
        · rw [rows]
          exact (Table.find?_eq_some_iff.mp (Table.find?_replace_self _ _)).1
        · rw [id, sound.named old member, owner]
      · exact absurd completed (others old member owner)
    · refine ⟨old, ?_, rfl, completed⟩
      have kept : (state.runs.replace run).find? old.runId = some old := by
        rw [Table.find?_replace, if_neg, Table.find?_of_mem member]
        intro named
        rw [id, sound.named old member] at named
        exact owner (executionRunId_injective named)
      rw [rows]
      exact (Table.find?_eq_some_iff.mp kept).1

/-- A run does what is asked exactly if it is clear. -/
theorem run_kept_iff_clear (sound : Sound state) (planId actorRef at_ : String) :
    Kept policy state (.run planId actorRef at_) ↔ state.Clear (.run planId actorRef at_) := by
  have outcome := run_outcome sound planId actorRef at_
  have unfolded : Kept policy state (.run planId actorRef at_) ↔
      state.StaysCompleted (state.run planId actorRef at_).2 ∧
        ∀ plan, state.plans.find? planId = some plan → plan.status = .ready → state.Own plan →
          planId ∉ state.ordered → actorRef ≠ "" → isoUtc at_ = true →
          ∃ run, (state.run planId actorRef at_).1 = .ok run ∧ run.status = .completed := by
    constructor
    · intro kept
      exact ⟨kept.stays, fun plan => kept.runnable planId actorRef at_ plan rfl⟩
    · intro both
      refine ⟨both.1, fun planId actorRef at_ plan same => ?_⟩
      cases same
      exact both.2 plan
  rw [unfolded, Clear]
  generalize state.run planId actorRef at_ = answered at outcome ⊢
  cases outcome with
  | missing raised none_ => simp [none_, StaysCompleted.of_runs rfl]
  | refused plan raised found current ready bad =>
    -- Nothing is stored, and there is no valid order to complete.
    refine iff_of_true ⟨.of_runs rfl, ?_⟩ ⟨?_, ?_⟩
    · intro other _ _ _ _ actor timed
      rcases bad with bad | bad
      · exact absurd bad actor
      · simp [bad] at timed
    · intro old member owner completed other same
      obtain rfl := Option.some.inj (found.symm.trans same)
      exact ⟨current, ready, bad⟩
    · intro other same
      obtain rfl := Option.some.inj (found.symm.trans same)
      intro _ _ _ _ _
      exact current
  | blocked plan run found not_ id owner status =>
    subst owner
    rw [sound.staysCompleted_addRun_iff rfl id]
    have incomplete : run.status ≠ .completed := by simp [status]
    constructor
    · rintro ⟨stays, runnable⟩
      refine ⟨fun old member owner completed => ?_, fun other same ready own fresh actor timed => ?_⟩
      · exact absurd completed ((stays.resolve_left incomplete) old member owner)
      · obtain ⟨answer, same, completed⟩ := runnable other same ready own fresh actor timed
        obtain rfl := Except.ok.inj same
        exact absurd completed incomplete
    · rintro ⟨again, first⟩
      refine ⟨.inr fun old member owner completed => ?_,
        fun other same ready own fresh actor timed => ?_⟩
      · obtain ⟨current, ready, -⟩ := again old member owner completed plan found
        rcases not_ with stale | blocked
        · exact stale current
        · cases ready.symm.trans blocked
      · obtain rfl := Option.some.inj (found.symm.trans same)
        have current := first plan found ready own fresh actor timed
        rcases not_ with stale | blocked
        · exact absurd current stale
        · cases ready.symm.trans blocked
  | completed plan run trading request found current ready paper good fresh rows named keyed id
      owner mode status =>
    subst owner
    refine iff_of_true ⟨(sound.staysCompleted_addRun_iff rfl id).mpr (.inl status),
      fun _ _ _ _ _ _ _ => ⟨run, rfl, status⟩⟩ ⟨?_, ?_⟩
    · intro old member owner completed
      obtain ⟨stored, there, same⟩ := sound.bought old member completed
      exact absurd ⟨stored, there, by rw [same, owner]⟩ fresh
    · intro other same _ _ _ _ _
      obtain rfl := Option.some.inj (found.symm.trans same)
      exact current
  | failed plan run trading found current ready good taken rows id owner status =>
    subst owner
    have stays_iff := @Sound.staysCompleted_addRun_iff state sound { state with trading } rfl run id
    rw [stays_iff]
    have incomplete : run.status ≠ .completed := by simp [status]
    have ordered := (sound.orderStored_iff run.planId).mp taken
    constructor
    · rintro ⟨stays, -⟩
      refine ⟨fun old member owner completed => ?_, fun _ _ _ _ fresh _ _ => absurd ordered fresh⟩
      exact absurd completed ((stays.resolve_left incomplete) old member owner)
    · rintro ⟨again, -⟩
      refine ⟨.inr fun old member owner completed => ?_,
        fun _ _ _ _ fresh _ _ => absurd ordered fresh⟩
      obtain ⟨-, -, bad⟩ := again old member owner completed plan found
      rcases bad with bad | bad
      · exact good.1 bad
      · simp [good.2] at bad

/-- Whatever happens does what is asked exactly if it is clear. -/
theorem kept_iff_clear (sound : Sound state) (op : StrategyExecutionOp) :
    Kept policy state op ↔ state.Clear op := by
  cases op with
  | run planId actorRef at_ => exact run_kept_iff_clear sound planId actorRef at_
  | plan request =>
    refine iff_of_true ⟨.of_runs ?_, fun _ _ _ _ same => by cases same⟩ trivial
    change (state.plan policy request).2.runs = state.runs
    unfold plan
    cases state.planned policy request <;> rfl
  | promote champions =>
    exact iff_of_true ⟨.of_runs rfl, fun _ _ _ _ same => by cases same⟩ trivial
  | revalidate revalidations =>
    exact iff_of_true ⟨.of_runs rfl, fun _ _ _ _ same => by cases same⟩ trivial

/-- The plans of a run are executed at most once, and keep their outcome. -/
structure ExecutedOnce (policy : StrategyExecutionPolicy) (champions : ChampionRegistryRepository)
    (revalidations : Option PaperRevalidationReports) (ops : List StrategyExecutionOp) : Prop where
  once : ((strategyExecutionMachine policy).run (initial champions revalidations)
    ops).ordered.Nodup
  stays : ∀ before middle after, ops = before ++ middle ++ after →
    ((strategyExecutionMachine policy).run (initial champions revalidations) before).StaysCompleted
      ((strategyExecutionMachine policy).run (initial champions revalidations) (before ++ middle))
  live : ∀ before after, ops = before ++ after → ∀ run ∈ ((strategyExecutionMachine policy).run
    (initial champions revalidations) before).runs.rows, run.mode = .live → run.status ≠ .completed
  runnable : ∀ before planId actorRef at_ after plan,
    ops = before ++ .run planId actorRef at_ :: after →
    ((strategyExecutionMachine policy).run (initial champions revalidations) before).plans.find?
      planId = some plan → plan.status = .ready →
    ((strategyExecutionMachine policy).run (initial champions revalidations) before).Own plan →
    planId ∉ ((strategyExecutionMachine policy).run (initial champions revalidations)
      before).ordered → actorRef ≠ "" → isoUtc at_ = true →
    ∃ run, (((strategyExecutionMachine policy).run (initial champions revalidations) before).run
      planId actorRef at_).1 = .ok run ∧ run.status = .completed

/-- Plans are executed once, and keep their outcome, exactly if all that happens is clear. -/
theorem executedOnce_iff_clear (policy : StrategyExecutionPolicy)
    (champions : ChampionRegistryRepository) (revalidations : Option PaperRevalidationReports)
    (ops : List StrategyExecutionOp) : ExecutedOnce policy champions revalidations ops ↔
      (strategyExecutionMachine policy).Guarded Clear (initial champions revalidations) ops := by
  have sound : ∀ before, Sound ((strategyExecutionMachine policy).run
      (initial champions revalidations) before) := by
    intro before
    exact (strategyExecutionMachine policy).invariant (fun state op => sound_step op) before
      (sound_initial champions revalidations)
  have steps : (∀ before op after, ops = before ++ op :: after →
      Kept policy ((strategyExecutionMachine policy).run (initial champions revalidations) before)
        op) ↔ (strategyExecutionMachine policy).Guarded Clear (initial champions revalidations)
          ops :=
    (strategyExecutionMachine policy).forall_step_iff_guarded
      (fun state op (sound : Sound state) => kept_iff_clear sound op)
      (fun state op _ sound => sound_step op sound) ops (sound_initial champions revalidations)
  rw [← steps]
  constructor
  · intro executed before op after split
    refine ⟨?_, fun planId actorRef at_ plan same => ?_⟩
    · have stays := executed.stays before [op] after (by rw [split]; simp)
      rwa [Machine.run_append, Machine.run_cons, Machine.run_nil] at stays
    · subst same
      exact executed.runnable before planId actorRef at_ after plan split
  · intro kept
    refine ⟨(sound ops).once, fun before middle after split => ?_,
      fun before after split run member live completed => ?_,
      fun before planId actorRef at_ after plan split =>
        (kept before _ after split).runnable planId actorRef at_ plan rfl⟩
    · -- Every operation of the stretch keeps the runs that are completed when it is asked.
      rw [Machine.run_append]
      refine (strategyExecutionMachine policy).related_run (fun _ => .of_runs rfl)
        (fun _ _ _ first second => first.trans second) fun first op second part => ?_
      have stays := (kept (before ++ first) op (second ++ after) (by rw [split, part]; simp)).stays
      rwa [Machine.run_append] at stays
    · rcases (sound before).ended run member with ⟨-, paper⟩ | is | is
      · exact paper live
      · simp [is] at completed
      · simp [is] at completed

/-- A registry whose default slot has an active champion. -/
def defaultChampion : ChampionRegistryRepository :=
  { ChampionRegistryRepository.empty with
    registry := ⟨[⟨"default", "champion-version:default:1", "turtle_v6", "fingerprint1", "backtest1",
      "validation1", "evaluation1", "2026-07-18T00:00:00Z", 1, none⟩], by simp⟩ }

/-- A plan for the active champion is made, and run. -/
def ranOnce : List StrategyExecutionOp :=
  [.plan ⟨"request1", .paper, "default", none, none, none, "operator", "2026-07-18T00:00:00Z"⟩,
    .run "execution-plan:request1" "operator" "2026-07-18T00:00:01Z"]

/-- A second run of the plan, whose order is a duplicate. -/
def ranAgain : List StrategyExecutionOp :=
  [.run "execution-plan:request1" "operator" "2026-07-18T00:00:02Z"]

/-- A plan that is run again loses its completed run to a failed one. -/
theorem ran_again_not_kept : ¬ExecutedOnce {} defaultChampion none (ranOnce ++ ranAgain) := by
  intro executed
  have completed : (((strategyExecutionMachine {}).run (initial defaultChampion none)
      ranOnce).runs.rows.map fun run => (run.runId, run.status)) =
        [("execution-run:execution-plan:request1", .completed)] := by
    decide +kernel
  have failed : (((strategyExecutionMachine {}).run (initial defaultChampion none)
      (ranOnce ++ ranAgain)).runs.rows.map fun run => (run.runId, run.status)) =
        [("execution-run:execution-plan:request1", .failed)] := by
    decide +kernel
  have stays := executed.stays ranOnce ranAgain [] (by simp)
  have first := List.mem_singleton.mpr (rfl : ("execution-run:execution-plan:request1",
    StrategyExecutionStatus.completed) = ("execution-run:execution-plan:request1", .completed))
  rw [← completed] at first
  obtain ⟨run, member, same⟩ := List.mem_map.mp first
  obtain ⟨stored, there, -, is⟩ := stays run member (Prod.mk.inj same).2
  have last := List.mem_map_of_mem (f := fun run : StrategyExecutionRun => (run.runId, run.status))
    there
  rw [failed, List.mem_singleton] at last
  exact absurd ((Prod.mk.inj last).2.symm.trans is) (by decide)

end StrategyExecutionState

end StrategyLab
