import StrategyLab.Adapters.EarnedEvidence

/-! Paper evidence over whole runs: complete, kept apart and earned exactly in the clear runs. -/

namespace StrategyLab.PaperForwardState

/-- A stored request goes by the id or by the key that an order is about to get. -/
def Taken (state : PaperForwardState) (order : PaperOrder) : Prop :=
  ∃ old ∈ state.trading.repository.requests.rows,
    old.requestId = paperRequestId order.sessionId (state.nextNumber order.sessionId) ∨
      old.idempotencyKey = some (paperIdempotencyKey order)

/-- What is clear to happen: an order gets an id and a key that only itself may have taken before, a
simulated order is observed, and a session is complete only if none of its orders was rejected
without another one failing. -/
def Clear (config : PaperTradingConfig) (state : PaperForwardState) : PaperForwardOp → Prop
  | .simulateOrder order actorRef lostAfter =>
    ∀ active request, state.prepare order actorRef = .ok (active, request) →
      (state.Taken order → order ∈ state.placed) ∧
      (Simulates config state.trading request → lostAfter ≠ some .result ∧
        (lostAfter ≠ some .request →
          safeRef (paperObservationId order.sessionId (state.nextNumber order.sessionId)) = true))
  | .complete sessionId at_ lost =>
    lost = false → ∀ session, state.completed sessionId at_ = .ok session →
      state.Unrejected sessionId
  | .summary sessionId _ =>
    ∀ session, state.sessions.find? sessionId = some session → session.status = .completed →
      state.Unrejected sessionId
  | _ => True

/-- What is asked of one step: orders are counted, only an order that is repeated is refused as a
duplicate, and eligibility is earned. -/
structure Kept (config : PaperTradingConfig) (state : PaperForwardState) (op : PaperForwardOp) :
    Prop where
  counted : ((paperForwardMachine config).next state op).Counted
  apart : ∀ order actorRef lostAfter, op = .simulateOrder order actorRef lostAfter →
    ∀ active request, state.prepare order actorRef = .ok (active, request) →
      (TradingExecutionService.execute config {} state.trading request).1.Duplicate →
      order ∈ state.placed
  earned : ((paperForwardMachine config).next state op).Earned

variable {config : PaperTradingConfig} {state : PaperForwardState} {order : PaperOrder}
  {active : ChampionRegistryEntry} {request : TradingRequest}

/-- The request of an order is refused exactly if its id or its key is taken. -/
theorem addRequest_eq_none_iff (prepared : Prepared state order active request) :
    state.trading.repository.addRequest request = none ↔ state.Taken order := by
  have id := prepared.built.requestId
  have key := prepared.built.key
  constructor
  · intro refused
    rcases @addRequest_spec state.trading.repository request with ⟨-, busy | ⟨old, member, same⟩⟩ |
      ⟨grown, added, -⟩
    · -- Some stored request carries the key.
      simp only [TradingRepository.KeyFree, key, Option.mem_def, Option.some.injEq, forall_eq',
        not_not, List.mem_filterMap] at busy
      obtain ⟨old, member, carries⟩ := busy
      exact ⟨old, member, .inr carries⟩
    · exact ⟨old, member, .inl (same.trans id)⟩
    · rw [refused] at added
      cases added
  · intro taken
    obtain ⟨old, member, same⟩ := taken
    cases added : state.trading.repository.addRequest request with
    | none => rfl
    | some grown =>
      have rows := addRequest_rows added
      rcases same with sameId | sameKey
      · have distinct := grown.requests.distinct
        rw [rows, List.map_append] at distinct
        refine absurd rfl ((List.nodup_append.mp distinct).2.2 old.requestId
          (List.mem_map.mpr ⟨old, member, rfl⟩) old.requestId ?_)
        simp [sameId, id]
      · have distinct := grown.keysDistinct
        rw [rows, List.filterMap_append] at distinct
        refine absurd rfl ((List.nodup_append.mp distinct).2.2 (paperIdempotencyKey order)
          (List.mem_filterMap.mpr ⟨old, member, sameKey⟩) (paperIdempotencyKey order) ?_)
        simp [key]

variable {lostAfter : Option PaperCommit}

/-- An order that is clear leaves the tables as they have to be to each other. -/
theorem sound_simulateOrder {actorRef : String}
    (sound : Sound state) (clear : Clear config state (.simulateOrder order actorRef lostAfter)) :
    Sound (state.simulateOrder config order actorRef lostAfter).2 := by
  cases done : state.prepare order actorRef with
  | error raised =>
    simp only [simulateOrder, done]
    exact sound
  | ok both =>
    obtain ⟨active, request⟩ := both
    have prepared := prepare_eq_ok done
    have observes := (clear active request done).2
    simp only [simulateOrder, done]
    by_cases atRequest : lostAfter = some .request
    · rw [if_pos atRequest]
      exact (sound.place order request).restarted
    · rw [if_neg atRequest]
      by_cases simulates : Simulates config state.trading request
      · -- The order is simulated, and the process gets as far as its observation.
        obtain ⟨notResult, safe⟩ := observes simulates
        rw [if_neg notResult]
        rcases sound.observe config prepared with ⟨-, observations, kept, rows⟩ |
          ⟨unsafe_, -⟩
        · rw [kept]
          have next := sound.observed prepared rows
          dsimp only
          split
          · exact next.restarted
          · exact next
        · rw [safe atRequest] at unsafe_
          cases unsafe_
      · -- Nothing is simulated, so nothing is lost without an observation.
        have executed := sound.executed prepared simulates
        split
        · exact executed.restarted
        · rcases sound.observe config prepared with ⟨-, observations, kept, rows⟩ |
            ⟨-, raised, kept⟩
          · rw [kept]
            have next := sound.observed prepared rows
            dsimp only
            split
            · exact next.restarted
            · exact next
          · rw [kept]
            exact executed

/-- Whatever is clear to happen leaves the tables as they have to be to each other. -/
theorem sound_step (op : PaperForwardOp) (clear : Clear config state op) (sound : Sound state) :
    Sound ((paperForwardMachine config).next state op) := by
  cases op with
  | createSession sessionId slot championVersionId fingerprint createdAt =>
    exact sound.moved (moved_createSession ..)
  | start sessionId at_ => exact sound.moved (moved_start ..)
  | pause sessionId => exact sound.moved (moved_pause ..)
  | resume sessionId => exact sound.moved (moved_resume ..)
  | cancel sessionId at_ => exact sound.moved (moved_cancel ..)
  | complete sessionId at_ lost =>
    change Sound (state.complete sessionId at_ lost).2
    cases done : state.completed sessionId at_ with
    | error raised =>
      rw [complete_of_error done]
      exact sound
    | ok session =>
      obtain ⟨old, found, open_, continues, named, -⟩ := completed_eq_ok done
      have closed : Sound (state.closed session) :=
        sound.moved (.changed old session found open_ continues)
      rw [complete_of_ok done]
      cases lost with
      | true => exact closed.restarted
      | false =>
        refine closed.summarized ?_ (fun _ => ?_) at_
        · simp [PaperForwardState.closed, Table.find?_assign]
        · rw [named]
          exact clear rfl session done
  | simulateOrder order actorRef lostAfter => exact sound_simulateOrder sound clear
  | summary sessionId generatedAt =>
    change Sound (state.summary sessionId generatedAt).2
    cases found : state.sessions.find? sessionId with
    | none =>
      rw [summary_of_missing found]
      exact sound
    | some session =>
      obtain rfl := Table.key_of_find? found
      rw [summary_of_found found]
      exact sound.summarized found (clear session found) generatedAt
  | promote champions => exact sound.moved (.promoted champions)
  | restart => exact sound.restarted

/-- If a simulated order is not observed, it is not counted. -/
theorem not_counted (sound : Sound state) (prepared : Prepared state order active request)
    (simulates : Simulates config state.trading request) :
    ¬Counted (state.execute config order active request).2 := by
  intro counted
  obtain ⟨session, found, -⟩ := prepared.session
  have simulated : (state.execute config order active request).1.status = .simulated :=
    (execute_simulated prepared.built.simulated).mpr simulates
  -- The log has grown by an order of the session, and the fills have not.
  have fills := counted.fills order.sessionId session found order.at_
  have before := sound.counted.fills order.sessionId session found order.at_
  rw [executed_of_simulated simulated, List.countP_append, ← before] at fills
  have same : ((state.execute config order active request).2.summarize session order.at_).fills =
      (state.summarize session order.at_).fills := rfl
  rw [same] at fills
  simp at fills

variable {session : PaperTradingSession}

/-- If a complete session is summarized, it is earned only without orders that are rejected. -/
theorem unrejected_of_earned (sound : Sound state)
    {generatedAt : String} (found : state.sessions.find? session.sessionId = some session)
    (complete : session.status = .completed)
    (earned : (state.summarized session generatedAt).Earned) :
    state.Unrejected session.sessionId := by
  intro failed
  let total := (state.listObservations session.sessionId).length
  have parts := sound.partition session.sessionId
  by_contra rejected
  -- A policy that asks for as many orders as there are, and tolerates the rejected ones.
  let policy : PaperRevalidationPolicy :=
    { minimumSimulatedTrades := total
      maximumRejectionRate :=
        (state.count session.sessionId [.rejected, .blocked] / total : ℚ) }
  let active : ChampionRegistryEntry :=
    ⟨session.slot, session.championVersionId, session.strategyRef, session.fingerprint, "", "", "",
      "", 1, none⟩
  let request : PaperRevalidationRequest := ⟨"", session.sessionId, "", "", "", ""⟩
  have passes : PaperRevalidation.Eligible policy active session
      ((state.summarize session generatedAt).withMetrics (some 0) (some 0) (some 0) (some 0)) :=
    { completed := ⟨complete, complete⟩
      unchanged := ⟨rfl, rfl, rfl⟩
      enough := le_refl _
      clean := ⟨failed, sound.clean _ session found⟩
      drawdown := ⟨0, rfl, by norm_num [policy]⟩
      traded := by
        change total ≠ 0
        omega
      rejected := le_refl _
      known := ⟨Option.some_ne_none _, Option.some_ne_none _, Option.some_ne_none _⟩ }
  obtain ⟨report, done, eligible⟩ := (PaperRevalidation.revalidate_eligible_iff request
    "2026-07-17T00:00:00Z").mpr ⟨by decide, passes⟩
  have enough := earned session.sessionId session (state.summarize session generatedAt) found
    (by simp [PaperForwardState.summarized, Table.find?_assign, summarize]) policy request active
    (some 0) (some 0) (some 0) (some 0) _ report done eligible
  have fewer : state.executed.countP (fun execution => execution.sessionId = session.sessionId ∧
      execution.championVersionId = active.activeVersionId ∧
      execution.fingerprint = active.fingerprint) ≤ state.count session.sessionId [.simulated] := by
    rw [sound.fills]
    exact List.countP_mono_left fun execution _ both => by simp_all
  have asked : (total : Int) ≤ _ := enough
  have bound := Int.ofNat_le.mp asked
  change total ≤ state.executed.countP _ at bound
  omega

/-- A step is as asked exactly if it is clear. -/
theorem kept_iff_clear (sound : Sound state) (op : PaperForwardOp) :
    Kept config state op ↔ Clear config state op := by
  constructor
  · intro kept
    cases op with
    | simulateOrder order actorRef lostAfter =>
      intro active request done
      have prepared := prepare_eq_ok done
      refine ⟨fun taken => ?_, fun simulates => ?_⟩
      · exact kept.apart order actorRef lostAfter rfl active request done
          ((execute_duplicate sound.keys prepared.built.simulated).mpr
            ((addRequest_eq_none_iff prepared).mpr taken))
      · have counted : Counted (state.simulateOrder config order actorRef lostAfter).2 :=
          kept.counted
        simp only [simulateOrder, done] at counted
        constructor
        · rintro rfl
          exact not_counted sound prepared simulates ⟨counted.single, counted.fills⟩
        · intro atRequest
          rw [if_neg atRequest] at counted
          by_contra unsafe_
          -- The observation raises, and the order is executed all the same.
          rcases sound.observe config prepared with ⟨safe, -⟩ | ⟨-, raised, kept⟩
          · exact unsafe_ safe
          · rw [kept] at counted
            split at counted
            · exact not_counted sound prepared simulates ⟨counted.single, counted.fills⟩
            · exact not_counted sound prepared simulates counted
    | complete sessionId at_ lost =>
      rintro rfl session done
      obtain ⟨old, found, open_, continues, named, complete⟩ := completed_eq_ok done
      have earned : Earned (state.complete sessionId at_ false).2 := kept.earned
      rw [complete_of_ok done] at earned
      have closed : Sound (state.closed session) :=
        sound.moved (.changed old session found open_ continues)
      have unrejected := unrejected_of_earned closed
        (by simp [PaperForwardState.closed, Table.find?_assign]) complete earned
      rw [named] at unrejected
      exact unrejected
    | summary sessionId generatedAt =>
      intro session found complete
      have earned : Earned (state.summary sessionId generatedAt).2 := kept.earned
      rw [summary_of_found found] at earned
      obtain rfl := Table.key_of_find? found
      exact unrejected_of_earned sound found complete earned
    | _ => trivial
  · intro clear
    have next := sound_step op clear sound
    refine ⟨next.counted, fun order actorRef lostAfter same active request done said => ?_,
      next.earned⟩
    subst same
    have prepared := prepare_eq_ok done
    refine (clear active request done).1 ((addRequest_eq_none_iff prepared).mp ?_)
    exact (execute_duplicate sound.keys prepared.built.simulated).mp said

/-- A session that has ended stays as it is. -/
theorem ended_step (op : PaperForwardOp)
    (found : state.sessions.find? session.sessionId = some session)
    (ended : session.status.Ended) :
    ((paperForwardMachine config).next state op).sessions.find? session.sessionId =
      some session := by
  cases op with
  | createSession sessionId slot championVersionId fingerprint createdAt =>
    exact ended_moved (moved_createSession ..) found ended
  | start sessionId at_ => exact ended_moved (moved_start ..) found ended
  | pause sessionId => exact ended_moved (moved_pause ..) found ended
  | resume sessionId => exact ended_moved (moved_resume ..) found ended
  | cancel sessionId at_ => exact ended_moved (moved_cancel ..) found ended
  | complete sessionId at_ lost =>
    change (state.complete sessionId at_ lost).2.sessions.find? session.sessionId = _
    cases done : state.completed sessionId at_ with
    | error raised =>
      rw [complete_of_error done]
      exact found
    | ok other =>
      obtain ⟨old, there, open_, continues, -⟩ := completed_eq_ok done
      have moved : Moved state (state.closed other) := .changed old other there open_ continues
      have kept := ended_moved moved found ended
      rw [complete_of_ok done]
      cases lost <;> exact kept
  | simulateOrder order actorRef lostAfter =>
    change (state.simulateOrder config order actorRef lostAfter).2.sessions.find? _ = _
    rw [(simulateOrder_sessions config state order actorRef lostAfter).1]
    exact found
  | summary sessionId generatedAt =>
    change (state.summary sessionId generatedAt).2.sessions.find? session.sessionId = _
    unfold summary
    split <;> exact found
  | promote champions => exact found
  | restart => exact found

/-- The log of simulated orders only grows. -/
theorem executed_step (op : PaperForwardOp) {execution : PaperExecution}
    (logged : execution ∈ state.executed) :
    execution ∈ ((paperForwardMachine config).next state op).executed := by
  have moved {next : PaperForwardState} (moved : Moved state next) : execution ∈ next.executed := by
    cases moved <;> exact logged
  cases op with
  | createSession sessionId slot championVersionId fingerprint createdAt =>
    exact moved (moved_createSession ..)
  | start sessionId at_ => exact moved (moved_start ..)
  | pause sessionId => exact moved (moved_pause ..)
  | resume sessionId => exact moved (moved_resume ..)
  | cancel sessionId at_ => exact moved (moved_cancel ..)
  | complete sessionId at_ lost =>
    change execution ∈ (state.complete sessionId at_ lost).2.executed
    cases done : state.completed sessionId at_ with
    | error raised =>
      rw [complete_of_error done]
      exact logged
    | ok session =>
      rw [complete_of_ok done]
      cases lost <;> exact logged
  | simulateOrder order actorRef lostAfter =>
    change execution ∈ (state.simulateOrder config order actorRef lostAfter).2.executed
    have placed (request : TradingRequest) : execution ∈ (state.place order request).executed := by
      unfold place
      split <;> exact logged
    have executed (active : ChampionRegistryEntry) (request : TradingRequest) :
        execution ∈ (state.execute config order active request).2.executed := by
      simp only [execute]
      split
      · exact List.mem_append_left _ logged
      · exact logged
    unfold simulateOrder
    split
    · exact logged
    · split
      · exact placed _
      · dsimp only
        split
        · exact executed _ _
        · split
          · exact executed _ _
          · rename_i observed done
            obtain ⟨_, rfl⟩ := observe_eq_ok done
            split <;> exact executed _ _
  | summary sessionId generatedAt =>
    change execution ∈ (state.summary sessionId generatedAt).2.executed
    unfold summary
    split <;> exact logged
  | promote champions => exact logged
  | restart => exact logged

/-- An order that is answered as simulated is logged. -/
theorem answered_logged {actorRef : String} {result : TradingResult}
    (answered : (state.simulateOrder config order actorRef lostAfter).1 = some (.ok result))
    (simulated : result.status = .simulated) :
    ∃ execution ∈ (state.simulateOrder config order actorRef lostAfter).2.executed,
      execution.sessionId = order.sessionId ∧ execution.resultId = result.resultId := by
  cases done : state.prepare order actorRef with
  | error raised =>
    simp only [simulateOrder, done] at answered
    cases answered
  | ok both =>
    obtain ⟨active, request⟩ := both
    simp only [simulateOrder, done] at answered ⊢
    split at answered
    · cases answered
    · split at answered
      · cases answered
      · split at answered
        · cases answered
        · rename_i atRequest atResult _ observed kept
          split at answered
          · cases answered
          · rename_i atObservation
            obtain ⟨observations, rfl⟩ := observe_eq_ok kept
            obtain rfl := Except.ok.inj (Option.some.inj answered)
            rw [if_neg atRequest, if_neg atResult]
            rw [if_neg atObservation]
            refine ⟨⟨order.sessionId, _, active.activeVersionId, active.fingerprint⟩, ?_, rfl, rfl⟩
            change _ ∈ (state.execute config order active request).2.executed
            rw [executed_of_simulated simulated]
            exact List.mem_append_right _ (List.mem_singleton.mpr rfl)

/-- Paper evidence is complete, orders are kept apart, ended sessions accept nothing, and eligibility
is earned. -/
structure Evidence (config : PaperTradingConfig) (champions : ChampionRegistryRepository)
    (ops : List PaperForwardOp) : Prop where
  answered : ∀ before order actorRef lostAfter middle after result,
    ops = before ++ .simulateOrder order actorRef lostAfter :: (middle ++ after) →
    (paperForwardMachine config).answer ((paperForwardMachine config).run (initial champions)
      before) (.simulateOrder order actorRef lostAfter) = .result (some (.ok result)) →
    result.status = .simulated →
    (((paperForwardMachine config).run (initial champions)
        (before ++ .simulateOrder order actorRef lostAfter :: middle)).listObservations
          order.sessionId).countP (fun observation => observation.status = .simulated ∧
        observation.tradingResultId = some result.resultId) = 1
  counted : ∀ before after, ops = before ++ after →
    ((paperForwardMachine config).run (initial champions) before).Counted
  apart : ∀ before order actorRef lostAfter after active request,
    ops = before ++ .simulateOrder order actorRef lostAfter :: after →
    ((paperForwardMachine config).run (initial champions) before).prepare order actorRef =
      .ok (active, request) →
    (TradingExecutionService.execute config {}
      ((paperForwardMachine config).run (initial champions) before).trading request).1.Duplicate →
    order ∈ ((paperForwardMachine config).run (initial champions) before).placed
  closed : ∀ before middle order actorRef lostAfter after session,
    ops = before ++ (middle ++ .simulateOrder order actorRef lostAfter :: after) →
    ((paperForwardMachine config).run (initial champions) before).sessions.find?
      order.sessionId = some session → session.status.Ended →
    ∃ raised, ((paperForwardMachine config).run (initial champions)
        (before ++ middle)).simulateOrder config order actorRef lostAfter =
      (some (.error raised), (paperForwardMachine config).run (initial champions)
        (before ++ middle))
  earned : ∀ before after, ops = before ++ after →
    ((paperForwardMachine config).run (initial champions) before).Earned

/-- Before the first call nothing is stored. -/
theorem sound_initial (champions : ChampionRegistryRepository) : Sound (initial champions) where
  numbered _ member := by cases member
  statuses _ member := by cases member
  matched _ := rfl
  executions _ member := by cases member
  keys _ seen := by cases seen
  clean _ _ found := by cases found
  final _ member := by cases member

/-- The evidence of a run is as asked exactly if all that happens in it is clear. -/
theorem evidence_iff_clear (config : PaperTradingConfig) (champions : ChampionRegistryRepository)
    (ops : List PaperForwardOp) : Evidence config champions ops ↔
      (paperForwardMachine config).Guarded (Clear config) (initial champions) ops := by
  have steps : (∀ before op after, ops = before ++ op :: after →
      Kept config ((paperForwardMachine config).run (initial champions) before) op) ↔
        (paperForwardMachine config).Guarded (Clear config) (initial champions) ops :=
    (paperForwardMachine config).forall_step_iff_guarded
      (fun state op (sound : Sound state) => kept_iff_clear sound op)
      (fun state op clear sound => sound_step op clear sound) ops (sound_initial champions)
  rw [← steps]
  have last : ∀ before op, (paperForwardMachine config).run (initial champions) (before ++ [op]) =
      (paperForwardMachine config).next
        ((paperForwardMachine config).run (initial champions) before) op := by
    intro before op
    rw [Machine.run_append, Machine.run_cons, Machine.run_nil]
  constructor
  · intro evidence before op after split
    have upTo : ops = (before ++ [op]) ++ after := by rw [split]; simp
    refine ⟨?_, fun order actorRef lostAfter same active request done said => ?_, ?_⟩
    · rw [← last]
      exact evidence.counted (before ++ [op]) after upTo
    · subst same
      exact evidence.apart before order actorRef lostAfter after active request split done said
    · rw [← last]
      exact evidence.earned (before ++ [op]) after upTo
  · intro kept
    have counted : ∀ before after, ops = before ++ after →
        ((paperForwardMachine config).run (initial champions) before).Counted := by
      intro before after split
      obtain rfl | ⟨front, op, rfl⟩ := List.eq_nil_or_concat' before
      · exact (sound_initial champions).counted
      · rw [last]
        exact (kept front op after (by rw [split]; simp)).counted
    refine ⟨fun before order actorRef lostAfter middle after result split answered simulated => ?_,
      counted, fun before order actorRef lostAfter after active request split done said => ?_,
      fun before middle order actorRef lostAfter after session split found ended => ?_,
      fun before after split => ?_⟩
    · -- The order is logged when it is answered, and stays logged.
      generalize reached : (paperForwardMachine config).run (initial champions) before = state
        at answered
      have answer : (state.simulateOrder config order actorRef lostAfter).1 = some (.ok result) :=
        PaperForwardAnswer.result.inj answered
      obtain ⟨execution, logged, owner, same⟩ := answered_logged answer simulated
      have stays := @Machine.invariant _ _ _ (paperForwardMachine config)
        (fun state => execution ∈ state.executed) (fun state op => executed_step op) _ middle logged
      have there : execution ∈ ((paperForwardMachine config).run (initial champions)
          (before ++ .simulateOrder order actorRef lostAfter :: middle)).executed := by
        rw [Machine.run_append, Machine.run_cons, reached]
        exact stays
      have single := (counted (before ++ .simulateOrder order actorRef lostAfter :: middle) after
        (by rw [split]; simp)).single execution there
      rw [owner, same] at single
      exact single
    · exact (kept before _ after split).apart order actorRef lostAfter rfl active request done said
    · -- A session that has ended is still there when the order comes.
      have named := Table.key_of_find? found
      rw [← named] at found
      have stays := @Machine.invariant _ _ _ (paperForwardMachine config)
        (fun state => state.sessions.find? session.sessionId = some session)
        (fun state op there => ended_step op there ended) _ middle found
      rw [← Machine.run_append, named] at stays
      refine simulateOrder_inactive stays ?_
      rcases ended with is | is <;> simp [is]
    · obtain rfl | ⟨front, op, rfl⟩ := List.eq_nil_or_concat' before
      · exact (sound_initial champions).earned
      · rw [last]
        exact (kept front op after (by rw [split]; simp)).earned

/-- A registry with one active champion. -/
def soleChampion : ChampionRegistryRepository :=
  { ChampionRegistryRepository.empty with
    registry := ⟨[⟨"default", "champion-version:default:1", "turtle_v5", "fingerprint1", "backtest1",
      "validation1", "evaluation1", "2026-07-18T00:00:00Z", 1, none⟩], by simp⟩ }

/-- An order of a number of shares. -/
def sharesOrdered (quantity : ℚ) : PaperOrder :=
  ⟨"paper1", "AAPL", quantity, 100, "buy", "2026-07-18T00:00:02Z"⟩

/-- A session is started, and one share is bought in it. -/
def oneShare : List PaperForwardOp :=
  [.createSession "paper1" "default" none none "2026-07-18T00:00:00Z",
    .start "paper1" "2026-07-18T00:00:01Z",
    .simulateOrder (sharesOrdered 1) "operator" none]

/-- Two shares that are ordered in the same second are refused as a duplicate. -/
theorem same_second_not_evidence :
    ¬Evidence {} soleChampion (oneShare ++ [.simulateOrder (sharesOrdered 2) "operator" none]) := by
  intro evidence
  have refused : ((((paperForwardMachine {}).run (initial soleChampion) oneShare).prepare
      (sharesOrdered 2) "operator").toOption.any fun both =>
        decide (TradingExecutionService.execute {} {} ((paperForwardMachine {}).run
          (initial soleChampion) oneShare).trading both.2).1.Duplicate) = true := by
    decide +kernel
  have only : sharesOrdered 2 ∉
      ((paperForwardMachine {}).run (initial soleChampion) oneShare).placed := by
    decide +kernel
  cases ready : ((paperForwardMachine {}).run (initial soleChampion) oneShare).prepare
      (sharesOrdered 2) "operator" with
  | error raised =>
    rw [ready] at refused
    cases refused
  | ok both =>
    obtain ⟨active, request⟩ := both
    rw [ready] at refused
    have said := of_decide_eq_true refused
    exact only (evidence.apart oneShare (sharesOrdered 2) "operator" none [] active request rfl
      ready said)

end StrategyLab.PaperForwardState
