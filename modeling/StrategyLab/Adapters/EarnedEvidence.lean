import StrategyLab.Adapters.PaperForwardLaws
import StrategyLab.Adapters.PaperRevalidation

/-! Paper evidence: orders that are counted once, kept apart and filled, and the runs with these. -/

namespace StrategyLab

/-- A summary with the metrics that the sessions leave open. -/
def PaperTradingPerformanceSummary.withMetrics (summary : PaperTradingPerformanceSummary)
    (realized unrealized drawdown exposure : Option ℚ) : PaperTradingPerformanceSummary :=
  { summary with
    realizedPaperPnl := realized
    unrealizedPaperPnl := unrealized
    maxPaperDrawdown := drawdown
    exposure := exposure }

namespace PaperForwardState

/-- Every simulated order is counted as one simulated observation, and these are the fills. -/
structure Counted (state : PaperForwardState) : Prop where
  single : ∀ execution ∈ state.executed,
    (state.listObservations execution.sessionId).countP (fun observation =>
      observation.status = .simulated ∧
        observation.tradingResultId = some execution.resultId) = 1
  fills : ∀ sessionId session, state.sessions.find? sessionId = some session → ∀ generatedAt,
    (state.summarize session generatedAt).fills =
      state.executed.countP fun execution => execution.sessionId = sessionId

/-- Whatever its metrics, a summary makes its session eligible only if enough orders were simulated
under the champion that is active. -/
def Earned (state : PaperForwardState) : Prop :=
  ∀ sessionId session summary, state.sessions.find? sessionId = some session →
    state.summaries.find? sessionId = some summary →
    ∀ policy request active realized unrealized drawdown exposure generatedAt report,
      PaperRevalidation.revalidate policy request active session
        (summary.withMetrics realized unrealized drawdown exposure) generatedAt = .ok report →
      report.status = .liveEligible →
      policy.minimumSimulatedTrades ≤ state.executed.countP fun execution =>
        execution.sessionId = sessionId ∧
          execution.championVersionId = active.activeVersionId ∧
          execution.fingerprint = active.fingerprint

/-- If no order of a session failed, then none was rejected. -/
def Unrejected (state : PaperForwardState) (sessionId : String) : Prop :=
  state.count sessionId [.failed] = 0 → state.count sessionId [.rejected, .blocked] = 0

/-- What the tables have to do with each other. -/
structure Sound (state : PaperForwardState) : Prop where
  numbered : ∀ observation ∈ state.observations.rows, ∃ number, 1 ≤ number ∧
    number ≤ (state.listObservations observation.sessionId).length ∧
    observation.observationId = paperObservationId observation.sessionId number ∧
    observation.tradingResultId =
      some (resultIdOf (paperRequestId observation.sessionId number))
  statuses : ∀ observation ∈ state.observations.rows,
    observation.status ∈ [TradingStatus.simulated, .rejected, .blocked, .failed]
  matched : ∀ sessionId, ((state.listObservations sessionId).filter
      fun observation => observation.status = .simulated).map (·.tradingResultId) =
    (state.executed.filter fun execution => execution.sessionId = sessionId).map
      fun execution => some execution.resultId
  executions : ∀ execution ∈ state.executed, ∃ session,
    state.sessions.find? execution.sessionId = some session ∧
    session.championVersionId = execution.championVersionId ∧
    session.fingerprint = execution.fingerprint
  keys : state.trading.KeysStored
  clean : ∀ sessionId session, state.sessions.find? sessionId = some session →
    session.errors = []
  final : ∀ summary ∈ state.summaries.rows, summary.status = .completed → ∃ session generatedAt,
    state.sessions.find? summary.sessionId = some session ∧ session.status = .completed ∧
    summary = state.summarize session generatedAt ∧ state.Unrejected summary.sessionId

variable {state : PaperForwardState}

/-- The observations of a session that are of a kind are counted. -/
theorem count_eq (state : PaperForwardState) (sessionId : String) (kind : TradingStatus) :
    state.count sessionId [kind] =
      ((state.listObservations sessionId).filter fun observation =>
        observation.status = kind).length := by
  rw [count, List.countP_eq_length_filter]
  simp only [List.mem_singleton]

variable {observation : PaperTradingObservation}

/-- An observation that is listed is stored, for its session. -/
theorem mem_listObservations {sessionId : String} :
    observation ∈ state.listObservations sessionId ↔
      observation ∈ state.observations.rows ∧ observation.sessionId = sessionId := by
  simp [listObservations]

section

variable (sound : Sound state)

include sound

/-- The fills of a session are its simulated orders. -/
theorem Sound.fills (sessionId : String) :
    state.count sessionId [.simulated] =
      state.executed.countP fun execution => execution.sessionId = sessionId := by
  have lengths := congrArg List.length (sound.matched sessionId)
  rw [List.length_map, List.length_map] at lengths
  rw [count_eq, lengths, List.countP_eq_length_filter]

/-- The results that are observed for a session are distinct. -/
theorem Sound.results_nodup (sessionId : String) :
    ((state.listObservations sessionId).map (·.tradingResultId)).Nodup := by
  have distinct : (state.listObservations sessionId).Nodup :=
    (List.Nodup.of_map _ state.observations.distinct).filter _
  refine distinct.map_on ?_
  intro first firstIn second secondIn same
  rw [mem_listObservations] at firstIn secondIn
  obtain ⟨n, -, -, firstId, firstResult⟩ := sound.numbered first firstIn.1
  obtain ⟨m, -, -, secondId, secondResult⟩ := sound.numbered second secondIn.1
  -- The result determines the number, and the number the id.
  rw [firstResult, secondResult] at same
  have numbers := (paperRequestId_injective (resultIdOf_injective (Option.some.inj same))).2
  have ids : first.observationId = second.observationId := by
    rw [firstId, secondId, firstIn.2, secondIn.2, numbers]
  have found := Table.find?_of_mem firstIn.1
  rw [ids, Table.find?_of_mem secondIn.1] at found
  exact (Option.some.inj found).symm

/-- Where the tables agree, every simulated order is counted. -/
theorem Sound.counted : state.Counted := by
  refine ⟨fun execution member => ?_, fun sessionId session found generatedAt => ?_⟩
  · -- The result is one of those that are observed as simulated, and there it occurs once.
    have once : (((state.listObservations execution.sessionId).filter fun observation =>
        observation.status = .simulated).map (·.tradingResultId)).count
          (some execution.resultId) = 1 := by
      refine List.count_eq_one_of_mem ?_ ?_
      · exact (sound.results_nodup execution.sessionId).sublist (List.filter_sublist.map _)
      · rw [sound.matched]
        exact List.mem_map.mpr ⟨execution, by simp [member], rfl⟩
    rw [List.count, List.countP_map, List.countP_filter] at once
    rw [← once]
    refine List.countP_congr fun observation _ => ?_
    simp [and_comm]
  · have named := Table.key_of_find? found
    rw [← sound.fills, ← named]
    rfl

/-- The orders of a session are those that were simulated, rejected or failed. -/
theorem Sound.partition (sessionId : String) :
    (state.listObservations sessionId).length = state.count sessionId [.simulated] +
      state.count sessionId [.rejected, .blocked] + state.count sessionId [.failed] := by
  have statuses : ∀ observation ∈ state.listObservations sessionId,
      observation.status ∈ [TradingStatus.simulated, .rejected, .blocked, .failed] :=
    fun observation member => sound.statuses observation (mem_listObservations.mp member).1
  simp only [count]
  revert statuses
  induction state.listObservations sessionId with
  | nil => simp
  | cons observation rest ih =>
    intro statuses
    obtain ⟨first, others⟩ := List.forall_mem_cons.mp statuses
    have counted := ih others
    simp only [List.mem_cons, List.not_mem_nil, or_false] at first counted
    rcases first with is | is | is | is <;>
      simp only [List.length_cons, List.countP_cons, List.mem_cons, List.not_mem_nil, or_false, is,
        reduceCtorEq, or_self, or_true, decide_true, decide_false, if_true,
        Bool.false_eq_true, if_false] <;> omega

/-- Where the tables agree, sessions are eligible only by simulated orders. -/
theorem Sound.earned : state.Earned := by
  intro sessionId session summary found summed policy request active realized unrealized drawdown
    exposure generatedAt report done eligible
  have passes := ((PaperRevalidation.revalidate_eligible_iff request generatedAt).mp
    ⟨report, done, eligible⟩).2
  have named := Table.key_of_find? summed
  have complete : summary.status = .completed := passes.completed.2
  obtain ⟨other, at_, same, -, made, unrejected⟩ :=
    sound.final summary (Table.find?_eq_some_iff.mp summed).1 complete
  rw [named] at same unrejected
  obtain rfl := Option.some.inj (found.symm.trans same)
  have isSession := Table.key_of_find? found
  -- No order failed, so none was rejected, and all of them are fills.
  have failed : state.count sessionId [.failed] = 0 := by
    have none_ : summary.failedSimulatedOrders = 0 := passes.clean.1
    rw [made] at none_
    rw [← isSession]
    exact none_
  have orders : (state.listObservations sessionId).length =
      state.executed.countP fun execution => execution.sessionId = sessionId := by
    rw [sound.partition sessionId, failed, unrejected failed, sound.fills, add_zero, add_zero]
  have enough : policy.minimumSimulatedTrades ≤ (state.listObservations sessionId).length := by
    have counted : policy.minimumSimulatedTrades ≤ summary.simulatedOrders := passes.enough
    rw [made] at counted
    rw [← isSession]
    exact counted
  rw [orders] at enough
  -- They were all simulated under the champion of the session, which is the active one.
  refine le_trans enough (Int.ofNat_le.mpr (List.countP_mono_left fun execution member its => ?_))
  simp only [decide_eq_true_eq] at its
  obtain ⟨owner, owns, version, fingerprint⟩ := sound.executions execution member
  rw [its] at owns
  obtain rfl := Option.some.inj (found.symm.trans owns)
  simp [its, ← version, ← fingerprint, passes.unchanged.1, passes.unchanged.2.1]

/-- Stored requests, and what the adapter has seen of them, do not matter to the rest. -/
theorem Sound.retraded {trading : TradingState} (keys : trading.KeysStored)
    (placed : List PaperOrder) : Sound { state with trading, placed } :=
  ⟨sound.numbered, sound.statuses, sound.matched, sound.executions, keys, sound.clean, sound.final⟩

/-- A new process finds the tables as they were. -/
theorem Sound.restarted : Sound state.restarted :=
  sound.retraded (fun key seen => by cases seen) state.placed

/-- The request of an order is stored under a key that the adapter has not seen. -/
theorem Sound.place (order : PaperOrder) (request : TradingRequest) :
    Sound (state.place order request) := by
  unfold PaperForwardState.place
  split
  · exact sound
  · rename_i repository added
    refine sound.retraded (fun key seen => ?_) _
    change key ∈ repository.requests.rows.filterMap _
    rw [addRequest_rows added, List.filterMap_append]
    exact List.mem_append_left _ (sound.keys key seen)

/-- Sessions that continue leave the other tables as they are to them. -/
theorem Sound.continued {sessions : Table PaperTradingSession.sessionId}
    (continues : ∀ sessionId old, state.sessions.find? sessionId = some old → ∃ new,
      sessions.find? sessionId = some new ∧ Continues old new ∧
        (old.status = .completed → new = old))
    (clean : ∀ sessionId session, sessions.find? sessionId = some session → session.errors = []) :
    Sound { state with sessions } where
  numbered := sound.numbered
  statuses := sound.statuses
  matched := sound.matched
  executions := by
    intro execution member
    obtain ⟨old, found, version, fingerprint⟩ := sound.executions execution member
    obtain ⟨new, now, same, -⟩ := continues _ old found
    exact ⟨new, now, same.championVersionId.trans version, same.fingerprint.trans fingerprint⟩
  keys := sound.keys
  clean := clean
  final := by
    intro summary member complete
    obtain ⟨old, at_, found, ended, made, unrejected⟩ := sound.final summary member complete
    obtain ⟨new, now, -, stays⟩ := continues _ old found
    obtain rfl := stays ended
    exact ⟨new, at_, now, ended, made, unrejected⟩

end

variable {next : PaperForwardState}

/-- The calls that move the sessions keep what the tables have to do with each other. -/
theorem Sound.moved (sound : Sound state) (moved : Moved state next) :
    Sound next := by
  cases moved with
  | same => exact sound
  | restarted => exact sound.restarted
  | promoted champions =>
    exact ⟨sound.numbered, sound.statuses, sound.matched, sound.executions, sound.keys,
      sound.clean, sound.final⟩
  | created session sessions inserted clean =>
    refine sound.continued (fun sessionId old found => ?_) fun sessionId other found => ?_
    · exact ⟨old, Table.find?_insert?_of_found inserted found, ⟨rfl, rfl, rfl, rfl⟩, fun _ => rfl⟩
    · rw [Table.find?_insert? inserted] at found
      split at found
      · rw [← Option.some.inj found]
        exact clean
      · exact sound.clean sessionId other found
  | changed old new found open_ continues =>
    refine sound.continued (fun sessionId other there => ?_) fun sessionId other there => ?_
    · rw [Table.find?_assign, continues.sessionId]
      by_cases same : sessionId = old.sessionId
      · subst same
        obtain rfl := Option.some.inj (found.symm.trans there)
        rw [if_pos rfl]
        exact ⟨new, rfl, continues, fun complete => absurd (.inl complete) open_⟩
      · rw [if_neg same]
        exact ⟨other, there, ⟨rfl, rfl, rfl, rfl⟩, fun _ => rfl⟩
    · rw [Table.find?_assign] at there
      split at there
      · rw [← Option.some.inj there, continues.errors]
        exact sound.clean _ old found
      · exact sound.clean sessionId other there

variable {session : PaperTradingSession}

/-- A session that is complete may be summarized if none of its orders was only rejected. -/
theorem Sound.summarized (sound : Sound state)
    (found : state.sessions.find? session.sessionId = some session)
    (unrejected : session.status = .completed → state.Unrejected session.sessionId)
    (generatedAt : String) : Sound (state.summarized session generatedAt) where
  numbered := sound.numbered
  statuses := sound.statuses
  matched := sound.matched
  executions := sound.executions
  keys := sound.keys
  clean := sound.clean
  final := by
    intro summary member complete
    have there : (state.summarized session generatedAt).summaries.find? summary.sessionId =
        some summary := Table.find?_of_mem member
    rw [PaperForwardState.summarized, Table.find?_assign] at there
    split at there
    · -- The summary is the new one.
      obtain rfl := Option.some.inj there
      exact ⟨session, generatedAt, found, complete, rfl, unrejected complete⟩
    · exact sound.final summary (Table.find?_eq_some_iff.mp there).1 complete

section Orders

variable {config : PaperTradingConfig} {order : PaperOrder} {active : ChampionRegistryEntry}
  {request : TradingRequest}

/-- An execution stores the request and its result, and logs an order that was simulated. -/
theorem execute_state (config : PaperTradingConfig) (state : PaperForwardState)
    (order : PaperOrder) (active : ChampionRegistryEntry) (request : TradingRequest) :
    (state.execute config order active request).2 =
      { state with
        trading := (TradingExecutionService.execute config {} state.trading request).2
        placed := (state.place order request).placed
        executed := (state.execute config order active request).2.executed } := rfl

/-- An order that is simulated is logged with the champion that was active. -/
theorem executed_of_simulated
    (simulated : (state.execute config order active request).1.status = .simulated) :
    (state.execute config order active request).2.executed = state.executed ++
      [⟨order.sessionId, (state.execute config order active request).1.resultId,
        active.activeVersionId, active.fingerprint⟩] := if_pos simulated

/-- An order that is not simulated leaves the other tables as they are to it. -/
theorem Sound.executed (sound : Sound state) (prepared : Prepared state order active request)
    (other : ¬Simulates config state.trading request) :
    Sound (state.execute config order active request).2 := by
  have status : (TradingExecutionService.execute config {} state.trading request).1.status ≠
      .simulated :=
    fun simulated => other ((execute_simulated prepared.built.simulated).mp simulated)
  have log : (state.execute config order active request).2.executed = state.executed := if_neg status
  rw [execute_state, log]
  exact sound.retraded (execute_keysStored sound.keys prepared.built.simulated) _

/-- The id of the next observation of a session is not taken. -/
theorem Sound.next_free (sound : Sound state) (sessionId : String) :
    state.observations.find? (paperObservationId sessionId (state.nextNumber sessionId)) =
      none := by
  rw [Table.find?_eq_none_iff]
  intro observation member same
  obtain ⟨number, -, within, id, -⟩ := sound.numbered observation member
  rw [id] at same
  obtain ⟨sessions, numbers⟩ := paperObservationId_injective same
  rw [sessions, numbers, nextNumber] at within
  omega

/-- A result is observed if the next id of its session is a reference; otherwise this raises. -/
theorem Sound.observe (config : PaperTradingConfig) (sound : Sound state)
    (prepared : Prepared state order active request) :
    let result := (state.execute config order active request).1
    let executed := (state.execute config order active request).2
    (safeRef (paperObservationId order.sessionId (state.nextNumber order.sessionId)) = true ∧
        ∃ observations, executed.observe order result = .ok { executed with observations } ∧
          observations.rows = state.observations.rows ++ [state.observation order result]) ∨
      safeRef (paperObservationId order.sessionId (state.nextNumber order.sessionId)) = false ∧
        ∃ raised, executed.observe order result = .error raised := by
  intro result executed
  have timed : isoUtc order.at_ = true := by
    rw [← prepared.built.observed]
    exact request.timed
  have same : executed.observation order result = state.observation order result := rfl
  unfold PaperForwardState.observe
  rw [same]
  cases safe : safeRef (paperObservationId order.sessionId (state.nextNumber order.sessionId)) with
  | false =>
    have raises : ∃ raised, (state.observation order result).validate = .error raised := by
      simp [PaperTradingObservation.validate, observation, validateRegistryRef, require, safe,
        bind, Except.bind]
    obtain ⟨raised, raises⟩ := raises
    refine .inr ⟨rfl, raised, ?_⟩
    dsimp only
    rw [raises]
    rfl
  | true =>
    have passes : (state.observation order result).validate = .ok () := by
      simp [PaperTradingObservation.validate, observation, validateRegistryRef, validateUtc,
        require, safe, timed, bind, Except.bind]
    have there : executed.observations = state.observations := rfl
    refine .inl ⟨rfl, ?_⟩
    dsimp only
    rw [passes, there]
    cases inserted : state.observations.insert? (state.observation order result) with
    | none =>
      obtain ⟨old, taken⟩ := Table.insert?_eq_none_iff.mp inserted
      cases taken.symm.trans (sound.next_free order.sessionId)
    | some observations => exact ⟨observations, rfl, (Table.insert?_eq_some_iff.mp inserted).2⟩

/-- An order that is observed is listed for its session only. -/
theorem listObservations_append
    (rows : next.observations.rows = state.observations.rows ++ [observation])
    (sessionId : String) :
    next.listObservations sessionId = state.listObservations sessionId ++
      if observation.sessionId = sessionId then [observation] else [] := by
  simp only [listObservations, rows, List.filter_append]
  by_cases own : observation.sessionId = sessionId <;> simp [own]

/-- An order of an active session that is logged and observed together is accounted for. -/
theorem Sound.append (sound : Sound state) (execution : PaperExecution)
    (rows : next.observations.rows = state.observations.rows ++ [observation])
    (log : next.executed =
      if observation.status = .simulated then state.executed ++ [execution] else state.executed)
    (sessions : next.sessions = state.sessions) (summaries : next.summaries = state.summaries)
    (keys : next.trading.KeysStored)
    (id : observation.observationId =
      paperObservationId observation.sessionId (state.nextNumber observation.sessionId))
    (result : observation.tradingResultId = some (resultIdOf
      (paperRequestId observation.sessionId (state.nextNumber observation.sessionId))))
    (status : observation.status ∈ [TradingStatus.simulated, .rejected, .blocked, .failed])
    (owner : execution.sessionId = observation.sessionId)
    (same : some execution.resultId = observation.tradingResultId)
    (found : state.sessions.find? observation.sessionId = some session)
    (active : session.status = .active)
    (version : session.championVersionId = execution.championVersionId)
    (fingerprint : session.fingerprint = execution.fingerprint) : Sound next where
  numbered := by
    intro other member
    rw [rows] at member
    rw [listObservations_append rows]
    rcases List.mem_append.mp member with old | new
    · obtain ⟨number, low, high, named, resulted⟩ := sound.numbered other old
      exact ⟨number, low, by rw [List.length_append]; omega, named, resulted⟩
    · obtain rfl := List.mem_singleton.mp new
      refine ⟨state.nextNumber other.sessionId, by simp [nextNumber], ?_, id, result⟩
      simp [nextNumber]
  statuses := by
    intro other member
    rw [rows] at member
    rcases List.mem_append.mp member with old | new
    · exact sound.statuses other old
    · rw [List.mem_singleton.mp new]
      exact status
  matched := by
    intro sessionId
    rw [listObservations_append rows, log, List.filter_append, List.map_append, sound.matched]
    by_cases own : observation.sessionId = sessionId
    · by_cases simulated : observation.status = .simulated
      · simp [own, simulated, owner, ← same]
      · simp [own, simulated]
    · by_cases simulated : observation.status = .simulated
      · simp [own, simulated, owner]
      · simp [own, simulated]
  executions := by
    intro other member
    rw [sessions]
    rw [log] at member
    split at member
    · rcases List.mem_append.mp member with old | new
      · exact sound.executions other old
      · obtain rfl := List.mem_singleton.mp new
        exact ⟨session, by rw [owner]; exact found, version, fingerprint⟩
    · exact sound.executions other member
  keys := keys
  clean := by
    rw [sessions]
    exact sound.clean
  final := by
    intro summary member complete
    rw [summaries] at member
    obtain ⟨ended, at_, there, is, made, unrejected⟩ := sound.final summary member complete
    -- The session of the order is active, so it is not the one that is summarized as complete.
    have other : observation.sessionId ≠ summary.sessionId := by
      intro own
      rw [own] at found
      obtain rfl := Option.some.inj (there.symm.trans found)
      cases is.symm.trans active
    have listed : next.listObservations summary.sessionId =
        state.listObservations summary.sessionId := by
      rw [listObservations_append rows, if_neg other, List.append_nil]
    have named := Table.key_of_find? there
    refine ⟨ended, at_, by rw [sessions]; exact there, is, ?_, ?_⟩
    · rw [made]
      simp only [summarize, count, named, listed]
    · simpa only [Unrejected, count, listed] using unrejected

/-- Once its result is observed, an order is accounted for. -/
theorem Sound.observed (sound : Sound state) (prepared : Prepared state order active request)
    {observations : Table PaperTradingObservation.observationId}
    (rows : observations.rows = state.observations.rows ++
      [state.observation order (state.execute config order active request).1]) :
    Sound { (state.execute config order active request).2 with observations } := by
  obtain ⟨session, found, is, version, fingerprint⟩ := prepared.session
  obtain ⟨own, status⟩ := execute_answer config state.trading prepared.built.simulated
  rw [prepared.built.requestId] at own
  have keys : (state.execute config order active request).2.trading.KeysStored :=
    execute_keysStored sound.keys prepared.built.simulated
  let execution : PaperExecution := ⟨order.sessionId,
    (state.execute config order active request).1.resultId, active.activeVersionId,
    active.fingerprint⟩
  refine sound.append execution rows rfl rfl rfl keys rfl ?_ status rfl rfl found is
    version fingerprint
  exact congrArg some own

end Orders

end PaperForwardState

end StrategyLab
