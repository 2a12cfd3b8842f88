import StrategyLab.Knowledge.CandidatePlanner
import StrategyLab.Learning.LearningRecords
import StrategyLab.Lib.Machine

/-! Production learning: lessons of candidates and of executions, their versions and their audit. -/

namespace StrategyLab.ProductionLearning

open Learning (EvidenceType LearningRecordType AuditAction)

/-- The scope of every lesson. -/
def learningScope : String := "gaon"

/-- The project of every lesson. -/
def learningProject : String := "StrategyLab-v2"

/-- After how many days a lesson is looked at again. -/
def revalidationDays : Nat := 30

/-- How much evidence a lesson carries. -/
def maxEvidencePerRecord : Nat := 48

/-- A piece of evidence. -/
structure EvidenceRecord where
  evidenceId : String
  evidenceType : EvidenceType
  reference : String
  summary : String
  deriving DecidableEq

/-- How sure a lesson is. -/
structure ConfidenceScore where
  value : ℚ
  reason : String
  evidenceCount : Int
  validationState : String
  recency : ℚ
  conflictPenalty : ℚ
  deriving DecidableEq

/-- The checks of a confidence. -/
def ConfidenceScore.valid (confidence : ConfidenceScore) : Bool :=
  (0 ≤ confidence.value && confidence.value ≤ 1) && confidence.reason ≠ "" &&
    0 ≤ confidence.evidenceCount && (0 ≤ confidence.recency && confidence.recency ≤ 1) &&
    (0 ≤ confidence.conflictPenalty && confidence.conflictPenalty ≤ 1)

/-- What two versions of a lesson are compared by. -/
structure LearningMaterial where
  recordType : LearningRecordType
  content : String
  evidence : List (EvidenceType × String × String)
  confidence : ConfidenceScore

/-- What lessons are written and compared with. -/
structure LessonTexts extends Learning.Builtins where
  casefold : String → String
  /-- The text of a float. -/
  float : ℚ → String
  log10 : ℚ → ℚ
  /-- The time some days after a time, if that is one of the format and there is such a time. -/
  dueAtDays : String → Nat → Option String
  /-- A time of the format has no bar in it. -/
  dueAtDays_clean : ∀ now days, (dueAtDays now days).isSome → '|' ∉ now.toList
  /-- The first 24 hexadecimal digits of `sha256`. -/
  hash24 : String → String
  collisionFree : Function.Injective hash24
  /-- The `sha256` of the canonical JSON text of what is compared. -/
  materialKey : LearningMaterial → String

/-- A lesson with its version. -/
structure LearningRecord where
  recordId : String
  recordType : LearningRecordType
  content : String
  scope : String
  project : String
  strategy : String
  market : String
  createdAt : String
  updatedAt : String
  version : Nat
  evidence : List EvidenceRecord
  confidence : ConfidenceScore
  dueAt : String
  auditRef : String

/-- What a lesson is compared by. -/
def LearningRecord.material (record : LearningRecord) : LearningMaterial where
  recordType := record.recordType
  content := record.content
  evidence := record.evidence.map fun item => (item.evidenceType, item.reference, item.summary)
  confidence := record.confidence

/-- The current version of a lesson; the column of the creation is written once. -/
structure LearningRow where
  recordId : String
  record : LearningRecord
  createdAt : String

/-- A version of a lesson that is kept. -/
structure VersionRow where
  recordId : String
  version : Nat
  record : LearningRecord
  createdAt : String

/-- An event of the audit. -/
structure AuditEvent where
  eventId : String
  actor : String
  action : AuditAction
  targetRef : String
  beforeVersion : Option Nat
  afterVersion : Nat
  scope : String
  project : String
  strategy : String
  market : String
  evidence : List EvidenceRecord
  timestamp : String

/-- The tables of the learning memory. -/
structure LearningStore where
  records : Table LearningRow.recordId
  versions : Table fun row : VersionRow => (row.recordId, row.version)
  audit : Table AuditEvent.eventId

/-- The tables before anything is learned. -/
def LearningStore.empty : LearningStore := ⟨Table.empty, Table.empty, Table.empty⟩

namespace LearningStore

/-- The current version of a lesson. -/
def get? (store : LearningStore) (recordId : String) : Option LearningRecord :=
  (store.records.find? recordId).map (·.record)

/-- Write the current version of a lesson and keep it, in one transaction. -/
def writeCurrent (store : LearningStore) (record : LearningRecord) (insertOnly : Bool) :
    LearningStore :=
  let row : VersionRow := ⟨record.recordId, record.version, record, record.updatedAt⟩
  { store with
    records :=
      if insertOnly then
        (store.records.insert? ⟨record.recordId, record, record.createdAt⟩).getD store.records
      else store.records.update (·.recordId = record.recordId) (fun row => { row with record })
        fun _ => rfl
    versions := (store.versions.insert? row).getD store.versions }

/-- Write a lesson, unless the current version is the same in what is compared. -/
def upsert (texts : LessonTexts) (store : LearningStore) (record : LearningRecord) :
    Option LearningStore :=
  match store.get? record.recordId with
  | some existing =>
    if texts.materialKey existing.material = texts.materialKey record.material then none
    else if record.version ≤ existing.version then
      some (store.writeCurrent
        { record with version := existing.version + 1, createdAt := existing.createdAt } false)
    else some (store.writeCurrent record false)
  | none => some (store.writeCurrent record true)

/-- `INSERT OR IGNORE` of an event. -/
def appendAudit (store : LearningStore) (event : AuditEvent) : LearningStore :=
  { store with audit := (store.audit.insert? event).getD store.audit }

end LearningStore

section Lessons

variable (texts : LessonTexts)

/-- The name that some parts stand for. -/
def stableId (parts : List String) : String := texts.hash24 ("|".intercalate parts)

/-- The text of a number that may be missing. -/
def numberText (missing : String) (number : Option ℚ) : String := number.elim missing texts.float

/-- What a lesson says, before it is dated. -/
structure Lesson where
  recordId : String
  recordType : LearningRecordType
  content : String
  strategy : String
  market : String
  evidence : List EvidenceRecord
  confidence : ConfidenceScore
  days : Nat
  outcome : String

/-- What a lesson is compared by. -/
def Lesson.material (lesson : Lesson) : LearningMaterial where
  recordType := lesson.recordType
  content := lesson.content
  evidence := lesson.evidence.map fun item => (item.evidenceType, item.reference, item.summary)
  confidence := lesson.confidence

/-- The record of a lesson; `none` stands for what a time, a name or a number raises. -/
def Lesson.record (lesson : Lesson) (previous : Option LearningRecord) (now : String) :
    Option LearningRecord := do
  let dueAt ← texts.dueAtDays now lesson.days
  let version := (previous.map (·.version)).getD 0 + 1
  if lesson.strategy = "" ∨ lesson.market = "" ∨ lesson.confidence.valid = false then none
  else some {
    recordId := lesson.recordId, recordType := lesson.recordType, content := lesson.content
    scope := learningScope, project := learningProject
    strategy := lesson.strategy, market := lesson.market
    createdAt := (previous.map (·.createdAt)).getD now, updatedAt := now, version
    evidence := lesson.evidence, confidence := lesson.confidence, dueAt
    auditRef := s!"audit:{lesson.recordId}:v{version}" }

/-- The event of a version that was written. -/
def auditFor (record : LearningRecord) (previous : Option LearningRecord) (now : String) :
    AuditEvent where
  eventId := "audit:" ++ stableId texts [record.recordId, toString record.version, now]
  actor := "gaon-learning-v3"
  action := if previous.isNone then .create else .update
  targetRef := record.recordId
  beforeVersion := previous.map (·.version)
  afterVersion := record.version
  scope := record.scope
  project := record.project
  strategy := record.strategy
  market := record.market
  evidence := record.evidence
  timestamp := now

/-! ### Lessons of candidates -/

/-- What a candidate did on one symbol, as evidence. -/
def breadthEvidenceRecord (candidateId : String) (entry : SymbolEvidence) : EvidenceRecord :=
  let reference :=
    if entry.evidenceId = "" then s!"candidate:{candidateId}:breadth:{entry.symbol}"
    else entry.evidenceId
  let totalReturn := numberText texts "None" entry.totalReturn
  let mdd := numberText texts "None" entry.mdd
  ⟨"evidence:" ++ stableId texts [candidateId, entry.symbol, reference], .backtest, reference,
    s!"symbol={entry.symbol}; trades={entry.tradeCount}; total_return={totalReturn}; " ++
      s!"mdd={mdd}; source={entry.source}"⟩

/-- What a validation stage said, as evidence. -/
def stageEvidenceRecord (candidateId : String) (stage : StageStatus) : EvidenceRecord :=
  let ref := s!"candidate:{candidateId}:validation:{stage.stage}:{stage.status}"
  ⟨"evidence:" ++ stableId texts [ref], .experiment, ref,
    s!"validation stage {stage.stage} reported status={stage.status}"⟩

/-- The evidence for what is learned of a candidate, up to its cap. -/
def candidateEvidence (candidate : StrategyCandidateRecord) : List EvidenceRecord :=
  let breadth := (Py.sortedBy SymbolEvidence.symbol candidate.breadthEvidence.rows).filter
    (·.eligible)
  let stages := Py.sortedBy StageStatus.stage candidate.validationStageStatus.rows
  let last := (someText candidate.lastValidationReference).toList.map fun ref =>
    ⟨"evidence:" ++ stableId texts [candidate.candidateId, ref], .experiment, ref,
      "latest candidate validation reference"⟩
  (breadth.map (breadthEvidenceRecord texts candidate.candidateId) ++
    stages.map (stageEvidenceRecord texts candidate.candidateId) ++ last).take maxEvidencePerRecord

/-- What kind of lesson a candidate is. -/
def candidateRecordType (candidate : StrategyCandidateRecord)
    (viability : EconomicViabilityStatus) : LearningRecordType × String :=
  if candidate.status = .promotionReady then
    (.successPattern, "promotion_ready_candidate_pattern")
  else if candidate.status ∈ [.rejected, .stagnant] ∨ viability = .fail then
    (.failurePattern, "negative_candidate_pattern")
  else (.researchOutcome, "candidate_research_outcome")

/-- How sure a lesson of a candidate is. -/
def candidateConfidence (candidate : StrategyCandidateRecord) (conflictPenalty : ℚ) :
    ConfidenceScore :=
  let performance := candidateCumulativePerformance candidate
  let symbolComponent := min ((performance.performanceSampleSymbols : ℚ) / 20) 1 * (18 / 100)
  let tradeComponent := min ((performance.performanceSampleTrades : ℚ) / 100) 1 * (22 / 100)
  let statuses := candidate.validationStageStatus.rows.map (texts.casefold ·.status)
  let passed := statuses.countP (· ∈ passLikeStageStatuses)
  let stageComponent : ℚ :=
    if statuses = [] then 0 else (passed : ℚ) / (max statuses.length 7 : Nat) * (22 / 100)
  let robustnessComponent :=
    min ((candidate.robustnessEvidenceSymbols.length : ℚ) / 5) 1 * (10 / 100)
  let terminalComponent : ℚ :=
    if candidate.status ∈ [.promotionReady, .rejected, .stagnant] then 8 / 100 else 0
  let value := min (92 / 100) (20 / 100 + symbolComponent + tradeComponent + stageComponent +
    robustnessComponent + terminalComponent)
  { value := Py.round 6 (max (5 / 100) (value * (1 - 1 / 2 * conflictPenalty)))
    reason := "deterministic candidate evidence confidence; confidence ranks research memory " ++
      "but never approves promotion"
    evidenceCount := performance.performanceSampleSymbols + performance.performanceSampleTrades +
      statuses.length
    validationState := "need_validation"
    recency := 1
    conflictPenalty := Py.round 6 conflictPenalty }

/-- The text of an economic status. -/
def economicStatusValue : EconomicViabilityStatus → String
  | .pass => "pass"
  | .fail => "fail"
  | .needsMoreEvidence => "needs_more_evidence"

/-- What is said of a candidate. -/
def candidateLessonContent (candidate : StrategyCandidateRecord)
    (performance : CandidatePerformanceEvidence) (viability : EconomicViabilityResult)
    (outcome : String) : String :=
  let stages := candidate.validationStageStatus.rows
  let passes := fun stage : StageStatus => texts.casefold stage.status ∈ passLikeStageStatuses
  let passed := Py.sortedBy id ((stages.filter (passes ·)).map (·.stage))
  let failed := Py.sortedBy id ((stages.filter (¬passes ·)).map fun stage =>
    s!"{stage.stage}:{stage.status}")
  let listed := fun names : List String => if names = [] then "none" else ",".intercalate names
  let number := numberText texts "None"
  s!"strategy_family={candidate.strategyFamily}; outcome={outcome}; " ++
    s!"candidate_status={candidate.status.text}; " ++
    s!"economic_status={economicStatusValue viability.status}; " ++
    s!"economic_reason={viability.reason}; " ++
    s!"performance_symbols={performance.performanceSampleSymbols}; " ++
    s!"performance_trades={performance.performanceSampleTrades}; " ++
    s!"median_return={number performance.medianReturn}; " ++
    s!"median_mdd={number performance.medianMdd}; " ++
    s!"profitable_symbol_ratio={number performance.profitableSymbolRatio}; " ++
    s!"validation_passed={listed passed}; validation_other={listed failed}; " ++
    "rejected_reason=" ++ textOr candidate.rejectedReason "none"

/-- The record of a candidate. -/
def candidateRecordId (missionId candidateId : String) : String :=
  "learning:candidate:" ++ stableId texts [missionId, candidateId]

/-- The lessons of a family that say the opposite. -/
def oppositeFamilyRecords (store : LearningStore) (family market : String)
    (recordType : LearningRecordType) (excludeId : String) : List LearningRecord :=
  let opposite : Option LearningRecordType :=
    match recordType with
    | .successPattern => some .failurePattern
    | .failurePattern => some .successPattern
    | _ => none
  match opposite with
  | none => []
  | some opposite => (store.records.rows.map (·.record)).filter fun record =>
    record.scope = learningScope && record.project = learningProject &&
      record.strategy = family && record.market = market && record.recordType = opposite &&
      record.recordId ≠ excludeId

/-- What the opposite lessons take from the confidence in a candidate. -/
def conflictPenalty (store : LearningStore) (missionId market : String)
    (candidate : StrategyCandidateRecord) : ℚ :=
  let recordType := (candidateRecordType candidate (economicViability candidate).status).1
  min (55 / 100) (15 / 100 * (oppositeFamilyRecords store candidate.strategyFamily market
    recordType (candidateRecordId texts missionId candidate.candidateId)).length)

/-- What is learned of a candidate, if there is evidence. -/
def candidateLesson (penalty : ℚ) (missionId market : String)
    (candidate : StrategyCandidateRecord) : Option Lesson :=
  let viability := economicViability candidate
  let (recordType, outcome) := candidateRecordType candidate viability.status
  if candidateEvidence texts candidate = [] then none
  else some {
    recordId := candidateRecordId texts missionId candidate.candidateId, recordType
    content := candidateLessonContent texts candidate (candidateCumulativePerformance candidate)
      viability outcome
    strategy := candidate.strategyFamily, market
    evidence := candidateEvidence texts candidate
    confidence := candidateConfidence texts candidate penalty
    days := revalidationDays, outcome }

/-! ### Lessons of executions -/

/-- How a strategy did in one mode of execution. -/
structure StrategyPerformance where
  strategyId : String
  mode : String
  completedTradeCount : Int
  evidenceRefs : List String
  winRate : Option ℚ
  totalRealizedPnl : Option ℚ
  netPnlObservationCount : Int
  observedNetPnlTotal : Option ℚ
  feeObservationCount : Int
  observedFeeTotal : Option ℚ
  longTradeCount : Int
  shortTradeCount : Int
  firstClosedAt : Option String
  lastClosedAt : Option String

/-- What executions tell of a market. -/
structure LiveFeedback where
  market : String
  completedTradeCount : Int
  totalRealizedPnl : Option ℚ
  partialFillCount : Int
  observedCommissionRate : Option ℚ
  commissionObservationCount : Int
  slippageObservationCount : Int
  strategyPerformance : List StrategyPerformance
  strategyIdentityObservationCount : Int
  strategyIdentityTotalCount : Int

/-- The market of some feedback. -/
def LiveFeedback.marketName (feedback : LiveFeedback) : String :=
  if feedback.market = "" then "UNKNOWN" else feedback.market

/-- The references of a strategy as evidence, or what is counted of it. -/
def strategyEvidence (recordId market mode strategyId : String) (item : StrategyPerformance) :
    List EvidenceRecord :=
  let references := ((item.evidenceRefs.take maxEvidencePerRecord).map Py.strip).filter (· ≠ "")
  let evidence := references.map fun reference => EvidenceRecord.mk
    ("evidence:" ++ stableId texts [recordId, reference]) .experiment reference
    s!"direct {mode} closed-trade evidence for runtime strategy {strategyId}"
  if evidence = [] then
    let count := toString item.completedTradeCount
    [⟨"evidence:" ++ stableId texts [recordId, count, item.lastClosedAt.getD "None"], .experiment,
      s!"runtime:{market}:{mode}:{strategyId}",
      s!"strategy-attributed closed trades={count}; archive identity explicitly observed"⟩]
  else evidence

/-- What is learned of a strategy in one mode, if it can be told and traded there. -/
def strategyLesson (feedback : LiveFeedback) (item : StrategyPerformance) : Option Lesson :=
  let market := feedback.marketName
  let total := feedback.strategyIdentityTotalCount
  let observed := feedback.strategyIdentityObservationCount
  let coverage : ℚ := if 0 < total then (observed : ℚ) / total else 0
  let strategyId := Py.strip item.strategyId
  let mode := texts.casefold (Py.strip (if item.mode = "" then "unknown" else item.mode))
  let count := item.completedTradeCount
  if strategyId = "" ∨ mode ∉ ["paper", "live"] ∨ count ≤ 0 then none
  else
    let recordId := s!"learning:operational:{market}:strategy:" ++
      stableId texts [mode, strategyId]
    let sampleComponent := 16 / 100 * min (texts.log10 (count + 1) / texts.log10 31) 1
    let volumeComponent := 16 / 100 * min ((count : ℚ) / 30) 1
    let coverageComponent := 12 / 100 * min (max coverage 0) 1
    let confidenceValue := min (if mode = "paper" then 72 / 100 else 88 / 100)
      (28 / 100 + sampleComponent + volumeComponent + coverageComponent)
    let number := numberText texts "unknown"
    let closed := fun time => textOr time "unknown"
    some {
      recordId, recordType := .researchOutcome
      content :=
        s!"runtime_strategy_observation market={market}; mode={mode}; " ++
        s!"strategy_id={strategyId}; completed_trades={count}; " ++
        s!"win_rate={number item.winRate}; gross_realized_pnl={number item.totalRealizedPnl}; " ++
        s!"net_pnl_observations={item.netPnlObservationCount}; " ++
        s!"observed_net_pnl={number item.observedNetPnlTotal}; " ++
        s!"fee_observations={item.feeObservationCount}; " ++
        s!"observed_fee_total={number item.observedFeeTotal}; " ++
        s!"long_trades={item.longTradeCount}; short_trades={item.shortTradeCount}; " ++
        s!"identity_coverage={texts.float (Py.round 6 coverage)}; " ++
        s!"identity_observed={observed}; identity_total={total}; " ++
        s!"first_closed_at={closed item.firstClosedAt}; " ++
        s!"last_closed_at={closed item.lastClosedAt}; inference_scope=observational_only"
      strategy := s!"runtime:{mode}:{strategyId}", market
      evidence := strategyEvidence texts recordId market mode strategyId item
      confidence := {
        value := Py.round 6 confidenceValue
        reason := s!"direct {mode} strategy-attributed execution observations; " ++
          "observational only and never promotion authority"
        evidenceCount := count, validationState := s!"{mode}_observed", recency := 1
        conflictPenalty := 0 }
      days := 7, outcome := "operational_strategy_updated" }

/-- What is learned of the costs of executions, if any were observed. -/
def executionLesson (feedback : LiveFeedback) : Option Lesson :=
  let completed := feedback.completedTradeCount
  let commissions := feedback.commissionObservationCount
  let slippages := feedback.slippageObservationCount
  let market := feedback.marketName
  if completed ≤ 0 ∧ commissions ≤ 0 then none
  else
    let recordId := s!"learning:operational:{market}:execution-cost"
    let observed := min (9 / 10) (35 / 100 + 1 / 10 * texts.log10 (max completed 1 + 1) +
      15 / 100 * min ((commissions : ℚ) / 100) 1)
    let confidenceValue := if slippages = 0 then min observed (72 / 100) else observed
    let number := numberText texts "unknown"
    let match_ := if slippages = 0 then "unconfirmed" else "requires_comparison"
    some {
      recordId, recordType := .researchOutcome
      content :=
        s!"execution_cost_observation market={market}; completed_trades={completed}; " ++
        s!"observed_commission_rate={number feedback.observedCommissionRate}; " ++
        s!"commission_observations={commissions}; slippage_observations={slippages}; " ++
        s!"partial_fills={feedback.partialFillCount}; " ++
        s!"total_realized_pnl={number feedback.totalRealizedPnl}; cost_model_match={match_}"
      strategy := "execution-cost", market
      evidence := [⟨"evidence:" ++ stableId texts [recordId, toString completed,
        toString commissions, numberText texts "None" feedback.observedCommissionRate],
        .experiment, s!"runtime:{market}:paper-live-execution",
        s!"completed_trades={completed}; commission_fill_observations={commissions}; " ++
          s!"partial_fills={feedback.partialFillCount}; slippage_observations={slippages}"⟩]
      confidence := {
        value := Py.round 6 confidenceValue
        reason := "direct Paper/Live execution observations; cost-model match remains " ++
          "unconfirmed until slippage is measured and compared"
        evidenceCount := max completed commissions, validationState := "need_validation"
        recency := 1, conflictPenalty := 0 }
      days := revalidationDays, outcome := "operational_feedback_updated" }

/-! ### Calls as steps -/

/-- A lesson that a call goes on with. -/
inductive Work where
  | candidate (missionId market : String) (record : StrategyCandidateRecord)
  | strategy (feedback : LiveFeedback) (item : StrategyPerformance)
  | execution (feedback : LiveFeedback)

/-- The lesson of some work. -/
def Work.lesson (store : LearningStore) : Work → Option Lesson
  | candidate missionId market record =>
    candidateLesson texts (conflictPenalty texts store missionId market record) missionId market
      record
  | strategy feedback item => strategyLesson texts feedback item
  | execution feedback => executionLesson texts feedback

/-- What a part of a call answers. -/
inductive LearningAnswer where
  | raised
  | written (recordId : String) (version : Nat) (outcome : String)
  | unchanged
  | noMaterialEvidence
  | done
  deriving DecidableEq, Repr

/-- The database, and how far a call on it has come. -/
structure LearningState where
  store : LearningStore
  /-- The event of the last write, before it is committed. -/
  pending : Option AuditEvent
  queue : List Work
  now : String

/-- A database that nothing was learned in. -/
def LearningState.initial : LearningState := ⟨.empty, none, [], ""⟩

/-- No call is going on. -/
def LearningState.Idle (state : LearningState) : Prop := state.pending = none ∧ state.queue = []

/-- What can happen; a call commits only when it advances, once each time. -/
inductive LearningStep where
  | learnCandidate (missionId market : String) (candidate : StrategyCandidateRecord)
      (now : String)
  | syncOperationalFeedback (feedback : Option LiveFeedback) (now : String)
  | advance
  | crash

/-- Start a call, unless another one is going on. -/
def LearningState.call (state : LearningState) (queue : List Work) (now : String) :
    LearningState :=
  if state.pending.isNone && state.queue.isEmpty then { state with queue, now } else state

/-- Go on with a lesson: what it raises ends the call. -/
def LearningState.learn (state : LearningState) (work : Work) (rest : List Work) :
    LearningAnswer × LearningState :=
  match work.lesson texts state.store with
  | none => (.noMaterialEvidence, { state with queue := rest })
  | some lesson =>
    let previous := state.store.get? lesson.recordId
    match lesson.record texts previous state.now with
    | none => (.raised, { state with queue := [] })
    | some record =>
      match state.store.upsert texts record with
      | none => (.unchanged, { state with queue := rest })
      | some store =>
        let current := (store.get? lesson.recordId).getD record
        (.written current.recordId current.version lesson.outcome,
          { state with
            store, queue := rest, pending := some (auditFor texts current previous state.now) })

/-- Take one step. -/
def LearningState.step (state : LearningState) : LearningStep → LearningAnswer × LearningState
  | .learnCandidate missionId market candidate now =>
    (.done, state.call [.candidate missionId market candidate] now)
  | .syncOperationalFeedback none now => (.done, state.call [] now)
  | .syncOperationalFeedback (some feedback) now =>
    (.done, state.call (feedback.strategyPerformance.map (.strategy feedback) ++
      [.execution feedback]) now)
  | .advance =>
    match state.pending, state.queue with
    | some event, _ =>
      (.done, { state with store := state.store.appendAudit event, pending := none })
    | none, work :: rest => state.learn texts work rest
    | none, [] => (.done, state)
  | .crash => (.done, { state with pending := none, queue := [] })

/-- Calls on one database as a machine. -/
def learningMachine : Machine LearningState LearningStep LearningAnswer :=
  ⟨LearningState.step texts⟩

end Lessons

end StrategyLab.ProductionLearning
