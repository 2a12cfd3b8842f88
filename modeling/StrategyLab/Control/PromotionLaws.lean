import StrategyLab.Control.StrategyCandidatePromotion

/-! What the promotion registers, and for which runs: one run at a time, then a whole call. -/

namespace StrategyLab

open Raise (bind_eq_ok ensure_eq_ok pure_eq_ok)

/-- The absolute bar on a summary, as it is checked. -/
structure MeetsAbsoluteBar (summary : UniverseResearchSummary) : Prop where
  confidence : summary.sampleConfidence = .high
  concentration : summary.concentrationDecision.value ∈ allowedConcentration
  trades : minTradeCount ≤ summary.aggregateTradeCount
  countable : (summary.aggregateTradeCount : Int) < Json.floatLimit
  profitable : ∃ ratio ∈ summary.profitableSymbolRatio, minProfitableSymbolRatio ≤ ratio ∧ ratio ≤ 1
  median : ∃ value ∈ summary.medianReturn, 0 < value

/-- A run that passes the absolute bar: all of it is about the original strategy, except that a
candidate was preferred to it. -/
structure Offered (sha : Json → String) (run : MultiSymbolResearchRun) : Prop where
  identity : Py.isBlank run.runId = false
  preferred : run.finalRecommendation = .candidatePreferred
  bar : MeetsAbsoluteBar run.summary
  signed : run.strategy.fingerprint sha ≠ ""
  market : run.request.universe_.market ∈ ["KR", "US"]

/-- The family that a run belongs to. -/
def MultiSymbolResearchRun.family (sha : Json → String) (run : MultiSymbolResearchRun) : String :=
  familyIdForStrategy (run.strategy.toJson sha) run.request.universe_.market

section Stored

variable {sha : Json → String} {str : Json → String} {run : MultiSymbolResearchRun}

/-- The values of the two confidences are the same text only for the same confidence. -/
theorem SampleConfidence.value_eq_required {confidence : SampleConfidence} :
    confidence.value = requiredSampleConfidence ↔ confidence = .high := by
  cases confidence <;> decide

/-- Only the preference for a candidate is written as the required recommendation. -/
theorem CandidateGeneralizationDecision.value_eq_required
    {decision : CandidateGeneralizationDecision} :
    decision.value = requiredRecommendation ↔ decision = .candidatePreferred := by
  cases decision <;> decide

@[simp] theorem payloadRunId_toJson : payloadRunId str (run.toJson sha) = run.runId := by
  by_cases empty : run.runId = ""
  · simp [payloadRunId, MultiSymbolResearchRun.toJson, Json.getOr, Json.truthy, empty]
  · simp [payloadRunId, MultiSymbolResearchRun.toJson, Json.getOr, Json.truthy, empty]

/-- The market of a stored run is the market of its universe. -/
@[simp] theorem payloadMarket_toJson :
    payloadMarket (run.toJson sha) = .ok (some run.request.universe_.market) := by
  simp [payloadMarket, MultiSymbolResearchRun.toJson, MultiSymbolResearchRequest.toJson,
    KRXResearchUniverse.toJson, Json.isObject, Json.text?, Raise.ensure, bind, Except.bind, pure,
    Except.pure]

section Summary

variable {summary : UniverseResearchSummary}

variable {range : ℚ → Bool}

/-- The trade count of a stored summary lies in a range when it fits a double. -/
theorem numberMeets_trades :
    numberMeets summary.toJson "aggregate_trade_count" range = true ↔
      (summary.aggregateTradeCount : Int) < Json.floatLimit ∧
        range summary.aggregateTradeCount = true := by
  have positive : |(summary.aggregateTradeCount : Int)| = summary.aggregateTradeCount :=
    abs_of_nonneg (by omega)
  by_cases fits : (summary.aggregateTradeCount : Int) < Json.floatLimit
  · simp [numberMeets, UniverseResearchSummary.toJson, Json.finite?, positive, fits]
  · simp [numberMeets, UniverseResearchSummary.toJson, Json.finite?, positive, fits]

/-- An optional number of a stored summary lies in a range when it is there and does. -/
theorem any_finite_optFloat {value : Option ℚ} :
    (optFloat value).finite?.any range = true ↔ ∃ number ∈ value, range number = true := by
  cases value with
  | none => simp [optFloat, Json.finite?]
  | some number => simp [optFloat, Json.finite?]

theorem numberMeets_profitable :
    numberMeets summary.toJson "profitable_symbol_ratio" range = true ↔
      ∃ ratio ∈ summary.profitableSymbolRatio, range ratio = true := by
  simp only [← any_finite_optFloat]
  simp [numberMeets, UniverseResearchSummary.toJson]

theorem numberMeets_median :
    numberMeets summary.toJson "median_return" range = true ↔
      ∃ value ∈ summary.medianReturn, range value = true := by
  simp only [← any_finite_optFloat]
  simp [numberMeets, UniverseResearchSummary.toJson]

end Summary

/-- A stored run passes the absolute bar exactly when it is offered. -/
theorem absoluteBar_stored {decided : String × String} :
    absoluteBar str (run.toJson sha) = .ok decided ↔
      Offered sha run ∧ decided = (run.family sha, run.strategy.fingerprint sha) := by
  have summary : (run.toJson sha).get? "summary" = some run.summary.toJson := by
    simp [MultiSymbolResearchRun.toJson]
  have strategy : (run.toJson sha).get? "strategy" = some (run.strategy.toJson sha) := by
    simp [MultiSymbolResearchRun.toJson]
  have preferred : textAt (run.toJson sha) "final_recommendation" =
      some run.finalRecommendation.value := by
    simp [textAt, MultiSymbolResearchRun.toJson, Json.text?]
  have confidence : textAt run.summary.toJson "sample_confidence" =
      some run.summary.sampleConfidence.value := by
    simp [textAt, UniverseResearchSummary.toJson, Json.text?]
  have concentration : textAt run.summary.toJson "concentration_decision" =
      some run.summary.concentrationDecision.value := by
    simp [textAt, UniverseResearchSummary.toJson, Json.text?]
  have fingerprint : textAt (run.strategy.toJson sha) "fingerprint" =
      some (run.strategy.fingerprint sha) := by
    simp [textAt, CanonicalStrategySpec.toJson, CanonicalStrategySpec.unsignedFields, Json.text?]
  have parts : (["entry", "exit", "filters"].all fun part =>
      (((run.strategy.toJson sha).get? part).getD (.obj [])).isObject) = true := by
    simp [CanonicalStrategySpec.toJson, CanonicalStrategySpec.unsignedFields, RuleMap.toJson,
      Json.isObject]
  have object : run.summary.toJson.isObject = true ∧
      (run.strategy.toJson sha).isObject = true := ⟨rfl, rfl⟩
  have whole (count : Nat) : (count : ℚ).isInt = true := by simp [Rat.isInt]
  unfold absoluteBar
  simp only [payloadRunId_toJson, payloadMarket_toJson, summary, strategy, preferred, confidence,
    concentration, fingerprint, parts, object, Option.getD_some, bind_eq_ok, ensure_eq_ok,
    exists_const, Except.ok.injEq, exists_eq_left', pure_eq_ok, Option.some.injEq, Option.any_some,
    SampleConfidence.value_eq_required, CandidateGeneralizationDecision.value_eq_required,
    numberMeets_trades, numberMeets_profitable, numberMeets_median, whole, Bool.and_true,
    Bool.and_eq_true, decide_eq_true_eq, Bool.not_eq_true', true_and]
  constructor
  · rintro ⟨identity, preferred, high, concentrated, ⟨fits, many⟩, profitable, median, signed,
      market, rfl⟩
    have bar : MeetsAbsoluteBar run.summary :=
      ⟨high, concentrated, many, fits, profitable, median⟩
    exact ⟨⟨identity, preferred, bar, signed, market⟩, rfl⟩
  · rintro ⟨⟨identity, preferred, bar, signed, market⟩, rfl⟩
    exact ⟨identity, preferred, bar.confidence, bar.concentration, ⟨bar.countable, bar.trades⟩,
      bar.profitable, bar.median, signed, market, rfl⟩

end Stored

/-- A version of a family was registered for a run. -/
def Knows (families : StrategyFamilies) (familyId runId : String) : Prop :=
  ∃ version ∈ (families.get familyId).versions, version.candidateId = runId

/-- A version that says what a stored payload says, and that payload passes the bar. -/
structure RegisteredFor (call : PromotionCall) (payload : Json) (version : StrategyVersion) :
    Prop where
  passes : absoluteBar call.str payload = .ok (version.familyId, version.specFingerprint)
  rules : version.specRules = payloadRules (payload.getOr "strategy" (.obj []))
  summary : version.validationSummary = payload.getOr "summary" (.obj [])
  status : version.status = .applyReady

section Runs

variable (call : PromotionCall) (runs : ResearchRuns)

/-- What promoting one run does: nothing once it is settled, or one registration. -/
inductive Promoted (state : PromotionState) (runId : String) : PromotionState → Prop
  | skipped (settled : ∀ {payload familyId fingerprint}, runs.getPayload runId = some payload →
      absoluteBar call.str payload = .ok (familyId, fingerprint) →
        Knows state.families familyId runId) : Promoted state runId state
  | registered {payload : Json} {version : StrategyVersion}
      (read : runs.getPayload runId = some payload) (named : version.candidateId = runId)
      (unknown : ¬Knows state.families version.familyId runId)
      (made : RegisteredFor call payload version) :
      Promoted state runId
        ⟨state.families.save version.familyId
            ⟨(state.families.get version.familyId).versions ++ [version]⟩ call.now,
          state.registered ++ [version]⟩

variable {call runs}

/-- Promoting a run skips it or registers it. -/
theorem promoteRun_promoted (state : PromotionState) (runId : String) :
    Promoted call runs state runId (promoteRun call runs state runId) := by
  unfold promoteRun
  cases read : runs.getPayload runId with
  | none => exact .skipped fun found => by simp [read] at found
  | some payload =>
    cases judged : absoluteBar call.str payload with
    | error reason =>
      simp only [evaluateRun, judged]
      refine .skipped fun found passes => ?_
      obtain rfl := Option.some.inj (read.symm.trans found)
      simp [judged] at passes
    | ok decided =>
      obtain ⟨familyId, fingerprint⟩ := decided
      simp only [evaluateRun, judged]
      split
      · rename_i known
        refine .skipped fun found passes => ?_
        obtain rfl := Option.some.inj (read.symm.trans found)
        obtain ⟨rfl, -⟩ := Prod.mk.inj (Except.ok.inj (judged.symm.trans passes))
        simpa [Knows, StrategyVersionRegistry.history] using known
      · rename_i unknown
        let added := ((state.families.get familyId).registerApplyReady
          (call.uuid state.registered.length) familyId runId fingerprint
          (payloadRules (payload.getOr "strategy" (.obj []))) (payload.getOr "summary" (.obj []))
          call.now none).2
        have free : ¬Knows state.families familyId runId := by
          simpa [Knows, StrategyVersionRegistry.history] using unknown
        have made : RegisteredFor call payload added := ⟨judged, rfl, rfl, rfl⟩
        exact .registered read rfl free made

variable {state next : PromotionState} {runId : String}

variable {familyId other : String}

/-- What a family knows it goes on knowing. -/
theorem Promoted.knows (step : Promoted call runs state runId next)
    (known : Knows state.families familyId other) : Knows next.families familyId other := by
  cases step with
  | skipped settled => exact known
  | @registered payload version read named unknown made =>
    obtain ⟨old, member, carries⟩ := known
    refine ⟨old, ?_, carries⟩
    rw [StrategyFamilies.get_save]
    split
    · rename_i same
      subst same
      exact List.mem_append_left _ member
    · exact member

/-- A family learns of no other run than the promoted one. -/
theorem Promoted.learns (step : Promoted call runs state runId next)
    (differs : other ≠ runId) (known : Knows next.families familyId other) :
    Knows state.families familyId other := by
  cases step with
  | skipped settled => exact known
  | @registered payload version read named unknown made =>
    obtain ⟨found, member, carries⟩ := known
    rw [StrategyFamilies.get_save] at member
    split at member
    · rename_i same
      subst same
      rcases List.mem_append.mp member with old | new
      · exact ⟨found, old, carries⟩
      · obtain rfl := List.mem_singleton.mp new
        exact absurd (carries.symm.trans named) differs
    · exact ⟨found, member, carries⟩

variable {version : StrategyVersion}

/-- A registered version stays on the list. -/
theorem Promoted.keeps (step : Promoted call runs state runId next)
    (member : version ∈ state.registered) : version ∈ next.registered := by
  cases step with
  | skipped settled => exact member
  | registered read named unknown made => exact List.mem_append_left _ member

/-- The promotions of some runs, one after another. -/
def promoteAll (call : PromotionCall) (runs : ResearchRuns) (runIds : List String)
    (state : PromotionState) : PromotionState :=
  runIds.foldl (promoteRun call runs) state

/-- The promotion of a first run comes before those of the others. -/
theorem promoteAll_cons (runIds : List String) :
    promoteAll call runs (runId :: runIds) state =
      promoteAll call runs runIds (promoteRun call runs state runId) := rfl

variable {runIds : List String}

/-- Over a whole call families forget nothing. -/
theorem promoteAll_knows (known : Knows state.families familyId other) :
    Knows (promoteAll call runs runIds state).families familyId other := by
  induction runIds generalizing state with
  | nil => exact known
  | cons runId rest ih => exact ih ((promoteRun_promoted state runId).knows known)

/-- Over a whole call the list of registered versions grows. -/
theorem promoteAll_keeps (member : version ∈ state.registered) :
    version ∈ (promoteAll call runs runIds state).registered := by
  induction runIds generalizing state with
  | nil => exact member
  | cons runId rest ih => exact ih ((promoteRun_promoted state runId).keeps member)

/-- Every version that a call adds was registered for a run it was shown and whose family did not
know it before, and is known from then on. -/
theorem promoteAll_registered (member : version ∈ (promoteAll call runs runIds state).registered) :
    version ∈ state.registered ∨
      version.candidateId ∈ runIds ∧
        ¬Knows state.families version.familyId version.candidateId ∧
        Knows (promoteAll call runs runIds state).families version.familyId version.candidateId ∧
        ∃ payload, runs.getPayload version.candidateId = some payload ∧
          RegisteredFor call payload version := by
  induction runIds generalizing state with
  | nil => exact .inl member
  | cons runId rest ih =>
    have step : Promoted call runs state runId (promoteRun call runs state runId) :=
      promoteRun_promoted state runId
    rcases ih member with before | ⟨listed, unknown, recorded, made⟩
    · -- The version was there before the others, so it is old or was added for the first run.
      rw [promoteAll_cons]
      generalize promoteRun call runs state runId = next at step before
      cases step with
      | skipped settled => exact .inl before
      | @registered payload added read named unknown made =>
        rcases List.mem_append.mp before with old | new
        · exact .inl old
        · obtain rfl := List.mem_singleton.mp new
          subst named
          refine .inr ⟨List.mem_cons_self, unknown, promoteAll_knows ?_, payload, read, made⟩
          refine ⟨version, ?_, rfl⟩
          rw [StrategyFamilies.get_save, if_pos rfl]
          exact List.mem_append_right _ List.mem_cons_self
    · exact .inr ⟨List.mem_cons_of_mem _ listed, fun known => unknown (step.knows known), recorded,
        made⟩

/-- A call registers every run that passes the bar and that its family does not know. -/
theorem promoteAll_registers {payload : Json} {familyId fingerprint : String}
    (listed : runId ∈ runIds) (read : runs.getPayload runId = some payload)
    (passes : absoluteBar call.str payload = .ok (familyId, fingerprint))
    (unknown : ¬Knows state.families familyId runId) :
    ∃ version ∈ (promoteAll call runs runIds state).registered, version.candidateId = runId := by
  induction runIds generalizing state with
  | nil => exact absurd listed List.not_mem_nil
  | cons first rest ih =>
    have step : Promoted call runs state first (promoteRun call runs state first) :=
      promoteRun_promoted state first
    by_cases same : first = runId
    · subst same
      rw [promoteAll_cons]
      generalize promoteRun call runs state first = next at step
      cases step with
      | skipped settled => exact absurd (settled read passes) unknown
      | @registered payload version read named unknown made =>
        exact ⟨version, promoteAll_keeps (List.mem_append_right _ List.mem_cons_self), named⟩
    · have behind : runId ∈ rest := (List.mem_cons.mp listed).resolve_left (Ne.symm same)
      exact ih behind fun known => unknown (step.learns (Ne.symm same) known)

end Runs

end StrategyLab
