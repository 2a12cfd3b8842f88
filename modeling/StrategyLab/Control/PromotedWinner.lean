import StrategyLab.Control.PromotionLaws

/-! The promoted version carries the original strategy while the run recommends a candidate. -/

namespace StrategyLab

open Raise (bind_eq_ok pure_eq_ok)

variable {sha : Json → String} {numerals : Py.Numerals}

/-- The strategy that a comparison names: the original, or the candidate of that name. -/
def testedStrategy (numerals : Py.Numerals) (run : MultiSymbolResearchRun) (name : String) :
    Option CanonicalStrategySpec :=
  if name = "original" then some run.strategy
  else
    match ImprovementCandidateGenerator.generate run.strategy run.runId run.generatedAt numerals with
    | .ok candidates => (candidates.find? (·.candidateId = name)).map (·.strategy)
    | .error _ => none

/-- The evidence across symbols for the strategy that a comparison names. -/
def testedSummary (run : MultiSymbolResearchRun) (name : String) : UniverseResearchSummary :=
  if name = "original" then run.summary
  else aggregateSymbolEvidence (evidenceFor run.candidateEvidence name)

/-- A version is the strategy that the comparison of its run names as the winner, and the evidence
for that strategy meets the absolute bar. -/
def IsRecommended (sha : Json → String) (numerals : Py.Numerals) (run : MultiSymbolResearchRun)
    (version : StrategyVersion) : Prop :=
  ∃ name strategy, run.candidateGeneralization.winnerId = some name ∧
    testedStrategy numerals run name = some strategy ∧
    version.specRules = strategy.rulesJson ∧
    version.specFingerprint = strategy.fingerprint sha ∧
    MeetsAbsoluteBar (testedSummary run name)

/-- A derived strategy never keeps the identity of the one it is derived from. -/
theorem derive_specId_ne {strategy changed : CanonicalStrategySpec}
    {runId letter suffix createdAt changedField reason : String} :
    (ImprovementCandidate.derive strategy changed runId letter suffix createdAt changedField
      reason).strategy.specId ≠ strategy.specId := by
  intro same
  have lengths := congrArg String.length same
  have colon : ":".length = 1 := by decide
  simp [ImprovementCandidate.derive, toString, colon] at lengths
  omega

variable {strategy : CanonicalStrategySpec}

/-- No candidate of a strategy has its identity. -/
theorem generate_specId_ne {runId createdAt : String} {candidates : List ImprovementCandidate}
    (generated : ImprovementCandidateGenerator.generate strategy runId createdAt numerals =
      .ok candidates) {candidate : ImprovementCandidate} (member : candidate ∈ candidates) :
    candidate.strategy.specId ≠ strategy.specId := by
  obtain ⟨entry, widened, rest⟩ := bind_eq_ok.mp generated
  obtain rfl := pure_eq_ok.mp rest
  rcases List.mem_append.mp member with first | later
  · -- There is at most one entry candidate, and it is derived in either way.
    unfold ImprovementCandidateGenerator.entryCandidate at widened
    simp only at widened
    split at widened
    · obtain rfl := pure_eq_ok.mp widened
      obtain rfl := List.mem_singleton.mp first
      exact derive_specId_ne
    · split at widened
      · obtain ⟨current, -, widened⟩ := bind_eq_ok.mp widened
        obtain rfl := pure_eq_ok.mp widened
        obtain rfl := List.mem_singleton.mp first
        exact derive_specId_ne
      · obtain rfl := pure_eq_ok.mp widened
        exact absurd first List.not_mem_nil
  · rcases List.mem_cons.mp later with rfl | last
    · exact derive_specId_ne
    · obtain rfl := List.mem_singleton.mp last
      exact derive_specId_ne

/-- A best line that is preferred to the original is not the original. -/
theorem judgeBest_preferred {originalRow best : ComparisonRow} {rows : List ComparisonRow}
    (preferred : (judgeBest originalRow best rows).decision = .candidatePreferred) :
    (judgeBest originalRow best rows).winnerId ≠ some "original" := by
  unfold judgeBest at preferred ⊢
  by_cases candidate : best.candidateId = "original"
  · simp [candidate] at preferred
  · rw [if_neg candidate] at preferred ⊢
    simp only at preferred ⊢
    split at preferred
    · rename_i better
      rw [if_pos better]
      exact fun named => candidate (Option.some.inj named)
    · simp at preferred

/-- A comparison that prefers a candidate does not name the original. -/
theorem winnerId_of_preferred {original : List SymbolResearchEvidence}
    {candidates : List CandidateSymbolEvidence}
    (preferred : (compareCandidateGeneralization original candidates).decision =
      .candidatePreferred) :
    (compareCandidateGeneralization original candidates).winnerId ≠ some "original" := by
  unfold compareCandidateGeneralization at preferred ⊢
  simp only at preferred ⊢
  split at preferred
  · simp at preferred
  · rename_i sufficient
    rw [if_neg sufficient]
    cases lines : (comparisonRows original candidates).filter (·.comparable) with
    | nil => simp [lines] at preferred
    | cons first others =>
      cases others with
      | nil => simp [lines] at preferred
      | cons second others =>
        simp only [lines] at preferred ⊢
        exact judgeBest_preferred preferred

/-- The strategy of a preferred candidate has another identity than the original. -/
theorem testedStrategy_specId_ne {run : MultiSymbolResearchRun} {name : String}
    (candidate : name ≠ "original")
    (tested : testedStrategy numerals run name = some strategy) :
    strategy.specId ≠ run.strategy.specId := by
  unfold testedStrategy at tested
  rw [if_neg candidate] at tested
  split at tested
  · rename_i candidates generated
    obtain ⟨found, searched, rfl⟩ := Option.map_eq_some_iff.mp tested
    exact generate_specId_ne generated (List.mem_of_find?_eq_some searched)
  · simp at tested

/-- A run that recommends a candidate does not name the original as the winner. -/
theorem concludeRun_winnerId {env : ResearchEnvironment} {runId generatedAt : String}
    {universe_ : KRXResearchUniverse}
    {evidence : List SymbolResearchEvidence} {run : MultiSymbolResearchRun}
    (produced : concludeRun env runId universe_ strategy evidence generatedAt = .ok run)
    (preferred : run.finalRecommendation = .candidatePreferred) :
    run.candidateGeneralization.winnerId ≠ some "original" := by
  obtain ⟨candidates, -, finished⟩ := bind_eq_ok.mp produced
  obtain rfl := pure_eq_ok.mp finished
  refine winnerId_of_preferred ?_
  -- The recommendation prefers a candidate only when the comparison does.
  simp only [recommend] at preferred
  split at preferred
  · simp at preferred
  · split at preferred
    · assumption
    · split at preferred
      · simp at preferred
      · simp at preferred

section Promotion

variable {call : PromotionCall} {runs : ResearchRuns} {families : StrategyFamilies} {limit : Nat}
  {run : MultiSymbolResearchRun}

/-- A run that a call registers: it is among the listed ones, the original strategy passes the
absolute bar, and no version of the family was registered for it. -/
structure Promotable (sha : Json → String) (runs : ResearchRuns) (families : StrategyFamilies)
    (limit : Nat) (run : MultiSymbolResearchRun) : Prop where
  listed : run.runId ∈ (runs.listRuns limit).map (·.runId)
  offered : Offered sha run
  unknown : ¬Knows families (run.family sha) run.runId

/-- Whatever the promotion reads of a stored run is what was stored. -/
theorem getPayload_stored {payload : Json} (stored : runs.find? run.runId = some (run.stored sha))
    (read : runs.getPayload run.runId = some payload) : payload = run.toJson sha := by
  unfold ResearchRuns.getPayload at read
  split at read
  · simp at read
  · rw [stored] at read
    exact (Option.some.inj read).symm

/-- A listed run is read. -/
theorem getPayload_listed (stored : runs.find? run.runId = some (run.stored sha))
    (listed : run.runId ∈ (runs.listRuns limit).map (·.runId)) :
    runs.getPayload run.runId = some (run.toJson sha) := by
  obtain ⟨row, member, named⟩ := List.mem_map.mp listed
  have genuine := (List.mem_filter.mp (List.mem_of_mem_take member)).2
  rw [named] at genuine
  unfold ResearchRuns.getPayload
  rw [if_neg (by simpa using genuine), stored]
  rfl

/-- Without one of the parts, the rules of a stored strategy are those of the strategy. -/
theorem payloadRules_stored :
    payloadRules ((run.toJson sha).getOr "strategy" (.obj [])) = run.strategy.rulesJson := by
  have part (rules : RuleMap) :
      (if rules.toJson.truthy then rules.toJson else .obj []) = rules.toJson :=
    Json.obj_or_empty _
  have whole : (run.strategy.toJson sha).truthy = true := rfl
  have strategy : (run.toJson sha).getOr "strategy" (.obj []) = run.strategy.toJson sha := by
    simp [Json.getOr, MultiSymbolResearchRun.toJson, whole]
  rw [strategy]
  simp [payloadRules, Json.getOr, CanonicalStrategySpec.toJson,
    CanonicalStrategySpec.unsignedFields, CanonicalStrategySpec.rulesJson, part]

/-- What a call registers for a stored run is its original strategy, and only a promotable one. -/
theorem registered_original {version : StrategyVersion}
    (stored : runs.find? run.runId = some (run.stored sha))
    (member : version ∈ (promoteEligibleCandidates call runs families limit).registered)
    (named : version.candidateId = run.runId) :
    Promotable sha runs families limit run ∧ version.familyId = run.family sha ∧
      version.specRules = run.strategy.rulesJson ∧
      version.specFingerprint = run.strategy.fingerprint sha := by
  rcases promoteAll_registered member with old | ⟨listed, unknown, -, payload, read, made⟩
  · exact absurd old List.not_mem_nil
  · rw [named] at listed unknown read
    obtain rfl := getPayload_stored stored read
    obtain ⟨offered, decided⟩ := absoluteBar_stored.mp made.passes
    obtain ⟨family, fingerprint⟩ := Prod.mk.inj decided
    rw [family] at unknown
    exact ⟨⟨listed, offered, unknown⟩, family, made.rules.trans payloadRules_stored, fingerprint⟩

/-- A version registered for a run is the winner of its comparison exactly when none is registered,
which is when the run is not promotable; a second call registers nothing more for the run. -/
theorem promotes_recommended_iff {env : ResearchEnvironment} {runId generatedAt : String}
    {universe_ : KRXResearchUniverse} {strategy : CanonicalStrategySpec}
    {evidence : List SymbolResearchEvidence} (collisionFree : CollisionFree env.sha)
    (produced : concludeRun env runId universe_ strategy evidence generatedAt = .ok run)
    (stored : runs.find? run.runId = some (run.stored env.sha)) :
    ((∀ version ∈ (promoteEligibleCandidates call runs families limit).registered,
        version.candidateId = run.runId → IsRecommended env.sha env.numerals run version) ↔
      ¬Promotable env.sha runs families limit run) ∧
    ((∃ version ∈ (promoteEligibleCandidates call runs families limit).registered,
        version.candidateId = run.runId) →
      ∀ later laterLimit, ∀ version ∈ (promoteEligibleCandidates later runs
        (promoteEligibleCandidates call runs families limit).families laterLimit).registered,
          version.candidateId ≠ run.runId) := by
  refine ⟨⟨fun recommended promotable => ?_, fun unpromotable version member named => ?_⟩, ?_⟩
  · have passes : absoluteBar call.str (run.toJson env.sha) = .ok _ :=
      absoluteBar_stored.mpr ⟨promotable.offered, rfl⟩
    have start : ¬Knows (⟨families, []⟩ : PromotionState).families (run.family env.sha) run.runId :=
      promotable.unknown
    obtain ⟨version, member, named⟩ := promoteAll_registers promotable.listed
      (getPayload_listed stored promotable.listed) passes start
    obtain ⟨-, -, -, signed⟩ := registered_original stored member named
    obtain ⟨name, winner, won, tested, -, fingerprint, -⟩ := recommended version member named
    -- One fingerprint means one identity, but a candidate never has that of the original.
    have candidate : name ≠ "original" := by
      rintro rfl
      exact concludeRun_winnerId produced promotable.offered.preferred won
    have same := collisionFree _ _ (fingerprint.symm.trans signed)
    exact testedStrategy_specId_ne candidate tested same
  · exact absurd (registered_original stored member named).1 unpromotable
  · rintro ⟨version, member, named⟩ later laterLimit again memberAgain namedAgain
    -- The family has known the run since the first call, so the second one skips it.
    obtain ⟨-, family, -⟩ := registered_original stored member named
    rcases promoteAll_registered member with old | ⟨-, -, recorded, -⟩
    · exact absurd old List.not_mem_nil
    · rw [family, named] at recorded
      exact (registered_original stored memberAgain namedAgain).1.unknown recorded

end Promotion

/-- The SHA-256 of the two strategies tested below, and a name for every other one. -/
def sampleDigest (specId : String) : String :=
  if specId = "spec-1" then "d236c4fe0e952c8ef82fda86054ed5db79ce87422ed2475bf99b7f9177b60fe8"
  else if specId = "spec-1:exit15" then
    "e30132673fe055944dd2a44a72418ba33ce56321fa48e01e26744012cd47be91"
  else "sha256:" ++ specId

/-- The sample digest of a payload with an identity. -/
def sampleSha (payload : Json) : String := (textAt payload "spec_id").elim "" sampleDigest

/-- The sample digest tells strategies apart. -/
theorem sampleSha_collisionFree : CollisionFree sampleSha := by
  have signed (spec : CanonicalStrategySpec) :
      spec.fingerprint sampleSha = sampleDigest spec.specId := by
    simp [CanonicalStrategySpec.fingerprint, CanonicalStrategySpec.unsignedFields, sampleSha,
      textAt, Json.text?]
  intro left right same
  rw [signed, signed] at same
  -- A name starts with the letter s, and neither of the two digests does.
  unfold sampleDigest at same
  split_ifs at same with one two three four five six seven
  · exact one.trans two.symm
  · exact absurd same (by decide)
  · exact absurd (congrArg (·.toList.head?) same) (by simp)
  · exact absurd same (by decide)
  · exact four.trans six.symm
  · exact absurd (congrArg (·.toList.head?) same) (by simp)
  · exact absurd (congrArg (·.toList.head?) same) (by simp)
  · exact absurd (congrArg (·.toList.head?) same) (by simp)
  · simpa using same

/-- A breakout over twenty days that is left at the low of ten. -/
def sampleStrategy : CanonicalStrategySpec :=
  { specId := "spec-1", symbol := "005930", entry := userRules [("breakout_lookback", .int 20)],
    exit := userRules [("channel_exit_lookback", .int 10), ("protective_stop_pct", .int (-5))],
    filters := userRules [], sourceText := "breakout", createdAt := "2026-07-24T00:00:00Z" }

/-- Fifteen trades with a given return. -/
def sampleMetrics (totalReturn : ℚ) : RealPerformanceMetrics :=
  { totalReturn, mdd := 1 / 10, winRate := none, profitFactor := none, tradeCount := 15,
    averageTrade := none, averageWin := none, averageLoss := none, payoffRatio := none,
    exposure := 1 / 2, endingEquity := 1000000 * (1 + totalReturn), expectancy := none,
    longestLosingStreak := 0 }

/-- Leaving at the low of fifteen days earns more, and far more on one symbol. -/
def sampleRunner (runId : String) (strategy : CanonicalStrategySpec) (dataset : MarketDataset)
    (_ : BacktestExecutionAssumptionSet) : Except BacktestError RealBacktestResult :=
  let totalReturn : ℚ :=
    if strategy.exit.get "channel_exit_lookback" = some ⟨.int 15, .researchCandidate⟩ then
      if strategy.symbol = "051910" then 20 / 100 else 6 / 100
    else 5 / 100
  .ok { runId, status := .completed, source := .real, datasetId := dataset.datasetId, strategy,
        metrics := sampleMetrics totalReturn, trades := [], equityCurve := [], warnings := [] }

/-- Research with the sample runner on datasets that are there for every symbol. -/
def sampleResearch : ResearchEnvironment :=
  { numerals := noNumerals, sha := sampleSha, runner := sampleRunner,
    datasetCache := fun symbol => some ⟨symbol, [], false⟩ }

/-- The original strategy earned five percent on each of four symbols. -/
def sampleEvidence : List SymbolResearchEvidence :=
  ["005930", "000660", "005380", "051910"].map fun symbol =>
    let strategy := { sampleStrategy with symbol, specId := s!"spec-1:{symbol}" }
    let result : RealBacktestResult :=
      { runId := s!"run-1:{symbol}:original", status := .completed, source := .real,
        datasetId := symbol, strategy, metrics := sampleMetrics (5 / 100), trades := [],
        equityCurve := [], warnings := [] }
    { evidenceId := s!"run-1:evidence:{symbol}", symbol, eligible := true, blockedReason := none,
      source := "real", fixtureBacked := false, metrics := some (sampleMetrics (5 / 100)),
      backtestResult := some result }

/-- The four symbols. -/
def sampleUniverse : KRXResearchUniverse :=
  ⟨"universe-1", ["005930", "000660", "005380", "051910"], "KR"⟩

/-- The run on the four symbols. -/
def sampleRun : Except BacktestError MultiSymbolResearchRun :=
  concludeRun sampleResearch "run-1" sampleUniverse sampleStrategy sampleEvidence
    "2026-07-24T00:00:00Z"

/-- The runs once the sample run is stored. -/
def sampleRuns : ResearchRuns :=
  match sampleRun with
  | .ok run => ResearchRuns.addRun .empty sampleSha run
  | .error _ => .empty

/-- A promotion on the day after. -/
def sampleCall : PromotionCall := ⟨fun _ => "", fun _ => "0123456789ab", "2026-07-25T00:00:00Z"⟩

/-- The first promotion of the sample run. -/
def samplePromotion : PromotionState := promoteEligibleCandidates sampleCall sampleRuns .empty 1000

/-- A second promotion of the sample run registers nothing, but what the first one registered is
not the winner. -/
theorem sample_promotion : ∃ run, sampleRun = .ok run ∧
    ((∀ version ∈ samplePromotion.registered, version.candidateId = run.runId →
        IsRecommended sampleSha noNumerals run version) ↔
      ¬Promotable sampleSha sampleRuns .empty 1000 run) ∧
    ((∃ version ∈ samplePromotion.registered, version.candidateId = run.runId) →
      ∀ later laterLimit, ∀ version ∈ (promoteEligibleCandidates later sampleRuns
        samplePromotion.families laterLimit).registered, version.candidateId ≠ run.runId) := by
  cases produced : sampleRun with
  | error raised =>
    have finishes : sampleRun.toOption.isSome = true := by decide +kernel
    simp [produced, Except.toOption] at finishes
  | ok run =>
    have stored : sampleRuns.find? run.runId = some (run.stored sampleSha) := by
      simp only [sampleRuns, produced]
      exact Table.find?_replace_self _ _
    have concluded : concludeRun sampleResearch "run-1" sampleUniverse sampleStrategy
        sampleEvidence "2026-07-24T00:00:00Z" = .ok run := produced
    exact ⟨run, rfl, @promotes_recommended_iff sampleCall sampleRuns .empty 1000 run
      sampleResearch _ _ _ _ _ sampleSha_collisionFree concluded stored⟩

/-- The original was registered, though the run names the candidate with the later exit: its rules
are not the registered ones, and its own evidence fails the bar. -/
theorem original_registered_instead :
    ∃ run version, sampleRun = .ok run ∧ samplePromotion.registered = [version] ∧
      version.candidateId = run.runId ∧
      run.candidateGeneralization.winnerId = some "run-1:candidate:b" ∧
      ((version.specRules.get? "exit").bind (·.get? "channel_exit_lookback")).bind
        (fun field => (field.get? "value").bind Json.finite?) = some 10 ∧
      (testedStrategy noNumerals run "run-1:candidate:b").map
        (·.exit.get "channel_exit_lookback") = some (some ⟨.int 15, .researchCandidate⟩) ∧
      (testedSummary run "run-1:candidate:b").sampleConfidence = .medium ∧
      ¬IsRecommended sampleSha noNumerals run version := by
  have ran : (sampleRun.toOption.map fun run =>
      (run.runId, run.candidateGeneralization.winnerId,
        (testedStrategy noNumerals run "run-1:candidate:b").map
          (·.exit.get "channel_exit_lookback"),
        (testedSummary run "run-1:candidate:b").sampleConfidence)) =
      some ("run-1", some "run-1:candidate:b", some (some ⟨.int 15, .researchCandidate⟩),
        .medium) := by decide +kernel
  have registered : (samplePromotion.registered.map fun version =>
      (version.candidateId,
        ((version.specRules.get? "exit").bind (·.get? "channel_exit_lookback")).bind
          fun field => (field.get? "value").bind Json.finite?)) = [("run-1", some 10)] := by
    decide +kernel
  obtain ⟨run, produced, seen⟩ := Option.map_eq_some_iff.mp ran
  obtain ⟨named, winner, tested, confidence⟩ := by simpa only [Prod.mk.injEq] using seen
  obtain ⟨version, single, kept⟩ := List.map_eq_singleton_iff.mp registered
  obtain ⟨carried, rules⟩ := Prod.mk.inj kept
  have done : sampleRun = .ok run := by
    cases outcome : sampleRun with
    | error raised => simp [outcome, Except.toOption] at produced
    | ok other => simpa [outcome, Except.toOption] using produced
  refine ⟨run, version, done, single, carried.trans named.symm, winner, rules, tested, confidence,
    ?_⟩
  rintro ⟨name, strategy, won, -, -, -, bar⟩
  obtain rfl := Option.some.inj (winner.symm.trans won)
  exact absurd (confidence.symm.trans bar.confidence) (by decide)

end StrategyLab
