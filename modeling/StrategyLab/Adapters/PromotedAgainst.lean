import StrategyLab.Adapters.ChampionHistory

/-! Which champion a promotion replaces: not always the one the challenger was evaluated against. -/

namespace StrategyLab

open ChampionRegistryRepository ChampionRegistryService

/-- Whenever a promotion is activated, it replaces the champion of its evaluation report. -/
def ReplacesEvaluated (evaluations : EvaluationReports) (ops : List ChampionOp) : Prop :=
  ∀ before promotionId actorRef decidedAt reason after,
    ops = before ++ .approve promotionId actorRef decidedAt reason :: after →
    let state := championMachine.run (.initial evaluations) before
    Enters state (.approve promotionId actorRef decidedAt reason) promotionId →
    ∀ request report, state.champions.requests.find? promotionId = some request →
      evaluations.find? request.evaluationId = some report →
        ∃ current, state.champions.getActive request.slot = some current ∧
          current.fingerprint = report.championFingerprint ∧
          current.fingerprint = request.currentChampionFingerprint

/-- An operation that leaves the evaluation reports as they are. -/
def KeepsReports (op : ChampionOp) : Prop := ∀ report, op ≠ .addReport report

/-- Every request repeats the fingerprints of the report it was made for. -/
def RequestsCopied (evaluations : EvaluationReports) (state : ChampionState) : Prop :=
  Consistent state.champions ∧ state.evaluations = evaluations ∧
    ∀ promotionId request, state.champions.requests.find? promotionId = some request →
      ∃ report, evaluations.find? request.evaluationId = some report ∧
        request.currentChampionFingerprint = report.championFingerprint ∧
        request.candidateFingerprint = report.challengerFingerprint

/-- Operations that leave the reports alone keep the requests equal to their reports. -/
theorem requestsCopied_step {evaluations : EvaluationReports} (state : ChampionState)
    (op : ChampionOp) (keeps : KeepsReports op) (copied : RequestsCopied evaluations state) :
    RequestsCopied evaluations (championMachine.next state op) := by
  obtain ⟨consistent, same, requests⟩ := copied
  have reports : (championMachine.next state op).evaluations = state.evaluations := by
    cases op with
    | addReport report => exact absurd rfl (keeps report)
    | _ => rfl
  refine ⟨step_consistent state op consistent, reports.trans same, ?_⟩
  intro promotionId request found
  obtain ⟨version, change, moved, changed, -⟩ := step_moved consistent op
  rw [moved.requests] at found
  cases changed with
  | untouched => exact requests promotionId request found
  | asked report asked free pending evaluated champion challenger =>
    simp only [Option.elim_some] at found
    split at found
    · obtain rfl := Option.some.inj found
      exact ⟨report, by rw [← same]; exact evaluated, champion, challenger⟩
    · exact requests promotionId request found
  | approved askedId actorRef decidedAt reason old report version asked approvable =>
    simp only [Option.elim_some] at found
    split at found
    · obtain rfl := Option.some.inj found
      exact requests askedId old approvable.found
    · exact requests promotionId request found
  | rejected askedId old located =>
    simp only [Option.elim_some] at found
    split at found
    · obtain rfl := Option.some.inj found
      exact requests askedId old located
    · exact requests promotionId request found

/-- In a run over fixed reports the requests stay equal to their reports. -/
theorem requestsCopied_run (evaluations : EvaluationReports) {ops : List ChampionOp}
    (fixed : ∀ op ∈ ops, KeepsReports op) :
    RequestsCopied evaluations (championMachine.run (.initial evaluations) ops) := by
  have guarded := championMachine.guarded_of_forall
    (fun op member (_ : ChampionState) => fixed op member) (.initial evaluations)
  refine championMachine.guarded_invariant requestsCopied_step guarded
    ⟨consistent_empty, rfl, fun promotionId request found => ?_⟩
  cases found

/-- What is known of the champion that an approval replaces, and of the one it activates. -/
structure ReplacesChecked (evaluations : EvaluationReports) (before : List ChampionOp)
    (op : ChampionOp) (request : PromotionRequest)
    (report : ChampionChallengerEvaluationReport) : Prop where
  decided : report.decision = .promotionCandidate
  champion : request.currentChampionFingerprint = report.championFingerprint
  challenger : request.candidateFingerprint = report.challengerFingerprint
  differ : report.challengerFingerprint ≠ report.championFingerprint
  promoted : ∃ entry, (championMachine.next (championMachine.run (.initial evaluations) before)
      op).champions.getActive request.slot = some entry ∧
    entry.fingerprint = report.challengerFingerprint
  replaced : ∀ current, (championMachine.run (.initial evaluations)
      before).champions.getActive request.slot = some current →
    current.fingerprint ≠ report.challengerFingerprint
  evaluated : ∀ earlier between champion, before = earlier ++ between →
    (championMachine.run (.initial evaluations) earlier).champions.getActive request.slot =
        some champion →
      champion.fingerprint = report.championFingerprint →
        (championMachine.run (.initial evaluations) before).champions.listHistory request.slot =
            (championMachine.run (.initial evaluations) earlier).champions.listHistory
              request.slot →
          (championMachine.run (.initial evaluations) before).champions.getActive request.slot =
            some champion

/-- A slot whose history has not grown still has the same champion. -/
theorem same_champion {repository later : ChampionRegistryRepository} {slot : String}
    (consistent : Consistent repository) (grown : Consistent later)
    (same : later.listHistory slot = repository.listHistory slot) :
    later.getActive slot = repository.getActive slot := by
  rw [consistent.listHistory_eq, grown.listHistory_eq] at same
  rw [consistent.active, grown.active, same]

/-- Over fixed reports every promotion activates the challenger of its report in place of another
champion, which is the champion of the report when that one has stayed active since. -/
theorem promotion_replaces_checked (evaluations : EvaluationReports) {ops : List ChampionOp}
    (fixed : ∀ op ∈ ops, KeepsReports op) {before after : List ChampionOp}
    {promotionId actorRef decidedAt reason : String}
    (split : ops = before ++ .approve promotionId actorRef decidedAt reason :: after)
    (activated : Enters (championMachine.run (.initial evaluations) before)
      (.approve promotionId actorRef decidedAt reason) promotionId) :
    ∃ request report,
      (championMachine.run (.initial evaluations) before).champions.requests.find? promotionId =
          some request ∧
        evaluations.find? request.evaluationId = some report ∧
        ReplacesChecked evaluations before (.approve promotionId actorRef decidedAt reason) request
          report := by
  subst split
  have earlierFixed : ∀ op ∈ before, KeepsReports op :=
    fun op member => fixed op (List.mem_append_left _ member)
  obtain ⟨consistent, same, copied⟩ := requestsCopied_run evaluations earlierFixed
  generalize reached : championMachine.run (.initial evaluations) before = state at *
  have recorded := (approval_records_iff consistent promotionId actorRef decidedAt reason).mpr
    activated
  obtain ⟨version, change, moved, changed, -⟩ :=
    step_moved consistent (.approve promotionId actorRef decidedAt reason)
  rw [moved.history] at recorded
  cases changed with
  | untouched version other =>
    obtain rfl := other promotionId actorRef decidedAt reason rfl
    simp at recorded
  | asked => simp at recorded
  | rejected => simp at recorded
  | approved askedId actor time why request report version asked approvable built =>
    obtain ⟨rfl, -⟩ := ChampionOp.approve.inj asked
    obtain ⟨stored, found, champion, challenger⟩ := copied promotionId request approvable.found
    have evaluated := approvable.evaluated
    rw [same, found] at evaluated
    obtain rfl := Option.some.inj evaluated
    obtain ⟨decided, differ, replaced⟩ := candidate_checked approvable.candidate
    refine ⟨request, stored, approvable.found, found, decided, champion, challenger, differ,
      ⟨version.entry, ?_, ?_⟩, ?_, ?_⟩
    · rw [reached, getActive, moved.registry, Option.elim_some, built]
      exact Table.find?_replace_self _ _
    · rw [built]
      rfl
    · rw [reached]
      exact replaced
    · intro earlier between active parts held printed listed
      have start := run_consistent evaluations earlier
      rw [reached] at listed ⊢
      rw [same_champion start consistent listed, held]

/-- One evaluation in which the second fingerprint beat the first one. -/
def firstEvaluation : EvaluationReports :=
  ⟨[⟨"evaluation-1", .promotionCandidate, "backtest-1", "backtest-2", "validation-1",
    "fingerprint-1", "fingerprint-2"⟩], by decide⟩

/-- A champion with a given fingerprint, and a request to promote the challenger. -/
def askedAgainst (fingerprint : String) : List ChampionOp :=
  [.bootstrap "turtle_v5" fingerprint "backtest-0" "2026-07-18T00:00:00Z" "default",
    .requestPromotion "promotion-1" "evaluation-1" "operator" "2026-07-18T00:00:00Z" "default"]

/-- The approval of that request. -/
def approveFirst : ChampionOp :=
  .approve "promotion-1" "operator" "2026-07-18T00:00:00Z" "explicit approval"

set_option maxRecDepth 4096 in
/-- The promotion of an evaluated challenger is one that the checks are known of. -/
theorem first_promotion_checked : ∃ request report,
    (championMachine.run (.initial firstEvaluation)
        (askedAgainst "fingerprint-1")).champions.requests.find? "promotion-1" = some request ∧
      firstEvaluation.find? request.evaluationId = some report ∧
      ReplacesChecked firstEvaluation (askedAgainst "fingerprint-1") approveFirst request report :=
  @promotion_replaces_checked firstEvaluation (askedAgainst "fingerprint-1" ++ [approveFirst])
    (by simp [askedAgainst, approveFirst, KeepsReports]) (askedAgainst "fingerprint-1") []
    "promotion-1" "operator" "2026-07-18T00:00:00Z" "explicit approval" rfl
    (by unfold Enters; decide)

set_option maxRecDepth 4096 in
/-- A promotion is activated although another champion than the evaluated one is active. -/
theorem other_champion_replaced :
    ¬ReplacesEvaluated firstEvaluation (askedAgainst "initialfingerprint" ++ [approveFirst]) := by
  intro replaces
  have activated : Enters (championMachine.run (.initial firstEvaluation)
      (askedAgainst "initialfingerprint")) approveFirst "promotion-1" := by
    unfold Enters
    decide
  have active : ((championMachine.run (.initial firstEvaluation)
      (askedAgainst "initialfingerprint")).champions.getActive "default").map (·.fingerprint) =
        some "initialfingerprint" := by decide
  obtain ⟨current, found, evaluated, -⟩ := replaces (askedAgainst "initialfingerprint")
    "promotion-1" "operator" "2026-07-18T00:00:00Z" "explicit approval" [] rfl activated
    ⟨"promotion-1", "evaluation-1", "default", .pendingApproval, "backtest-1", "backtest-2",
      "validation-1", "fingerprint-2", "fingerprint-1", "operator", "2026-07-18T00:00:00Z"⟩
    ⟨"evaluation-1", .promotionCandidate, "backtest-1", "backtest-2", "validation-1",
      "fingerprint-1", "fingerprint-2"⟩ (by decide) (by decide)
  rw [found, Option.map_some, evaluated] at active
  revert active
  decide

end StrategyLab
