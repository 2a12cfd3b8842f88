import StrategyLab.Lib.Machine
import StrategyLab.Adapters.ChampionRegistryLaws
import StrategyLab.Adapters.StrategyHandoffLaws
import StrategyLab.Adapters.StrategyDeploymentLaws

/-! The three services over one database, and what holds of them after any sequence of calls. -/

namespace StrategyLab

/-- The tables of the three services, the records they read, and the target. -/
structure ReleaseState (τ : Type) where
  evaluations : EvaluationReports
  revalidations : StrategyHandoffService.RevalidationReports
  backtests : StrategyHandoffService.BacktestResults
  champions : ChampionRegistryRepository
  handoffs : StrategyHandoffRepository
  deployments : DeploymentState τ

/-- What the services are configured with. -/
structure ReleaseConfig (τ : Type) where
  adapter : StrategyDeploymentAdapter τ
  digest : HandoffDigest
  policy : StrategyDeploymentPolicy

/-- One call of a service, or a record written by the engines the services read from. -/
inductive ReleaseOp where
  | bootstrap (strategyRef fingerprint backtestId activatedAt slot : String)
  | requestPromotion (promotionId evaluationId actorRef requestedAt slot : String)
  | approvePromotion (promotionId actorRef decidedAt reason : String)
  | rejectPromotion (promotionId actorRef decidedAt reason : String)
  | rollback (request : ChampionRollbackRequest)
  | createPackage (request : StrategyHandoffRequest)
  | approvePackage (packageId approverRef decidedAt reason : String)
  | rejectPackage (packageId actorRef decidedAt reason : String)
  | plan (request : StrategyDeploymentRequest)
  | run (planId time : String)
  | addEvaluation (report : ChampionChallengerEvaluationReport)
  | addRevalidation (report : PaperRevalidationReport)
  | addBacktest (result : BacktestResult)
  deriving DecidableEq

namespace ReleaseState

variable {τ : Type}

/-- A fresh database in front of a target. -/
def initial (target : τ) : ReleaseState τ :=
  ⟨Table.empty, Table.empty, Table.empty, .empty, .empty,
    ⟨Table.empty, Table.empty, Table.empty, target, []⟩⟩

/-- Commit the writes of a registry call. -/
def champion {α : Type} (state : ReleaseState τ) (call : ChampionCall α) : ReleaseState τ :=
  { state with
    champions := (Commits.perform ChampionRegistryRepository.write state.champions call).2 }

/-- Commit the writes of a handoff call. -/
def handoff {α : Type} (digest : HandoffDigest) (state : ReleaseState τ) (call : HandoffCall α) :
    ReleaseState τ :=
  { state with
    handoffs := (Commits.perform (StrategyHandoffRepository.write digest) state.handoffs call).2 }

/-- Carry out one call; a request that cannot be constructed is not made. -/
def step (config : ReleaseConfig τ) (state : ReleaseState τ) : ReleaseOp → Unit × ReleaseState τ
  | .bootstrap strategyRef fingerprint backtestId activatedAt slot =>
    ((), state.champion (ChampionRegistryService.bootstrap state.champions strategyRef fingerprint
      backtestId activatedAt slot))
  | .requestPromotion promotionId evaluationId actorRef requestedAt slot =>
    ((), state.champion (ChampionRegistryService.requestPromotion state.champions
      state.evaluations promotionId evaluationId actorRef requestedAt slot))
  | .approvePromotion promotionId actorRef decidedAt reason =>
    ((), state.champion (ChampionRegistryService.approve state.champions state.evaluations
      promotionId actorRef decidedAt reason))
  | .rejectPromotion promotionId actorRef decidedAt reason =>
    ((), state.champion (ChampionRegistryService.reject state.champions promotionId actorRef
      decidedAt reason))
  | .rollback request =>
    ((), state.champion (ChampionRegistryService.rollback state.champions request))
  | .createPackage request =>
    match request.validate with
    | .error _ => ((), state)
    | .ok _ => ((), state.handoff config.digest (StrategyHandoffService.create config.digest
        state.champions state.revalidations state.backtests request))
  | .approvePackage packageId approverRef decidedAt reason =>
    ((), state.handoff config.digest (StrategyHandoffService.approve config.digest state.handoffs
      packageId approverRef decidedAt reason))
  | .rejectPackage packageId actorRef decidedAt reason =>
    ((), state.handoff config.digest (StrategyHandoffService.reject config.digest state.handoffs
      packageId actorRef decidedAt reason))
  | .plan request =>
    match request.validate with
    | .error _ => ((), state)
    | .ok _ => ((), { state with
        deployments := (StrategyDeploymentService.plan config.adapter config.digest config.policy
          state.champions state.handoffs state.deployments request).2 })
  | .run planId time =>
    ((), { state with
      deployments := (StrategyDeploymentService.run config.adapter config.digest state.handoffs
        state.deployments planId time).2 })
  | .addEvaluation report => ((), { state with evaluations := state.evaluations.replace report })
  | .addRevalidation report =>
    ((), { state with revalidations := state.revalidations.replace report })
  | .addBacktest result => ((), { state with backtests := state.backtests.replace result })

end ReleaseState

/-- The three services as a machine. -/
def releaseMachine {τ : Type} (config : ReleaseConfig τ) : Machine (ReleaseState τ) ReleaseOp Unit :=
  ⟨ReleaseState.step config⟩

open DeploymentState StrategyDeploymentService

variable {τ : Type} {config : ReleaseConfig τ} {digest : HandoffDigest}

/-- Packages stay stored under their id with their manifest, and approved ones stay as they are. -/
def HandoffGrows (repository next : StrategyHandoffRepository) : Prop :=
  ∀ {packageId package}, repository.packages.find? packageId = some package →
    ∃ later, next.packages.find? packageId = some later ∧
      later.manifest = package.manifest ∧
      (package.status = .approvedForDeployment → later = package)

variable {package decided : StrategyHandoffPackage} {approval : StrategyDeploymentApproval}

/-- A decision keeps every package, and only changes one that was pending. -/
theorem Decides.grows {repository next : StrategyHandoffRepository}
    (decides : Decides repository next package decided approval) :
    HandoffGrows repository next := by
  intro packageId stored found
  by_cases same : packageId = approval.packageId
  · subst same
    rw [decides.found] at found
    obtain rfl := Option.some.inj found
    exact ⟨decided, by rw [decides.packages, if_pos rfl], decides.manifest,
      fun approved => absurd approved decides.pending⟩
  · exact ⟨stored, by rw [decides.packages, if_neg same, found], rfl, fun _ => rfl⟩

/-- What planning does to the tables: a request is stored, and at most one plan for it. -/
structure Plans (handoffs : StrategyHandoffRepository) (request : StrategyDeploymentRequest)
    (state next : DeploymentState τ) : Prop where
  runs : next.runs = state.runs
  applyCalls : next.applyCalls = state.applyCalls
  requests : next.requests = state.requests ∨
    ∃ grown, state.requests.insert? ⟨request.requestId, .request request⟩ = some grown ∧
      (next.requests = grown ∨ ∃ plan package,
        next.requests = grown.replace ⟨plan.planId, .plan plan⟩ ∧
        plan.planId = planIdOf request.requestId ∧ plan.requestId = request.requestId ∧
        handoffs.packages.find? plan.packageId = some package ∧
        (plan.status ≠ .blocked → package.status = .approvedForDeployment))

variable {handoffs : StrategyHandoffRepository}

/-- Preflight only lets an approved package pass. -/
theorem preflight_passed {adapter : StrategyDeploymentAdapter τ}
    {policy : StrategyDeploymentPolicy} {champions : ChampionRegistryRepository}
    {package : StrategyHandoffPackage} {targetId : String}
    {target after : τ} {status : StrategyDeploymentStatus} {reason : String}
    (checked : preflight adapter policy champions handoffs package targetId target =
      (.ok (status, reason), after)) (passed : status ≠ .blocked) :
    package.status = .approvedForDeployment := by
  by_contra pending
  simp only [preflight, if_pos pending, Prod.mk.injEq, Except.ok.injEq] at checked
  exact passed checked.1.1.symm

/-- Planning stores its request and at most one plan, whose package is stored. -/
theorem plan_step (digest : HandoffDigest) (adapter : StrategyDeploymentAdapter τ)
    (policy : StrategyDeploymentPolicy)
    (champions : ChampionRegistryRepository) (handoffs : StrategyHandoffRepository)
    (state : DeploymentState τ) (request : StrategyDeploymentRequest) :
    Plans handoffs request state
      (plan adapter digest policy champions handoffs state request).2 := by
  unfold plan addRequest
  cases stored : state.requests.insert? ⟨request.requestId, .request request⟩ with
  | none => exact ⟨rfl, rfl, Or.inl rfl⟩
  | some grown =>
    dsimp only
    cases read : handoffs.getPackage digest request.packageId with
    | error raised => exact ⟨rfl, rfl, Or.inr ⟨grown, stored, Or.inl rfl⟩⟩
    | ok package =>
      dsimp only
      split
      · exact ⟨rfl, rfl, Or.inr ⟨grown, stored, Or.inl rfl⟩⟩
      · rename_i status reason target checked
        -- The plan is made for the package that was read, under its own id.
        obtain ⟨found, -⟩ := find?_of_getPackage read
        have own : package.packageId = request.packageId := Table.key_of_find? found
        refine ⟨rfl, rfl, Or.inr ⟨grown, stored, Or.inr ⟨_, package, rfl, rfl, rfl, ?_, ?_⟩⟩⟩
        · show handoffs.packages.find? package.packageId = some package
          rw [own]
          exact found
        · exact fun passed => preflight_passed checked passed

variable {planId : String} {state : DeploymentState τ}

/-- A plan is read back exactly when its row holds it. -/
theorem getPlan_eq_ok {plan : StrategyDeploymentPlan} :
    state.getPlan planId = .ok plan ↔
      state.requests.find? planId = some ⟨planId, .plan plan⟩ := by
  unfold getPlan
  constructor
  · intro read
    cases found : state.requests.find? planId with
    | none => simp [found] at read
    | some row =>
      obtain ⟨requestId, payload⟩ := row
      have own : requestId = planId := Table.key_of_find? found
      cases payload with
      | request request => simp [found] at read
      | plan stored =>
        simp only [found, Except.ok.injEq] at read
        rw [own, read]
  · intro found
    rw [found]

/-- What is known of a stored plan. -/
structure Planned (handoffs : StrategyHandoffRepository) (state : DeploymentState τ)
    (planId : String) (plan : StrategyDeploymentPlan) : Prop where
  own : plan.planId = planId
  named : planId = planIdOf plan.requestId
  requested : ∃ row, state.requests.find? plan.requestId = some row
  packaged : ∃ package, handoffs.packages.find? plan.packageId = some package ∧
    (plan.status ≠ .blocked → package.status = .approvedForDeployment)

/-- The invariant of the three services. -/
structure ReleaseSound (digest : HandoffDigest) (state : ReleaseState τ) : Prop where
  handoffs : HandoffSound digest state.handoffs
  active : ActiveInHistory state.champions
  /-- The manifest of a package repeats a champion version of the history. -/
  printed : ∀ {packageId package}, state.handoffs.packages.find? packageId = some package →
    ∃ version, state.champions.history.find? package.manifest.championRegistryVersion =
      some version ∧ version.fingerprint = package.manifest.championFingerprint
  planned : ∀ {planId plan}, state.deployments.getPlan planId = .ok plan →
    Planned state.handoffs state.deployments planId plan
  /-- A run is recorded for a stored plan. -/
  recorded : ∀ {runId run}, state.deployments.runs.find? runId = some run →
    ∃ plan, state.deployments.getPlan run.planId = .ok plan ∧ run.Records plan

/-- A fresh database is sound. -/
theorem releaseSound_initial (target : τ) : ReleaseSound digest (ReleaseState.initial target) where
  handoffs := handoffSound_empty
  active slot entry found := by
    simp [ReleaseState.initial, ChampionRegistryRepository.empty,
      ChampionRegistryRepository.getActive] at found
  printed found := by simp [ReleaseState.initial, StrategyHandoffRepository.empty] at found
  planned found := by simp [getPlan_eq_ok, ReleaseState.initial] at found
  recorded found := by simp [ReleaseState.initial] at found

/-- A known plan stays known when the packages grow. -/
theorem Planned.grow {handoffs later : StrategyHandoffRepository} {plan : StrategyDeploymentPlan}
    (known : Planned handoffs state planId plan) (grows : HandoffGrows handoffs later) :
    Planned later state planId plan := by
  obtain ⟨package, found, approved⟩ := known.packaged
  obtain ⟨grown, located, -, same⟩ := grows found
  refine ⟨known.own, known.named, known.requested, grown, located, fun passed => ?_⟩
  rw [same (approved passed)]
  exact approved passed

section Planning

variable {handoffs : StrategyHandoffRepository} {request : StrategyDeploymentRequest}
  {state next : DeploymentState τ}

section

variable (plans : Plans handoffs request state next)

include plans

/-- Planning never frees the id of a request. -/
theorem Plans.requested {requestId : String}
    {row : DeploymentRow} (found : state.requests.find? requestId = some row) :
    ∃ row, next.requests.find? requestId = some row := by
  rcases plans.requests with same | ⟨grown, built, same | ⟨plan, -, same, -⟩⟩
  · exact ⟨row, by rw [same, found]⟩
  · exact ⟨row, by rw [same, Table.find?_insert?_of_found built found]⟩
  · rw [same, Table.find?_replace]
    split
    · exact ⟨_, rfl⟩
    · exact ⟨row, Table.find?_insert?_of_found built found⟩

/-- Planning keeps every stored plan as it is. -/
theorem Plans.kept (planned : ∀ {planId plan}, state.getPlan planId = .ok plan →
      Planned handoffs state planId plan)
    {plan : StrategyDeploymentPlan}
    (stored : state.getPlan planId = .ok plan) : next.getPlan planId = .ok plan := by
  have known := planned stored
  rw [getPlan_eq_ok] at stored ⊢
  rcases plans.requests with same | ⟨grown, built, same | ⟨new, -, same, own, named, -⟩⟩
  · rw [same, stored]
  · rw [same, Table.find?_insert?_of_found built stored]
  · rw [same, Table.find?_replace, if_neg]
    · exact Table.find?_insert?_of_found built stored
    · -- The id belongs to one request, and that request had not been made before.
      rintro rfl
      obtain ⟨row, found⟩ := known.requested
      have made : new.requestId = plan.requestId :=
        planIdOf_injective (by rw [← known.named, named]; exact own.symm)
      have free := (Table.insert?_eq_some_iff.mp built).1
      rw [← made, named] at found
      simp [free] at found

/-- After planning every stored plan is known. -/
theorem Plans.planned (planned : ∀ {planId plan}, state.getPlan planId = .ok plan →
      Planned handoffs state planId plan)
    {plan : StrategyDeploymentPlan}
    (stored : next.getPlan planId = .ok plan) : Planned handoffs next planId plan := by
  have old (before : state.getPlan planId = .ok plan) : Planned handoffs next planId plan := by
    have known := planned before
    obtain ⟨row, found⟩ := known.requested
    exact ⟨known.own, known.named, plans.requested found, known.packaged⟩
  rw [getPlan_eq_ok] at stored
  rcases plans.requests with same | ⟨grown, built, same | ⟨new, package, same, own, named, rest⟩⟩
  · exact old (getPlan_eq_ok.mpr (by rw [← same, stored]))
  · rw [same, Table.find?_insert? built] at stored
    split at stored
    · cases stored
    · exact old (getPlan_eq_ok.mpr stored)
  · have requested : ∃ row, next.requests.find? request.requestId = some row := by
      rw [same, Table.find?_replace]
      split
      · exact ⟨_, rfl⟩
      · exact ⟨_, by rw [Table.find?_insert? built, if_pos rfl]⟩
    rw [same, Table.find?_replace] at stored
    split at stored
    · rename_i here
      obtain ⟨-, rfl⟩ : _ ∧ new = plan := by simpa using stored
      exact ⟨here.symm, by rw [here, named]; exact own, named ▸ requested, package, rest⟩
    · rw [Table.find?_insert? built] at stored
      split at stored
      · cases stored
      · exact old (getPlan_eq_ok.mpr stored)

end

end Planning

/-- Reading a plan depends on the requests alone. -/
theorem getPlan_congr {state next : DeploymentState τ} (same : next.requests = state.requests)
    (planId : String) : next.getPlan planId = state.getPlan planId := by
  rw [getPlan, getPlan, same]

/-- A known plan stays known while the requests stay the same. -/
theorem Planned.congr {state next : DeploymentState τ}
    {plan : StrategyDeploymentPlan} (same : next.requests = state.requests)
    (known : Planned handoffs state planId plan) : Planned handoffs next planId plan :=
  ⟨known.own, known.named, by rw [same]; exact known.requested, known.packaged⟩

variable {next : StrategyHandoffRepository}

namespace ReleaseSound

variable {state : ReleaseState τ}

section

variable (sound : ReleaseSound digest state)

include sound

/-- A registry call whose history and active writes are linked keeps the invariant. -/
theorem champion {α : Type} (call : ChampionCall α)
    (linked : Linked call.writes) : ReleaseSound digest (state.champion call) where
  handoffs := sound.handoffs
  active := by
    simp only [ReleaseState.champion, Commits.perform_snd]
    exact activeInHistory_commit linked sound.active
  printed found := by
    obtain ⟨version, located, same⟩ := sound.printed found
    simp only [ReleaseState.champion, Commits.perform_snd]
    exact ⟨version, history_kept_commit call.writes located, same⟩
  planned stored := sound.planned stored
  recorded found := sound.recorded found

/-- Growing packages whose manifests repeat the history keep the invariant. -/
theorem grow (kept : HandoffSound digest next) (grows : HandoffGrows state.handoffs next)
    (printed : ∀ {packageId package}, next.packages.find? packageId = some package →
      ∃ version, state.champions.history.find? package.manifest.championRegistryVersion =
        some version ∧ version.fingerprint = package.manifest.championFingerprint) :
    ReleaseSound digest { state with handoffs := next } where
  handoffs := kept
  active := sound.active
  printed := printed
  planned stored := (sound.planned stored).grow grows
  recorded found := sound.recorded found

/-- A decision on a package keeps the invariant. -/
theorem decide (decides : Decides state.handoffs next package decided approval) :
    ReleaseSound digest { state with handoffs := next } := by
  refine sound.grow (decides.sound sound.handoffs) decides.grows fun found => ?_
  rw [decides.packages] at found
  split at found
  · cases found
    rw [decides.manifest]
    exact sound.printed decides.found
  · exact sound.printed found

/-- Creating a package keeps the invariant, as its manifest repeats an active champion. -/
theorem create (request : StrategyHandoffRequest) :
    ReleaseSound digest (state.handoff digest (StrategyHandoffService.create digest
      state.champions state.revalidations state.backtests request)) := by
  have step := create_step digest state.handoffs state.champions state.revalidations
    state.backtests request
  rw [ReleaseState.handoff]
  revert step
  generalize (Commits.perform (StrategyHandoffRepository.write digest) state.handoffs
    (StrategyHandoffService.create digest state.champions state.revalidations state.backtests
      request)).2 = next
  intro step
  rcases step with rfl | ⟨package, active, current, pending, valid, readable, version,
    fingerprint, built, approvals⟩
  · exact sound
  refine sound.grow (sound.handoffs.insert pending valid readable built approvals)
    (fun found => ⟨_, Table.find?_insert?_of_found built found, rfl, fun _ => rfl⟩)
    fun found => ?_
  rw [Table.find?_insert? built] at found
  split at found
  · cases found
    rw [version, fingerprint]
    exact sound.active _ _ current
  · exact sound.printed found

/-- Planning keeps the invariant. -/
theorem plan {request : StrategyDeploymentRequest}
    {next : DeploymentState τ} (plans : Plans state.handoffs request state.deployments next) :
    ReleaseSound digest { state with deployments := next } where
  handoffs := sound.handoffs
  active := sound.active
  printed := sound.printed
  planned stored := plans.planned sound.planned stored
  recorded {runId run} found := by
    have before : state.deployments.runs.find? runId = some run := by
      rw [← plans.runs]
      exact found
    obtain ⟨plan, stored, records⟩ := sound.recorded before
    exact ⟨plan, plans.kept sound.planned stored, records⟩

/-- A step that writes at most the record of a stored plan keeps the invariant. -/
theorem touch {plan : StrategyDeploymentPlan} {next : DeploymentState τ}
    (stored : state.deployments.getPlan planId = .ok plan)
    (touches : Touches plan state.deployments next) :
    ReleaseSound digest { state with deployments := next } where
  handoffs := sound.handoffs
  active := sound.active
  printed := sound.printed
  planned {planId plan} read := by
    have before : state.deployments.getPlan planId = .ok plan := by
      rw [← getPlan_congr touches.requests]
      exact read
    exact (sound.planned before).congr touches.requests
  recorded {runId run} found := by
    simp only [getPlan_congr touches.requests]
    have old (before : state.deployments.runs.find? runId = some run) :=
      sound.recorded before
    by_cases same : runId = runIdOf plan.planId
    · subst same
      rcases touches.own with kept | ⟨written, located, records⟩
      · exact old (by rw [← kept]; exact found)
      · obtain rfl : written = run := Option.some.inj (located.symm.trans found)
        exact ⟨plan, by rw [records.planId, (sound.planned stored).own, stored], records⟩
    · exact old (by rw [← touches.others runId same]; exact found)

/-- Running a plan keeps the invariant. -/
theorem run (adapter : StrategyDeploymentAdapter τ) (planId time : String) :
    ReleaseSound digest { state with deployments := (StrategyDeploymentService.run adapter digest
      state.handoffs state.deployments planId time).2 } := by
  cases stored : state.deployments.getPlan planId with
  | error raised =>
    rw [run_unread time fun plan read => by rw [stored] at read; cases read]
    exact sound
  | ok plan => exact sound.touch stored (run_touches time stored)

end

/-- Every call keeps the invariant. -/
theorem step (sound : ReleaseSound config.digest state) (op : ReleaseOp) :
    ReleaseSound config.digest ((releaseMachine config).next state op) := by
  cases op with
  | bootstrap => exact sound.champion _ (bootstrap_linked ..)
  | requestPromotion => exact sound.champion _ (requestPromotion_linked ..)
  | approvePromotion => exact sound.champion _ (approve_linked ..)
  | rejectPromotion => exact sound.champion _ (reject_linked ..)
  | rollback => exact sound.champion _ (rollback_linked ..)
  | createPackage request =>
    simp only [Machine.next, releaseMachine, ReleaseState.step]
    split
    · exact sound
    · exact sound.create request
  | approvePackage packageId approverRef decidedAt reason =>
    rcases approve_step packageId approverRef decidedAt reason sound.handoffs with
      same | ⟨package, decided, approval, decides⟩
    · simp only [Machine.next, releaseMachine, ReleaseState.step, ReleaseState.handoff, same]
      exact sound
    · exact sound.decide decides
  | rejectPackage packageId actorRef decidedAt reason =>
    rcases reject_step packageId actorRef decidedAt reason sound.handoffs with
      same | ⟨package, decided, approval, decides⟩
    · simp only [Machine.next, releaseMachine, ReleaseState.step, ReleaseState.handoff, same]
      exact sound
    · exact sound.decide decides
  | plan request =>
    simp only [Machine.next, releaseMachine, ReleaseState.step]
    split
    · exact sound
    · exact sound.plan (plan_step config.digest config.adapter config.policy
        state.champions state.handoffs state.deployments request)
  | run planId time => exact sound.run config.adapter planId time
  | addEvaluation | addRevalidation | addBacktest =>
    exact ⟨sound.handoffs, sound.active, sound.printed, sound.planned, sound.recorded⟩

/-- The invariant holds after any sequence of calls. -/
theorem run_initial (target : τ) (ops : List ReleaseOp) :
    ReleaseSound config.digest
      ((releaseMachine config).run (ReleaseState.initial target) ops) := by
  have kept (s : ReleaseState τ) (op : ReleaseOp) (sound : ReleaseSound config.digest s) :
      ReleaseSound config.digest ((releaseMachine config).next s op) := sound.step op
  exact (releaseMachine config).invariant kept ops (releaseSound_initial target)

end ReleaseSound

end StrategyLab
