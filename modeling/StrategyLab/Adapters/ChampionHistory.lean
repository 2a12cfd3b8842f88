import StrategyLab.Adapters.ChampionConsistency

/-! Every run of the registry: numbered histories, requests activated once, exact rollbacks. -/

namespace StrategyLab

open ChampionRegistryRepository ChampionRegistryService

variable {repository : ChampionRegistryRepository}

/-- In a consistent registry a slot is listed in the order its versions were recorded. -/
theorem Consistent.listHistory_eq (consistent : Consistent repository) (slot : String) :
    repository.listHistory slot = slotVersions repository slot := by
  have rising : (slotVersions repository slot).Pairwise ListedBefore := by
    rw [List.pairwise_iff_getElem]
    intro earlier later below limit order
    -- The revisions are the positions, so the order of the positions decides.
    have first := consistent.lineage slot earlier _ (List.getElem?_eq_getElem below)
    have second := consistent.lineage slot later _ (List.getElem?_eq_getElem limit)
    refine Or.inl ?_
    rw [first.revision, second.revision]
    omega
  exact rising.insertionSort_eq

/-- A listed version is found in the history under its id. -/
theorem find?_of_listed {slot : String}
    {version : ChampionStrategyVersion} (listed : version ∈ slotVersions repository slot) :
    repository.history.find? version.versionId = some version :=
  Table.find?_of_mem (List.mem_filter.mp listed).1

/-- What the tables of a consistent registry say of every slot. -/
structure RegistryConsistent (repository : ChampionRegistryRepository) : Prop where
  revisions : ∀ slot, (repository.listHistory slot).map (·.revision) =
    (List.range (repository.listHistory slot).length).map fun position : Nat => (position : Int) + 1
  active : ∀ slot entry, repository.getActive slot = some entry →
    entry.revision = (repository.listHistory slot).length ∧
      ∃ version, repository.history.find? entry.activeVersionId = some version ∧
        version ∈ repository.listHistory slot ∧ version.entry = entry
  newest : ∀ slot, (repository.getActive slot).isSome = !(repository.listHistory slot).isEmpty
  first : ∀ slot version, (repository.listHistory slot)[0]? = some version →
    version.previousVersionId = none
  chained : ∀ slot position earlier version,
    (repository.listHistory slot)[position]? = some earlier →
      (repository.listHistory slot)[position + 1]? = some version →
        version.previousVersionId = some earlier.versionId

/-- A consistent registry reads as such through its own queries. -/
theorem Consistent.registryConsistent
    (consistent : Consistent repository) : RegistryConsistent repository := by
  refine ⟨fun slot => ?_, fun slot entry found => ?_, fun slot => ?_, fun slot version found => ?_,
    fun slot position earlier version before found => ?_⟩
  · rw [consistent.listHistory_eq slot]
    apply List.ext_getElem?
    intro position
    rw [List.getElem?_map, List.getElem?_map]
    cases located : (slotVersions repository slot)[position]? with
    | none =>
      have beyond := List.getElem?_eq_none_iff.mp located
      simp [beyond]
    | some version =>
      have inside := (List.getElem?_eq_some_iff.mp located).1
      simp [inside, (consistent.lineage slot position version located).revision]
  · -- The active entry stands for the last version of its slot.
    rw [consistent.active slot, Option.map_eq_some_iff] at found
    obtain ⟨version, last, rfl⟩ := found
    have listed := List.mem_of_getLast? last
    rw [List.getLast?_eq_getElem?] at last
    have known := consistent.lineage slot _ version last
    rw [consistent.listHistory_eq slot]
    refine ⟨?_, version, find?_of_listed listed, listed, rfl⟩
    have occupied : 0 < (slotVersions repository slot).length := List.length_pos_of_mem listed
    have number : version.entry.revision = version.revision := rfl
    rw [number, known.revision]
    omega
  · rw [consistent.active slot, consistent.listHistory_eq slot]
    cases slotVersions repository slot <;> simp
  · rw [consistent.listHistory_eq slot] at found
    exact (consistent.lineage slot 0 version found).previous
  · rw [consistent.listHistory_eq slot] at before found
    have known := consistent.lineage slot position earlier before
    have next := consistent.lineage slot (position + 1) version found
    rw [next.previous, known.named, next.slot, known.slot]
    rfl

/-- The status of a promotion request. -/
def requestStatus (state : ChampionState) (promotionId : String) : Option PromotionStatus :=
  (state.champions.requests.find? promotionId).map (·.status)

/-- An operation by which a request becomes activated. -/
def Enters (state : ChampionState) (op : ChampionOp) (promotionId : String) : Prop :=
  requestStatus state promotionId ≠ some .activated ∧
    requestStatus (championMachine.next state op) promotionId = some .activated

/-- A rollback that is answered makes the version active again that was named as previous. -/
def Restores (state : ChampionState) (request : ChampionRollbackRequest) : Prop :=
  ∀ answer, championMachine.answer state (.rollback request) = .ok answer →
    ∃ active previousId previous restored, state.champions.getActive request.slot = some active ∧
      active.previousVersionId = some previousId ∧
      state.champions.history.find? previousId = some previous ∧
      (championMachine.next state (.rollback request)).champions.getActive request.slot =
        some restored ∧
      restored.strategyRef = previous.strategyRef ∧ restored.fingerprint = previous.fingerprint ∧
      restored.sourceBacktestId = previous.sourceBacktestId ∧
      restored.sourceValidationId = previous.sourceValidationId ∧
      restored.sourceEvaluationId = previous.sourceEvaluationId

/-- Everything that is asked of the operations of a run. -/
structure RunConsistent (start : ChampionState) (ops : List ChampionOp) : Prop where
  tables : ∀ before after, ops = before ++ after →
    RegistryConsistent (championMachine.run start before).champions
  appendOnly : ∀ before middle after, ops = before ++ (middle ++ after) → ∀ slot,
    (championMachine.run start before).champions.listHistory slot <+:
      (championMachine.run start (before ++ middle)).champions.listHistory slot
  activatedOnce : ∀ before op middle later after, ops = before ++ op :: (middle ++ later :: after) →
    ∀ promotionId, Enters (championMachine.run start before) op promotionId →
      ¬Enters (championMachine.run start (before ++ op :: middle)) later promotionId
  approvals : ∀ before promotionId actorRef decidedAt reason after,
    ops = before ++ .approve promotionId actorRef decidedAt reason :: after →
      ((championMachine.next (championMachine.run start before)
          (.approve promotionId actorRef decidedAt reason)).champions.history.rows ≠
        (championMachine.run start before).champions.history.rows ↔
          Enters (championMachine.run start before) (.approve promotionId actorRef decidedAt reason)
            promotionId)
  notOnceRejected : ∀ before middle op after, ops = before ++ (middle ++ op :: after) →
    ∀ promotionId, requestStatus (championMachine.run start before) promotionId = some .rejected →
      ¬Enters (championMachine.run start (before ++ middle)) op promotionId
  rollbacks : ∀ before request after, ops = before ++ .rollback request :: after →
    Restores (championMachine.run start before) request

/-- Every operation keeps the registry consistent. -/
theorem step_consistent (state : ChampionState) (op : ChampionOp)
    (consistent : Consistent state.champions) :
    Consistent (championMachine.next state op).champions := by
  obtain ⟨version, change, moved, -, positioned⟩ := step_moved consistent op
  exact moved.consistent consistent positioned

/-- Every state of a run has a consistent registry. -/
theorem run_consistent (evaluations : EvaluationReports) (ops : List ChampionOp) :
    Consistent (championMachine.run (.initial evaluations) ops).champions :=
  championMachine.invariant step_consistent ops consistent_empty

variable {state : ChampionState}

section

variable (consistent : Consistent state.champions)

include consistent

/-- A run keeps every version of a slot where it is. -/
theorem slotVersions_prefix (ops : List ChampionOp) (slot : String) :
    slotVersions state.champions slot <+:
      slotVersions (championMachine.run state ops).champions slot := by
  induction ops generalizing state with
  | nil => exact List.prefix_refl _
  | cons op rest ih =>
    obtain ⟨version, change, moved, -, positioned⟩ := step_moved consistent op
    have first : slotVersions state.champions slot <+:
        slotVersions (championMachine.next state op).champions slot := by
      rw [moved.slotVersions slot]
      exact List.prefix_append _ _
    exact first.trans (ih (moved.consistent consistent positioned))

/-- A decided request keeps its status. -/
theorem decided_step (op : ChampionOp) {promotionId : String} {status : PromotionStatus}
    (decided : status = .activated ∨ status = .rejected)
    (known : requestStatus state promotionId = some status) :
    requestStatus (championMachine.next state op) promotionId = some status := by
  obtain ⟨version, change, moved, changed, -⟩ := step_moved consistent op
  obtain ⟨request, found, stands⟩ := Option.map_eq_some_iff.mp known
  rw [requestStatus, moved.requests]
  cases changed with
  | untouched => exact known
  | asked report asked free =>
    -- A new request has a new id.
    by_cases same : promotionId = asked.promotionId
    · rw [same, free] at found
      cases found
    · simpa only [requestStatus, Option.elim_some, if_neg same] using known
  | approved askedId actorRef decidedAt reason old report version asked approvable =>
    by_cases same : promotionId = old.promotionId
    · -- An approved request was still open.
      have own := Table.key_of_find? approvable.found
      rw [same, own, approvable.found] at found
      obtain rfl := Option.some.inj found
      rcases decided with rfl | rfl <;> rcases approvable.open_ with pending | pending <;>
        rw [pending] at stands <;> cases stands
    · simpa only [requestStatus, Option.elim_some, if_neg same] using known
  | rejected askedId old located open_ =>
    by_cases same : promotionId = old.promotionId
    · have own := Table.key_of_find? located
      rw [same, own, located] at found
      obtain rfl := Option.some.inj found
      rcases decided with rfl | rfl
      · exact absurd stands open_
      · simp [same]
    · simpa only [requestStatus, Option.elim_some, if_neg same] using known

/-- A decided request keeps its status in a whole run. -/
theorem decided_run (ops : List ChampionOp) {promotionId : String} {status : PromotionStatus}
    (decided : status = .activated ∨ status = .rejected)
    (known : requestStatus state promotionId = some status) :
    requestStatus (championMachine.run state ops) promotionId = some status := by
  induction ops generalizing state with
  | nil => exact known
  | cons op rest ih =>
    exact ih (step_consistent state op consistent) (decided_step consistent op decided known)

/-- An approval records a version exactly when its request becomes activated. -/
theorem approval_records_iff (promotionId actorRef decidedAt reason : String) :
    (championMachine.next state
        (.approve promotionId actorRef decidedAt reason)).champions.history.rows ≠
        state.champions.history.rows ↔
      Enters state (.approve promotionId actorRef decidedAt reason) promotionId := by
  obtain ⟨version, change, moved, changed, -⟩ :=
    step_moved consistent (.approve promotionId actorRef decidedAt reason)
  rw [moved.history, Enters, requestStatus, requestStatus, moved.requests]
  cases changed with
  | untouched version other =>
    obtain rfl := other promotionId actorRef decidedAt reason rfl
    simp
  | asked report request free pending =>
    by_cases same : promotionId = request.promotionId
    · simp [same, pending]
    · simp [same]
  | approved askedId actor time why old report version asked approvable =>
    -- The approval found its request open and leaves it activated.
    obtain ⟨rfl, -⟩ := ChampionOp.approve.inj asked
    have own := Table.key_of_find? approvable.found
    have opened : old.status ≠ .activated := by
      rcases approvable.open_ with pending | pending <;> rw [pending] <;> decide
    simp [own, approvable.found, opened]
  | rejected askedId old found open_ =>
    by_cases same : promotionId = old.promotionId
    · simp [same]
    · simp [same]

/-- The version that a rollback activates again is the one named as previous. -/
theorem rollback_restores (request : ChampionRollbackRequest) : Restores state request := by
  intro answer answered
  have effect := call_effect state (.rollback request)
  rw [answer_champions] at answered
  rw [next_champions]
  generalize (ChampionOp.rollback request).call state = call at effect answered
  cases effect with
  | refused => cases answered
  | returned request active previous version returnable recorded =>
    have positioned := consistent.restored returnable.found recorded
    obtain ⟨next, activates, commits⟩ := consistent.activation positioned
    have listed := List.mem_of_find?_eq_some returnable.listed
    have named := List.find?_some returnable.listed
    rw [consistent.listHistory_eq] at listed
    simp only [decide_eq_true_eq] at named
    refine ⟨active, previous.versionId, previous, version.entry, returnable.found, named.symm,
      find?_of_listed listed, ?_, ?_⟩
    · have committed := commits []
      rw [List.append_nil] at committed
      simp only [committed, Commits.commit_nil, getActive, activates.registry]
      subst recorded
      exact Table.find?_replace_self _ _
    · subst recorded
      exact ⟨rfl, rfl, rfl, rfl, rfl⟩

end

/-- In every run the registry stays consistent: its tables agree, its histories only grow, every
request is activated at most once and not after a rejection, and rollbacks restore exactly. -/
theorem registry_run_consistent (evaluations : EvaluationReports) (ops : List ChampionOp) :
    RunConsistent (.initial evaluations) ops where
  tables before after _ := (run_consistent evaluations before).registryConsistent
  appendOnly before middle after _ slot := by
    rw [Machine.run_append, (run_consistent evaluations before).listHistory_eq]
    have later := run_consistent evaluations (before ++ middle)
    rw [Machine.run_append] at later
    rw [later.listHistory_eq]
    exact slotVersions_prefix (run_consistent evaluations before) middle slot
  activatedOnce before op middle later after _ promotionId entered again := by
    -- Once activated, the request is still activated when the later operation comes.
    have consistent := step_consistent _ op (run_consistent evaluations before)
    refine again.1 ?_
    rw [Machine.run_append, Machine.run_cons]
    exact decided_run consistent middle (Or.inl rfl) entered.2
  approvals before promotionId actorRef decidedAt reason after _ :=
    approval_records_iff (run_consistent evaluations before) promotionId actorRef decidedAt reason
  notOnceRejected before middle op after _ promotionId rejected entered := by
    have consistent := run_consistent evaluations before
    have still := decided_run consistent (middle ++ [op]) (Or.inr rfl) rejected
    have activated := entered.2
    rw [Machine.run_append, Machine.run_cons, Machine.run_nil] at still
    rw [Machine.run_append, still] at activated
    cases activated
  rollbacks before request after _ := rollback_restores (run_consistent evaluations before) request

end StrategyLab
