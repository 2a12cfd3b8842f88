import StrategyLab.Adapters.ChampionMachine
import StrategyLab.Lib.Numeral

/-! The three tables of the registry agree: numbered history, active entry and request status. -/

namespace StrategyLab

open ChampionRegistryRepository ChampionRegistryService

/-- The versions of a slot, oldest insertion first. -/
def slotVersions (repository : ChampionRegistryRepository) (slot : String) :
    List ChampionStrategyVersion :=
  repository.history.rows.filter (·.slot = slot)

/-- The version id that comes before a position of a slot. -/
def previousIdOf (slot : String) : Nat → Option String
  | 0 => none
  | before + 1 => some (versionIdOf slot (before + 1 : Nat))

/-- What the position of a version in its slot determines. -/
structure Positioned (slot : String) (position : Nat) (version : ChampionStrategyVersion) :
    Prop where
  slot : version.slot = slot
  revision : version.revision = position + 1
  named : version.versionId = versionIdOf version.slot (position + 1 : Nat)
  previous : version.previousVersionId = previousIdOf version.slot position

/-- History and active entries agree: every version is at its place and the newest is active. -/
structure Consistent (repository : ChampionRegistryRepository) : Prop where
  lineage : ∀ slot position version, (slotVersions repository slot)[position]? = some version →
    Positioned slot position version
  active : ∀ slot, repository.getActive slot =
    (slotVersions repository slot).getLast?.map (·.entry)

/-- The text of a version id, cut at the colon before its number. -/
theorem versionIdOf_toList (slot : String) (revision : Nat) :
    (versionIdOf slot revision).toList =
      "champion-version:".toList ++ (slot.toList ++ ':' :: (Nat.repr revision).toList) := by
  -- A number of the history is not negative, so its text is its numeral.
  have numeral : toString (revision : Int) = Nat.repr revision := rfl
  unfold versionIdOf
  rw [numeral]
  simp [toString, String.toList_append]

/-- A version id determines its slot and its number. -/
theorem versionIdOf_injective {slot other : String} {revision number : Nat}
    (same : versionIdOf slot revision = versionIdOf other number) :
    slot = other ∧ revision = number := by
  -- The number has no colon in it, so the last colon is the one before the number.
  have texts := congrArg String.toList same
  rw [versionIdOf_toList, versionIdOf_toList] at texts
  obtain ⟨slots, numbers⟩ := Numeral.split_last (by decide) (List.append_cancel_left texts)
  exact ⟨String.toList_inj.mp slots, numbers⟩

/-- A registry in which nothing has happened is consistent. -/
theorem consistent_empty : Consistent .empty where
  lineage slot position version found := by
    simp [slotVersions, ChampionRegistryRepository.empty] at found
  active slot := rfl

/-- Only the rows of the history and the active entries matter for consistency. -/
theorem Consistent.congr {repository next : ChampionRegistryRepository}
    (consistent : Consistent repository) (history : next.history.rows = repository.history.rows)
    (registry : next.registry = repository.registry) : Consistent next := by
  -- The versions of every slot are those of the old history.
  have versions : slotVersions next = slotVersions repository := by
    funext slot
    simp only [slotVersions, history]
  refine ⟨by simpa only [versions] using consistent.lineage, fun slot => ?_⟩
  rw [versions, ← consistent.active slot, getActive, registry, getActive]

variable {repository : ChampionRegistryRepository}

/-- The version of an activation takes the next place of its slot. -/
theorem Consistent.positioned (consistent : Consistent repository)
    (slot strategyRef fingerprint backtestId validationId evaluationId activatedAt : String)
    (activationType : String) :
    Positioned slot (slotVersions repository slot).length
      (activatedVersion slot strategyRef fingerprint backtestId validationId evaluationId
        activatedAt (repository.getActive slot) activationType) := by
  have active := consistent.active slot
  rcases List.eq_nil_or_concat (slotVersions repository slot) with
    versions | ⟨earlier, last, versions⟩
  · -- The first version of a slot follows no entry.
    rw [versions] at active ⊢
    simp only [List.getLast?_nil, Option.map_none] at active
    rw [active]
    exact ⟨rfl, rfl, rfl, rfl⟩
  · -- Otherwise the active entry stands for the last version, whose number it carries.
    rw [List.concat_eq_append] at versions
    have place : (slotVersions repository slot)[earlier.length]? = some last := by
      rw [versions, List.getElem?_concat_length]
    have known := consistent.lineage slot earlier.length last place
    rw [versions] at active ⊢
    simp only [List.getLast?_concat, Option.map_some] at active
    rw [active, List.length_append, List.length_singleton]
    have number : nextRevision (some last.entry) = ((earlier.length + 1 : Nat) : Int) + 1 := by
      simp [nextRevision, ChampionStrategyVersion.entry, known.revision]
    refine ⟨rfl, number, ?_, ?_⟩
    · simp only [activatedVersion, number]
      rfl
    · simp only [activatedVersion, Option.map_some, ChampionStrategyVersion.entry, known.named,
        known.slot, previousIdOf]

variable {version : ChampionStrategyVersion}

/-- A version that an activation records takes the next place of its slot. -/
theorem Consistent.recorded (consistent : Consistent repository)
    {slot strategyRef fingerprint backtestId validationId evaluationId activatedAt : String}
    {activationType : String}
    (recorded : version = activatedVersion slot strategyRef fingerprint backtestId validationId
      evaluationId activatedAt (repository.getActive slot) activationType) :
    Positioned version.slot (slotVersions repository version.slot).length version := by
  subst recorded
  exact consistent.positioned ..

/-- A version that a rollback restores takes the next place of its slot as well. -/
theorem Consistent.restored {repository : ChampionRegistryRepository}
    (consistent : Consistent repository) {version previous : ChampionStrategyVersion}
    {request : ChampionRollbackRequest} {active : ChampionRegistryEntry}
    (found : repository.getActive request.slot = some active)
    (recorded : version = restoredVersion request active previous) :
    Positioned version.slot (slotVersions repository version.slot).length version := by
  rw [restoredVersion, ← found] at recorded
  exact consistent.recorded recorded

/-- What is left in the tables once a version is recorded and made active. -/
structure Activates (repository next : ChampionRegistryRepository)
    (version : ChampionStrategyVersion) : Prop where
  history : next.history.rows = repository.history.rows ++ [version]
  registry : next.registry = repository.registry.replace version.entry
  requests : next.requests = repository.requests
  decisions : next.decisions = repository.decisions

/-- A version of the next place of its slot enters the history. -/
theorem Consistent.addHistory (consistent : Consistent repository)
    (positioned : Positioned version.slot (slotVersions repository version.slot).length version) :
    ∃ grown, repository.write (.addHistory version) = .ok { repository with history := grown } ∧
      repository.history.insert? version = some grown := by
  -- A row with the same slot and number, or the same id, would be at a place already taken.
  have placed : ∀ old ∈ repository.history.rows, ∃ position,
      position < (slotVersions repository old.slot).length ∧
        Positioned old.slot position old := by
    intro old member
    have listed : old ∈ slotVersions repository old.slot := by
      simp [slotVersions, member]
    obtain ⟨position, found⟩ := List.mem_iff_getElem?.mp listed
    exact ⟨position, (List.getElem?_eq_some_iff.mp found).1,
      consistent.lineage old.slot position old found⟩
  have unnumbered : repository.history.rows.any (fun old =>
      decide (old.slot = version.slot) && decide (old.revision = version.revision)) = false := by
    rw [List.any_eq_false]
    intro old member same
    simp only [Bool.and_eq_true, decide_eq_true_eq] at same
    obtain ⟨position, below, known⟩ := placed old member
    have number := known.revision
    rw [same.2, positioned.revision, ← same.1] at number
    omega
  have unnamed : repository.history.find? version.versionId = none := by
    rw [Table.find?_eq_none_iff]
    intro old member same
    obtain ⟨position, below, known⟩ := placed old member
    rw [known.named, positioned.named] at same
    obtain ⟨slots, numbers⟩ := versionIdOf_injective same
    rw [slots] at below
    omega
  -- The insertion is refused only for an id that is taken.
  cases inserted : repository.history.insert? version with
  | none =>
    obtain ⟨old, found⟩ := Table.insert?_eq_none_iff.mp inserted
    rw [unnamed] at found
    cases found
  | some grown => exact ⟨grown, by simp only [write, unnumbered, inserted]; rfl, rfl⟩

/-- In a consistent registry an activation is never refused. -/
theorem Consistent.activation (consistent : Consistent repository)
    (positioned : Positioned version.slot (slotVersions repository version.slot).length version) :
    ∃ next, Activates repository next version ∧
      ∀ rest, Commits.commit write repository (activationWrites version ++ rest) =
        Commits.commit write next rest := by
  -- Both writes go through: the row into the history, and the entry over the active one.
  obtain ⟨grown, written, inserted⟩ := consistent.addHistory positioned
  refine ⟨{ repository with
    history := grown, registry := repository.registry.replace version.entry },
    ⟨(Table.insert?_eq_some_iff.mp inserted).2, rfl, rfl, rfl⟩, fun rest => ?_⟩
  rw [activationWrites, List.cons_append, Commits.commit_cons_ok written]
  exact Commits.commit_cons_ok rfl

/-- What an operation has done: at most one new version, and at most one request changed. -/
structure Moved (repository next : ChampionRegistryRepository)
    (version : Option ChampionStrategyVersion) (change : Option PromotionRequest) : Prop where
  history : next.history.rows = repository.history.rows ++ version.toList
  registry : next.registry =
    version.elim repository.registry fun recorded => repository.registry.replace recorded.entry
  requests : ∀ promotionId, next.requests.find? promotionId =
    change.elim (repository.requests.find? promotionId) fun request =>
      if promotionId = request.promotionId then some request
      else repository.requests.find? promotionId

/-- An activation leaves the requests alone. -/
theorem Activates.moved {repository next : ChampionRegistryRepository}
    (activates : Activates repository next version) :
    Moved repository next (some version) none :=
  ⟨activates.history, activates.registry, fun promotionId => by rw [activates.requests]; rfl⟩

variable {change : Option PromotionRequest}

/-- Moving nothing first changes nothing about what is moved next. -/
theorem Moved.after_nothing {repository middle next : ChampionRegistryRepository}
    {version : Option ChampionStrategyVersion}
    (first : Moved repository middle none none) (second : Moved middle next version change) :
    Moved repository next version change := by
  have history : middle.history.rows = repository.history.rows := by simpa using first.history
  have registry : middle.registry = repository.registry := first.registry
  have requests : ∀ promotionId, middle.requests.find? promotionId =
      repository.requests.find? promotionId := first.requests
  refine ⟨by rw [second.history, history], by rw [second.registry, registry],
    fun promotionId => ?_⟩
  rw [second.requests promotionId]
  simp only [requests]

variable {request : PromotionRequest}

/-- A version can be recorded before a request is changed. -/
theorem Moved.then_request {repository middle next : ChampionRegistryRepository}
    (first : Moved repository middle (some version) none)
    (second : Moved middle next none (some request)) :
    Moved repository next (some version) (some request) := by
  refine ⟨?_, second.registry.trans first.registry, fun promotionId => ?_⟩
  · rw [second.history, first.history]
    simp
  · rw [second.requests promotionId]
    simp only [Option.elim_some, first.requests, Option.elim_none]

/-- The versions of a slot after a move. -/
theorem Moved.slotVersions {repository next : ChampionRegistryRepository}
    {version : Option ChampionStrategyVersion}
    (moved : Moved repository next version change) (slot : String) :
    slotVersions next slot =
      slotVersions repository slot ++ version.toList.filter (·.slot = slot) := by
  simp only [StrategyLab.slotVersions, moved.history, List.filter_append]

/-- A move that records the next version of its slot, if any, keeps the registry consistent. -/
theorem Moved.consistent {repository next : ChampionRegistryRepository}
    {version : Option ChampionStrategyVersion}
    (moved : Moved repository next version change) (before : Consistent repository)
    (positioned : ∀ recorded, version = some recorded → Positioned recorded.slot
      (StrategyLab.slotVersions repository recorded.slot).length recorded) : Consistent next := by
  cases version with
  | none => exact before.congr (by simpa using moved.history) moved.registry
  | some recorded =>
    refine ⟨fun slot position found => ?_, fun slot => ?_⟩
    · rw [moved.slotVersions slot]
      -- Another slot keeps its versions.
      by_cases own : recorded.slot = slot
      · subst own
        simp only [Option.toList_some, List.filter_singleton, decide_true, cond_true]
        intro located
        rw [List.getElem?_append] at located
        split at located
        · exact before.lineage recorded.slot position found located
        · -- Behind the old versions there is only the new one.
          rw [List.getElem?_singleton] at located
          split at located
          · obtain rfl := Option.some.inj located
            have place : position = (StrategyLab.slotVersions repository recorded.slot).length := by
              omega
            rw [place]
            exact positioned recorded rfl
          · cases located
      · simp only [Option.toList_some, List.filter_singleton, own, decide_false, cond_false,
          List.append_nil]
        exact before.lineage slot position found
    · have registry : next.registry = repository.registry.replace recorded.entry := moved.registry
      rw [moved.slotVersions slot, getActive, registry, Table.find?_replace]
      by_cases own : recorded.slot = slot
      · subst own
        simp [ChampionStrategyVersion.entry]
      · have other : ¬slot = recorded.entry.slot := fun same => own same.symm
        rw [if_neg other]
        simp only [Option.toList_some, List.filter_singleton, own, decide_false, cond_false,
          List.append_nil]
        exact before.active slot

/-- Leaving the tables alone moves nothing. -/
theorem Moved.refl (repository : ChampionRegistryRepository) :
    Moved repository repository none none :=
  ⟨by simp, rfl, fun _ => rfl⟩

/-- A decision is always accepted, and moves nothing. -/
theorem write_addDecision (repository : ChampionRegistryRepository)
    (decision : PromotionDecisionRecord) :
    ∃ next, repository.write (.addDecision decision) = .ok next ∧
      Moved repository next none none := by
  simp only [write]
  cases repository.decisions.insert? decision with
  | none => exact ⟨repository, rfl, .refl repository⟩
  | some grown => exact ⟨_, rfl, by simp, rfl, fun _ => rfl⟩

/-- A request that exists can be given another status. -/
theorem write_updateRequest {promotionId : String}
    {old : PromotionRequest} (found : repository.requests.find? promotionId = some old)
    (status : PromotionStatus) :
    ∃ next, repository.write (.updateRequest { old with status }) = .ok next ∧
      Moved repository next none (some { old with status }) := by
  obtain rfl := Table.key_of_find? found
  -- The row under the id is replaced, and no other row carries the id.
  simp only [write, found]
  refine ⟨_, rfl, by simp, rfl, fun promotionId => ?_⟩
  rw [Table.find?_update]
  by_cases same : promotionId = old.promotionId
  · subst same
    simp [found]
  · simp only [Option.elim_some, if_neg same]
    cases other : repository.requests.find? promotionId with
    | none => rfl
    | some row =>
      -- Another request has another id, so the update passes it by.
      have key : row.promotionId ≠ old.promotionId := by
        rw [Table.key_of_find? other]
        exact same
      simp [key]

/-- A request is stored under an id that was free, or is refused. -/
theorem write_addRequest (repository : ChampionRegistryRepository) (request : PromotionRequest) :
    (∃ error, repository.write (.addRequest request) = .error error) ∨
      repository.requests.find? request.promotionId = none ∧
        ∃ next, repository.write (.addRequest request) = .ok next ∧
          Moved repository next none (some request) := by
  simp only [write]
  split
  · exact Or.inl ⟨_, rfl⟩
  · cases inserted : repository.requests.insert? request with
    | none => exact Or.inl ⟨_, rfl⟩
    | some grown =>
      refine Or.inr ⟨(Table.insert?_eq_some_iff.mp inserted).1, _, rfl, by simp, rfl,
        fun promotionId => ?_⟩
      rw [Table.find?_insert? inserted]
      rfl

/-- In a consistent registry an approval does all of its writes. -/
theorem Consistent.approval (consistent : Consistent repository) {promotionId : String}
    (asked : repository.requests.find? promotionId = some request)
    (decision : PromotionDecisionRecord)
    (positioned : Positioned version.slot (slotVersions repository version.slot).length version) :
    ∃ next, Commits.commit write repository (.addDecision decision ::
        (activationWrites version ++ [.updateRequest { request with status := .activated }])) =
          (none, next) ∧
      Moved repository next (some version) (some { request with status := .activated }) := by
  -- The decision changes nothing that the activation depends on.
  obtain ⟨noted, written, still⟩ := write_addDecision repository decision
  have ready : Consistent noted := still.consistent consistent (by simp)
  have place : Positioned version.slot (slotVersions noted version.slot).length version := by
    simpa [still.slotVersions] using positioned
  obtain ⟨active, activates, commits⟩ := ready.activation place
  have moved := still.after_nothing activates.moved
  have found : active.requests.find? promotionId = some request := by
    rw [moved.requests]
    exact asked
  obtain ⟨next, updated, closed⟩ := write_updateRequest found .activated
  refine ⟨next, ?_, moved.then_request closed⟩
  rw [Commits.commit_cons_ok written, commits, Commits.commit_cons_ok updated]
  rfl

/-- How the request table changes with an operation, next to the version it records. -/
inductive RequestChange (state : ChampionState) (op : ChampionOp) :
    Option ChampionStrategyVersion → Option PromotionRequest → Prop where
  /-- No request changes. -/
  | untouched (version : Option ChampionStrategyVersion)
    (other : ∀ promotionId actorRef decidedAt reason,
      op = .approve promotionId actorRef decidedAt reason → version = none) :
    RequestChange state op version none
  /-- A request is made for a report that passed its checks. -/
  | asked (report : ChampionChallengerEvaluationReport) (request : PromotionRequest)
    (free : state.champions.requests.find? request.promotionId = none)
    (pending : request.status = .pendingApproval)
    (evaluated : state.evaluations.find? request.evaluationId = some report)
    (champion : request.currentChampionFingerprint = report.championFingerprint)
    (challenger : request.candidateFingerprint = report.challengerFingerprint) :
    RequestChange state op none (some request)
  /-- A request is approved, together with the version of its slot. -/
  | approved (promotionId actorRef decidedAt reason : String) (old : PromotionRequest)
    (report : ChampionChallengerEvaluationReport) (version : ChampionStrategyVersion)
    (asked : op = .approve promotionId actorRef decidedAt reason)
    (approvable : Approvable state promotionId old report)
    (recorded : version = promotedVersion state old report decidedAt) :
    RequestChange state op (some version) (some { old with status := .activated })
  /-- A request is rejected. -/
  | rejected (promotionId : String) (old : PromotionRequest)
    (found : state.champions.requests.find? promotionId = some old)
    (open_ : old.status ≠ .activated) :
    RequestChange state op none (some { old with status := .rejected })

/-- The registry tables after an operation are those its writes leave. -/
theorem next_champions (state : ChampionState) (op : ChampionOp) :
    (championMachine.next state op).champions =
      (Commits.commit write state.champions (op.call state).writes).2 := by
  rw [← Commits.perform_snd]
  rfl

/-- An operation answers what performing its call answers. -/
theorem answer_champions (state : ChampionState) (op : ChampionOp) :
    championMachine.answer state op =
      (Commits.perform write state.champions (op.call state)).1 := rfl

/-- In a consistent registry an operation does all of its writes, or none that matter. -/
theorem step_moved {state : ChampionState} (consistent : Consistent state.champions)
    (op : ChampionOp) :
    ∃ version change, Moved state.champions (championMachine.next state op).champions version
        change ∧ RequestChange state op version change ∧
      ∀ recorded, version = some recorded → Positioned recorded.slot
        (slotVersions state.champions recorded.slot).length recorded := by
  rw [next_champions]
  -- Case by case over what the call can write, whatever led to it.
  have effect := call_effect state op
  generalize op.call state = call at effect
  cases effect with
  | refused | repeatedRequest | repeatedApproval | repeatedRejection | stored =>
    exact ⟨none, none, .refl _, .untouched none (fun _ _ _ _ _ => rfl), by simp⟩
  | bootstrapped strategyRef fingerprint backtestId activatedAt slot version recorded empty =>
    have positioned := consistent.recorded recorded
    -- The slot was empty, so this is its first version.
    obtain ⟨next, activates, commits⟩ := consistent.activation positioned
    refine ⟨some version, none, ?_, .untouched _ (by simp), by rintro _ ⟨⟩; exact positioned⟩
    rw [← List.append_nil (activationWrites version), commits]
    exact activates.moved
  | requested promotionId evaluationId actorRef requestedAt slot report request evaluated candidate
      copied =>
    rcases write_addRequest state.champions request with
      ⟨error, refused⟩ | ⟨free, next, written, moved⟩
    · rw [Commits.commit_cons_error refused]
      exact ⟨none, none, .refl _, .untouched none (fun _ _ _ _ _ => rfl), by simp⟩
    · rw [Commits.commit_cons_ok written]
      subst copied
      exact ⟨none, some _, moved, .asked report _ free rfl evaluated rfl rfl, by simp⟩
  | noted promotionId actorRef decidedAt reason request report decision error approvable =>
    -- Only the decision is noted.
    obtain ⟨next, written, moved⟩ := write_addDecision state.champions decision
    rw [Commits.commit_cons_ok written]
    exact ⟨none, none, moved, .untouched none (fun _ _ _ _ _ => rfl), by simp⟩
  | approved promotionId actorRef decidedAt reason request report decision version approvable
      recorded =>
    have positioned := consistent.recorded recorded
    -- The decision, the activation and the request follow one another.
    obtain ⟨next, commits, moved⟩ := consistent.approval approvable.found decision positioned
    refine ⟨some version, some { request with status := .activated }, ?_,
      .approved promotionId actorRef decidedAt reason request report version rfl approvable
        recorded, by rintro _ ⟨⟩; exact positioned⟩
    rw [commits]
    exact moved
  | rejected promotionId actorRef decidedAt reason request decision found open_ =>
    obtain ⟨noted, written, still⟩ := write_addDecision state.champions decision
    -- The decision leaves the request where it was found.
    have kept : noted.requests.find? promotionId = some request := by
      rw [still.requests]
      exact found
    obtain ⟨next, updated, closed⟩ := write_updateRequest kept .rejected
    refine ⟨none, some { request with status := .rejected }, ?_,
      .rejected promotionId request found open_, by simp⟩
    rw [Commits.commit_cons_ok written, Commits.commit_cons_ok updated]
    exact still.after_nothing closed
  | returned request active previous version returnable recorded =>
    -- The version that is restored follows the active entry of the slot.
    have positioned := consistent.restored returnable.found recorded
    obtain ⟨next, activates, commits⟩ := consistent.activation positioned
    refine ⟨some version, none, ?_, .untouched _ (by simp), by rintro _ ⟨⟩; exact positioned⟩
    rw [← List.append_nil (activationWrites version), commits]
    exact activates.moved

end StrategyLab
