import StrategyLab.Adapters.ChampionRegistry

/-! How registry calls may write: a version enters the history right before it becomes active. -/

namespace StrategyLab

open ChampionRegistryRepository ChampionRegistryService

/-- A write that touches neither the history nor the active entries. -/
def ChampionWrite.Quiet : ChampionWrite → Prop
  | .addRequest _ | .updateRequest _ | .addDecision _ => True
  | .putActive _ | .addHistory _ => False

/-- Writes in which every entry that becomes active follows the version it stands for. -/
inductive Linked : List ChampionWrite → Prop where
  /-- No write at all. -/
  | done : Linked []
  /-- A write to the requests or the decisions. -/
  | quiet {entry : ChampionWrite} {rest : List ChampionWrite} (still : entry.Quiet)
    (linked : Linked rest) : Linked (entry :: rest)
  /-- A version is added to the history and made active. -/
  | activate {version : ChampionStrategyVersion} {entry : ChampionRegistryEntry}
    {rest : List ChampionWrite} (named : entry.activeVersionId = version.versionId)
    (printed : entry.fingerprint = version.fingerprint) (linked : Linked rest) :
    Linked (.addHistory version :: .putActive entry :: rest)

/-- Linked writes followed by linked writes are linked. -/
theorem Linked.append {first second : List ChampionWrite} (left : Linked first)
    (right : Linked second) : Linked (first ++ second) := by
  induction left with
  | done => exact right
  | quiet still _ ih => exact .quiet still ih
  | activate named printed _ ih => exact .activate named printed ih

/-- A call that goes on is linked when both of its parts are. -/
theorem Linked.bind {α β : Type} {first : ChampionCall α} {second : α → ChampionCall β}
    (left : Linked first.writes) (right : ∀ a, Linked (second a).writes) :
    Linked (first >>= second).writes := by
  rcases Commits.bind_writes first second with same | ⟨a, -, both⟩
  · rwa [same]
  · rw [both]
    exact left.append (right a)

/-- Activation adds the version and makes it active, or does nothing. -/
theorem activate_linked (slot strategyRef fingerprint backtestId validationId evaluationId : String)
    (activatedAt : String) (previous : Option ChampionRegistryEntry) (activationType : String) :
    Linked (activate slot strategyRef fingerprint backtestId validationId evaluationId activatedAt
      previous activationType).writes := by
  unfold activate
  refine .bind .done fun _ => ?_
  exact .activate rfl rfl .done

/-- Every call of the service writes linked. -/
theorem bootstrap_linked (repository : ChampionRegistryRepository)
    (strategyRef fingerprint backtestId activatedAt slot : String) :
    Linked (bootstrap repository strategyRef fingerprint backtestId activatedAt slot).writes := by
  unfold bootstrap
  split
  · exact .done
  · exact activate_linked ..

theorem requestPromotion_linked (repository : ChampionRegistryRepository)
    (evaluations : EvaluationReports)
    (promotionId evaluationId actorRef requestedAt slot : String) :
    Linked (requestPromotion repository evaluations promotionId evaluationId actorRef requestedAt
      slot).writes := by
  unfold requestPromotion
  split
  · split
    · exact .done
    · exact .done
  · refine .bind .done fun report => .bind .done fun _ => .bind .done fun _ => ?_
    exact .quiet trivial .done

theorem approve_linked (repository : ChampionRegistryRepository) (evaluations : EvaluationReports)
    (promotionId actorRef decidedAt reason : String) :
    Linked (approve repository evaluations promotionId actorRef decidedAt reason).writes := by
  unfold approve
  refine .bind .done fun request => ?_
  cases request.status with
  | activated =>
    simp only
    split
    · exact .done
    · exact .done
  | rejected => exact .done
  | rolledBack => exact .done
  | pendingApproval | approved =>
    -- The decision is recorded first, then the activation, then the request is closed.
    refine .bind .done fun report => .bind .done fun _ => .bind .done fun _ => ?_
    refine .bind (.quiet trivial .done) fun _ => .bind (activate_linked ..) fun entry => ?_
    exact .quiet trivial .done

theorem reject_linked (repository : ChampionRegistryRepository)
    (promotionId actorRef decidedAt reason : String) :
    Linked (reject repository promotionId actorRef decidedAt reason).writes := by
  unfold reject
  refine .bind .done fun request => ?_
  cases request.status with
  | rejected => exact .done
  | activated => exact .done
  | pendingApproval | approved | rolledBack =>
    refine .bind .done fun _ => ?_
    exact .quiet trivial (.quiet trivial .done)

theorem rollback_linked (repository : ChampionRegistryRepository)
    (request : ChampionRollbackRequest) : Linked (rollback repository request).writes := by
  unfold rollback
  split
  · exact .done
  · split
    · exact .done
    · split
      · exact .done
      · exact .bind (activate_linked ..) fun _ => .done

/-- Every active entry stands for a version of the history with the same fingerprint. -/
def ActiveInHistory (repository : ChampionRegistryRepository) : Prop :=
  ∀ slot entry, repository.getActive slot = some entry →
    ∃ version, repository.history.find? entry.activeVersionId = some version ∧
      version.fingerprint = entry.fingerprint

variable {repository next : ChampionRegistryRepository} {version : ChampionStrategyVersion}

/-- A version that has entered the history stays there as it is. -/
theorem history_kept_write {entry : ChampionWrite}
    (written : repository.write entry = .ok next) {versionId : String}
    (found : repository.history.find? versionId = some version) :
    next.history.find? versionId = some version := by
  cases entry with
  | putActive active =>
    simp only [write, Except.ok.injEq] at written
    subst written
    exact found
  | addHistory new =>
    simp only [write] at written
    split at written
    · cases written
    · split at written
      · rename_i grown built
        cases written
        exact Table.find?_insert?_of_found built found
      · cases written
  | addRequest request =>
    simp only [write] at written
    split at written
    · cases written
    · split at written <;> cases written
      exact found
  | updateRequest request =>
    simp only [write] at written
    split at written <;> cases written
    exact found
  | addDecision decision =>
    simp only [write] at written
    split at written <;> cases written
    · exact found
    · exact found

/-- Writes of a call leave every version of the history as it is. -/
theorem history_kept_commit {repository : ChampionRegistryRepository}
    (writes : List ChampionWrite) {versionId : String}
    (found : repository.history.find? versionId = some version) :
    (Commits.commit write repository writes).2.history.find? versionId = some version := by
  have kept (s : ChampionRegistryRepository) (entry : ChampionWrite)
      (next : ChampionRegistryRepository) (_ : entry ∈ writes) (written : s.write entry = .ok next)
      (found : s.history.find? versionId = some version) :
      next.history.find? versionId = some version :=
        history_kept_write written found
  exact Commits.commit_invariant kept found

/-- A quiet write leaves the history and the active entries alone. -/
theorem quiet_write {entry : ChampionWrite}
    (still : entry.Quiet) (written : repository.write entry = .ok next) :
    next.history = repository.history ∧ next.registry = repository.registry := by
  cases entry with
  | putActive active => exact absurd still id
  | addHistory version => exact absurd still id
  | addRequest request =>
    simp only [write] at written
    split at written
    · cases written
    · split at written <;> cases written
      exact ⟨rfl, rfl⟩
  | updateRequest request =>
    simp only [write] at written
    split at written <;> cases written
    exact ⟨rfl, rfl⟩
  | addDecision decision =>
    simp only [write] at written
    split at written <;> cases written
    · exact ⟨rfl, rfl⟩
    · exact ⟨rfl, rfl⟩

/-- Linked writes keep every active entry in the history. -/
theorem activeInHistory_commit {writes : List ChampionWrite} (linked : Linked writes) :
    ∀ {repository : ChampionRegistryRepository}, ActiveInHistory repository →
      ActiveInHistory (Commits.commit write repository writes).2 := by
  induction linked with
  | done => exact fun inHistory => inHistory
  | @quiet entry rest still _ ih =>
    intro repository inHistory
    unfold Commits.commit
    cases written : repository.write entry with
    | error refused => exact inHistory
    | ok next =>
      obtain ⟨history, registry⟩ := quiet_write still written
      apply ih
      simpa only [ActiveInHistory, getActive, history, registry] using inHistory
  | @activate version entry rest named printed _ ih =>
    intro repository inHistory
    unfold Commits.commit
    cases written : repository.write (.addHistory version) with
    | error refused => exact inHistory
    | ok next =>
      -- The version just added is the one the new entry stands for.
      have added : next.history.find? version.versionId = some version ∧
          next.registry = repository.registry := by
        simp only [write] at written
        split at written
        · cases written
        · split at written
          · rename_i grown built
            cases written
            exact ⟨by rw [Table.find?_insert? built, if_pos rfl], rfl⟩
          · cases written
      apply ih
      intro slot active found
      simp only [getActive, Table.find?_replace] at found
      split at found
      · obtain rfl := Option.some.inj found
        exact ⟨version, by rw [named]; exact added.1, printed.symm⟩
      · rw [added.2] at found
        obtain ⟨old, oldFound, same⟩ := inHistory slot active found
        exact ⟨old, history_kept_write written oldFound, same⟩

end StrategyLab
