import StrategyLab.Adapters.HandoffCalls

/-! What holds of the packages, their decisions and the clients while nobody decides twice. -/

namespace StrategyLab

open StrategyHandoffRepository StrategyHandoffService

variable {digest : HandoffDigest}

/-- A decision on a package is recorded. -/
def DecisionRecorded (repository : StrategyHandoffRepository) (approved : Bool) (packageId : String) :
    Prop :=
  ∃ approval, repository.approvals.find? (decisionId approved packageId) = some approval

/-- What a client relies on that has read a package in order to decide on it. -/
structure HasRead (digest : HandoffDigest) (repository : StrategyHandoffRepository)
    (decision : HandoffDecision) (package : StrategyHandoffPackage) : Prop where
  wellFormed : WellFormed digest package
  packageId : package.packageId = decision.packageId
  validated : (decision.approval package).validate = .ok ()
  permitted : package.status ≠ decisionStatus (!decision.approved)
  marked : package.status = .approvedForDeployment → DecisionRecorded repository true decision.packageId
  stored : ∃ stored, repository.packages.find? decision.packageId = some stored

/-- What a client relies on that has recorded a decision, and is about to store it. -/
structure Holds (digest : HandoffDigest) (repository : StrategyHandoffRepository)
    (decision : HandoffDecision) (decided : StrategyHandoffPackage) : Prop where
  decided : Decided digest decision decided
  recorded : DecisionRecorded repository decision.approved decision.packageId
  stored : ∃ stored, repository.packages.find? decision.packageId = some stored ∧
    stored.status ≠ decisionStatus decision.approved

namespace HandoffSessions

/-- What holds all the way. -/
structure Sound (digest : HandoffDigest) (state : HandoffSessions) : Prop where
  wellFormed : ∀ id package, state.repository.packages.find? id = some package →
    WellFormed digest package
  marked : ∀ id package approved, state.repository.packages.find? id = some package →
    package.status = decisionStatus approved → DecisionRecorded state.repository approved id
  reading : ∀ client decision package, state.clients client = .recording decision package →
    HasRead digest state.repository decision package
  holding : ∀ client decision decided,
    (state.clients client).recorded? = some (decision, decided) →
      Holds digest state.repository decision decided
  apart : ∀ left right first second decided other,
    (state.clients left).recorded? = some (first, decided) →
    (state.clients right).recorded? = some (second, other) →
      first.approved = second.approved → first.packageId = second.packageId → left = right
  single : ∀ id, ¬(DecisionRecorded state.repository true id ∧ DecisionRecorded state.repository false id)

variable {state : HandoffSessions} {client : Nat}

/-- A client that commits nothing keeps everything, if it has read what it says. -/
theorem Sound.goto (sound : Sound digest state) {phase : HandoffPhase}
    (reading : ∀ decision package, phase = .recording decision package →
      HasRead digest state.repository decision package)
    (holding : ∀ held, phase.recorded? = some held → (state.clients client).recorded? = some held) :
    Sound digest (state.goto client phase) where
  wellFormed := sound.wellFormed
  marked := sound.marked
  reading other decision package at_ := by
    simp only [HandoffSessions.goto, Function.update_apply] at at_
    split at at_
    · exact reading decision package at_
    · exact sound.reading other decision package at_
  holding other decision decided held := by
    simp only [HandoffSessions.goto, Function.update_apply] at held
    split at held
    · exact sound.holding client decision decided (holding _ held)
    · exact sound.holding other decision decided held
  apart left right first second decided other heldLeft heldRight := by
    have before : ∀ name held, ((state.goto client phase).clients name).recorded? = some held →
        (state.clients name).recorded? = some held := by
      intro name held now
      simp only [HandoffSessions.goto, Function.update_apply] at now
      split at now
      · rename_i same
        exact same ▸ holding held now
      · exact now
    exact sound.apart left right first second decided other (before _ _ heldLeft)
      (before _ _ heldRight)
  single := sound.single

variable {grown : Table StrategyDeploymentApproval.approvalId}

/-- What is recorded stays recorded when another decision is. -/
theorem recorded_insert {repository : StrategyHandoffRepository}
    {approval : StrategyDeploymentApproval}
    {approved : Bool} {packageId : String}
    (inserted : repository.approvals.insert? approval = some grown)
    (recorded : DecisionRecorded repository approved packageId) :
    DecisionRecorded { repository with approvals := grown } approved packageId := by
  obtain ⟨old, found⟩ := recorded
  exact ⟨old, Table.find?_insert?_of_found inserted found⟩

variable {decision : HandoffDecision}

/-- Recording a decision keeps everything, if the opposite one is not recorded. -/
theorem Sound.record (sound : Sound digest state) {package decided : StrategyHandoffPackage}
    (at_ : state.clients client = .recording decision package)
    (inserted : state.repository.approvals.insert? (decision.approval package) = some grown)
    (alone : ¬DecisionRecorded state.repository (!decision.approved) decision.packageId)
    (outcome : Decided digest decision decided) :
    Sound digest (({ state with repository := { state.repository with approvals := grown } } :
      HandoffSessions).goto client (.rereading decision decided)) := by
  have read := sound.reading client decision package at_
  have fresh : ¬DecisionRecorded state.repository decision.approved decision.packageId := by
    rintro ⟨old, found⟩
    have missing := (Table.insert?_eq_some_iff.mp inserted).1
    exact absurd (missing.symm.trans found) (by simp)
  have mine : DecisionRecorded { state.repository with approvals := grown } decision.approved
      decision.packageId :=
    ⟨_, (Table.find?_insert? inserted _).trans (if_pos rfl)⟩
  -- Whatever else is recorded now was recorded before.
  have old : ∀ approved id, DecisionRecorded { state.repository with approvals := grown } approved id →
      (approved = decision.approved ∧ id = decision.packageId) ∨
        DecisionRecorded state.repository approved id := by
    rintro approved id ⟨approval, found⟩
    rw [Table.find?_insert? inserted] at found
    split at found
    · rename_i same
      exact .inl (decisionId_inj.mp same)
    · exact .inr ⟨approval, found⟩
  refine ⟨sound.wellFormed, fun id package approved found status =>
    recorded_insert inserted (sound.marked id package approved found status),
    fun other next read at_ => ?_, fun other next held holding => ?_,
    fun left right first second one two heldLeft heldRight same named => ?_, fun id both => ?_⟩
  · simp only [HandoffSessions.goto, Function.update_apply] at at_
    split at at_
    · cases at_
    · have has := sound.reading other next read at_
      exact ⟨has.wellFormed, has.packageId, has.validated, has.permitted,
        fun status => recorded_insert inserted (has.marked status), has.stored⟩
  · simp only [HandoffSessions.goto, Function.update_apply] at holding
    split at holding
    · cases holding
      obtain ⟨stored, found⟩ := read.stored
      -- A package with this status would have been marked by the record.
      exact ⟨outcome, mine, stored, found, fun status =>
        fresh (sound.marked _ stored _ found status)⟩
    · have holds := sound.holding other next held holding
      exact ⟨holds.decided, recorded_insert inserted holds.recorded, holds.stored⟩
  · have new : ∀ name next held, (if name = client then (HandoffPhase.rereading decision decided)
        else state.clients name).recorded? = some (next, held) →
        (name = client ∧ next = decision) ∨ (state.clients name).recorded? = some (next, held) := by
      intro name next held now
      split at now
      · rename_i same
        cases now
        exact .inl ⟨same, rfl⟩
      · exact .inr now
    simp only [HandoffSessions.goto, Function.update_apply] at heldLeft heldRight
    obtain ⟨rfl, rfl⟩ | before := new left first one heldLeft
    · obtain ⟨rfl, rfl⟩ | also_ := new right second two heldRight
      · rfl
      · exact absurd (same ▸ named ▸ (sound.holding right second two also_).recorded) fresh
    · obtain ⟨rfl, rfl⟩ | also_ := new right second two heldRight
      · exact absurd (same ▸ named ▸ (sound.holding left first one before).recorded) fresh
      · exact sound.apart left right first second one two before also_ same named
  · obtain ⟨yes, no⟩ := both
    obtain ⟨isTrue, sameId⟩ | before := old _ _ yes
    · obtain ⟨isFalse, _⟩ | also_ := old _ _ no
      · rw [← isTrue] at isFalse
        cases isFalse
      · rw [← isTrue, ← sameId] at alone
        exact alone also_
    · obtain ⟨isFalse, sameId⟩ | also_ := old _ _ no
      · rw [← isFalse, ← sameId] at alone
        exact alone before
      · exact sound.single id ⟨before, also_⟩

variable {package : StrategyHandoffPackage}

/-- Overwriting a package that is stored changes that package only. -/
theorem overwrite_eq_ok {repository after : StrategyHandoffRepository}
    (done : repository.overwrite package = .ok after) :
    after.approvals = repository.approvals ∧
      ∀ id, after.packages.find? id = if id = package.packageId then some package
        else repository.packages.find? id := by
  unfold StrategyHandoffRepository.overwrite at done
  split at done
  · cases done
  · rename_i old found
    cases done
    refine ⟨rfl, fun id => ?_⟩
    rw [Table.find?_update]
    by_cases same : id = package.packageId
    · have named : old.packageId = package.packageId := Table.key_of_find? found
      rw [if_pos same, same, found, Option.map_some, if_pos (by simpa using named), named]
    · rw [if_neg same]
      cases located : repository.packages.find? id with
      | none => rfl
      | some other =>
        have named : other.packageId = id := Table.key_of_find? located
        rw [Option.map_some, if_neg (by simpa [named] using same)]

/-- A client that holds a decision stores it where nothing was decided yet. -/
theorem Sound.open_of_holding (sound : Sound digest state) {decided stored : StrategyHandoffPackage}
    (holding : (state.clients client).recorded? = some (decision, decided))
    (found : state.repository.packages.find? decision.packageId = some stored) :
    ∀ approved, stored.status ≠ decisionStatus approved := by
  intro approved status
  have holds := sound.holding client decision decided holding
  have marked := sound.marked _ stored approved found status
  by_cases same : approved = decision.approved
  · obtain ⟨other, located, differs⟩ := holds.stored
    cases found.symm.trans located
    exact differs (same ▸ status)
  · -- Then both decisions on the package would be recorded.
    have recorded := holds.recorded
    cases approved <;> cases mine : decision.approved
    · exact same mine.symm
    · exact sound.single _ ⟨mine ▸ recorded, marked⟩
    · exact sound.single _ ⟨marked, mine ▸ recorded⟩
    · exact same mine.symm

variable {after : StrategyHandoffRepository}

/-- Storing a decision that was recorded keeps everything. -/
theorem Sound.update (sound : Sound digest state) {decided : StrategyHandoffPackage}
    (at_ : state.clients client = .updating decision decided)
    (done : state.repository.overwrite decided = .ok after) :
    Sound digest (({ state with repository := after } : HandoffSessions).goto client .idle) := by
  have holding : (state.clients client).recorded? = some (decision, decided) := by rw [at_]; rfl
  have mine := sound.holding client decision decided holding
  obtain ⟨approvals, packages⟩ := overwrite_eq_ok done
  have recorded : ∀ approved id, DecisionRecorded after approved id ↔
      DecisionRecorded state.repository approved id := by
    intro approved id
    rw [DecisionRecorded, DecisionRecorded, approvals]
  rw [mine.decided.packageId] at packages
  refine ⟨fun id package found => ?_, fun id package approved found status => ?_,
    fun other next read at_ => ?_, fun other next held holds => ?_,
    fun left right first second one two heldLeft heldRight => ?_, fun id both => ?_⟩
  · replace found := (packages id).symm.trans found
    split at found
    · cases found
      exact mine.decided.wellFormed
    · exact sound.wellFormed id package found
  · refine (recorded approved id).mpr ?_
    replace found := (packages id).symm.trans found
    split at found
    · rename_i same
      cases found
      have outcome : decision.approved = approved := by
        have both := mine.decided.status.symm.trans status
        revert both
        cases decision.approved <;> cases approved <;> simp [decisionStatus]
      exact same ▸ outcome ▸ mine.recorded
    · exact sound.marked id package approved found status
  · simp only [HandoffSessions.goto, Function.update_apply] at at_
    split at at_
    · cases at_
    · have has := sound.reading other next read at_
      refine ⟨has.wellFormed, has.packageId, has.validated, has.permitted,
        fun status => (recorded _ _).mpr (has.marked status), ?_⟩
      obtain ⟨stored, found⟩ := has.stored
      by_cases same : next.packageId = decision.packageId
      · exact ⟨decided, (packages _).trans (if_pos same)⟩
      · exact ⟨stored, ((packages _).trans (if_neg same)).trans found⟩
  · simp only [HandoffSessions.goto, Function.update_apply] at holds
    split at holds
    · cases holds
    · rename_i different
      have has := sound.holding other next held holds
      refine ⟨has.decided, (recorded _ _).mpr has.recorded, ?_⟩
      obtain ⟨stored, found, differs⟩ := has.stored
      by_cases same : next.packageId = decision.packageId
      · refine ⟨decided, (packages _).trans (if_pos same), fun status => different ?_⟩
        -- Nobody else holds the decision that was just stored.
        have outcome : next.approved = decision.approved := by
          have both := status.symm.trans mine.decided.status
          revert both
          cases next.approved <;> cases decision.approved <;> simp [decisionStatus]
        exact sound.apart other client next decision held decided holds holding outcome same
      · exact ⟨stored, ((packages _).trans (if_neg same)).trans found, differs⟩
  · have before : ∀ name held, (if name = client then HandoffPhase.idle
        else state.clients name).recorded? = some held →
        (state.clients name).recorded? = some held := by
      intro name held now
      split at now
      · cases now
      · exact now
    simp only [HandoffSessions.goto, Function.update_apply] at heldLeft heldRight
    exact sound.apart left right first second one two (before _ _ heldLeft) (before _ _ heldRight)
  · exact sound.single id ⟨(recorded _ _).mp both.1, (recorded _ _).mp both.2⟩

/-- Creating a package keeps everything. -/
theorem Sound.create (sound : Sound digest state) (pending : package.status = .pendingApproval)
    (wellFormed : WellFormed digest package)
    (inserted : state.repository.packages.insert? package = some after.packages)
    (approvals : after.approvals = state.repository.approvals) :
    Sound digest { state with repository := after } := by
  have recorded : ∀ approved id, DecisionRecorded after approved id ↔
      DecisionRecorded state.repository approved id := by
    intro approved id
    rw [DecisionRecorded, DecisionRecorded, approvals]
  refine ⟨fun id stored found => ?_, fun id stored approved found status => ?_,
    fun other next read at_ => ?_, fun other next held holds => ?_, sound.apart, fun id both => ?_⟩
  · rw [Table.find?_insert? inserted] at found
    split at found
    · cases found
      exact wellFormed
    · exact sound.wellFormed id stored found
  · rw [recorded]
    rw [Table.find?_insert? inserted] at found
    split at found
    · cases found
      rw [pending] at status
      cases approved <;> cases status
    · exact sound.marked id stored approved found status
  · have has := sound.reading other next read at_
    obtain ⟨stored, found⟩ := has.stored
    exact ⟨has.wellFormed, has.packageId, has.validated, has.permitted,
      fun status => (recorded _ _).mpr (has.marked status), stored,
      Table.find?_insert?_of_found inserted found⟩
  · have has := sound.holding other next held holds
    obtain ⟨stored, found, differs⟩ := has.stored
    exact ⟨has.decided, (recorded _ _).mpr has.recorded, stored,
      Table.find?_insert?_of_found inserted found, differs⟩
  · exact sound.single id ⟨(recorded _ _).mp both.1, (recorded _ _).mp both.2⟩

end HandoffSessions

end StrategyLab
