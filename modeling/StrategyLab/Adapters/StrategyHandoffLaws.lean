import StrategyLab.Adapters.StrategyHandoff
import StrategyLab.Lib.Raise

/-! What the handoff repository keeps true: sound packages, and decisions that match them. -/

namespace StrategyLab

open StrategyHandoffRepository StrategyHandoffService
open Raise (bind_eq_ok)

variable {digest : HandoffDigest}

/-- What holds of every stored package and of every decision on one. -/
structure HandoffSound (digest : HandoffDigest) (repository : StrategyHandoffRepository) : Prop where
  /-- A stored package passes its own checks. -/
  valid : ∀ {packageId package}, repository.packages.find? packageId = some package →
    package.validate = .ok ()
  /-- The checksum of a stored package is right. -/
  readable : ∀ {packageId package}, repository.packages.find? packageId = some package →
    digest.checksum package.payloadWithoutChecksum = package.checksum
  /-- A decision is about a stored package, which carries its checksum and its outcome. -/
  decided : ∀ {approvalId approval}, repository.approvals.find? approvalId = some approval →
    ∃ package, repository.packages.find? approval.packageId = some package ∧
      approval.packageChecksum = package.checksum ∧
      (approval.approved = true → package.status = .approvedForDeployment ∧
        approval.approvalId = s!"handoff-approval:{approval.packageId}") ∧
      (approval.approved = false → package.status = .rejected)
  /-- An approved package has a decision on it. -/
  approved : ∀ {packageId package}, repository.packages.find? packageId = some package →
    package.status = .approvedForDeployment →
      ∃ approvalId approval, repository.approvals.find? approvalId = some approval ∧
        approval.packageId = packageId

/-- An empty repository is sound. -/
theorem handoffSound_empty : HandoffSound digest StrategyHandoffRepository.empty where
  valid found := by simp [StrategyHandoffRepository.empty] at found
  readable found := by simp [StrategyHandoffRepository.empty] at found
  decided found := by simp [StrategyHandoffRepository.empty] at found
  approved found := by simp [StrategyHandoffRepository.empty] at found

variable {package : StrategyHandoffPackage} {repository : StrategyHandoffRepository}
  {packageId : String}

/-- A stored package with the right checksum is read back. -/
theorem getPackage_of_find? (found : repository.packages.find? packageId = some package)
    (right : digest.checksum package.payloadWithoutChecksum = package.checksum) :
    getPackage digest repository packageId = .ok package := by
  simp only [getPackage, getPackageOrNone, found, right, ne_eq, not_true_eq_false, if_false]
  rfl

/-- A package that is read back is stored, with the right checksum. -/
theorem find?_of_getPackage (read : getPackage digest repository packageId = .ok package) :
    repository.packages.find? packageId = some package ∧
      digest.checksum package.payloadWithoutChecksum = package.checksum := by
  obtain ⟨stored, readStored, rest⟩ := bind_eq_ok.mp read
  cases stored with
  | none => cases rest
  | some other =>
    obtain rfl : other = package := Except.ok.inj rest
    simp only [getPackageOrNone] at readStored
    split at readStored
    · cases readStored
    · split at readStored
      · cases readStored
      · rename_i found right
        cases readStored
        exact ⟨found, not_not.mp right⟩

/-- A package that is built records its champion and carries the checksum of its payload. -/
theorem buildHandoffPackage_ok {request : StrategyHandoffRequest} {active : ChampionRegistryEntry}
    {report : PaperRevalidationReport} {backtest : BacktestResult}
    (built : buildHandoffPackage digest request active report backtest = .ok package) :
    package.status = .pendingApproval ∧ package.validate = .ok () ∧
      digest.checksum package.payloadWithoutChecksum = package.checksum ∧
      package.manifest.championRegistryVersion = active.activeVersionId ∧
      package.manifest.championFingerprint = active.fingerprint := by
  obtain ⟨_, -, rest⟩ := bind_eq_ok.mp built
  obtain ⟨_, -, rest⟩ := bind_eq_ok.mp rest
  obtain ⟨_, -, rest⟩ := bind_eq_ok.mp rest
  obtain ⟨_, validated, rest⟩ := bind_eq_ok.mp rest
  cases rest
  -- Neither the payload nor the checks see the checksum that is filled in last.
  exact ⟨rfl, validated, rfl, rfl, rfl⟩

/-- A package passes its checks exactly when these four conditions hold. -/
theorem validate_eq_ok :
    package.validate = .ok () ↔
      package.packageId = package.manifest.packageId ∧
        (package.status = .approvedForDeployment →
          package.approvedBy.getD "" ≠ "" ∧ package.approvedAt.getD "" ≠ "") ∧
        (∀ time ∈ package.approvedAt, isoUtc time = true) ∧
        ∀ time ∈ package.rejectedAt, isoUtc time = true := by
  have timed (time : Option String) :
      time.forM validateUtc = .ok () ↔ ∀ t ∈ time, isoUtc t = true := by
    cases time with
    | none => simp [Option.forM, pure, Except.pure]
    | some t => simp [Option.forM, validateUtc]
  simp only [StrategyHandoffPackage.validate, bind_eq_ok, require_eq_ok, timed, exists_const,
    decide_eq_true_eq, Bool.or_eq_true, Bool.and_eq_true, imp_iff_not_or, ne_eq]

/-- The empty text is not a timestamp. -/
theorem ne_empty_of_isoUtc {time : String} (timed : isoUtc time = true) : time ≠ "" := by
  rintro rfl
  exact absurd timed (by decide)

variable {approval : StrategyDeploymentApproval}

/-- The checks of an approval that the stored package relies on. -/
theorem approval_validate (validated : approval.validate = .ok ()) :
    isoUtc approval.decidedAt = true ∧ approval.approverRef ≠ "" := by
  simp only [StrategyDeploymentApproval.validate, validateUtc, bind_eq_ok, require_eq_ok,
    decide_eq_true_eq] at validated
  obtain ⟨_, -, _, -, _, timed, named⟩ := validated
  exact ⟨timed, named⟩

/-- Approving a valid package that is not yet approved only sets its approval. -/
theorem withStatus_approved {actorRef time : String}
    (valid : package.validate = .ok ()) (named : actorRef ≠ "") (timed : isoUtc time = true)
    (pending : package.status ≠ .approvedForDeployment) :
    let approved := { package with
      status := .approvedForDeployment, approvedBy := some actorRef, approvedAt := some time }
    package.withStatus .approvedForDeployment actorRef time = .ok approved ∧
      approved.validate = .ok () := by
  obtain ⟨ids, -, -, rejectedAt⟩ := validate_eq_ok.mp valid
  have checked : ({ package with
      status := .approvedForDeployment, approvedBy := some actorRef,
      approvedAt := some time } : StrategyHandoffPackage).validate = .ok () :=
    validate_eq_ok.mpr ⟨ids, fun _ => ⟨named, ne_empty_of_isoUtc timed⟩, by simpa using timed,
      rejectedAt⟩
  refine ⟨?_, checked⟩
  have allowed : (decide (package.status ≠ .approvedForDeployment) ||
      decide (StrategyHandoffStatus.approvedForDeployment = package.status)) = true := by
    simp [pending]
  simp only [StrategyHandoffPackage.withStatus, require, allowed, if_true]
  exact bind_eq_ok.mpr ⟨(), rfl, bind_eq_ok.mpr ⟨(), checked, rfl⟩⟩

/-- Rejecting a valid package that is not approved only sets its rejection. -/
theorem withStatus_rejected (actorRef : String) {time : String}
    (valid : package.validate = .ok ()) (timed : isoUtc time = true)
    (pending : package.status ≠ .approvedForDeployment) :
    let rejected := { package with
      status := .rejected, rejectedBy := some actorRef, rejectedAt := some time }
    package.withStatus .rejected actorRef time = .ok rejected ∧ rejected.validate = .ok () := by
  obtain ⟨ids, -, approvedAt, -⟩ := validate_eq_ok.mp valid
  have checked : ({ package with
      status := .rejected, rejectedBy := some actorRef,
      rejectedAt := some time } : StrategyHandoffPackage).validate = .ok () :=
    validate_eq_ok.mpr ⟨ids, fun approved => by simp at approved, approvedAt, by simpa using timed⟩
  refine ⟨?_, checked⟩
  have allowed : (decide (package.status ≠ .approvedForDeployment) ||
      decide (StrategyHandoffStatus.rejected = package.status)) = true := by
    simp [pending]
  simp only [StrategyHandoffPackage.withStatus, require, allowed, if_true]
  exact bind_eq_ok.mpr ⟨(), rfl, bind_eq_ok.mpr ⟨(), checked, rfl⟩⟩

/-- A decision changes one pending package and records itself, and changes nothing else. -/
structure Decides (repository next : StrategyHandoffRepository)
    (package decided : StrategyHandoffPackage) (approval : StrategyDeploymentApproval) : Prop where
  found : repository.packages.find? approval.packageId = some package
  pending : package.status ≠ .approvedForDeployment
  fresh : repository.approvals.find? approval.approvalId = none
  packageChecksum : approval.packageChecksum = package.checksum
  valid : decided.validate = .ok ()
  payload : decided.payloadWithoutChecksum = package.payloadWithoutChecksum
  manifest : decided.manifest = package.manifest
  whenApproved : approval.approved = true → package.status ≠ .rejected ∧
    decided.status = .approvedForDeployment ∧
    approval.approvalId = s!"handoff-approval:{approval.packageId}"
  whenRejected : approval.approved = false → decided.status = .rejected
  packages : ∀ packageId, next.packages.find? packageId =
    if packageId = approval.packageId then some decided else repository.packages.find? packageId
  approvals : ∀ approvalId, next.approvals.find? approvalId =
    if approvalId = approval.approvalId then some approval
    else repository.approvals.find? approvalId

/-- Committing a decision either is refused at once or changes just what it decides. -/
theorem commit_decision (decided : StrategyHandoffPackage) (sound : HandoffSound digest repository)
    (found : repository.packages.find? approval.packageId = some package)
    (pending : package.status ≠ .approvedForDeployment)
    (same : decided.packageId = package.packageId)
    (packageChecksum : approval.packageChecksum = package.checksum)
    (valid : decided.validate = .ok ())
    (payload : decided.payloadWithoutChecksum = package.payloadWithoutChecksum)
    (manifest : decided.manifest = package.manifest)
    (whenApproved : approval.approved = true → package.status ≠ .rejected ∧
      decided.status = .approvedForDeployment ∧
      approval.approvalId = s!"handoff-approval:{approval.packageId}")
    (whenRejected : approval.approved = false → decided.status = .rejected) :
    let next := (Commits.commit (write digest) repository
      [.addApproval approval, .updatePackage decided]).2
    next = repository ∨ Decides repository next package decided approval := by
  have named := Table.key_of_find? found
  cases built : repository.approvals.insert? approval with
  | none =>
    have refused : write digest repository (.addApproval approval) =
        .error (.integrityError "UNIQUE constraint failed") := by simp only [write, built]
    rw [Commits.commit_cons_error refused]
    exact Or.inl rfl
  | some grown =>
    have added : write digest repository (.addApproval approval) =
        .ok { repository with approvals := grown } := by simp only [write, built]
    -- The package read back for the update is the pending one, so the update goes through.
    have read : getPackage digest { repository with approvals := grown } decided.packageId =
        .ok package :=
      getPackage_of_find? (by rw [same, named]; exact found) (sound.readable found)
    have updated : write digest { repository with approvals := grown } (.updatePackage decided) =
        .ok { approvals := grown,
              packages := repository.packages.update (·.packageId = decided.packageId)
                (fun row => { decided with packageId := row.packageId }) (fun _ => rfl) } := by
      simp only [write, read, bind, Except.bind, pending, false_and, if_false]
      rfl
    rw [Commits.commit_cons_ok added, Commits.commit_cons_ok updated, Commits.commit_nil]
    refine Or.inr ⟨found, pending, (Table.insert?_eq_some_iff.mp built).1, packageChecksum, valid,
      payload, manifest, whenApproved, whenRejected, fun packageId => ?_,
      Table.find?_insert? built⟩
    rw [Table.find?_update]
    by_cases hit : packageId = approval.packageId
    · rw [if_pos hit, hit, found, Option.map_some, same]
      simp [← same]
    · rw [if_neg hit]
      cases other : repository.packages.find? packageId with
      | none => rfl
      | some row =>
        have away : row.packageId ≠ decided.packageId := by
          rw [Table.key_of_find? other, same, named]
          exact hit
        simp [away]

/-- Approving again is refused at the first write, since the approval is already recorded. -/
theorem approval_refused {rest : List HandoffWrite} (sound : HandoffSound digest repository)
    (found : repository.packages.find? packageId = some package)
    (approved : package.status = .approvedForDeployment)
    (named : approval.approvalId = s!"handoff-approval:{packageId}") :
    (Commits.commit (write digest) repository (.addApproval approval :: rest)).2 = repository := by
  obtain ⟨approvalId, old, oldFound, about⟩ := sound.approved found approved
  obtain ⟨same, sameFound, -, whenApproved, whenRejected⟩ := sound.decided oldFound
  rw [about, found] at sameFound
  obtain rfl := Option.some.inj sameFound
  -- The decision on an approved package is an approval, stored under the same id.
  have taken : repository.approvals.find? approval.approvalId = some old := by
    cases outcome : old.approved with
    | false => simp [whenRejected outcome] at approved
    | true =>
      rw [named, ← about, ← (whenApproved outcome).2, Table.key_of_find? oldFound]
      exact oldFound
  have refused : write digest repository (.addApproval approval) =
      .error (.integrityError "UNIQUE constraint failed") := by
    simp only [write, Table.insert?_eq_none_iff.mpr ⟨old, taken⟩]
  rw [Commits.commit_cons_error refused]

/-- An approval leaves the repository alone or decides on one pending package. -/
theorem approve_step
    (packageId approverRef decidedAt reason : String) (sound : HandoffSound digest repository) :
    let next := (Commits.perform (write digest) repository
      (approve digest repository packageId approverRef decidedAt reason)).2
    next = repository ∨ ∃ package decided approval,
      Decides repository next package decided approval := by
  simp only [Commits.perform_snd, approve]
  cases read : getPackage digest repository packageId with
  | error raised => exact Or.inl rfl
  | ok package =>
    obtain ⟨found, -⟩ := find?_of_getPackage read
    rw [Commits.read_ok_bind]
    by_cases rejected : package.status = .rejected
    · rw [if_pos rejected]
      exact Or.inl rfl
    · rw [if_neg rejected]
      let approval : StrategyDeploymentApproval :=
        { approvalId := s!"handoff-approval:{packageId}", packageId,
          packageChecksum := package.checksum, approverRef, approved := true, decidedAt, reason }
      cases checked : approval.validate with
      | error raised =>
        rw [Commits.read_error_bind]
        exact Or.inl rfl
      | ok _ =>
        rw [Commits.read_ok_bind, Commits.write_bind_writes]
        by_cases approved : package.status = .approvedForDeployment
        · exact Or.inl (approval_refused sound found approved rfl)
        · obtain ⟨timed, named⟩ := approval_validate checked
          obtain ⟨changed, valid⟩ := withStatus_approved (sound.valid found) named timed approved
          rw [changed, Commits.read_ok_bind, Commits.write_bind_writes, Commits.pure_writes]
          have located : repository.packages.find? approval.packageId = some package := found
          let decided : StrategyHandoffPackage := { package with
            status := .approvedForDeployment, approvedBy := some approverRef,
            approvedAt := some decidedAt }
          exact (commit_decision decided sound located approved rfl rfl valid rfl rfl
            (fun _ => ⟨rejected, rfl, rfl⟩) nofun).imp_right fun decides =>
              ⟨package, decided, approval, decides⟩

/-- A rejection leaves the repository alone or decides on one pending package. -/
theorem reject_step
    (packageId actorRef decidedAt reason : String) (sound : HandoffSound digest repository) :
    let next := (Commits.perform (write digest) repository
      (reject digest repository packageId actorRef decidedAt reason)).2
    next = repository ∨ ∃ package decided approval,
      Decides repository next package decided approval := by
  simp only [Commits.perform_snd, reject]
  cases read : getPackage digest repository packageId with
  | error raised => exact Or.inl rfl
  | ok package =>
    obtain ⟨found, -⟩ := find?_of_getPackage read
    rw [Commits.read_ok_bind]
    by_cases approved : package.status = .approvedForDeployment
    · rw [if_pos approved]
      exact Or.inl rfl
    · rw [if_neg approved]
      let approval : StrategyDeploymentApproval :=
        { approvalId := s!"handoff-rejection:{packageId}", packageId,
          packageChecksum := package.checksum, approverRef := actorRef, approved := false,
          decidedAt, reason }
      cases checked : approval.validate with
      | error raised =>
        rw [Commits.read_error_bind]
        exact Or.inl rfl
      | ok _ =>
        obtain ⟨timed, -⟩ := approval_validate checked
        obtain ⟨changed, valid⟩ := withStatus_rejected actorRef (sound.valid found)
          timed approved
        rw [Commits.read_ok_bind, Commits.write_bind_writes, changed, Commits.read_ok_bind,
          Commits.write_bind_writes, Commits.pure_writes]
        have located : repository.packages.find? approval.packageId = some package := found
        let decided : StrategyHandoffPackage := { package with
          status := .rejected, rejectedBy := some actorRef, rejectedAt := some decidedAt }
        exact (commit_decision decided sound located approved rfl rfl valid rfl rfl nofun
          fun _ => rfl).imp_right fun decides => ⟨package, decided, approval, decides⟩

/-- Creation leaves the repository alone or adds one pending package of an active champion. -/
theorem create_step (digest : HandoffDigest) (repository : StrategyHandoffRepository)
    (champions : ChampionRegistryRepository) (revalidations : RevalidationReports)
    (backtests : BacktestResults) (request : StrategyHandoffRequest) :
    let next := (Commits.perform (write digest) repository
      (create digest champions revalidations backtests request)).2
    next = repository ∨ ∃ package active, champions.getActive request.championSlot = some active ∧
      package.status = .pendingApproval ∧ package.validate = .ok () ∧
      digest.checksum package.payloadWithoutChecksum = package.checksum ∧
      package.manifest.championRegistryVersion = active.activeVersionId ∧
      package.manifest.championFingerprint = active.fingerprint ∧
      repository.packages.insert? package = some next.packages ∧
      next.approvals = repository.approvals := by
  simp only [Commits.perform_snd, create]
  cases current : champions.getActive request.championSlot with
  | none => exact Or.inl rfl
  | some active =>
    dsimp only
    cases revalidations.find? request.revalidationId with
    | none => exact Or.inl rfl
    | some report =>
      dsimp only
      split
      · exact Or.inl rfl
      split
      · exact Or.inl rfl
      cases backtests.find? active.sourceBacktestId with
      | none => exact Or.inl rfl
      | some backtest =>
        dsimp only
        split
        · exact Or.inl rfl
        cases built : buildHandoffPackage digest request active report backtest with
        | error raised => exact Or.inl rfl
        | ok package =>
          rw [Commits.read_ok_bind, Commits.write_bind_writes, Commits.pure_writes]
          obtain ⟨status, valid, readable, version, fingerprint⟩ := buildHandoffPackage_ok built
          cases written : write digest repository (.addPackage package) with
          | error refused =>
            rw [Commits.commit_cons_error written]
            exact Or.inl rfl
          | ok next =>
            rw [Commits.commit_cons_ok written, Commits.commit_nil]
            right
            refine ⟨package, active, rfl, status, valid, readable, version, fingerprint, ?_⟩
            -- A package is only added when none is stored under its id.
            obtain ⟨existing, -, rest⟩ := bind_eq_ok.mp written
            cases existing with
            | some existing =>
              dsimp only at rest
              split at rest <;> cases rest
            | none =>
              dsimp only at rest
              split at rest
              · rename_i grown inserted
                cases rest
                exact ⟨inserted, rfl⟩
              · cases rest

/-- A decision keeps the repository sound. -/
theorem Decides.sound {repository next : StrategyHandoffRepository}
    {package decided : StrategyHandoffPackage}
    (decides : Decides repository next package decided approval)
    (sound : HandoffSound digest repository) : HandoffSound digest next where
  valid {packageId stored} found := by
    rw [decides.packages] at found
    split at found
    · cases found
      exact decides.valid
    · exact sound.valid found
  readable {packageId stored} found := by
    rw [decides.packages] at found
    split at found
    · cases found
      rw [decides.payload, StrategyHandoffPackage.checksum, decides.manifest]
      exact sound.readable decides.found
    · exact sound.readable found
  decided {approvalId recorded} found := by
    rw [decides.approvals] at found
    split at found
    · cases found
      refine ⟨decided, by rw [decides.packages, if_pos rfl], ?_, ?_, decides.whenRejected⟩
      · rw [decides.packageChecksum, StrategyHandoffPackage.checksum,
          StrategyHandoffPackage.checksum, decides.manifest]
      · exact fun approved => (decides.whenApproved approved).2
    · obtain ⟨stored, located, printed, whenApproved, whenRejected⟩ := sound.decided found
      by_cases same : recorded.packageId = approval.packageId
      · -- An earlier decision on this package can only be a rejection, and so is the new one.
        rw [same, decides.found] at located
        obtain rfl := Option.some.inj located
        refine ⟨decided, by rw [decides.packages, if_pos same], ?_, ?_, ?_⟩
        · rw [printed, StrategyHandoffPackage.checksum, StrategyHandoffPackage.checksum,
            decides.manifest]
        · exact fun approved => absurd (whenApproved approved).1 decides.pending
        · intro rejected
          cases outcome : approval.approved with
          | false => exact decides.whenRejected outcome
          | true => exact absurd (whenRejected rejected) (decides.whenApproved outcome).1
      · exact ⟨stored, by rw [decides.packages, if_neg same]; exact located, printed,
          whenApproved, whenRejected⟩
  approved {packageId stored} found status := by
    rw [decides.packages] at found
    split at found
    · rename_i same
      exact ⟨approval.approvalId, approval, by rw [decides.approvals, if_pos rfl], same.symm⟩
    · obtain ⟨approvalId, recorded, located, about⟩ := sound.approved found status
      refine ⟨approvalId, recorded, ?_, about⟩
      rw [decides.approvals, if_neg]
      · exact located
      · rintro rfl
        simp [decides.fresh] at located

/-- Adding a pending package keeps the repository sound. -/
theorem HandoffSound.insert {repository next : StrategyHandoffRepository}
    (sound : HandoffSound digest repository)
    (pending : package.status = .pendingApproval) (valid : package.validate = .ok ())
    (readable : digest.checksum package.payloadWithoutChecksum = package.checksum)
    (built : repository.packages.insert? package = some next.packages)
    (approvals : next.approvals = repository.approvals) : HandoffSound digest next where
  valid {packageId stored} found := by
    rw [Table.find?_insert? built] at found
    split at found
    · cases found
      exact valid
    · exact sound.valid found
  readable {packageId stored} found := by
    rw [Table.find?_insert? built] at found
    split at found
    · cases found
      exact readable
    · exact sound.readable found
  decided {approvalId recorded} found := by
    rw [approvals] at found
    obtain ⟨stored, located, rest⟩ := sound.decided found
    exact ⟨stored, Table.find?_insert?_of_found built located, rest⟩
  approved {packageId stored} found status := by
    rw [Table.find?_insert? built] at found
    rw [approvals]
    split at found
    · cases found
      rw [pending] at status
      cases status
    · exact sound.approved found status

/-- An approved package has a latest approval, and it was given for this very checksum. -/
theorem latestApproval_of_approved (sound : HandoffSound digest repository)
    (found : repository.packages.find? packageId = some package)
    (approved : package.status = .approvedForDeployment) :
    ∃ approval, latestApproval repository packageId = some approval ∧
      approval.approved = true ∧ approval.packageChecksum = package.checksum := by
  obtain ⟨approvalId, recorded, recordedFound, about⟩ := sound.approved found approved
  have sorted := List.perm_insertionSort DecidedAfter
    (repository.approvals.rows.filter (·.packageId = packageId))
  have listed : recorded ∈ (repository.approvals.rows.filter
      (·.packageId = packageId)).insertionSort DecidedAfter := by
    rw [sorted.mem_iff]
    simp [(Table.find?_eq_some_iff.mp recordedFound).1, about]
  -- Whichever decision is the latest, it is about this package and agrees with its status.
  cases latest : latestApproval repository packageId with
  | none =>
    rw [latestApproval, List.head?_eq_none_iff] at latest
    rw [latest] at listed
    cases listed
  | some approval =>
    have member := sorted.mem_iff.mp (List.mem_of_head? latest)
    simp only [List.mem_filter, decide_eq_true_eq] at member
    obtain ⟨stored, located, printed, -, whenRejected⟩ :=
      sound.decided (Table.find?_of_mem member.1)
    rw [member.2, found] at located
    obtain rfl := Option.some.inj located
    refine ⟨approval, rfl, ?_, printed⟩
    cases outcome : approval.approved with
    | true => rfl
    | false => simp [whenRejected outcome] at approved

end StrategyLab
