import StrategyLab.Runtime.PromotionSoundness

/-! Verdicts on candidates, and the messages that take them back. -/

variable {sha : Json → String} {before after : Portfolio}

namespace StrategyLab

/-- Whether a verdict is taken back when research goes on with its candidate; one for losing money
is given again. -/
def StrategyCandidateRecord.Reversible (candidate : StrategyCandidateRecord) : Prop :=
  candidate.status = .promotionReady ∨
    candidate.status = .rejected ∧
      ¬Py.startswith (textOr candidate.rejectedReason "") "economic_viability_failed"

instance (candidate : StrategyCandidateRecord) : Decidable candidate.Reversible :=
  inferInstanceAs (Decidable (_ ∨ _ ∧ ¬_))

variable {candidate : StrategyCandidateRecord}

/-- A candidate that was rejected or given up is rotated out again. -/
theorem planned_of_ended (ended : candidate.status = .rejected ∨ candidate.status = .stagnant) :
    nextBlockerDrivenResearchAction candidate =
      (.rotateCandidate, textOr candidate.rejectedReason "candidate_terminal") := by
  have open' : candidate.status ≠ .promotionReady := by
    rcases ended with status | status <;> simp [status]
  simp only [nextBlockerDrivenResearchAction, if_neg open', if_pos ended]

/-- A candidate that is not rotated out is open, unless it is ready for its promotion. -/
theorem isOpen_of_planned
    (planned : (nextBlockerDrivenResearchAction candidate).1 ≠ .rotateCandidate)
    (ready : candidate.status ≠ .promotionReady) : candidate.IsOpen := by
  refine StrategyCandidateRecord.isOpen_of_ne ready ?_ ?_
  · intro rejected
    exact planned (by rw [planned_of_ended (.inl rejected)])
  · intro stagnant
    exact planned (by rw [planned_of_ended (.inr stagnant)])

/-- A candidate that lost money is rejected again when it is rotated out. -/
theorem rotatedCandidate_rejected (now : String)
    (rejected : candidate.status = .rejected) (fixed : ¬candidate.Reversible) :
    (rotatedCandidate candidate (some (nextBlockerDrivenResearchAction candidate).2) now).status =
      .rejected := by
  have losing : Py.startswith (textOr candidate.rejectedReason "") "economic_viability_failed" := by
    by_contra other
    exact fixed (.inr ⟨rejected, other⟩)
  -- The reason was given, so it is the one that the planner repeats.
  obtain ⟨reason, given, filled⟩ : ∃ reason, candidate.rejectedReason = some reason ∧
      reason ≠ "" := by
    cases given : candidate.rejectedReason with
    | none =>
      rw [given] at losing
      exact absurd losing (by decide)
    | some reason =>
      refine ⟨reason, rfl, ?_⟩
      rintro rfl
      rw [given] at losing
      exact absurd losing (by decide)
  have repeated : ∀ default, textOr candidate.rejectedReason default = reason := by
    intro default
    simp [given, textOr, filled]
  have told : someText (some reason) = some reason := by simp [someText, filled]
  rw [repeated] at losing
  simp only [planned_of_ended (.inl rejected), rotatedCandidate, repeated, told, if_pos losing]
  rfl

/-- A candidate that is rotated out is rejected or given up. -/
theorem rotatedCandidate_ended (candidate : StrategyCandidateRecord) (reason : Option String)
    (now : String) : (rotatedCandidate candidate reason now).status = .rejected ∨
      (rotatedCandidate candidate reason now).status = .stagnant := by
  unfold rotatedCandidate
  split
  · exact .inr rfl
  · split
    · exact .inl rfl
    · exact .inr rfl

/-- A breadth cycle leaves an open candidate open. -/
theorem breadthUpdated_isOpen (output : MultiSymbolOutput)
    (now : String) (isOpen : candidate.IsOpen) :
    (breadthUpdated candidate output now).IsOpen := by
  have status : (breadthUpdated candidate output now).status =
      if candidate.status = .exploring then .validating else candidate.status := rfl
  rcases isOpen with exploring | validating | robustness
  · exact .inr (.inl (by rw [status, if_pos exploring]))
  · exact .inr (.inl (by rw [status, if_neg (by simp [validating]), validating]))
  · exact .inr (.inr (by rw [status, if_neg (by simp [robustness]), robustness]))

/-- A robustness cycle leaves an open candidate open until its verdict is given. -/
theorem validated_isOpen (sha : Json → String)
    (action : ResearchAction) (symbol : String) (payload : LearningPayload) (now : String)
    (isOpen : candidate.IsOpen) : (validated sha candidate action symbol payload now).IsOpen := by
  have status : (validated sha candidate action symbol payload now).status =
      if (robustnessReport sha candidate action symbol payload now).terminal then candidate.status
      else .robustness := rfl
  by_cases terminal : (robustnessReport sha candidate action symbol payload now).terminal
  · rw [if_pos terminal] at status
    rcases isOpen with exploring | validating | robustness
    · exact .inl (status.trans exploring)
    · exact .inr (.inl (status.trans validating))
    · exact .inr (.inr (status.trans robustness))
  · exact .inr (.inr (by rw [status, if_neg terminal]))

namespace Portfolio

/-- The active candidate, if there is one, is an open one. -/
def ActiveOpen (portfolio : Portfolio) : Prop :=
  ∀ active, portfolio.active = some active →
    ∃ record ∈ portfolio.records, record.candidateId = active ∧ record.IsOpen

/-- The strategies that are ready are those of the candidates that are, each of them once. -/
structure Announced (portfolio : Portfolio) : Prop where
  once : (portfolio.ready.map (·.strategyFingerprint)).Nodup
  those : ∀ fingerprint, fingerprint ∈ portfolio.ready.map (·.strategyFingerprint) ↔
    ∃ record ∈ portfolio.records, record.status = .promotionReady ∧
      record.strategyFingerprint = fingerprint

/-- Every verdict of one portfolio is one of another portfolio. -/
def VerdictsKept (before after : Portfolio) : Prop :=
  ∀ record ∈ before.records, record.HasVerdict →
    ∃ same ∈ after.records, same.candidateId = record.candidateId ∧ same.status = record.status

namespace VerdictsKept

/-- A portfolio keeps its own verdicts. -/
theorem refl (portfolio : Portfolio) : VerdictsKept portfolio portfolio :=
  fun record member _ => ⟨record, member, rfl, rfl⟩

/-- What is kept once and then again is kept. -/
theorem trans {first second third : Portfolio} (left : VerdictsKept first second)
    (right : VerdictsKept second third) : VerdictsKept first third := by
  intro record member verdict
  obtain ⟨middle, inside, named, status⟩ := left record member verdict
  have still : middle.HasVerdict := by
    rw [StrategyCandidateRecord.HasVerdict, status]
    exact verdict
  obtain ⟨last, there, again, same⟩ := right middle inside still
  exact ⟨last, there, again.trans named, same.trans status⟩

end VerdictsKept

variable {sha : Json → String} {portfolio : Portfolio} {before after : StrategyCandidateRecord}

/-- A new record of a candidate keeps the verdicts, if it keeps the candidate's own one. -/
theorem verdictsKept_put (known : before ∈ portfolio.records)
    (same : after.candidateId = before.candidateId)
    (kept : before.HasVerdict → after.status = before.status)
    (formed : portfolio.WellFormed sha) : VerdictsKept portfolio (portfolio.put after) := by
  intro record member verdict
  by_cases named : record.candidateId = before.candidateId
  · obtain rfl := formed.eq_of_candidateId_eq member known named
    exact ⟨after.reloaded, (mem_put_iff known same).mpr (.inl rfl), same, kept verdict⟩
  · exact ⟨record, (mem_put_iff known same).mpr (.inr ⟨member, named⟩), rfl, rfl⟩

/-- Announcements stand when a candidate is as ready as it was. -/
theorem Announced.put (announced : portfolio.Announced) (known : before ∈ portfolio.records)
    (same : before.SameIdentity after)
    (ready : after.status = .promotionReady ↔ before.status = .promotionReady)
    (formed : portfolio.WellFormed sha) : (portfolio.put after).Announced where
  once := announced.once
  those := by
    intro fingerprint
    rw [put_ready, announced.those]
    constructor
    · rintro ⟨record, member, status, rfl⟩
      by_cases named : record.candidateId = before.candidateId
      · obtain rfl := formed.eq_of_candidateId_eq member known named
        exact ⟨after.reloaded, (mem_put_iff known same.candidateId).mpr (.inl rfl),
          ready.mpr status, same.fingerprint⟩
      · exact ⟨record, (mem_put_iff known same.candidateId).mpr (.inr ⟨member, named⟩), status, rfl⟩
    · rintro ⟨record, member, status, rfl⟩
      rcases (mem_put_iff known same.candidateId).mp member with rfl | ⟨inside, -⟩
      · exact ⟨before, known, ready.mp status, same.fingerprint.symm⟩
      · exact ⟨record, inside, status, rfl⟩

/-- Another active candidate keeps the announcements. -/
theorem Announced.focus (announced : portfolio.Announced) (active : Option String) :
    (portfolio.focus active).Announced :=
  ⟨announced.once, announced.those⟩

section Digests

variable (digests : StrategyFamilies.DistinctDigests sha)

include digests

/-- A candidate is known by the fingerprint of its rules. -/
theorem WellFormed.eq_of_fingerprint_eq (formed : portfolio.WellFormed sha)
    (left : before ∈ portfolio.records) (right : after ∈ portfolio.records)
    (same : before.strategyFingerprint = after.strategyFingerprint) : before = after := by
  obtain ⟨first, listed, made⟩ := formed.made before left
  obtain ⟨second, other, built⟩ := formed.made after right
  rw [made.fingerprint, built.fingerprint] at same
  obtain rfl := List.inj_on_of_nodup_map digests.distinct listed other same
  exact formed.eq_of_family_eq left right (made.family.trans built.family.symm)

/-- The fingerprint of a candidate is a text that `strip` leaves as it is. -/
theorem WellFormed.strip_fingerprint (formed : portfolio.WellFormed sha)
    (known : before ∈ portfolio.records) :
    Py.strip before.strategyFingerprint = before.strategyFingerprint ∧
      before.strategyFingerprint ≠ "" := by
  obtain ⟨template, listed, made⟩ := formed.made before known
  rw [made.fingerprint]
  exact ⟨digests.unpadded template listed, digests.nonempty template listed⟩

/-- A candidate that becomes ready is announced, and nothing else is. -/
theorem Announced.promoted (announced : portfolio.Announced) (formed : portfolio.WellFormed sha)
    (known : before ∈ portfolio.records) (same : before.SameIdentity after) (now : String)
    (unready : before.status ≠ .promotionReady) (ready : after.status = .promotionReady) :
    (((portfolio.announce before now).focus none).put after).Announced := by
  obtain ⟨stripped, filled⟩ := formed.strip_fingerprint digests known
  have fresh : before.strategyFingerprint ∉ portfolio.ready.map (·.strategyFingerprint) := by
    rw [announced.those]
    rintro ⟨record, member, status, agree⟩
    rw [formed.eq_of_fingerprint_eq digests member known agree] at status
    exact unready status
  have extended : (((portfolio.announce before now).focus none).put after).ready.map
      (·.strategyFingerprint) =
        portfolio.ready.map (·.strategyFingerprint) ++ [before.strategyFingerprint] := by
    simp only [put_ready, focus_ready, announce, stripped, if_neg (not_or.mpr ⟨filled, fresh⟩),
      List.map_append, List.map_cons, List.map_nil]
  have inside : before ∈ ((portfolio.announce before now).focus none).records := by
    simpa using known
  refine ⟨?_, fun fingerprint => ?_⟩
  · rw [extended]
    refine List.nodup_append.mpr ⟨announced.once, List.nodup_singleton _, ?_⟩
    intro old there new only agree
    rw [List.mem_singleton.mp only] at agree
    exact fresh (agree ▸ there)
  · rw [extended, List.mem_append, List.mem_singleton, announced.those]
    constructor
    · rintro (⟨record, member, status, rfl⟩ | rfl)
      · -- A candidate that was ready is another one.
        have other : record.candidateId ≠ before.candidateId := by
          intro named
          rw [formed.eq_of_candidateId_eq member known named] at status
          exact unready status
        exact ⟨record, (mem_put_iff inside same.candidateId).mpr (.inr ⟨by simpa using member,
          other⟩), status, rfl⟩
      · exact ⟨after.reloaded, (mem_put_iff inside same.candidateId).mpr (.inl rfl), ready,
          same.fingerprint⟩
    · rintro ⟨record, member, status, rfl⟩
      rcases (mem_put_iff inside same.candidateId).mp member with rfl | ⟨old, -⟩
      · exact .inr same.fingerprint
      · exact .inl ⟨record, by simpa using old, status, rfl⟩

/-- What was announced is read back. -/
theorem Announced.reloaded (announced : portfolio.Announced)
    (formed : portfolio.WellFormed sha) : portfolio.reloaded.Announced := by
  have all : portfolio.reloaded.ready = portfolio.ready := by
    refine List.filter_eq_self.mpr fun strategy member => decide_eq_true ?_
    obtain ⟨record, inside, -, same⟩ :=
      (announced.those _).mp (List.mem_map_of_mem (f := (·.strategyFingerprint)) member)
    rw [← same, (formed.strip_fingerprint digests inside).1]
    exact (formed.strip_fingerprint digests inside).2
  refine ⟨?_, fun fingerprint => ?_⟩
  · rw [all]
    exact announced.once
  · rw [all]
    exact announced.those fingerprint

/-- There are as many distinct strategies ready as there are candidates that are. -/
theorem Announced.count (announced : portfolio.Announced) (formed : portfolio.WellFormed sha) :
    distinctFingerprints portfolio.ready =
      portfolio.records.countP (·.status = .promotionReady) := by
  have named : (portfolio.ready.map (·.strategyFingerprint)).filter (· ≠ "") =
      portfolio.ready.map (·.strategyFingerprint) := by
    refine List.filter_eq_self.mpr fun fingerprint member => decide_eq_true ?_
    obtain ⟨record, inside, -, same⟩ := (announced.those _).mp member
    rw [← same]
    exact (formed.strip_fingerprint digests inside).2
  let ready := portfolio.records.filter (·.status = .promotionReady)
  have distinct : (ready.map (·.strategyFingerprint)).Nodup := by
    have records : ready.Nodup := (formed.families.of_map _).filter _
    refine (List.nodup_map_iff_inj_on records).mpr fun first left second right same => ?_
    exact formed.eq_of_fingerprint_eq digests (List.mem_of_mem_filter left)
      (List.mem_of_mem_filter right) same
  -- Both sides list the same fingerprints, each of them once.
  have same : (portfolio.ready.map (·.strategyFingerprint)).Perm
      (ready.map (·.strategyFingerprint)) := by
    refine (List.perm_ext_iff_of_nodup announced.once distinct).mpr fun fingerprint => ?_
    rw [announced.those, List.mem_map]
    simp only [ready, List.mem_filter, decide_eq_true_eq, and_assoc]
  rw [distinctFingerprints, named, Py.fromkeys_eq_self announced.once, same.length_eq,
    List.length_map, List.countP_eq_length_filter]

end Digests

end Portfolio

open Portfolio

/-- What clearing a portfolio does to one of its records: one without a verdict is left without. -/
theorem ClearingStep.change (step : ClearingStep before after) (formed : before.WellFormed sha)
    (activeOpen : before.ActiveOpen) :
    ∃ candidate ∈ before.records, ∃ changed active, after = (before.put changed).focus active ∧
      candidate.SameIdentity changed ∧ ¬candidate.HasVerdict ∧ ¬changed.HasVerdict ∧
      (active = none ∨ active = some changed.candidateId ∧ changed.IsOpen) := by
  cases step with
  | @reopened candidate now known given =>
    have stagnant : candidate.status = .stagnant := by
      simp only [recoverable, Bool.and_eq_true, decide_eq_true_eq] at given
      exact given.1
    refine ⟨candidate, known, StrategyLab.reopened candidate now, some candidate.candidateId, rfl,
      ⟨rfl, rfl, rfl, rfl⟩, ?_, ?_, .inr ⟨rfl, .inr (.inl rfl)⟩⟩
    · simp [StrategyCandidateRecord.HasVerdict, stagnant]
    · simp [StrategyCandidateRecord.HasVerdict, StrategyLab.reopened]
  | @givenUp candidate reason now known active asked =>
    obtain ⟨record, member, named, isOpen⟩ := activeOpen _ active
    obtain rfl := formed.eq_of_candidateId_eq member known named
    refine ⟨record, known, markStagnant record reason now, none, rfl, ⟨rfl, rfl, rfl, rfl⟩,
      fun verdict => verdict.not_isOpen isOpen, ?_, .inl rfl⟩
    simp [StrategyCandidateRecord.HasVerdict, markStagnant]

/-- Clearing a portfolio keeps the active candidate open, and takes back and gives no verdict. -/
theorem Cleared.verdicts (steps : Cleared before after) (formed : before.WellFormed sha)
    (activeOpen : before.ActiveOpen) :
    after.ActiveOpen ∧ VerdictsKept before after ∧
      (∀ record ∈ after.records, record.HasVerdict → record ∈ before.records) ∧
      (before.Announced → after.Announced) := by
  induction steps with
  | refl => exact ⟨activeOpen, .refl _, fun _ member _ => member, fun announced => announced⟩
  | @tail middle last earlier step ih =>
    obtain ⟨stillOpen, kept, old, announced⟩ := ih
    have middleFormed := (Cleared.formed earlier formed).1
    obtain ⟨candidate, known, changed, active, rfl, same, unjudged, without, released⟩ :=
      step.change middleFormed stillOpen
    refine ⟨?_, ?_, ?_, ?_⟩
    · intro other named
      rcases released with none | ⟨one, isOpen⟩
      · cases none.symm.trans named
      · have agree : changed.candidateId = other := Option.some.inj (one.symm.trans named)
        exact ⟨changed.reloaded, (mem_put_iff known same.candidateId).mpr (.inl rfl), agree, isOpen⟩
    · exact kept.trans (verdictsKept_put known same.candidateId (fun judged =>
        absurd judged unjudged) middleFormed)
    · intro record member verdict
      rcases (mem_put_iff known same.candidateId).mp member with rfl | ⟨inside, -⟩
      · exact absurd verdict without
      · exact old record inside verdict
    · intro start
      refine ((announced start).put known same ?_ middleFormed).focus _
      exact ⟨fun ready => absurd (.inl ready) without, fun ready => absurd (.inl ready) unjudged⟩

/-- What the cycle of a turn makes of a candidate whose verdict, if any, is not taken back. -/
inductive CycleOutcome (before : Portfolio) (candidate : StrategyCandidateRecord) (now : String) :
    Portfolio → Prop where
  | untouched (isOpen : candidate.IsOpen) : CycleOutcome before candidate now before
  | continued {changed : StrategyCandidateRecord} (same : candidate.SameIdentity changed)
      (isOpen : candidate.IsOpen) (still : changed.IsOpen) :
      CycleOutcome before candidate now (before.put changed)
  | released {changed : StrategyCandidateRecord} (same : candidate.SameIdentity changed)
      (unready : candidate.status ≠ .promotionReady) (ended : changed.status ≠ .promotionReady)
      (kept : candidate.HasVerdict → changed.status = candidate.status) :
      CycleOutcome before candidate now ((before.put changed).focus none)
  | promoted {changed : StrategyCandidateRecord} (same : candidate.SameIdentity changed)
      (isOpen : candidate.IsOpen) (ready : changed.status = .promotionReady) :
      CycleOutcome before candidate now
        (((before.announce candidate now).focus none).put changed)

variable {now : String} {executed : Option ExecutedCycle}

/-- A cycle has one of these outcomes. -/
theorem CycleStep.outcome {tools : ResearchTools}
    (step : CycleStep sha tools before candidate now executed after)
    (fixed : ¬candidate.Reversible) : CycleOutcome before candidate now after := by
  have unready : candidate.status ≠ .promotionReady := fun ready => fixed (.inl ready)
  have going : (nextBlockerDrivenResearchAction candidate).1 ≠ .rotateCandidate →
      candidate.IsOpen := fun planned => isOpen_of_planned planned unready
  -- A candidate that was open has no verdict, so none is taken back when it is rotated out.
  have rotated : ∀ updated reason, candidate.SameIdentity updated → candidate.IsOpen →
      CycleOutcome before candidate now
        ((before.put (rotatedCandidate updated reason now)).focus none) := by
    intro updated reason same isOpen
    have again := rotatedCandidate_sameIdentity updated reason now
    refine .released ⟨again.candidateId.trans same.candidateId, again.family.trans same.family,
      again.rules.trans same.rules, again.fingerprint.trans same.fingerprint⟩ unready
      (rotatedCandidate_status updated reason now) ?_
    exact fun verdict => absurd isOpen verdict.not_isOpen
  cases step with
  | kept planned => exact .untouched (going planned)
  | rotated planned =>
    refine .released (rotatedCandidate_sameIdentity _ _ _) unready
      (rotatedCandidate_status _ _ _) ?_
    rintro (ready | rejected)
    · exact absurd ready unready
    · rw [rotatedCandidate_rejected now rejected fixed, rejected]
  | breadth output planned _ =>
    exact .continued ⟨rfl, rfl, rfl, rfl⟩ (going planned)
      (breadthUpdated_isOpen output now (going planned))
  | breadthRotated output planned =>
    exact rotated (breadthUpdated candidate output now) none ⟨rfl, rfl, rfl, rfl⟩ (going planned)
  | validated symbol told planned _ =>
    have isOpen := going (planned.1 ▸ planned.2.2)
    exact .continued (validated_sameIdentity _ _ _ _ _ _) isOpen
      (validated_isOpen _ _ _ _ _ isOpen)
  | validatedRotated symbol told planned =>
    exact rotated _ none (validated_sameIdentity _ _ _ _ _ _) (going (planned.1 ▸ planned.2.2))
  | promoted symbol told planned verified pass =>
    exact .promoted ⟨rfl, rfl, rfl, rfl⟩ (going (planned.1 ▸ planned.2.2)) rfl
  | rejected symbol reason told planned =>
    have isOpen := going (planned.1 ▸ planned.2.2)
    have ended : ∀ updated : StrategyCandidateRecord,
        (markRejected updated reason now).status ≠ .promotionReady := by
      simp [markRejected]
    exact .released ⟨rfl, rfl, rfl, rfl⟩ unready (ended _)
      fun verdict => absurd isOpen verdict.not_isOpen

/-- A cycle with such an outcome keeps the active candidate open and every verdict. -/
theorem CycleOutcome.verdicts
    (outcome : CycleOutcome before candidate now after) (formed : before.WellFormed sha)
    (known : candidate ∈ before.records) (active : before.active = some candidate.candidateId) :
    after.ActiveOpen ∧ VerdictsKept before after := by
  have isActive : ∀ other, before.active = some other → candidate.candidateId = other :=
    fun other named => Option.some.inj (active.symm.trans named)
  cases outcome with
  | untouched isOpen =>
    exact ⟨fun other named => ⟨candidate, known, isActive other named, isOpen⟩, .refl _⟩
  | continued same isOpen still =>
    refine ⟨fun other named => ⟨_, (mem_put_iff known same.candidateId).mpr (.inl rfl),
      same.candidateId.trans (isActive other named), still⟩, ?_⟩
    exact verdictsKept_put known same.candidateId (fun verdict => absurd isOpen verdict.not_isOpen)
      formed
  | released same unready ended kept =>
    exact ⟨fun other named => absurd named (by simp), verdictsKept_put known same.candidateId kept
      formed⟩
  | promoted same isOpen ready =>
    refine ⟨fun other named => absurd named (by simp), ?_⟩
    have inside : candidate ∈ ((before.announce candidate now).focus none).records := by
      simpa using known
    have put := verdictsKept_put inside same.candidateId
      (fun verdict => absurd isOpen verdict.not_isOpen) ((formed.announce candidate now).focus none)
    simpa [VerdictsKept] using put

/-- A cycle with such an outcome keeps the announcements. -/
theorem CycleOutcome.announced (digests : StrategyFamilies.DistinctDigests sha)
    (outcome : CycleOutcome before candidate now after) (formed : before.WellFormed sha)
    (known : candidate ∈ before.records) (announced : before.Announced) : after.Announced := by
  have unready : ∀ {record : StrategyCandidateRecord}, record.IsOpen →
      record.status ≠ .promotionReady :=
    fun isOpen ready => StrategyCandidateRecord.HasVerdict.not_isOpen (.inl ready) isOpen
  cases outcome with
  | untouched isOpen => exact announced
  | continued same isOpen still =>
    exact announced.put known same ⟨fun ready => absurd ready (unready still),
      fun ready => absurd ready (unready isOpen)⟩ formed
  | released same unready ended kept =>
    exact (announced.put known same ⟨fun ready => absurd ready ended,
      fun ready => absurd ready unready⟩ formed).focus none
  | promoted same isOpen ready =>
    exact announced.promoted digests formed known same now (unready isOpen) ready

variable {request : MissionRequest}

/-- Choosing a candidate keeps verdicts and announcements; the candidate that is chosen has no
verdict to be taken back, unless the message names the family of one that has. -/
theorem Chosen.verdicts
    (choice : Chosen sha request before candidate after) (formed : before.WellFormed sha)
    (activeOpen : before.ActiveOpen)
    (fixed : ∀ record ∈ before.records, request.requestedFamily = some record.strategyFamily →
      ¬record.Reversible) :
    ¬candidate.Reversible ∧ VerdictsKept before after ∧ (before.Announced → after.Announced) := by
  cases choice with
  | kept known active =>
    obtain ⟨record, member, named, isOpen⟩ := activeOpen _ active
    obtain rfl := formed.eq_of_candidateId_eq member known named
    refine ⟨?_, .refl _, fun announced => announced⟩
    rintro (ready | ⟨rejected, -⟩)
    · exact StrategyCandidateRecord.HasVerdict.not_isOpen (.inl ready) isOpen
    · exact StrategyCandidateRecord.HasVerdict.not_isOpen (.inr rejected) isOpen
  | selected known named =>
    exact ⟨fixed candidate known named, fun record member _ => ⟨record, member, rfl, rfl⟩,
      fun announced => announced.focus _⟩
  | @created template listed untried =>
    have exploring : (template.newRecord sha (before.sequence + 1) request.now).status =
        .exploring := rfl
    refine ⟨?_, fun record member _ => ⟨record, List.mem_append_left _ member, rfl, rfl⟩, ?_⟩
    · simp [StrategyCandidateRecord.Reversible, exploring]
    · -- The new record is not ready, so those that are ready are the same.
      intro announced
      refine ⟨announced.once, fun fingerprint => (announced.those fingerprint).trans ?_⟩
      constructor
      · rintro ⟨record, member, ready⟩
        exact ⟨record, List.mem_append_left _ member, ready⟩
      · rintro ⟨record, member, ready, same⟩
        rcases List.mem_append.mp member with old | new
        · exact ⟨record, old, ready, same⟩
        · rw [List.mem_singleton.mp new] at ready
          cases exploring.symm.trans ready

/-- The same holds of a candidate that is chosen after the portfolio was cleared. -/
theorem Chosen.verdicts_of_cleared {before cleared after : Portfolio}
    (choice : Chosen sha request cleared candidate after) (steps : Cleared before cleared)
    (formed : before.WellFormed sha) (activeOpen : before.ActiveOpen)
    (fixed : ∀ record ∈ before.records, request.requestedFamily = some record.strategyFamily →
      ¬record.Reversible) :
    ¬candidate.Reversible ∧ VerdictsKept cleared after ∧ (cleared.Announced → after.Announced) := by
  obtain ⟨stillOpen, -, old, -⟩ := Cleared.verdicts steps formed activeOpen
  refine choice.verdicts (Cleared.formed steps formed).1 stillOpen fun record member named => ?_
  -- A verdict of the cleared portfolio was there when the message came.
  intro reversible
  have verdict : record.HasVerdict := by
    rcases reversible with ready | ⟨rejected, -⟩
    · exact .inl ready
    · exact .inr rejected
  exact fixed record (old record member verdict) named reversible

/-- A turn whose message names no family with a verdict to be taken back keeps the active candidate
open, every verdict, and the announcements. -/
theorem TurnStep.verdicts {tools : ResearchTools}
    (step : TurnStep sha tools request before executed after) (formed : before.WellFormed sha)
    (activeOpen : before.ActiveOpen)
    (fixed : ∀ record ∈ before.records, request.requestedFamily = some record.strategyFamily →
      ¬record.Reversible) :
    after.ActiveOpen ∧ VerdictsKept before after ∧
      (StrategyFamilies.DistinctDigests sha → before.Announced → after.Announced) := by
  cases step with
  | ended cleared =>
    obtain ⟨stillOpen, kept, -, announced⟩ := cleared.verdicts formed activeOpen
    exact ⟨stillOpen, kept, fun _ => announced⟩
  | @cycle cleared chosen _ candidate _ steps choice step =>
    obtain ⟨-, kept, -, announced⟩ := Cleared.verdicts steps formed activeOpen
    obtain ⟨notReversible, keptAgain, announcedAgain⟩ :=
      choice.verdicts_of_cleared steps formed activeOpen fixed
    obtain ⟨chosenFormed, known, active⟩ := choice.formed (Cleared.formed steps formed).1
    have outcome := step.outcome notReversible
    obtain ⟨lastOpen, last⟩ := outcome.verdicts chosenFormed known active
    refine ⟨lastOpen, (kept.trans keptAgain).trans last, fun digests start => ?_⟩
    exact outcome.announced digests chosenFormed known (announcedAgain (announced start))

/-- Whether a turn gets past the check for a blocked mission. -/
def MissionRequest.GoesOn (request : MissionRequest) (mission : ResearchMission) : Prop :=
  (unblocked request mission).isOk

instance (request : MissionRequest) (mission : ResearchMission) :
    Decidable (request.GoesOn mission) :=
  inferInstanceAs (Decidable (_ = true))

/-- A turn that does not get past that check clears the portfolio at most. -/
theorem cleared_of_not_goesOn (sha : Json → String)
    {mission : ResearchMission} (tools : ResearchTools) (stopped : ¬request.GoesOn mission) :
    let result := tryMissionDrivenResearchCycle sha tools request mission
    result.executed = none ∧ Cleared mission.portfolio result.mission.portfolio := by
  intro result
  cases first : unblocked request mission with
  | ok going => exact absurd (show request.GoesOn mission by simp [MissionRequest.GoesOn, first,
      Except.isOk, Except.toBool]) stopped
  | error ended =>
    have same : result = ⟨ended, none⟩ := by
      simp only [result, tryMissionDrivenResearchCycle, preparedTurn, first, Except.bind]
    rw [same]
    exact ⟨rfl, unblocked_cleared (.inr first)⟩

/-- Whether an event takes no verdict back: a turn that gets past the check for a blocked mission
does not name the family of a candidate that is ready, or that was rejected for another reason than
losing money. -/
def KeepsVerdicts (journal : MissionJournal) : MissionEvent → Prop
  | .message _ => True
  | .turn request _ => request.GoesOn journal.mission.reloaded →
      ∀ record ∈ journal.mission.candidateRecords,
        request.requestedFamily = some record.strategyFamily → ¬record.Reversible

instance (journal : MissionJournal) : DecidablePred (KeepsVerdicts journal)
  | .message _ => isTrue trivial
  | .turn request _ => inferInstanceAs (Decidable (request.GoesOn journal.mission.reloaded →
      ∀ record ∈ journal.mission.candidateRecords,
        request.requestedFamily = some record.strategyFamily → ¬record.Reversible))

/-- A mission between two events: its active candidate is open, and its candidates that are ready
are announced. -/
structure Settled (sha : Json → String) (portfolio : Portfolio) : Prop where
  formed : portfolio.WellFormed sha
  activeOpen : portfolio.ActiveOpen
  announced : portfolio.Announced

/-- A portfolio that is read back has the active candidate it had, or none. -/
theorem Portfolio.ActiveOpen.reloaded {portfolio : Portfolio} (activeOpen : portfolio.ActiveOpen) :
    portfolio.reloaded.ActiveOpen := by
  intro active named
  have stored : someText portfolio.active = some active := named
  exact activeOpen active (Option.filter_eq_some_iff.mp stored).1

/-- An event that takes no verdict back leaves a settled mission, with the verdicts it had. -/
theorem settled_next (digests : StrategyFamilies.DistinctDigests sha)
    {journal : MissionJournal} (event : MissionEvent) (keeps : KeepsVerdicts journal event)
    (settled : Settled sha journal.mission.portfolio) :
    let next := ((missionMachine sha).next journal event).mission.portfolio
    Settled sha next ∧ VerdictsKept journal.mission.portfolio next := by
  intro next
  have nextFormed : next.WellFormed sha := wellFormed_next event settled.formed
  have activeOpen := settled.activeOpen.reloaded
  have announced := settled.announced.reloaded digests settled.formed
  cases event with
  | message scope => exact ⟨⟨nextFormed, activeOpen, announced⟩, .refl _⟩
  | turn request tools =>
    by_cases going : request.GoesOn journal.mission.reloaded
    · have step := tryMissionDrivenResearchCycle_step tools request
        (show journal.mission.reloaded.portfolio.WellFormed sha from settled.formed.reloaded)
      obtain ⟨stillOpen, kept, again⟩ :=
        step.verdicts settled.formed.reloaded activeOpen (keeps going)
      exact ⟨⟨nextFormed, stillOpen, again digests announced⟩, kept⟩
    · have cleared := (cleared_of_not_goesOn sha tools going).2
      obtain ⟨stillOpen, kept, -, again⟩ :=
        cleared.verdicts settled.formed.reloaded activeOpen
      exact ⟨⟨nextFormed, stillOpen, again announced⟩, kept⟩

/-- A new mission has no active candidate. -/
theorem activeOpen_create (first : ResearchMission.ScopeUpdate) :
    (MissionJournal.create first).mission.portfolio.ActiveOpen :=
  fun _ named => absurd named (by simp [MissionJournal.create])

/-- A new mission is settled. -/
theorem settled_create (sha : Json → String) (first : ResearchMission.ScopeUpdate) :
    Settled sha (MissionJournal.create first).mission.portfolio where
  formed := wellFormed_create sha first
  activeOpen := activeOpen_create first
  announced := ⟨List.nodup_nil, by simp [MissionJournal.create]⟩

/-- What a value adds to a number for rules. -/
def leafWeight : Json → Nat
  | .int value => value.toNat
  | .float value => value.num.natAbs * 10 + value.den
  | .bool value => if value then 2 else 1
  | _ => 0

/-- What a group of rules adds to a number for them. -/
def groupWeight : Json → Nat
  | .obj fields =>
    fields.foldl (fun sum field => 101 * sum + 7 * field.1.length + leafWeight field.2) 1
  | _ => 0

/-- A number for rules, in place of a digest of them. -/
def familyDigest : Json → String
  | .obj groups =>
    toString (groups.foldl (fun sum group => (31 * sum + groupWeight group.2) % 99991) 0)
  | _ => ""

/-- It tells all families apart. -/
theorem familyDigest_distinct : StrategyFamilies.DistinctDigests familyDigest where
  distinct := by decide +kernel
  unpadded := by decide +kernel
  nonempty := by decide +kernel

/-- The message that names the family that is tried first. -/
def namedRequest : MissionRequest :=
  { plainRequest with requestedFamily := some "breakout_standard" }

/-- Tools that bring profits on twenty symbols, and whose validation is rejected. -/
def rejectingTools : ResearchTools :=
  ⟨fun _ => .ok (profitableOutput 20),
    fun _ => .ok ((executedStages "pass").directed noLiveExecution 0 true)⟩

/-- The mission after some turns. -/
def missionAfter (events : List MissionEvent) : ResearchMission :=
  ((missionMachine familyDigest).run (.create koreanScope) events).mission

/-- The first two turns, after which the first candidate has its verdict. -/
def judged (tools : ResearchTools) : List MissionEvent :=
  [.turn plainRequest tools, .turn plainRequest tools]

end StrategyLab
