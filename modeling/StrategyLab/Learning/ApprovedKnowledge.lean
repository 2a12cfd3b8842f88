import StrategyLab.Learning.LearningRepository

/-! Approved knowledge: what is validated or applied carries its own approval. -/

namespace StrategyLab.Learning

variable {builtins : Builtins}

/-- A field in front is found under its own key and hides nothing else. -/
@[simp] theorem subscript_cons (name : String) (value : Json) (fields : List (String × Json))
    (key : String) : subscript (.obj ((name, value) :: fields)) key =
      if key = name then .ok value else subscript (.obj fields) key := by
  simp only [subscript, List.lookup_cons]
  by_cases same : key = name
  · simp [same]
  · simp [same, beq_eq_false_iff_ne.mpr same]

/-- An object that exists can be constructed from its fields. -/
@[simp] theorem construct_fields {α : Type} {check : α → Except LearningError Unit}
    (object : Object check) : construct check object.fields = .ok object := by
  unfold construct
  split
  · rfl
  · rename_i raised failed
    rw [object.checked] at failed
    cases failed

/-- What is constructed has the fields that it is constructed from. -/
theorem fields_of_construct {α : Type} {check : α → Except LearningError Unit} {fields : α}
    {object : Object check} (done : construct check fields = .ok object) :
    object.fields = fields := by
  unfold construct at done
  split at done
  · rw [← Except.ok.inj done]
  · cases done

/-- Reading what was written item by item gives the items back. -/
theorem mapM_map {α β ε : Type} {write : α → β} {read : β → Except ε α}
    (back : ∀ a, read (write a) = .ok a) (items : List α) :
    (items.map write).mapM read = .ok items := by
  induction items with
  | nil => rfl
  | cons item rest ih => simp [List.mapM_cons, back, ih, bind, Except.bind, pure, Except.pure]

/-- A piece of evidence is read back from its payload. -/
@[simp] theorem EvidenceRecord.fromDict_toDict (record : EvidenceRecord) :
    EvidenceRecord.fromDict (EvidenceRecord.toDict record) = .ok record := by
  have kind : member "EvidenceType" evidenceTypes (.str record.fields.evidenceType.value) =
      .ok record.fields.evidenceType := by
    cases record.fields.evidenceType <;> rfl
  simp only [EvidenceRecord.fromDict, EvidenceRecord.toDict, subscript_cons, reduceIte,
    String.reduceEq, kind, Raise.ok_bind]
  exact construct_fields record

/-- Evidence is read back from its payload. -/
@[simp] theorem evidenceFromList_evidenceToList (evidence : List EvidenceRecord) :
    evidenceFromList (evidenceToList evidence) = .ok evidence :=
  mapM_map EvidenceRecord.fromDict_toDict evidence

/-- A confidence is read back from its payload. -/
@[simp] theorem ConfidenceScore.fromDict_toDict (confidence : ConfidenceScore) :
    ConfidenceScore.fromDict (ConfidenceScore.toDict confidence) = .ok confidence := by
  simp only [ConfidenceScore.fromDict, ConfidenceScore.toDict, subscript_cons, reduceIte,
    String.reduceEq, getDefault, Json.get?_obj_cons, Option.getD_some, Raise.ok_bind]
  exact construct_fields confidence

/-- A schedule is read back from its payload. -/
@[simp] theorem RevalidationSchedule.fromDict_toDict (schedule : RevalidationSchedule builtins) :
    RevalidationSchedule.fromDict builtins (RevalidationSchedule.toDict builtins schedule) =
      .ok schedule := by
  have status : member "RevalidationStatus" revalidationStatuses
      (.str schedule.fields.status.value) = .ok schedule.fields.status := by
    cases schedule.fields.status <;> rfl
  simp only [RevalidationSchedule.fromDict, RevalidationSchedule.toDict, subscript_cons, reduceIte,
    String.reduceEq, status, Raise.ok_bind]
  exact construct_fields schedule

/-- An approval is read back from its payload. -/
@[simp] theorem KnowledgeApproval.fromDict_toDict (approval : KnowledgeApproval builtins) :
    KnowledgeApproval.fromDict builtins (KnowledgeApproval.toDict builtins approval) =
      .ok approval := by
  simp only [KnowledgeApproval.fromDict, KnowledgeApproval.toDict, subscript_cons, reduceIte,
    String.reduceEq, evidenceFromList_evidenceToList, Raise.ok_bind]
  exact construct_fields approval

namespace InMemoryLearningRepository

/-- A copy of a record is that record. -/
@[simp] theorem copyRecord_eq (record : LearningRecord builtins) :
    copyRecord record = .ok record := by
  have kind : member "LearningRecordType" learningRecordTypes
      (.str record.fields.recordType.value) = .ok record.fields.recordType := by
    cases record.fields.recordType <;> rfl
  simp only [copyRecord, LearningRecord.fromDict, LearningRecord.toDict, subscript_cons, reduceIte,
    String.reduceEq, kind, evidenceFromList_evidenceToList, ConfidenceScore.fromDict_toDict,
    RevalidationSchedule.fromDict_toDict, Raise.ok_bind]
  exact construct_fields record

/-- A copy of a claim is that claim. -/
@[simp] theorem copyClaim_eq (claim : KnowledgeClaim builtins) : copyClaim claim = .ok claim := by
  have status : member "KnowledgeStatus" knowledgeStatuses (.str claim.fields.status.value) =
      .ok claim.fields.status := by
    cases claim.fields.status <;> rfl
  -- The payload of an approval is not empty, so it is not taken for a missing one.
  have approved : ∀ approval : KnowledgeApproval builtins,
      (KnowledgeApproval.toDict builtins approval).truthy = true := by
    intro approval
    rfl
  cases given : claim.fields.approval with
  | none =>
    simp only [copyClaim, KnowledgeClaim.fromDict, KnowledgeClaim.toDict, subscript_cons, reduceIte,
      String.reduceEq, given, status, getDefault, Json.get?_obj_cons, Option.map_none,
      Option.getD_none, Option.getD_some, requireObject, Json.isObject, Json.truthy,
      Bool.false_eq_true, iterate, evidenceFromList_evidenceToList,
      ConfidenceScore.fromDict_toDict, Raise.ok_bind]
    rw [← given]
    exact construct_fields claim
  | some approval =>
    simp only [copyClaim, KnowledgeClaim.fromDict, KnowledgeClaim.toDict, subscript_cons, reduceIte,
      String.reduceEq, given, status, getDefault, Json.get?_obj_cons, Option.map_some,
      Option.getD_some, requireObject, Json.isObject, approved, iterate,
      evidenceFromList_evidenceToList, ConfidenceScore.fromDict_toDict,
      KnowledgeApproval.fromDict_toDict, Raise.ok_bind, Raise.ok_map]
    rw [← given]
    exact construct_fields claim

/-- A copy of an audit event is that event. -/
@[simp] theorem copyAudit_eq (event : AuditEvent builtins) : copyAudit event = .ok event := by
  have action : member "AuditAction" auditActions (.str event.fields.action.value) =
      .ok event.fields.action := by
    cases event.fields.action <;> rfl
  simp only [copyAudit, AuditEvent.fromDict, AuditEvent.toDict, subscript_cons, reduceIte,
    String.reduceEq, action, evidenceFromList_evidenceToList, Raise.ok_bind]
  exact construct_fields event

end InMemoryLearningRepository

/-- A claim carries an approval of its own, and nothing conflicts with it. -/
def KnowledgeClaimFields.IsApproved (fields : KnowledgeClaimFields builtins) : Prop :=
  (∃ approval, fields.approval = some approval ∧
    approval.fields.claimId.same fields.claimId = true ∧
    approval.fields.scope.same fields.scope = true ∧
    approval.fields.project.same fields.project = true ∧
    approval.fields.strategy.same fields.strategy = true ∧
    approval.fields.market.same fields.market = true) ∧ fields.conflicts = []

/-- A revision carries an approval of its own. -/
def PolicyRevisionFields.IsApproved (fields : PolicyRevisionFields builtins) : Prop :=
  ∃ approval, fields.approval = some approval ∧
    approval.fields.revisionId.same fields.revisionId = true ∧
    approval.fields.rollbackRef.same fields.rollbackRef = true

/-- A check that is passed, on the way to a result. -/
theorem of_unless {α : Type} {failed : Bool} {raised : LearningError}
    {rest : Except LearningError α} {result : α}
    (done : (do
      if failed then throw raised
      rest) = .ok result) : failed = false ∧ rest = .ok result := by
  cases failed with
  | false => exact ⟨rfl, done⟩
  | true => cases done

/-- What `validate` returns is approved. -/
theorem approved_of_validate {claim validated : KnowledgeClaim builtins}
    {approval : Option (KnowledgeApproval builtins)}
    (done : KnowledgeClaim.validate builtins claim approval = .ok validated) :
    validated.fields.IsApproved := by
  unfold KnowledgeClaim.validate at done
  cases approval with
  | none => cases done
  | some approval =>
    dsimp only at done
    obtain ⟨own, done⟩ := of_unless done
    obtain ⟨within, done⟩ := of_unless done
    obtain ⟨clear, done⟩ := of_unless done
    rw [fields_of_construct done]
    simp only [Bool.or_eq_false_iff, Bool.not_eq_false'] at own within clear
    obtain ⟨⟨⟨scope, project⟩, strategy⟩, market⟩ := within
    exact ⟨⟨approval, rfl, own, scope, project, strategy, market⟩, List.isEmpty_iff.mp clear⟩

/-- What `apply` returns is approved. -/
theorem approved_of_apply {revision applied : PolicyRevision builtins}
    {approval : Option (PolicyApproval builtins)}
    (done : PolicyRevision.apply builtins revision approval = .ok applied) :
    applied.fields.IsApproved := by
  unfold PolicyRevision.apply at done
  cases approval with
  | none => cases done
  | some approval =>
    dsimp only at done
    obtain ⟨own, done⟩ := of_unless done
    obtain ⟨rollback, done⟩ := of_unless done
    obtain ⟨-, done⟩ := of_unless done
    rw [fields_of_construct done]
    simp only [Bool.not_eq_false'] at own rollback
    exact ⟨approval, rfl, own, rollback⟩

/-- A claim that is validated without `validate` is approved all the same. -/
def ClaimSource.Careful : ClaimSource builtins → Prop
  | constructed fields => fields.status = .validated → fields.IsApproved
  | loaded payload => ∀ claim, KnowledgeClaim.fromJson builtins payload = .ok claim →
    claim.fields.status = .validated → claim.fields.IsApproved
  | validated _ _ => True

/-- A revision that is applied without `apply` is approved all the same. -/
def RevisionSource.Careful : RevisionSource builtins → Prop
  | constructed fields => fields.applied.truthy = true → fields.IsApproved
  | loaded payload => ∀ revision, PolicyRevision.fromJson builtins payload = .ok revision →
    revision.fields.applied.truthy = true → revision.fields.IsApproved
  | applied _ _ => True

/-- A claim that is made is approved, if it is validated, exactly if it was made with care. -/
theorem ClaimSource.careful_iff {source : ClaimSource builtins} {claim : KnowledgeClaim builtins}
    (made : source.claim = .ok claim) :
    source.Careful ↔ (claim.fields.status = .validated → claim.fields.IsApproved) := by
  cases source with
  | constructed fields =>
    rw [fields_of_construct made]
    exact Iff.rfl
  | loaded payload =>
    constructor
    · intro careful
      exact careful claim made
    · intro approved other same
      obtain rfl := Except.ok.inj (made.symm.trans same)
      exact approved
  | validated source approval =>
    obtain ⟨before, -, done⟩ := Raise.bind_eq_ok.mp made
    exact iff_of_true trivial fun _ => approved_of_validate done

/-- A revision that is made is approved, if it is applied, exactly if it was made with care. -/
theorem RevisionSource.careful_iff {source : RevisionSource builtins}
    {revision : PolicyRevision builtins} (made : source.revision = .ok revision) :
    source.Careful ↔ (revision.fields.applied.truthy = true → revision.fields.IsApproved) := by
  cases source with
  | constructed fields =>
    rw [fields_of_construct made]
    exact Iff.rfl
  | loaded payload =>
    constructor
    · intro careful
      exact careful revision made
    · intro approved other same
      obtain rfl := Except.ok.inj (made.symm.trans same)
      exact approved
  | applied source approval =>
    obtain ⟨before, -, done⟩ := Raise.bind_eq_ok.mp made
    exact iff_of_true trivial fun _ => approved_of_apply done

namespace InMemoryLearningRepository

variable {repository : InMemoryLearningRepository builtins}

/-- A claim with a new id is stored as it is, and any other one is refused. -/
theorem addClaim_eq (claim : KnowledgeClaim builtins) :
    (isHashable claim.fields.claimId = true ∧ repository.holdsClaim claim.fields.claimId = false ∧
        repository.addClaim claim =
          (.ok (), { repository with claims := repository.claims ++ [claim] })) ∨
      ¬(isHashable claim.fields.claimId = true ∧
          repository.holdsClaim claim.fields.claimId = false) ∧
        ∃ raised, repository.addClaim claim = (.error raised, repository) := by
  -- An object of the class has evidence.
  have evidence : requireEvidence claim.fields.evidence "knowledge claim" = .ok () := by
    have checked := claim.checked
    simp only [KnowledgeClaimFields.check, Raise.bind_eq_ok] at checked
    obtain ⟨_, _, _, _, _, _, _, _, _, done, _⟩ := checked
    exact done
  unfold addClaim
  rw [evidence]
  cases hashable : isHashable claim.fields.claimId with
  | false => exact .inr ⟨by simp, _, rfl⟩
  | true =>
    cases holds : repository.holdsClaim claim.fields.claimId with
    | true => exact .inr ⟨by simp, _, rfl⟩
    | false =>
      refine .inl ⟨rfl, rfl, ?_⟩
      simp [copyClaim_eq, bind, Except.bind]

/-- What is read from a payload replaces the records and the claims; the call then fails exactly if
the audit events cannot be sorted. -/
theorem importJson_eq (payload : Option Json) :
    (∃ raised, @loadImport builtins payload = .error raised ∧
        repository.importJson payload = (.error raised, repository)) ∨
      ∃ loaded, loadImport payload = .ok loaded ∧
        (areSortable loaded.auditEvents = true ∧
            (repository.importJson payload).1 = .ok () ∧
            (repository.importJson payload).2.claims = loaded.claims ∨
          areSortable loaded.auditEvents = false ∧
            (∃ raised, (repository.importJson payload).1 = .error raised) ∧
            (repository.importJson payload).2 =
              { repository with records := loaded.records, claims := loaded.claims }) := by
  unfold importJson
  cases read : @loadImport builtins payload with
  | error raised => exact .inl ⟨raised, rfl, rfl⟩
  | ok loaded =>
    refine .inr ⟨loaded, rfl, ?_⟩
    have copies : ∀ events : List (AuditEvent builtins), events.mapM copyAudit = .ok events := by
      intro events
      have back := @mapM_map (AuditEvent builtins) _ _ id copyAudit copyAudit_eq events
      rwa [List.map_id] at back
    cases sortable : areSortable loaded.auditEvents with
    | true =>
      have sorted : sortAuditEvents loaded.auditEvents =
          .ok (loaded.auditEvents.mergeSort notAfter) := if_pos sortable
      simp [sorted, copies, bind, Except.bind]
    | false =>
      have failed : sortAuditEvents loaded.auditEvents = .error .typeError :=
        if_neg (by simp [sortable])
      simp [failed, bind, Except.bind]

end InMemoryLearningRepository

namespace LearningState

/-- Nothing is remembered, and no revision is made. -/
def initial : LearningState builtins := ⟨.empty, []⟩

/-- What is validated or applied carries its own approval. -/
structure Approved (state : LearningState builtins) : Prop where
  claims : ∀ claim ∈ state.repository.claims,
    claim.fields.status = .validated → claim.fields.IsApproved
  revisions : ∀ revision ∈ state.revisions,
    revision.fields.applied.truthy = true → revision.fields.IsApproved

/-- A claim that is stored and a revision that is made are made with care; and a payload that is
read brings approved claims, and audit events that can be sorted unless it changes nothing. -/
def Clear (state : LearningState builtins) : LearningOp builtins → Prop
  | .addClaim source => ∀ claim, source.claim = .ok claim →
    isHashable claim.fields.claimId = true →
    state.repository.holdsClaim claim.fields.claimId = false → source.Careful
  | .importJson payload => ∀ loaded, InMemoryLearningRepository.loadImport payload = .ok loaded →
    (∀ claim ∈ loaded.claims, claim.fields.status = .validated → claim.fields.IsApproved) ∧
      (InMemoryLearningRepository.areSortable loaded.auditEvents = true ∨
        loaded.records = state.repository.records ∧ loaded.claims = state.repository.claims)
  | .revise source => ∀ revision, source.revision = .ok revision → source.Careful

/-- What is validated or applied stays approved, and a failing import changes nothing. -/
structure Kept (state : LearningState builtins) (op : LearningOp builtins) : Prop where
  approved : Approved ((learningMachine builtins).next state op)
  refused : ∀ payload raised, op = .importJson payload →
    (state.repository.importJson payload).1 = .error raised →
    (state.repository.importJson payload).2 = state.repository

variable {state : LearningState builtins}

/-- Whatever happens is kept exactly if it is clear. -/
theorem kept_iff_clear (approved : Approved state) (op : LearningOp builtins) :
    Kept state op ↔ state.Clear op := by
  cases op with
  | addClaim source =>
    have kept_iff : Kept state (.addClaim source) ↔
        Approved (state.step (.addClaim source)).2 :=
      ⟨fun kept => kept.approved, fun next => ⟨next, fun _ _ same => by cases same⟩⟩
    rw [kept_iff, Clear, step]
    cases made : source.claim with
    | error raised => simp [approved]
    | ok claim =>
      rcases @InMemoryLearningRepository.addClaim_eq _ state.repository claim with
        ⟨hashable, free, added⟩ | ⟨taken, raised, refused⟩
      · simp only [added, Except.ok.injEq, forall_eq', hashable, free, forall_true_left]
        rw [ClaimSource.careful_iff made]
        constructor
        · intro next
          exact next.claims claim (List.mem_append_right _ (List.mem_singleton.mpr rfl))
        · intro careful
          refine ⟨fun other member => ?_, approved.revisions⟩
          rcases List.mem_append.mp member with old | new
          · exact approved.claims other old
          · rw [List.mem_singleton.mp new]
            exact careful
      · simp only [refused]
        refine iff_of_true approved fun other same hashable free => ?_
        obtain rfl := Except.ok.inj same
        exact absurd ⟨hashable, free⟩ taken
  | revise source =>
    have kept_iff : Kept state (.revise source) ↔ Approved (state.step (.revise source)).2 :=
      ⟨fun kept => kept.approved, fun next => ⟨next, fun _ _ same => by cases same⟩⟩
    rw [kept_iff, Clear, step]
    cases made : source.revision with
    | error raised => simp [approved]
    | ok revision =>
      simp only [Except.ok.injEq, forall_eq']
      rw [RevisionSource.careful_iff made]
      constructor
      · intro next
        exact next.revisions revision (List.mem_append_right _ (List.mem_singleton.mpr rfl))
      · intro careful
        refine ⟨approved.claims, fun other member => ?_⟩
        rcases List.mem_append.mp member with old | new
        · exact approved.revisions other old
        · rw [List.mem_singleton.mp new]
          exact careful
  | importJson payload =>
    have kept_iff : Kept state (.importJson payload) ↔
        (∀ claim ∈ (state.repository.importJson payload).2.claims,
          claim.fields.status = .validated → claim.fields.IsApproved) ∧
        ∀ raised, (state.repository.importJson payload).1 = .error raised →
          (state.repository.importJson payload).2 = state.repository := by
      constructor
      · intro kept
        exact ⟨kept.approved.claims, fun raised => kept.refused payload raised rfl⟩
      · intro both
        refine ⟨⟨both.1, approved.revisions⟩, fun other raised same => ?_⟩
        cases same
        exact both.2 raised
    rw [kept_iff, Clear]
    rcases @InMemoryLearningRepository.importJson_eq _ state.repository payload with
      ⟨raised, failed, refused⟩ | ⟨loaded, read, outcome⟩
    · rw [refused]
      refine iff_of_true ⟨approved.claims, fun _ _ => rfl⟩ fun loaded same => ?_
      cases failed.symm.trans same
    · simp only [read, Except.ok.injEq, forall_eq']
      rcases outcome with ⟨sortable, done, claims⟩ | ⟨unsortable, ⟨raised, failed⟩, torn⟩
      · simp [claims, done, sortable]
      · -- The records and the claims are replaced already.
        rw [torn]
        simp only [failed, unsortable, Bool.false_eq_true, false_or]
        refine and_congr_right fun _ => ?_
        constructor
        · intro same
          have whole := same raised rfl
          exact ⟨congrArg InMemoryLearningRepository.records whole,
            congrArg InMemoryLearningRepository.claims whole⟩
        · intro same _ _
          rw [same.1, same.2]

end LearningState

/-- Validated knowledge is really approved, and a failing import changes nothing. -/
structure ReallyApproved (ops : List (LearningOp builtins)) : Prop where
  approved : ∀ before after, ops = before ++ after →
    ((learningMachine builtins).run .initial before).Approved
  refused : ∀ before payload after raised, ops = before ++ .importJson payload :: after →
    (((learningMachine builtins).run .initial before).repository.importJson payload).1 =
      .error raised →
    (((learningMachine builtins).run .initial before).repository.importJson payload).2 =
      ((learningMachine builtins).run .initial before).repository

/-- Knowledge is really approved exactly if everything that happens is clear. -/
theorem reallyApproved_iff_clear (builtins : Builtins) (ops : List (LearningOp builtins)) :
    ReallyApproved ops ↔ (learningMachine builtins).Guarded LearningState.Clear .initial ops := by
  have start : (LearningState.initial : LearningState builtins).Approved := by
    constructor
    · intro claim member
      cases member
    · intro revision member
      cases member
  have steps : (∀ before op after, ops = before ++ op :: after →
      LearningState.Kept ((learningMachine builtins).run .initial before) op) ↔
        (learningMachine builtins).Guarded LearningState.Clear .initial ops :=
    (learningMachine builtins).forall_step_iff_guarded
      (fun state op (approved : state.Approved) => LearningState.kept_iff_clear approved op)
      (fun state op clear approved => ((LearningState.kept_iff_clear approved op).mpr
        clear).approved) ops start
  rw [← steps]
  have last : ∀ before op, (learningMachine builtins).run .initial (before ++ [op]) =
      (learningMachine builtins).next ((learningMachine builtins).run .initial before) op := by
    intro before op
    rw [Machine.run_append, Machine.run_cons, Machine.run_nil]
  constructor
  · intro really before op after split
    refine ⟨?_, fun payload raised same => ?_⟩
    · rw [← last]
      exact really.approved (before ++ [op]) after (by rw [split]; simp)
    · subst same
      exact really.refused before payload after raised split
  · intro kept
    refine ⟨fun before after split => ?_, fun before payload after raised split =>
      (kept before _ after split).refused payload raised rfl⟩
    obtain rfl | ⟨front, op, rfl⟩ := List.eq_nil_or_concat' before
    · exact start
    · rw [last]
      exact (kept front op after (by rw [split]; simp)).approved

/-- One date that is read, and no value but texts that is shown. -/
def oneDate : Builtins where
  fromisoformat text :=
    if text = "2026-07-18T00:00:00+00:00" then some ⟨some 0, 1784332800⟩ else none
  str _ := ""

/-- A backtest as evidence. -/
def backtestEvidence : EvidenceRecord where
  fields := ⟨.str "evidence1", .backtest, .str "backtest1", .str "a backtest"⟩
  checked := by rfl

/-- An approval of another claim. -/
def foreignApproval : KnowledgeApproval oneDate where
  fields := ⟨.str "approval2", .str "claim2", .str "operator", .str "2026-07-18T00:00:00Z",
    [backtestEvidence], .str "scope", .str "project", .str "strategy", .str "market"⟩
  checked := by rfl

/-- A certain confidence. -/
def certainConfidence : ConfidenceScore where
  fields := ⟨.float 1, .str "certain", .int 1, .str "validated", .float 1, .float 0⟩
  checked := by rfl

/-- A claim that is constructed as validated, with the approval of another one. -/
def foreignClaim : KnowledgeClaimFields oneDate :=
  ⟨.str "claim1", .str "statement", .str "topic", .validated, .str "scope", .str "project",
    .str "strategy", .str "market", [backtestEvidence], certainConfidence, [],
    some foreignApproval⟩

/-- A claim with the approval of another one is stored as validated. -/
theorem foreign_claim_not_approved : ¬ReallyApproved [.addClaim (.constructed foreignClaim)] := by
  intro really
  have approved := really.approved [.addClaim (.constructed foreignClaim)] [] rfl
  have stored : ((learningMachine oneDate).run .initial
      [.addClaim (.constructed foreignClaim)]).repository.claims = [⟨foreignClaim, rfl⟩] := rfl
  have member : ⟨foreignClaim, rfl⟩ ∈ ((learningMachine oneDate).run .initial
      [.addClaim (.constructed foreignClaim)]).repository.claims := by
    rw [stored]
    exact List.mem_singleton.mpr rfl
  obtain ⟨⟨approval, carried, own, -⟩, -⟩ := approved.claims _ member rfl
  obtain rfl := Option.some.inj carried
  exact absurd own (by decide)

end StrategyLab.Learning
