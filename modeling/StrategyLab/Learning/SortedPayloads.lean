import StrategyLab.Learning.ApprovedKnowledge
import StrategyLab.Learning.RepositoryExport

/-! Contracts of the learning memory that went through a text: the keys in them are sorted. -/

namespace StrategyLab.Learning

open Json

variable {builtins : Builtins}

section Checks

variable (value : Json)

/-- A field of a sorted object is the sorted field. -/
@[simp] theorem subscript_sortKeys (key : String) :
    subscript value.sortKeys key = (subscript value key).map sortKeys := by
  cases value with
  | obj fields =>
    simp only [subscript, sortKeys, lookup_sorted]
    cases fields.lookup key <;> rfl
  | _ => rfl

/-- So is a field with a default. -/
theorem getDefault_sortKeys (key : String) (default : Json) :
    getDefault value.sortKeys key default.sortKeys = (getDefault value key default).sortKeys := by
  unfold getDefault
  rw [get?_sortKeys]
  cases value.get? key <;> rfl

/-- What is a number stays one. -/
@[simp] theorem isNumber_sortKeys : isNumber value.sortKeys = isNumber value := by
  cases value <;> rfl

/-- A number keeps its size. -/
@[simp] theorem magnitude?_sortKeys : magnitude? value.sortKeys = magnitude? value := by
  cases value <;> rfl

/-- A text is required of what is sorted as of what it was. -/
@[simp] theorem requireText_sortKeys (field : String) :
    requireText value.sortKeys field = requireText value field := by
  simp only [requireText, truthy_sortKeys]

/-- A date is required in the same way. -/
@[simp] theorem validateIso8601Utc_sortKeys (field : String) :
    validateIso8601Utc builtins value.sortKeys field =
      validateIso8601Utc builtins value field := by
  unfold validateIso8601Utc
  rw [truthy_sortKeys]
  cases value <;> rfl

/-- And a number from a bound on. -/
@[simp] theorem requireAtLeast_sortKeys (bound : Int) (message : String) :
    requireAtLeast bound value.sortKeys message = requireAtLeast bound value message := by
  simp [requireAtLeast, isBelow]

/-- And one from zero to one. -/
@[simp] theorem requireUnit_sortKeys (message : String) :
    requireUnit value.sortKeys message = requireUnit value message := by
  simp [requireUnit, isBelow]

/-- Texts are sorted already. -/
@[simp] theorem sortKeys_str (text : String) : (str text).sortKeys = str text := rfl

/-- A list is sorted item by item. -/
@[simp] theorem sortKeys_list (items : List Json) :
    (list items).sortKeys = list (items.map sortKeys) := by
  rw [sortKeys, sortItems_eq]

/-- Objects whose fields are sorted to the same ones are sorted to the same object. -/
theorem sortKeys_obj_congr {fields fields' : List (String × Json)}
    (same : sortFields fields = sortFields fields') :
    (obj fields).sortKeys = (obj fields').sortKeys := by
  rw [sortKeys, sortKeys, same]

/-- A key that can be hashed is sorted already. -/
theorem sortKeys_of_isHashable (hashable : isHashable value = true) : value.sortKeys = value := by
  cases value with
  | list items => cases hashable
  | obj fields => cases hashable
  | _ => rfl

end Checks

/-- Reading what was written item by item gives what each item is read as. -/
theorem mapM_read {α β γ ε : Type} {write : α → β} {read : β → Except ε γ} {back : α → γ}
    (reads : ∀ a, read (write a) = .ok (back a)) (items : List α) :
    (items.map write).mapM read = .ok (items.map back) := by
  induction items with
  | nil => rfl
  | cons item rest ih => simp [List.mapM_cons, reads, ih, bind, Except.bind, pure, Except.pure]

namespace EvidenceRecord

/-- The fields of a piece of evidence, sorted. -/
def sortedFields (fields : EvidenceFields) : EvidenceFields :=
  { fields with
    evidenceId := fields.evidenceId.sortKeys
    reference := fields.reference.sortKeys
    summary := fields.summary.sortKeys }

/-- They pass the checks that the fields pass. -/
theorem check_sortedFields (fields : EvidenceFields) :
    (sortedFields fields).check = fields.check := by
  simp [EvidenceFields.check, sortedFields]

/-- A piece of evidence that went through a text. -/
def sorted (record : EvidenceRecord) : EvidenceRecord :=
  ⟨sortedFields record.fields, (check_sortedFields record.fields).trans record.checked⟩

/-- It is what is read from the text. -/
@[simp] theorem fromDict_sortKeys (record : EvidenceRecord) :
    fromDict (toDict record).sortKeys = .ok record.sorted := by
  have kind : member "EvidenceType" evidenceTypes (.str record.fields.evidenceType.value) =
      .ok record.fields.evidenceType := by
    cases record.fields.evidenceType <;> rfl
  simp only [fromDict, toDict, subscript_sortKeys, subscript_cons, reduceIte,
    String.reduceEq, Raise.ok_map, Raise.ok_bind,
    sortKeys_str, kind]
  exact construct_fields record.sorted

/-- Its text is the same one. -/
@[simp] theorem sortKeys_toDict_sorted (record : EvidenceRecord) :
    (toDict record.sorted).sortKeys = (toDict record).sortKeys := by
  refine sortKeys_obj_congr ?_
  simp only [sorted, sortedFields, sortFields, sortKeys_sortKeys]

end EvidenceRecord

/-- Some evidence is read from its text. -/
@[simp] theorem evidenceFromList_sortKeys (evidence : List EvidenceRecord) :
    evidenceFromList (evidenceToList evidence).sortKeys =
      .ok (evidence.map EvidenceRecord.sorted) := by
  rw [evidenceToList, sortKeys_list, List.map_map]
  exact mapM_read EvidenceRecord.fromDict_sortKeys evidence

/-- Its text is the same one. -/
@[simp] theorem sortKeys_evidenceToList (evidence : List EvidenceRecord) :
    (evidenceToList (evidence.map EvidenceRecord.sorted)).sortKeys =
      (evidenceToList evidence).sortKeys := by
  simp [evidenceToList, Function.comp_def]

/-- Evidence that is required is there. -/
@[simp] theorem requireEvidence_sorted (evidence : List EvidenceRecord) (owner : String) :
    requireEvidence (evidence.map EvidenceRecord.sorted) owner = requireEvidence evidence owner := by
  simp [requireEvidence]

namespace ConfidenceScore

/-- The fields of a confidence, sorted. -/
def sortedFields (fields : ConfidenceFields) : ConfidenceFields :=
  { value := fields.value.sortKeys
    reason := fields.reason.sortKeys
    evidenceCount := fields.evidenceCount.sortKeys
    validationState := fields.validationState.sortKeys
    recency := fields.recency.sortKeys
    conflictPenalty := fields.conflictPenalty.sortKeys }

/-- They pass the checks that the fields pass. -/
theorem check_sortedFields (fields : ConfidenceFields) :
    (sortedFields fields).check = fields.check := by
  simp [ConfidenceFields.check, sortedFields]

/-- A confidence that went through a text. -/
def sorted (confidence : ConfidenceScore) : ConfidenceScore :=
  ⟨sortedFields confidence.fields,
    (check_sortedFields confidence.fields).trans confidence.checked⟩

/-- It is what is read from the text. -/
@[simp] theorem fromDict_sortKeys (confidence : ConfidenceScore) :
    fromDict (toDict confidence).sortKeys = .ok confidence.sorted := by
  simp only [fromDict, toDict, subscript_sortKeys, subscript_cons, reduceIte,
    String.reduceEq, Raise.ok_map, Raise.ok_bind,
    getDefault, get?_sortKeys, get?_obj_cons, Option.map_some, Option.getD_some]
  exact construct_fields confidence.sorted

/-- Its text is the same one. -/
@[simp] theorem sortKeys_toDict_sorted (confidence : ConfidenceScore) :
    (toDict confidence.sorted).sortKeys = (toDict confidence).sortKeys := by
  refine sortKeys_obj_congr ?_
  simp only [sorted, sortedFields, sortFields, sortKeys_sortKeys]

end ConfidenceScore

/-- A scope is required of what is sorted as of what it was. -/
@[simp] theorem requireScope_sortKeys (scope project strategy market : Json) :
    requireScope scope.sortKeys project.sortKeys strategy.sortKeys market.sortKeys =
      requireScope scope project strategy market := by
  simp [requireScope]

namespace RevalidationSchedule

/-- The fields of a schedule, sorted. -/
def sortedFields (fields : ScheduleFields) : ScheduleFields :=
  { fields with
    scheduleId := fields.scheduleId.sortKeys
    targetRef := fields.targetRef.sortKeys
    reason := fields.reason.sortKeys
    dueAt := fields.dueAt.sortKeys
    frequency := fields.frequency.sortKeys
    scope := fields.scope.sortKeys
    project := fields.project.sortKeys
    strategy := fields.strategy.sortKeys
    market := fields.market.sortKeys }

/-- They pass the checks that the fields pass. -/
theorem check_sortedFields (fields : ScheduleFields) :
    (sortedFields fields).check builtins = fields.check builtins := by
  simp [ScheduleFields.check, sortedFields]

/-- A schedule that went through a text. -/
def sorted (schedule : RevalidationSchedule builtins) : RevalidationSchedule builtins :=
  ⟨sortedFields schedule.fields, (check_sortedFields schedule.fields).trans schedule.checked⟩

/-- It is what is read from the text. -/
@[simp] theorem fromDict_sortKeys (schedule : RevalidationSchedule builtins) :
    fromDict builtins (toDict builtins schedule).sortKeys = .ok schedule.sorted := by
  have status : member "RevalidationStatus" revalidationStatuses
      (.str schedule.fields.status.value) = .ok schedule.fields.status := by
    cases schedule.fields.status <;> rfl
  simp only [fromDict, toDict, subscript_sortKeys, subscript_cons, reduceIte,
    String.reduceEq, Raise.ok_map, Raise.ok_bind,
    sortKeys_str, status]
  exact construct_fields schedule.sorted

/-- Its text is the same one. -/
@[simp] theorem sortKeys_toDict_sorted (schedule : RevalidationSchedule builtins) :
    (toDict builtins schedule.sorted).sortKeys = (toDict builtins schedule).sortKeys := by
  refine sortKeys_obj_congr ?_
  simp only [sorted, sortedFields, sortFields, sortKeys_sortKeys]

end RevalidationSchedule

namespace KnowledgeApproval

/-- The fields of an approval, sorted. -/
def sortedFields (fields : KnowledgeApprovalFields) : KnowledgeApprovalFields :=
  { approvalId := fields.approvalId.sortKeys
    claimId := fields.claimId.sortKeys
    approvedBy := fields.approvedBy.sortKeys
    approvedAt := fields.approvedAt.sortKeys
    evidence := fields.evidence.map EvidenceRecord.sorted
    scope := fields.scope.sortKeys
    project := fields.project.sortKeys
    strategy := fields.strategy.sortKeys
    market := fields.market.sortKeys }

/-- They pass the checks that the fields pass. -/
theorem check_sortedFields (fields : KnowledgeApprovalFields) :
    (sortedFields fields).check builtins = fields.check builtins := by
  simp [KnowledgeApprovalFields.check, sortedFields]

/-- An approval that went through a text. -/
def sorted (approval : KnowledgeApproval builtins) : KnowledgeApproval builtins :=
  ⟨sortedFields approval.fields, (check_sortedFields approval.fields).trans approval.checked⟩

/-- It is what is read from the text. -/
@[simp] theorem fromDict_sortKeys (approval : KnowledgeApproval builtins) :
    fromDict builtins (toDict builtins approval).sortKeys = .ok approval.sorted := by
  simp only [fromDict, toDict, subscript_sortKeys, subscript_cons, reduceIte,
    String.reduceEq, Raise.ok_map, Raise.ok_bind,
    evidenceFromList_sortKeys]
  exact construct_fields approval.sorted

/-- Its text is the same one. -/
@[simp] theorem sortKeys_toDict_sorted (approval : KnowledgeApproval builtins) :
    (toDict builtins approval.sorted).sortKeys = (toDict builtins approval).sortKeys := by
  refine sortKeys_obj_congr ?_
  simp only [sorted, sortedFields, sortFields, sortKeys_sortKeys, sortKeys_evidenceToList]

end KnowledgeApproval

namespace LearningRecord

/-- The fields of a record, sorted. -/
def sortedFields (fields : LearningRecordFields builtins) : LearningRecordFields builtins :=
  { fields with
    recordId := fields.recordId.sortKeys
    content := fields.content.sortKeys
    scope := fields.scope.sortKeys
    project := fields.project.sortKeys
    strategy := fields.strategy.sortKeys
    market := fields.market.sortKeys
    createdAt := fields.createdAt.sortKeys
    updatedAt := fields.updatedAt.sortKeys
    version := fields.version.sortKeys
    evidence := fields.evidence.map EvidenceRecord.sorted
    confidence := fields.confidence.sorted
    revalidation := fields.revalidation.sorted
    auditRef := fields.auditRef.sortKeys }

/-- They pass the checks that the fields pass. -/
theorem check_sortedFields (fields : LearningRecordFields builtins) :
    (sortedFields fields).check builtins = fields.check builtins := by
  simp [LearningRecordFields.check, sortedFields]

/-- A record that went through a text. -/
def sorted (record : LearningRecord builtins) : LearningRecord builtins :=
  ⟨sortedFields record.fields, (check_sortedFields record.fields).trans record.checked⟩

/-- It is what is read from the text. -/
theorem fromDict_sortKeys (record : LearningRecord builtins) :
    fromDict builtins (toDict builtins record).sortKeys = .ok record.sorted := by
  have kind : member "LearningRecordType" learningRecordTypes
      (.str record.fields.recordType.value) = .ok record.fields.recordType := by
    cases record.fields.recordType <;> rfl
  simp only [fromDict, toDict, subscript_sortKeys, subscript_cons, reduceIte,
    String.reduceEq, Raise.ok_map, Raise.ok_bind,
    sortKeys_str, kind, evidenceFromList_sortKeys, ConfidenceScore.fromDict_sortKeys,
    RevalidationSchedule.fromDict_sortKeys]
  exact construct_fields record.sorted

/-- Its text is the same one. -/
theorem sortKeys_toDict_sorted (record : LearningRecord builtins) :
    (toDict builtins record.sorted).sortKeys = (toDict builtins record).sortKeys := by
  refine sortKeys_obj_congr ?_
  simp only [sorted, sortedFields, sortFields, sortKeys_sortKeys, sortKeys_evidenceToList,
    ConfidenceScore.sortKeys_toDict_sorted, RevalidationSchedule.sortKeys_toDict_sorted]

end LearningRecord

namespace KnowledgeClaim

/-- The fields of a claim, sorted. -/
def sortedFields (fields : KnowledgeClaimFields builtins) : KnowledgeClaimFields builtins :=
  { fields with
    claimId := fields.claimId.sortKeys
    statement := fields.statement.sortKeys
    topic := fields.topic.sortKeys
    scope := fields.scope.sortKeys
    project := fields.project.sortKeys
    strategy := fields.strategy.sortKeys
    market := fields.market.sortKeys
    evidence := fields.evidence.map EvidenceRecord.sorted
    confidence := fields.confidence.sorted
    conflicts := fields.conflicts.map sortKeys
    approval := fields.approval.map KnowledgeApproval.sorted }

/-- They pass the checks that the fields pass. -/
theorem check_sortedFields (fields : KnowledgeClaimFields builtins) :
    (sortedFields fields).check builtins = fields.check builtins := by
  have conflicts : (fields.conflicts.map sortKeys).any (fun conflict => !conflict.truthy) =
      fields.conflicts.any fun conflict => !conflict.truthy := by
    rw [List.any_map]
    simp only [Function.comp_def, truthy_sortKeys]
  simp only [KnowledgeClaimFields.check, sortedFields, requireText_sortKeys,
    requireScope_sortKeys, requireEvidence_sorted, conflicts, Option.isNone_map]
  rfl

/-- A claim that went through a text. -/
def sorted (claim : KnowledgeClaim builtins) : KnowledgeClaim builtins :=
  ⟨sortedFields claim.fields, (check_sortedFields claim.fields).trans claim.checked⟩

/-- It is what is read from the text. -/
theorem fromDict_sortKeys (claim : KnowledgeClaim builtins) :
    fromDict builtins (toDict builtins claim).sortKeys = .ok claim.sorted := by
  have status : member "KnowledgeStatus" knowledgeStatuses (.str claim.fields.status.value) =
      .ok claim.fields.status := by
    cases claim.fields.status <;> rfl
  -- The payload of an approval is not empty, so it is not taken for a missing one.
  have approved : ∀ approval : KnowledgeApproval builtins,
      (KnowledgeApproval.toDict builtins approval).sortKeys.truthy = true := by
    intro approval
    rw [truthy_sortKeys]
    rfl
  have object (fields : List (String × Json)) : requireObject (obj fields).sortKeys = .ok () := rfl
  cases given : claim.fields.approval with
  | none =>
    have carried : claim.fields.approval.map KnowledgeApproval.sorted = none := by
      rw [given]
      rfl
    simp only [fromDict, toDict, given, subscript_sortKeys, subscript_cons, reduceIte,
      String.reduceEq, Raise.ok_map, Raise.ok_bind,
      sortKeys_str, sortKeys_list, status, object, getDefault, get?_sortKeys, get?_obj_cons,
      Option.map_none, Option.map_some, Option.getD_none, Option.getD_some, truthy, iterate,
      evidenceFromList_sortKeys, ConfidenceScore.fromDict_sortKeys]
    rw [← carried]
    exact construct_fields claim.sorted
  | some approval =>
    have carried : claim.fields.approval.map KnowledgeApproval.sorted = some approval.sorted := by
      rw [given]
      rfl
    simp only [fromDict, toDict, given, subscript_sortKeys, subscript_cons, reduceIte,
      String.reduceEq, Raise.ok_map, Raise.ok_bind,
      sortKeys_str, sortKeys_list, status, object, getDefault, get?_sortKeys, get?_obj_cons,
      Option.map_some, Option.getD_some, approved, KnowledgeApproval.fromDict_sortKeys, iterate,
      evidenceFromList_sortKeys, ConfidenceScore.fromDict_sortKeys]
    rw [← carried]
    exact construct_fields claim.sorted

/-- Its text is the same one. -/
theorem sortKeys_toDict_sorted (claim : KnowledgeClaim builtins) :
    (toDict builtins claim.sorted).sortKeys = (toDict builtins claim).sortKeys := by
  have approval : (((claim.fields.approval.map KnowledgeApproval.sorted).map
      (KnowledgeApproval.toDict builtins)).getD .null).sortKeys =
        ((claim.fields.approval.map (KnowledgeApproval.toDict builtins)).getD .null).sortKeys := by
    cases claim.fields.approval with
    | none => rfl
    | some approval => exact KnowledgeApproval.sortKeys_toDict_sorted approval
  have conflicts : (list (claim.fields.conflicts.map sortKeys)).sortKeys =
      (list claim.fields.conflicts).sortKeys := by
    rw [sortKeys_list, sortKeys_list, List.map_map]
    simp only [Function.comp_def, sortKeys_sortKeys]
  refine sortKeys_obj_congr ?_
  simp only [sorted, sortedFields, sortFields, sortKeys_sortKeys, sortKeys_evidenceToList,
    ConfidenceScore.sortKeys_toDict_sorted, approval, conflicts]

end KnowledgeClaim

namespace AuditEvent

/-- The fields of an audit event, sorted. -/
def sortedFields (fields : AuditEventFields) : AuditEventFields :=
  { fields with
    eventId := fields.eventId.sortKeys
    actor := fields.actor.sortKeys
    targetRef := fields.targetRef.sortKeys
    beforeVersion := fields.beforeVersion.sortKeys
    afterVersion := fields.afterVersion.sortKeys
    scope := fields.scope.sortKeys
    project := fields.project.sortKeys
    strategy := fields.strategy.sortKeys
    market := fields.market.sortKeys
    evidence := fields.evidence.map EvidenceRecord.sorted
    timestamp := fields.timestamp.sortKeys
    rollbackRef := fields.rollbackRef.sortKeys }

/-- A missing version stays missing. -/
theorem isNull_sortKeys (value : Json) : isNull value.sortKeys = isNull value := by
  cases value <;> rfl

/-- They pass the checks that the fields pass. -/
theorem check_sortedFields (fields : AuditEventFields) :
    (sortedFields fields).check builtins = fields.check builtins := by
  simp [AuditEventFields.check, sortedFields, isNull_sortKeys]

/-- An audit event that went through a text. -/
def sorted (event : AuditEvent builtins) : AuditEvent builtins :=
  ⟨sortedFields event.fields, (check_sortedFields event.fields).trans event.checked⟩

/-- It is what is read from the text. -/
theorem fromDict_sortKeys (event : AuditEvent builtins) :
    fromDict builtins (toDict builtins event).sortKeys = .ok event.sorted := by
  have action : member "AuditAction" auditActions (.str event.fields.action.value) =
      .ok event.fields.action := by
    cases event.fields.action <;> rfl
  simp only [fromDict, toDict, subscript_sortKeys, subscript_cons, reduceIte,
    String.reduceEq, Raise.ok_map, Raise.ok_bind,
    sortKeys_str, action, evidenceFromList_sortKeys]
  exact construct_fields event.sorted

/-- Its text is the same one. -/
theorem sortKeys_toDict_sorted (event : AuditEvent builtins) :
    (toDict builtins event.sorted).sortKeys = (toDict builtins event).sortKeys := by
  refine sortKeys_obj_congr ?_
  simp only [sorted, sortedFields, sortFields, sortKeys_sortKeys, sortKeys_evidenceToList]

end AuditEvent

end StrategyLab.Learning
