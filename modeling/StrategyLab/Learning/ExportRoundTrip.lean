import StrategyLab.Learning.ListedOrder

/-! Exporting and importing the learning memory: when the one undoes the other. -/

namespace StrategyLab.Learning

open Json

variable {builtins : Builtins}

section Reading

variable (records : List (LearningRecord builtins)) (claims : List (KnowledgeClaim builtins))
  (events : List (AuditEvent builtins))

/-- The fields of the text of a repository, sorted one by one. -/
theorem getDefault_repositoryToJson :
    getDefault (repositoryToJson records events claims) "kind" .null = learningRepositoryKind ∧
      getDefault (repositoryToJson records events claims) "schema_version" .null = .int 1 ∧
      getDefault (repositoryToJson records events claims) "records" .null =
        (list (records.map (LearningRecord.toDict builtins))).sortKeys ∧
      getDefault (repositoryToJson records events claims) "claims" (.list []) =
        (list (claims.map (KnowledgeClaim.toDict builtins))).sortKeys ∧
      getDefault (repositoryToJson records events claims) "audit_events" .null =
        (list (events.map (AuditEvent.toDict builtins))).sortKeys :=
  ⟨(getDefault_sortKeys _ _ .null).trans rfl, (getDefault_sortKeys _ _ .null).trans rfl,
    (getDefault_sortKeys _ _ .null).trans rfl, (getDefault_sortKeys _ _ (.list [])).trans rfl,
    (getDefault_sortKeys _ _ .null).trans rfl⟩

/-- The current payload of a repository is not migrated. -/
theorem migrate_repositoryToJson :
    migrateRepositoryJson (repositoryToJson records events claims) =
      .ok (repositoryToJson records events claims) := by
  have object : requireObject (repositoryToJson records events claims) = .ok () := rfl
  obtain ⟨kind, version, -⟩ := getDefault_repositoryToJson records claims events
  simp [migrateRepositoryJson, object, kind, version, learningRepositoryKind, same, number?]

/-- Objects in a list of a payload are accepted. -/
theorem requireList_sortKeys {α : Type} (write : α → Json)
    (object : ∀ a, (write a).sortKeys.isObject = true) (items : List α) (field : String) :
    requireList (list (items.map write)).sortKeys field =
      .ok (items.map fun item => (write item).sortKeys) := by
  rw [sortKeys_list, List.map_map, requireList]
  simp [object, Function.comp_def]

/-- What is read from the text of a repository is what went into it. -/
theorem repositoryFromJson_repositoryToJson :
    repositoryFromJson builtins (repositoryToJson records events claims) =
      .ok { records := records.map LearningRecord.sorted
            claims := claims.map KnowledgeClaim.sorted
            auditEvents := events.map AuditEvent.sorted } := by
  have object : requireObject (repositoryToJson records events claims) = .ok () := rfl
  obtain ⟨kind, version, recordList, claimList, eventList⟩ :=
    getDefault_repositoryToJson records claims events
  have kindSame : learningRepositoryKind.same learningRepositoryKind = true := rfl
  have versionSame : (int 1).same (int 1) = true := rfl
  have listRecords := requireList_sortKeys (LearningRecord.toDict builtins) (fun _ => rfl) records
  have listClaims := requireList_sortKeys (KnowledgeClaim.toDict builtins) (fun _ => rfl) claims
  have listEvents := requireList_sortKeys (AuditEvent.toDict builtins) (fun _ => rfl) events
  have readRecords := mapM_read LearningRecord.fromDict_sortKeys records
  have readClaims := mapM_read KnowledgeClaim.fromDict_sortKeys claims
  have readEvents := mapM_read AuditEvent.fromDict_sortKeys events
  simp only [repositoryFromJson, object, kind, version, recordList, claimList, eventList, kindSame,
    versionSame, listRecords, listClaims, listEvents, readRecords, readClaims, readEvents,
    Raise.ok_bind, Bool.not_true, Bool.false_eq_true, reduceIte]
  rfl

end Reading

/-- Ids are told apart in both directions if they can be keys. -/
theorem same_comm_of_isHashable {left right : Json} (keyed : isHashable left = true)
    (keyed' : isHashable right = true) : left.same right = right.same left := by
  cases left <;> cases right <;> simp_all [isHashable, same, number?, eq_comm]

/-- Whether ids of one moment can be compared. -/
def IdsOrderable {α : Type} (moment : α → ℚ) (ident : α → Json) (items : List α) : Prop :=
  items.Pairwise fun left right =>
    moment left ≠ moment right ∨
      InMemoryLearningRepository.areOrderable (ident left) (ident right) = true

/-- Whether no id is the float that is no number. -/
def IdsProper {α : Type} (ident : α → Json) (items : List α) : Prop :=
  ∀ item ∈ items, InMemoryLearningRepository.isNaN (ident item) = false

/-- Whether different items have different ids, which can be keys. -/
structure IdsDistinct {α : Type} (ident : α → Json) (items : List α) : Prop where
  apart : items.Pairwise fun left right => (ident left).same (ident right) = false
  keys : ∀ item ∈ items, isHashable (ident item) = true

/-- Ids that are told apart are so in any order. -/
theorem IdsDistinct.perm {α : Type} {ident : α → Json} {items items' : List α}
    (distinct : IdsDistinct ident items) (same : items'.Perm items) :
    IdsDistinct ident items' := by
  have keys : ∀ item ∈ items', isHashable (ident item) = true := fun item member =>
    distinct.keys item (same.mem_iff.mp member)
  refine ⟨?_, keys⟩
  have both : items.Pairwise fun left right =>
      (ident left).same (ident right) = false ∧ (ident right).same (ident left) = false := by
    refine distinct.apart.imp_of_mem fun first second apart => ⟨apart, ?_⟩
    rwa [same_comm_of_isHashable (distinct.keys _ second) (distinct.keys _ first)]
  exact ((same.pairwise_iff fun apart => And.symm apart).mpr both).imp And.left

/-- An item with a new id is told apart from those before it. -/
theorem pairwise_snoc {α : Type} {ident : α → Json} {items : List α} {new : α}
    (apart : items.Pairwise fun left right => (ident left).same (ident right) = false)
    (free : (items.any fun item => (ident item).same (ident new)) = false) :
    (items ++ [new]).Pairwise fun left right => (ident left).same (ident right) = false := by
  refine List.pairwise_append.mpr ⟨apart, List.pairwise_singleton _ _, ?_⟩
  intro item member other last
  rw [List.mem_singleton.mp last]
  exact Bool.eq_false_iff.mpr (List.any_eq_false.mp free item member)

/-- An item with a new id that can be a key is told apart from those before it. -/
theorem IdsDistinct.snoc {α : Type} {ident : α → Json} {items : List α} {new : α}
    (distinct : IdsDistinct ident items) (key : isHashable (ident new) = true)
    (free : (items.any fun item => (ident item).same (ident new)) = false) :
    IdsDistinct ident (items ++ [new]) := by
  refine ⟨pairwise_snoc distinct.apart free, fun item member => ?_⟩
  obtain old | last := List.mem_append.mp member
  · exact distinct.keys item old
  · rw [List.mem_singleton.mp last]
    exact key

/-- What is listed, as payloads with sorted keys. -/
def payloads {α : Type} (write : α → Json) (listed : Except LearningError (List α)) :
    Except LearningError (List Json) :=
  listed.map (List.map fun item => (write item).sortKeys)

namespace InMemoryLearningRepository

/-- Whether two repositories list the same. -/
structure ListsSame (repository other : InMemoryLearningRepository builtins) : Prop where
  chronological : payloads (LearningRecord.toDict builtins) repository.listChronological =
    payloads (LearningRecord.toDict builtins) other.listChronological
  claims : payloads (KnowledgeClaim.toDict builtins) repository.listClaims =
    payloads (KnowledgeClaim.toDict builtins) other.listClaims
  audit : ∀ targetRef action,
    payloads (AuditEvent.toDict builtins) (repository.listAudit targetRef action) =
      payloads (AuditEvent.toDict builtins) (other.listAudit targetRef action)

/-- Whether a repository is exported faithfully: any repository that imports the text lists the
same, and has that text in turn; and the text does not depend on the order things came in. -/
structure ExportsFaithfully (repository : InMemoryLearningRepository builtins) : Prop where
  roundTrip : ∃ text, repository.exportJson = .ok text ∧
    ∀ target : InMemoryLearningRepository builtins, ∃ imported,
      target.importJson (some text) = (.ok (), imported) ∧ ListsSame imported repository ∧
        imported.exportJson = .ok text
  orderless : ∀ other : InMemoryLearningRepository builtins,
    other.records.Perm repository.records → other.claims.Perm repository.claims →
    other.auditEvents.Perm repository.auditEvents → other.exportJson = repository.exportJson

/-- Whether the ids in a repository can be compared where they have to be, and be keys. -/
structure OrderableIds (repository : InMemoryLearningRepository builtins) : Prop where
  records : IdsOrderable createdMoment (·.fields.recordId) repository.records
  claims : IdsOrderable (fun _ => 0) (·.fields.claimId) repository.claims
  events : IdsOrderable moment (·.fields.eventId) repository.auditEvents
  eventKeys : ∀ event ∈ repository.auditEvents, isHashable event.fields.eventId = true

/-- Whether they can be, and none of them is the float that is no number. -/
structure ComparableIds (repository : InMemoryLearningRepository builtins) : Prop
    extends OrderableIds repository where
  properRecords : IdsProper (·.fields.recordId) repository.records
  properClaims : IdsProper (·.fields.claimId) repository.claims
  properEvents : IdsProper (·.fields.eventId) repository.auditEvents

/-- What is stored is told apart by its ids; those of audit events need not be keys. -/
structure WellKept (repository : InMemoryLearningRepository builtins) : Prop where
  records : IdsDistinct (·.fields.recordId) repository.records
  claims : IdsDistinct (·.fields.claimId) repository.claims
  events : repository.auditEvents.Pairwise fun left right =>
    left.fields.eventId.same right.fields.eventId = false

/-- Items whose ids are comparable and different have one order. -/
theorem placed_of_ids {α : Type} {moment : α → ℚ} {ident : α → Json} {items : List α}
    (orderable : IdsOrderable moment ident items) (proper : IdsProper ident items)
    (apart : items.Pairwise fun left right => (ident left).same (ident right) = false) :
    Placed moment ident items := by
  refine .of_distinct (orderable.imp_of_mem fun first second either => ?_) apart
  exact either.imp_right fun both => ⟨both, proper _ first, proper _ second⟩

section Listing

variable {repository : InMemoryLearningRepository builtins}

/-- Copies of items are these items. -/
theorem mapM_copy {α : Type} {copy : α → Except LearningError α} (copies : ∀ a, copy a = .ok a)
    (items : List α) : items.mapM copy = .ok items := by
  have back := @mapM_map α α LearningError id copy copies items
  rwa [List.map_id] at back

/-- The records are listed in the order of their places. -/
theorem listChronological_eq
    (placed : Placed createdMoment (·.fields.recordId) repository.records) :
    repository.listChronological =
      .ok (Py.sortedBy (place createdMoment (·.fields.recordId)) repository.records) := by
  rw [listChronological, mapM_copy copyRecord_eq, Raise.ok_bind, sortByMoment_eq placed]

/-- The claims are. -/
theorem listClaims_eq (placed : Placed (fun _ => 0) (·.fields.claimId) repository.claims) :
    repository.listClaims =
      .ok (Py.sortedBy (place (fun _ => 0) (·.fields.claimId)) repository.claims) := by
  rw [listClaims, sortByMoment_eq placed, Raise.ok_bind, mapM_copy copyClaim_eq]

/-- Audit events are sorted by their moments and ids. -/
theorem sortAuditEvents_eq (events : List (AuditEvent builtins)) :
    sortAuditEvents events = sortByMoment moment (·.fields.eventId) events := by
  unfold sortAuditEvents sortByMoment areSortable
  simp only [decide_eq_true_eq]
  rfl

/-- The audit events are listed in the order of their places. -/
theorem listAudit_eq (placed : Placed moment (·.fields.eventId) repository.auditEvents)
    (targetRef : Option String) (action : Option AuditAction) :
    repository.listAudit targetRef action =
      .ok ((Py.sortedBy (place moment (·.fields.eventId)) repository.auditEvents).filter
        (isAuditOf targetRef action)) := by
  rw [listAudit, mapM_copy copyAudit_eq, Raise.ok_bind, filterAuditEvents, sortAuditEvents_eq,
    sortByMoment_eq placed, Raise.ok_bind]
  rfl

/-- Without a target and an action all audit events are listed. -/
theorem filter_isAuditOf_none (events : List (AuditEvent builtins)) :
    events.filter (isAuditOf none none) = events :=
  List.filter_eq_self.mpr fun _ _ => rfl

/-- The text of a repository is that of its lists. -/
theorem exportJson_eq
    (records : Placed createdMoment (·.fields.recordId) repository.records)
    (claims : Placed (fun _ => 0) (·.fields.claimId) repository.claims)
    (events : Placed moment (·.fields.eventId) repository.auditEvents) :
    repository.exportJson = .ok (repositoryToJson
      (Py.sortedBy (place createdMoment (·.fields.recordId)) repository.records)
      (Py.sortedBy (place moment (·.fields.eventId)) repository.auditEvents)
      (Py.sortedBy (place (fun _ => 0) (·.fields.claimId)) repository.claims)) := by
  rw [exportJson, listChronological_eq records, listAudit_eq events, listClaims_eq claims,
    filter_isAuditOf_none]
  rfl

end Listing

section Importing

/-- Ids that went through a text are different keys if they were. -/
theorem requireDistinct_sorted {α : Type} {ident : α → Json} (change : α → α)
    (kept : ∀ item, ident (change item) = (ident item).sortKeys) {items : List α}
    (distinct : IdsDistinct ident items) (message : String) :
    requireDistinct ((items.map change).map ident) message = .ok () := by
  have same : (items.map change).map ident = items.map ident := by
    rw [List.map_map]
    refine List.map_congr_left fun item member => ?_
    rw [Function.comp_apply, kept, sortKeys_of_isHashable _ (distinct.keys item member)]
  have keys : (items.map ident).all isHashable = true := by
    simpa using distinct.keys
  rw [same, requireDistinct, if_pos keys, if_pos (List.pairwise_map.mpr distinct.apart)]

/-- A record has evidence. -/
theorem evidence_of_record (record : LearningRecord builtins) :
    record.fields.evidence.isEmpty = false := by
  have checked := record.checked
  simp only [LearningRecordFields.check, Raise.bind_eq_ok] at checked
  obtain ⟨_, _, _, _, _, _, _, _, _, _, _, _, _, done, _⟩ := checked
  unfold requireEvidence at done
  split_ifs at done with empty
  exact Bool.eq_false_iff.mpr empty

/-- So has a claim. -/
theorem evidence_of_claim (claim : KnowledgeClaim builtins) :
    claim.fields.evidence.isEmpty = false := by
  have checked := claim.checked
  simp only [KnowledgeClaimFields.check, Raise.bind_eq_ok] at checked
  obtain ⟨_, _, _, _, _, _, _, _, _, done, _⟩ := checked
  unfold requireEvidence at done
  split_ifs at done with empty
  exact Bool.eq_false_iff.mpr empty

variable {records : List (LearningRecord builtins)} {claims : List (KnowledgeClaim builtins)}
  {events : List (AuditEvent builtins)}

/-- The text of a repository is loaded if the ids in it are different keys. -/
theorem loadImport_repositoryToJson (recordIds : IdsDistinct (·.fields.recordId) records)
    (claimIds : IdsDistinct (·.fields.claimId) claims)
    (eventIds : IdsDistinct (·.fields.eventId) events) :
    loadImport (some (repositoryToJson records events claims)) =
      .ok { records := records.map LearningRecord.sorted
            claims := claims.map KnowledgeClaim.sorted
            auditEvents := events.map AuditEvent.sorted } := by
  have distinctRecords := requireDistinct_sorted LearningRecord.sorted (fun _ => rfl)
    recordIds "import contains duplicate record_id values"
  have distinctClaims := requireDistinct_sorted KnowledgeClaim.sorted (fun _ => rfl)
    claimIds "import contains duplicate claim_id values"
  have distinctEvents := requireDistinct_sorted AuditEvent.sorted (fun _ => rfl)
    eventIds "import contains duplicate event_id values"
  simp only [loadImport, migrate_repositoryToJson, repositoryFromJson_repositoryToJson,
    Raise.ok_bind, distinctRecords, distinctClaims, distinctEvents, evidence_of_record,
    evidence_of_claim, Bool.false_eq_true, reduceIte, mapM_copy copyRecord_eq,
    mapM_copy copyClaim_eq]
  rfl

/-- It is loaded only if the ids of its audit events can be keys. -/
theorem eventKeys_of_loadImport {loaded : RepositoryPayload builtins}
    (read : loadImport (some (repositoryToJson records events claims)) = .ok loaded) :
    ∀ event ∈ events, isHashable event.fields.eventId = true := by
  simp only [loadImport, migrate_repositoryToJson, repositoryFromJson_repositoryToJson,
    Raise.ok_bind, Raise.bind_eq_ok] at read
  obtain ⟨_, -, _, -, _, distinct, -⟩ := read
  unfold requireDistinct at distinct
  split_ifs at distinct with keys
  intro event member
  rw [List.all_eq_true] at keys
  have key := keys event.sorted.fields.eventId
    (List.mem_map_of_mem (List.mem_map_of_mem member))
  have went : event.sorted.fields.eventId = event.fields.eventId.sortKeys := rfl
  rw [went] at key
  -- Sorting turns no list and no object into anything else.
  cases given : event.fields.eventId with
  | list items => rw [given] at key; cases key
  | obj fields => rw [given] at key; cases key
  | _ => rfl

/-- The text of sorted lists is imported as these lists. -/
theorem importJson_repositoryToJson (recordIds : IdsDistinct (·.fields.recordId) records)
    (claimIds : IdsDistinct (·.fields.claimId) claims)
    (eventIds : IdsDistinct (·.fields.eventId) events)
    (placed : Placed moment (·.fields.eventId) (events.map AuditEvent.sorted))
    (ordered : Py.sortedBy (place moment (·.fields.eventId)) (events.map AuditEvent.sorted) =
      events.map AuditEvent.sorted)
    (target : InMemoryLearningRepository builtins) :
    target.importJson (some (repositoryToJson records events claims)) =
      (.ok (), ⟨records.map LearningRecord.sorted, claims.map KnowledgeClaim.sorted,
        events.map AuditEvent.sorted⟩) := by
  simp only [importJson, loadImport_repositoryToJson recordIds claimIds eventIds,
    sortAuditEvents_eq, sortByMoment_eq placed, ordered, Raise.ok_bind, mapM_copy copyAudit_eq]

end Importing

section Places

/-- An id that went through a text keeps its place. -/
theorem idRank_sortKeys (ident : Json) : idRank ident.sortKeys = idRank ident := by
  cases ident <;> rfl

/-- So does a record. -/
theorem place_sorted_record (record : LearningRecord builtins) :
    place createdMoment (·.fields.recordId) record.sorted =
      place createdMoment (·.fields.recordId) record := by
  have same : createdMoment record.sorted = createdMoment record := by
    have went : record.sorted.fields.createdAt = record.fields.createdAt.sortKeys := rfl
    rw [createdMoment, createdMoment, went]
    cases record.fields.createdAt <;> rfl
  rw [place, same]
  exact congrArg (fun rank => toLex (createdMoment record, rank)) (idRank_sortKeys _)

/-- A claim does. -/
theorem place_sorted_claim (claim : KnowledgeClaim builtins) :
    place (fun _ => 0) (·.fields.claimId) claim.sorted =
      place (fun _ => 0) (·.fields.claimId) claim :=
  congrArg (fun rank => toLex ((0 : ℚ), rank)) (idRank_sortKeys _)

/-- And an audit event does. -/
theorem place_sorted_event (event : AuditEvent builtins) :
    place moment (·.fields.eventId) event.sorted = place moment (·.fields.eventId) event := by
  have same : moment event.sorted = moment event := by
    have went : event.sorted.fields.timestamp = event.fields.timestamp.sortKeys := rfl
    rw [moment, moment, went]
    cases event.fields.timestamp <;> rfl
  rw [place, same]
  exact congrArg (fun rank => toLex (moment event, rank)) (idRank_sortKeys _)

/-- Comparable ids stay comparable in a text. -/
theorem AreRanked.sortKeys {left right : Json} (ranked : AreRanked left right) :
    AreRanked left.sortKeys right.sortKeys := by
  have same : ∀ ident : Json, ident.sortKeys.text? = ident.text? ∧
      isNaN ident.sortKeys = isNaN ident := by
    intro ident
    cases ident <;> exact ⟨rfl, rfl⟩
  unfold AreRanked areOrderable at ranked ⊢
  simpa only [(same left).1, (same left).2, (same right).1, (same right).2, isNumber_sortKeys]
    using ranked

/-- Items that went through a text have one order if they had. -/
theorem Placed.map {α : Type} {moment : α → ℚ} {ident : α → Json} {items : List α}
    (placed : Placed moment ident items) (change : α → α)
    (kept : ∀ item, ident (change item) = (ident item).sortKeys)
    (places : ∀ item, place moment ident (change item) = place moment ident item) :
    Placed moment ident (items.map change) where
  ranked := by
    refine List.pairwise_map.mpr (placed.ranked.imp fun either => ?_)
    have moments : ∀ item, moment (change item) = moment item := fun item =>
      congrArg (fun place => (ofLex place).1) (places item)
    rw [moments, moments, kept, kept]
    exact either.imp_right AreRanked.sortKeys
  distinct := by
    have same : (items.map change).map (place moment ident) = items.map (place moment ident) := by
      rw [List.map_map]
      exact List.map_congr_left fun item _ => places item
    rw [same]
    exact placed.distinct

/-- A list that is sorted stays so in a text. -/
theorem sortedBy_place_sorted {α : Type} {moment : α → ℚ} {ident : α → Json} {change : α → α}
    (places : ∀ item, place moment ident (change item) = place moment ident item)
    (items : List α) :
    Py.sortedBy (place moment ident) ((Py.sortedBy (place moment ident) items).map change) =
      (Py.sortedBy (place moment ident) items).map change := by
  rw [sortedBy_place_map change places,
    Py.sortedBy_eq_self (place moment ident) (Py.sortedBy_pairwise _ _)]

end Places

section Faithful

variable {repository : InMemoryLearningRepository builtins}

/-- A text is told the same of items that went through one. -/
theorem payloads_map {α : Type} {write : α → Json} {change : α → α}
    (texts : ∀ item, (write (change item)).sortKeys = (write item).sortKeys) (items : List α) :
    payloads write (.ok (items.map change)) = payloads write (.ok items) := by
  simp only [payloads, Raise.ok_map, List.map_map, Function.comp_def, texts]

/-- So is the text of a repository. -/
theorem repositoryToJson_sorted (records : List (LearningRecord builtins))
    (claims : List (KnowledgeClaim builtins)) (events : List (AuditEvent builtins)) :
    repositoryToJson (records.map LearningRecord.sorted) (events.map AuditEvent.sorted)
      (claims.map KnowledgeClaim.sorted) = repositoryToJson records events claims := by
  refine sortKeys_obj_congr ?_
  simp only [sortFields, sortKeys_list, List.map_map, Function.comp_def,
    LearningRecord.sortKeys_toDict_sorted, KnowledgeClaim.sortKeys_toDict_sorted,
    AuditEvent.sortKeys_toDict_sorted]

/-- Filtering audit events does not see that they went through a text. -/
theorem filter_sorted (events : List (AuditEvent builtins)) (targetRef : Option String)
    (action : Option AuditAction) :
    (events.map AuditEvent.sorted).filter (isAuditOf targetRef action) =
      (events.filter (isAuditOf targetRef action)).map AuditEvent.sorted := by
  rw [List.filter_map]
  refine congrArg (List.map AuditEvent.sorted) (List.filter_congr fun event _ => ?_)
  have target : ∀ text, event.sorted.fields.targetRef.same (.str text) =
      event.fields.targetRef.same (.str text) := by
    intro text
    have went : event.sorted.fields.targetRef = event.fields.targetRef.sortKeys := rfl
    rw [went]
    cases event.fields.targetRef <;> rfl
  simp only [Function.comp_apply, isAuditOf, target]
  rfl

/-- A well-kept repository with comparable ids is exported faithfully. -/
theorem exportsFaithfully_of_comparable (kept : WellKept repository)
    (comparable : ComparableIds repository) : ExportsFaithfully repository := by
  have records := placed_of_ids comparable.records comparable.properRecords kept.records.apart
  have claims := placed_of_ids comparable.claims comparable.properClaims kept.claims.apart
  have events := placed_of_ids comparable.events comparable.properEvents kept.events
  have eventIds : IdsDistinct (·.fields.eventId) repository.auditEvents :=
    ⟨kept.events, comparable.eventKeys⟩
  have text := exportJson_eq records claims events
  constructor
  · refine ⟨_, text, fun target => ?_⟩
    have byRecord := Py.sortedBy_perm (place createdMoment (·.fields.recordId)) repository.records
    have byClaim := Py.sortedBy_perm (place (fun _ => 0) (·.fields.claimId)) repository.claims
    have byEvent := Py.sortedBy_perm (place moment (·.fields.eventId)) repository.auditEvents
    -- What is imported are the lists, and lists of them are these again.
    have sortedRecords :=
      (records.perm byRecord).map LearningRecord.sorted (fun _ => rfl) place_sorted_record
    have sortedClaims :=
      (claims.perm byClaim).map KnowledgeClaim.sorted (fun _ => rfl) place_sorted_claim
    have sortedEvents :=
      (events.perm byEvent).map AuditEvent.sorted (fun _ => rfl) place_sorted_event
    have recordOrder := sortedBy_place_sorted place_sorted_record repository.records
    have claimOrder := sortedBy_place_sorted place_sorted_claim repository.claims
    have eventOrder := sortedBy_place_sorted place_sorted_event repository.auditEvents
    have imported := importJson_repositoryToJson (kept.records.perm byRecord)
      (kept.claims.perm byClaim) (eventIds.perm byEvent) sortedEvents eventOrder target
    refine ⟨_, imported, ⟨?_, ?_, fun targetRef action => ?_⟩, ?_⟩
    · rw [listChronological_eq sortedRecords, listChronological_eq records, recordOrder]
      exact payloads_map LearningRecord.sortKeys_toDict_sorted _
    · rw [listClaims_eq sortedClaims, listClaims_eq claims, claimOrder]
      exact payloads_map KnowledgeClaim.sortKeys_toDict_sorted _
    · rw [listAudit_eq sortedEvents, listAudit_eq events, eventOrder, filter_sorted]
      exact payloads_map AuditEvent.sortKeys_toDict_sorted _
    · rw [exportJson_eq sortedRecords sortedClaims sortedEvents, recordOrder, claimOrder,
        eventOrder, repositoryToJson_sorted]
  · intro other sameRecords sameClaims sameEvents
    rw [text, exportJson_eq (records.perm sameRecords) (claims.perm sameClaims)
      (events.perm sameEvents), sortedBy_place_perm records sameRecords,
      sortedBy_place_perm claims sameClaims, sortedBy_place_perm events sameEvents]

/-- A repository is exported faithfully only if its ids can be compared and be keys. -/
theorem orderableIds_of_exportsFaithfully (faithful : ExportsFaithfully repository) :
    OrderableIds repository := by
  obtain ⟨text, done, imports⟩ := faithful.roundTrip
  rw [exportJson] at done
  obtain ⟨records, chronological, done⟩ := Raise.bind_eq_ok.mp done
  obtain ⟨events, audit, done⟩ := Raise.bind_eq_ok.mp done
  obtain ⟨claims, listed, done⟩ := Raise.bind_eq_ok.mp done
  obtain rfl := Raise.pure_eq_ok.mp done
  rw [listChronological, mapM_copy copyRecord_eq, Raise.ok_bind] at chronological
  rw [listAudit, mapM_copy copyAudit_eq, Raise.ok_bind, filterAuditEvents,
    sortAuditEvents_eq] at audit
  rw [listClaims] at listed
  obtain ⟨sortedEvents, sorted, audit⟩ := Raise.bind_eq_ok.mp audit
  obtain ⟨sortedClaims, sortedById, -⟩ := Raise.bind_eq_ok.mp listed
  refine ⟨orderable_of_sortByMoment chronological, orderable_of_sortByMoment sortedById,
    orderable_of_sortByMoment sorted, fun event member => ?_⟩
  -- Importing the text puts the ids of its audit events into a set.
  obtain ⟨imported, accepted, -⟩ := imports .empty
  have all : sortedEvents.filter (isAuditOf none none) = events := Raise.pure_eq_ok.mp audit
  rw [filter_isAuditOf_none] at all
  subst all
  unfold importJson at accepted
  cases read : loadImport (some (repositoryToJson records sortedEvents claims)) with
  | error raised =>
    rw [read] at accepted
    cases (Prod.mk.inj accepted).1
  | ok loaded =>
    exact eventKeys_of_loadImport read event ((perm_of_sortByMoment sorted).mem_iff.mpr member)

end Faithful

section Keeping

/-- Keys that were required to be distinct are. -/
theorem idsDistinct_of_required {α : Type} {ident : α → Json} {items : List α} {message : String}
    (done : requireDistinct (items.map ident) message = .ok ()) : IdsDistinct ident items := by
  unfold requireDistinct at done
  split_ifs at done with keys apart
  exact ⟨List.pairwise_map.mp apart, by simpa using keys⟩

variable {repository : InMemoryLearningRepository builtins}

/-- What is read from a payload has different ids, which can be keys. -/
theorem idsDistinct_of_loadImport {payload : Option Json} {loaded : RepositoryPayload builtins}
    (read : loadImport payload = .ok loaded) :
    IdsDistinct (·.fields.recordId) loaded.records ∧
      IdsDistinct (·.fields.claimId) loaded.claims ∧
      IdsDistinct (·.fields.eventId) loaded.auditEvents := by
  unfold loadImport at read
  cases payload with
  | none => cases read
  | some decoded =>
    simp only [evidence_of_record, evidence_of_claim, Bool.false_eq_true, reduceIte,
      Raise.bind_eq_ok] at read
    obtain ⟨_, -, payload, -, _, records, _, claims, _, events, copies, copied, copies', copied',
      done⟩ := read
    rw [← Raise.pure_eq_ok.mp done]
    obtain rfl := Except.ok.inj ((mapM_copy copyRecord_eq _).symm.trans copied)
    obtain rfl := Except.ok.inj ((mapM_copy copyClaim_eq _).symm.trans copied')
    exact ⟨idsDistinct_of_required records, idsDistinct_of_required claims,
      idsDistinct_of_required events⟩

/-- A record with a new id is stored, and any other one is refused. -/
theorem add_eq (record : LearningRecord builtins) :
    (isHashable record.fields.recordId = true ∧
        repository.holdsRecord record.fields.recordId = false ∧
        (repository.add record).2 =
          { repository with records := repository.records ++ [record] }) ∨
      (repository.add record).2 = repository := by
  have evidence : requireEvidence record.fields.evidence "learning record" = .ok () :=
    if_neg (by simp [evidence_of_record])
  unfold add
  rw [evidence]
  cases hashable : isHashable record.fields.recordId with
  | false => exact .inr rfl
  | true =>
    cases holds : repository.holdsRecord record.fields.recordId with
    | true => exact .inr rfl
    | false =>
      refine .inl ⟨rfl, rfl, ?_⟩
      simp only [copyRecord_eq, Raise.ok_bind, Bool.not_true, Bool.false_eq_true, reduceIte]

/-- An audit event with a new id is stored, and any other one is refused. -/
theorem appendAudit_eq (event : AuditEvent builtins) :
    (repository.holdsEvent event.fields.eventId = false ∧
        (repository.appendAudit event).2 =
          { repository with auditEvents := repository.auditEvents ++ [event] }) ∨
      (repository.appendAudit event).2 = repository := by
  unfold appendAudit
  cases evidence : requireEvidence event.fields.evidence "audit event" with
  | error raised => exact .inr rfl
  | ok done =>
    cases holds : repository.holdsEvent event.fields.eventId with
    | true => exact .inr rfl
    | false =>
      refine .inl ⟨rfl, ?_⟩
      simp only [copyAudit_eq, Raise.ok_bind, Bool.false_eq_true, reduceIte]

/-- Whatever is done keeps what is stored told apart by its ids. -/
theorem wellKept_step (kept : WellKept repository) (op : RepositoryOp builtins) :
    WellKept ((repositoryMachine builtins).next repository op) := by
  cases op with
  | add record =>
    show WellKept (repository.add record).2
    obtain ⟨key, free, stored⟩ | refused := @add_eq _ repository record
    · rw [stored]
      exact ⟨kept.records.snoc key free, kept.claims, kept.events⟩
    · rwa [refused]
  | addClaim claim =>
    show WellKept (repository.addClaim claim).2
    obtain ⟨key, free, stored⟩ | ⟨-, raised, refused⟩ := @addClaim_eq _ repository claim
    · rw [stored]
      exact ⟨kept.records, kept.claims.snoc key free, kept.events⟩
    · rwa [refused]
  | appendAudit event =>
    show WellKept (repository.appendAudit event).2
    obtain ⟨free, stored⟩ | refused := @appendAudit_eq _ repository event
    · rw [stored]
      exact ⟨kept.records, kept.claims, pairwise_snoc kept.events free⟩
    · rwa [refused]
  | importJson payload =>
    show WellKept (repository.importJson payload).2
    unfold importJson
    cases read : @loadImport builtins payload with
    | error raised => exact kept
    | ok loaded =>
      obtain ⟨records, claims, events⟩ := idsDistinct_of_loadImport read
      cases sorted : sortByMoment moment (·.fields.eventId) loaded.auditEvents with
      | error raised =>
        simp only [sortAuditEvents_eq, sorted]
        exact ⟨records, claims, kept.events⟩
      | ok listed =>
        simp only [sortAuditEvents_eq, sorted, Raise.ok_bind, mapM_copy copyAudit_eq]
        exact ⟨records, claims, (events.perm (perm_of_sortByMoment sorted)).apart⟩

/-- What is stored stays told apart by its ids, whatever happens. -/
theorem wellKept_run (ops : List (RepositoryOp builtins)) :
    WellKept ((repositoryMachine builtins).run .empty ops) := by
  have step : ∀ (repository : InMemoryLearningRepository builtins) op, WellKept repository →
      WellKept ((repositoryMachine builtins).next repository op) :=
    fun _ op kept => wellKept_step kept op
  refine (repositoryMachine builtins).invariant step ops ⟨⟨.nil, ?_⟩, ⟨.nil, ?_⟩, .nil⟩
  · intro record member
    cases member
  · intro claim member
    cases member

end Keeping

/-- Whatever happened to a repository, it is exported faithfully if its ids can be compared and are
proper, and only if they can be compared. -/
theorem exportsFaithfully_iff (builtins : Builtins) (ops : List (RepositoryOp builtins)) :
    (ComparableIds ((repositoryMachine builtins).run .empty ops) →
      ExportsFaithfully ((repositoryMachine builtins).run .empty ops)) ∧
    (ExportsFaithfully ((repositoryMachine builtins).run .empty ops) →
      OrderableIds ((repositoryMachine builtins).run .empty ops)) :=
  ⟨exportsFaithfully_of_comparable (wellKept_run ops), orderableIds_of_exportsFaithfully⟩

/-- A claim that was collected, with some id. -/
def collectedClaim (claimId : Json) (given : claimId.truthy = true) : KnowledgeClaim oneDate where
  fields := ⟨claimId, .str "statement", .str "topic", .collected, .str "scope", .str "project",
    .str "strategy", .str "market", [backtestEvidence], certainConfidence, [], none⟩
  checked := by
    have text : requireText claimId "claim_id" = .ok () := if_pos given
    simp only [KnowledgeClaimFields.check, text]
    rfl

/-- Two claims, the id of one of which is a number. -/
def mixedClaims : List (KnowledgeClaim oneDate) :=
  [collectedClaim (.int 5) rfl, collectedClaim (.str "claim1") rfl]

/-- A repository that imported these claims cannot be exported. -/
theorem mixed_ids_not_exported :
    ¬ExportsFaithfully ((repositoryMachine oneDate).run .empty
      [.importJson (some (repositoryToJson [] [] mixedClaims))]) := by
  intro faithful
  have distinct : IdsDistinct (·.fields.claimId) mixedClaims := by
    refine ⟨?_, ?_⟩
    · exact List.pairwise_cons.mpr ⟨fun other member => by
        rw [List.mem_singleton.mp member]
        rfl, List.pairwise_singleton _ _⟩
    · intro claim member
      obtain rfl | last := List.mem_cons.mp member
      · rfl
      · rw [List.mem_singleton.mp last]
        rfl
  have imported : (empty : InMemoryLearningRepository oneDate).importJson
      (some (repositoryToJson [] [] mixedClaims)) =
        (.ok (), ⟨[], mixedClaims.map KnowledgeClaim.sorted, []⟩) :=
    importJson_repositoryToJson ⟨.nil, fun _ member => absurd member List.not_mem_nil⟩ distinct
      ⟨.nil, fun _ member => absurd member List.not_mem_nil⟩ ⟨.nil, List.nodup_nil⟩ rfl .empty
  have reached : ((repositoryMachine oneDate).run .empty
      [.importJson (some (repositoryToJson [] [] mixedClaims))]) =
        ⟨[], mixedClaims.map KnowledgeClaim.sorted, []⟩ := congrArg Prod.snd imported
  have claims := (orderableIds_of_exportsFaithfully faithful).claims
  rw [reached] at claims
  -- A number and a text are compared, as all claims are sorted by their ids alone.
  obtain ⟨compared, -⟩ := List.pairwise_cons.mp claims
  obtain apart | orderable := compared _ (List.mem_singleton_self _)
  · exact apart rfl
  · exact absurd orderable (by decide)

end InMemoryLearningRepository

end StrategyLab.Learning
