import StrategyLab.Control.ActivationLaws

/-! Which activations and registrations survive when registries are read and saved apart. -/

namespace StrategyLab

/-- The version of an audited activation is the active one, since the moment of the activation. -/
def Reflected (database : StrategyDatabase) (row : StrategyActivationAudit) : Prop :=
  ∃ version, (database.families.get row.familyId).get row.strategyVersionId = .ok version ∧
    version.status = .active ∧ version.activatedAt = some row.activatedAt

/-- The version of an audited activation, as it is stored. -/
def storedVersion (database : StrategyDatabase) (row : StrategyActivationAudit) :
    Except VersionError StrategyVersion :=
  (database.families.get row.familyId).get row.strategyVersionId

/-- A later activation of the same family and direction takes the place of an earlier one. -/
def Supersedes (database : StrategyDatabase) (later earlier : StrategyActivationAudit) : Prop :=
  later.familyId = earlier.familyId ∧
    (storedVersion database later).map (·.direction) =
      (storedVersion database earlier).map (·.direction)

/-- Every audited activation is reflected until a later one takes its place. -/
def ActivationsReflected (database : StrategyDatabase) : Prop :=
  ∀ earlier row later, database.audit.rows = earlier ++ row :: later →
    (∃ next ∈ later, Supersedes database next row) ∨ Reflected database row

/-- What is asked of every state that a list of events leads to. -/
structure NothingLost (fromIsoFormat : String → Except String IsoDatetime)
    (families : StrategyFamilies) (events : List RegistryEvent) : Prop where
  /-- Audited activations stay reflected. -/
  activations : ∀ before after, events = before ++ after →
    ActivationsReflected ((sharedMachine fromIsoFormat).run (.initial families) before).database
  /-- What a promotion has registered is stored. -/
  registered : ∀ before after, events = before ++ after → ∀ client promotion,
    ((sharedMachine fromIsoFormat).run (.initial families) before).clients client =
        some promotion → ∀ version ∈ promotion.registered,
      version.identity ∈ (((sharedMachine fromIsoFormat).run (.initial families)
        before).database.families.get version.familyId).versions.map (·.identity)
  /-- What was once stored stays stored, in its place. -/
  kept : ∀ before middle after, events = before ++ (middle ++ after) → ∀ familyId,
    (((sharedMachine fromIsoFormat).run (.initial families) before).database.families.get
        familyId).versions.map (·.identity) <+:
      (((sharedMachine fromIsoFormat).run (.initial families)
        (before ++ middle)).database.families.get familyId).versions.map (·.identity)

/-- A save that finds the registry as the promotion read it. -/
def SavesWhatItRead (state : SharedRegistries) : RegistryEvent → Prop
  | .save client => ∀ promotion, state.clients client = some promotion →
    ∀ pending, promotion.pending = some pending →
      state.database.families.get pending.familyId = pending.read
  | _ => True

/-- A registry that is going to be saved is the one that was read and one more version. -/
structure PendingSave.Extends (pending : PendingSave) : Prop where
  registry : pending.registry = ⟨pending.read.versions ++ [pending.version]⟩
  family : pending.version.familyId = pending.familyId

/-- What a promotion makes of a run extends what it read. -/
theorem readRun_extends {call : PromotionCall} {runs : ResearchRuns}
    {families : StrategyFamilies} {drawn : Nat} {runId : String} {pending : PendingSave}
    (read : readRun call runs families drawn runId = some pending) : pending.Extends := by
  unfold readRun at read
  split at read
  · cases read
  · dsimp only at read
    split at read
    · split at read
      · cases read
      · obtain rfl := Option.some.inj read
        exact ⟨rfl, rfl⟩
    · cases read

/-- What is true in every state of a run whose saves find what was read. -/
structure SharedSound (state : SharedRegistries) : Prop where
  reflected : ActivationsReflected state.database
  stored : ∀ row ∈ state.database.audit.rows, ∃ version,
    storedVersion state.database row = .ok version
  registered : ∀ client promotion, state.clients client = some promotion →
    ∀ version ∈ promotion.registered, version.identity ∈
      (state.database.families.get version.familyId).versions.map (·.identity)
  extending : ∀ client promotion, state.clients client = some promotion →
    ∀ pending, promotion.pending = some pending → pending.Extends

/-- A database that stores at least what another one does, in the same places. -/
def Grown (old new : StrategyDatabase) : Prop :=
  ∀ familyId, (old.families.get familyId).versions.map (·.identity) <+:
    (new.families.get familyId).versions.map (·.identity)

variable {old new : StrategyDatabase}

variable {version : StrategyVersion}

/-- What was registered in a database is stored in every grown one. -/
theorem Grown.mem (grown : Grown old new) (stored : version.identity ∈
      (old.families.get version.familyId).versions.map (·.identity)) :
    version.identity ∈ (new.families.get version.familyId).versions.map (·.identity) :=
  (grown version.familyId).subset stored

/-- Saving a registry that extends the stored one only adds a version. -/
theorem grown_save {database : StrategyDatabase} {pending : PendingSave} {now : String}
    (extending : pending.Extends)
    (fresh : database.families.get pending.familyId = pending.read) :
    Grown database
      { database with
        families := database.families.save pending.familyId pending.registry now } := by
  intro familyId
  simp only [StrategyFamilies.get_save]
  split
  · rename_i same
    rw [same, fresh, extending.registry, List.map_append]
    exact List.prefix_append _ _
  · exact List.prefix_refl _

/-- Saving a registry that extends the stored one changes nothing that is read. -/
theorem storedVersion_save {database : StrategyDatabase} {pending : PendingSave} {now : String}
    (extending : pending.Extends)
    (fresh : database.families.get pending.familyId = pending.read)
    {row : StrategyActivationAudit}
    (stored : storedVersion database row = .ok version) :
    storedVersion
      { database with families := database.families.save pending.familyId pending.registry now }
      row = .ok version := by
  unfold storedVersion at stored ⊢
  simp only [StrategyFamilies.get_save]
  split
  · rename_i same
    rw [same, fresh] at stored
    rw [extending.registry]
    exact StrategyVersionRegistry.get_append stored _
  · exact stored

/-- A database that reads every audited version as before reflects what it reflected. -/
theorem ActivationsReflected.of_same
    (reflected : ActivationsReflected old) (audit : new.audit = old.audit)
    (same : ∀ row ∈ old.audit.rows, storedVersion new row = storedVersion old row) :
    ActivationsReflected new := by
  intro earlier row later split
  rw [audit] at split
  have here : row ∈ old.audit.rows := by simp [split]
  rcases reflected earlier row later split with ⟨next, follows, family, direction⟩ | holds
  · have there : next ∈ old.audit.rows := by simp [split, follows]
    exact .inl ⟨next, follows, family, by rw [same next there, same row here]; exact direction⟩
  · obtain ⟨version, read, active, moment⟩ := holds
    exact .inr ⟨version, (same row here).trans read, active, moment⟩

variable {request : StrategyActivationRequest}

section Activated

variable {database : StrategyDatabase} {target : StrategyVersion}
  {registry : StrategyVersionRegistry} {audit : Table StrategyActivationAudit.approvalId}
  (read : (database.families.get request.familyId).get request.strategyVersionId = .ok target)
  (marked : (database.families.get request.familyId).markActive request.strategyVersionId
    request.now = .ok (registry, version))

include read marked

/-- What an activation that marks a version leaves of an audited version. -/
theorem storedVersion_activated (row : StrategyActivationAudit) :
    storedVersion ⟨database.families.save request.familyId registry request.now, audit⟩ row =
      if row.familyId = request.familyId then
        if row.strategyVersionId = request.strategyVersionId then .ok (target.activated request.now)
        else (storedVersion database row).map
          (StrategyVersionRegistry.demote target.direction request.now)
      else storedVersion database row := by
  unfold storedVersion
  simp only [StrategyFamilies.get_save]
  split
  · rename_i same
    rw [StrategyVersionRegistry.get_markActive read marked, same]
  · rfl

/-- An activation that marks a version changes no direction. -/
theorem direction_activated (row : StrategyActivationAudit) :
    (storedVersion ⟨database.families.save request.familyId registry request.now, audit⟩
        row).map (·.direction) =
      (storedVersion database row).map (·.direction) := by
  rw [storedVersion_activated read marked]
  split
  · rename_i family
    split
    · rename_i named
      unfold storedVersion
      rw [family, named, read]
      rfl
    · -- A demoted version keeps its direction.
      cases storedVersion database row with
      | error raised => rfl
      | ok found =>
        simp only [Except.map, StrategyVersionRegistry.demote]
        split <;> rfl
  · rfl

end Activated

section

variable (effect : ActivationEffect request old new)

include effect

/-- An activation keeps what is reflected reflected, or takes its place. -/
theorem activationsReflected_activate
    (reflected : ActivationsReflected old) : ActivationsReflected new := by
  cases effect with
  | refused => exact reflected
  | activated target version registry audit read eligible marked appended =>
    have directions := @direction_activated version request old target registry audit read marked
    have stored := @storedVersion_activated version request old target registry audit read marked
    intro earlier row later split
    rw [appended] at split
    rcases List.eq_nil_or_concat later with rfl | ⟨between, last, rfl⟩
    · -- The row is the one of this activation.
      obtain ⟨-, same⟩ := List.append_inj' split rfl
      obtain rfl := (List.cons.inj same).1.symm
      refine .inr ⟨target.activated request.now, ?_, rfl, rfl⟩
      have marks := stored ⟨request.approvalId, request.authenticatedActor, request.familyId,
        request.strategyVersionId, request.approvedAt, request.now⟩
      rw [if_pos rfl, if_pos rfl] at marks
      exact marks
    · rw [List.concat_eq_append, ← List.cons_append, ← List.append_assoc] at split
      obtain ⟨before, same⟩ := List.append_inj' split rfl
      obtain rfl := (List.cons.inj same).1.symm
      rcases reflected earlier row between before with ⟨next, follows, family, direction⟩ | holds
      · refine .inl ⟨next, by simp [follows], family, ?_⟩
        rw [directions next, directions row]
        exact direction
      · obtain ⟨found, reads, active, moment⟩ := holds
        have place : storedVersion old row = .ok found := reads
        by_cases taken : row.familyId = request.familyId ∧ found.direction = target.direction
        · -- The activation is of the same family and direction.
          refine .inl ⟨⟨request.approvalId, request.authenticatedActor, request.familyId,
            request.strategyVersionId, request.approvedAt, request.now⟩, by simp,
            taken.1.symm, ?_⟩
          have own : storedVersion old ⟨request.approvalId, request.authenticatedActor,
              request.familyId, request.strategyVersionId, request.approvedAt, request.now⟩ =
                .ok target := read
          rw [directions, directions, place, own]
          simp only [Except.map, taken.2]
        · refine .inr ⟨found, (stored row).trans ?_, active, moment⟩
          split
          · rename_i family
            have otherSide : found.direction ≠ target.direction := fun same => taken ⟨family, same⟩
            split
            · -- The same version would have the same direction.
              rename_i named
              rw [family, named, read] at reads
              obtain rfl := Except.ok.inj reads
              exact absurd rfl otherSide
            · rw [place]
              simp [Except.map, StrategyVersionRegistry.demote, otherSide]
          · exact place

/-- An activation stores everything that was stored before it. -/
theorem grown_activate : Grown old new := by
  intro familyId
  cases effect with
  | refused => exact List.prefix_refl _
  | activated target version registry audit read eligible marked appended =>
    simp only [StrategyFamilies.get_save]
    split
    · rename_i same
      rw [same, StrategyVersionRegistry.identities_markActive marked]
    · exact List.prefix_refl _

/-- Every audited version is stored after an activation. -/
theorem stored_activate
    (stored : ∀ row ∈ old.audit.rows, ∃ version, storedVersion old row = .ok version) :
    ∀ row ∈ new.audit.rows, ∃ version, storedVersion new row = .ok version := by
  cases effect with
  | refused => exact stored
  | activated target version registry audit read eligible marked appended =>
    intro row member
    rw [storedVersion_activated read marked]
    simp only [appended, List.mem_append, List.mem_singleton] at member
    rcases member with before | rfl
    · obtain ⟨found, here⟩ := stored row before
      rw [here]
      split
      · split
        · exact ⟨_, rfl⟩
        · exact ⟨_, rfl⟩
      · exact ⟨_, rfl⟩
    · exact ⟨target.activated request.now, by rw [if_pos rfl, if_pos rfl]⟩

end

variable {state : SharedRegistries}

/-- A connection may go on with any promotion whose registrations are stored. -/
theorem SharedSound.setClient (sound : SharedSound state)
    (client : Nat) (next : Option PromotionClient)
    (registered : ∀ promotion, next = some promotion → ∀ version ∈ promotion.registered,
      version.identity ∈
        (state.database.families.get version.familyId).versions.map (·.identity))
    (extending : ∀ promotion, next = some promotion → ∀ pending,
      promotion.pending = some pending → pending.Extends) :
    SharedSound (state.setClient client next) := by
  refine ⟨sound.reflected, sound.stored, fun other promotion runs => ?_,
    fun other promotion runs => ?_⟩
  · simp only [SharedRegistries.setClient, Function.update_apply] at runs
    split at runs
    · exact registered promotion runs
    · exact sound.registered other promotion runs
  · simp only [SharedRegistries.setClient, Function.update_apply] at runs
    split at runs
    · exact extending promotion runs
    · exact sound.extending other promotion runs

/-- A save that finds what was read keeps everything true, and only adds a version. -/
theorem SharedSound.save (sound : SharedSound state) {client : Nat}
    (fresh : SavesWhatItRead state (.save client)) :
    SharedSound (state.save client) ∧ Grown state.database (state.save client).database := by
  unfold SharedRegistries.save
  split
  · exact ⟨sound, fun _ => List.prefix_refl _⟩
  · rename_i promotion running
    split
    · exact ⟨sound, fun _ => List.prefix_refl _⟩
    · rename_i pending waiting
      have found := fresh promotion running pending waiting
      have extending := sound.extending client promotion running pending waiting
      have grown := @grown_save state.database pending promotion.call.now extending found
      have same : ∀ row ∈ state.database.audit.rows,
          storedVersion { state.database with
            families := state.database.families.save pending.familyId pending.registry
              promotion.call.now } row = storedVersion state.database row := by
        intro row member
        obtain ⟨version, here⟩ := sound.stored row member
        rw [storedVersion_save extending found here, here]
      have wider : SharedSound { state with database := { state.database with
          families := state.database.families.save pending.familyId pending.registry
            promotion.call.now } } := by
        refine ⟨sound.reflected.of_same rfl same, fun row member => ?_,
          fun other earlier runs version member =>
            grown.mem (sound.registered other earlier runs version member), sound.extending⟩
        obtain ⟨version, here⟩ := sound.stored row member
        exact ⟨version, (same row member).trans here⟩
      refine ⟨wider.setClient client _ ?_ ?_, grown⟩
      · intro next is version member
        obtain rfl := (Option.some.inj is).symm
        rcases List.mem_append.mp member with before | added
        · exact grown.mem (sound.registered client promotion running version before)
        · -- The new version is the last one of the registry that was saved.
          obtain rfl := List.mem_singleton.mp added
          simp [StrategyFamilies.get_save, extending.family, extending.registry]
      · intro next is still none
        obtain rfl := (Option.some.inj is).symm
        cases none

/-- Whatever happens keeps everything true and stored, if saves find what was read. -/
theorem shared_step (fromIsoFormat : String → Except String IsoDatetime)
    {event : RegistryEvent} (fresh : SavesWhatItRead state event)
    (sound : SharedSound state) :
    SharedSound ((sharedMachine fromIsoFormat).next state event) ∧
      Grown state.database ((sharedMachine fromIsoFormat).next state event).database := by
  cases event with
  | start client call runs limit =>
    refine ⟨sound.setClient client _ ?_ ?_, fun _ => List.prefix_refl _⟩
    · intro promotion is version member
      obtain rfl := (Option.some.inj is).symm
      cases member
    · intro promotion is pending none
      obtain rfl := (Option.some.inj is).symm
      cases none
  | read client runs =>
    refine ⟨sound.setClient client _ ?_ ?_, fun _ => List.prefix_refl _⟩
    · intro promotion is version member
      obtain ⟨before, running, rfl⟩ := Option.map_eq_some_iff.mp is
      refine sound.registered client before running version ?_
      unfold PromotionClient.reads at member
      split at member
      · exact member
      · exact member
    · intro promotion is pending waits
      obtain ⟨before, running, rfl⟩ := Option.map_eq_some_iff.mp is
      unfold PromotionClient.reads at waits
      split at waits
      · exact readRun_extends waits
      · exact sound.extending client before running pending waits
  | save client => exact sound.save fresh
  | stop client =>
    refine ⟨sound.setClient client none ?_ ?_, fun _ => List.prefix_refl _⟩
    · intro promotion is
      cases is
    · intro promotion is
      cases is
  | activate request =>
    have effect := activation_effect fromIsoFormat request state.database
    have grown := grown_activate effect
    exact ⟨⟨activationsReflected_activate effect sound.reflected,
      stored_activate effect sound.stored,
      fun client promotion runs version member =>
        grown.mem (sound.registered client promotion runs version member),
      sound.extending⟩, grown⟩

/-- A database without an activation is sound. -/
theorem sound_initial (families : StrategyFamilies) : SharedSound (.initial families) := by
  refine ⟨fun earlier row later split => ?_, fun row member => ?_, fun client promotion runs => ?_,
    fun client promotion runs => ?_⟩
  · simp [SharedRegistries.initial] at split
  · simp [SharedRegistries.initial] at member
  · cases runs
  · cases runs

/-- What holds between two databases of a run whose saves find what was read. -/
theorem shared_run (fromIsoFormat : String → Except String IsoDatetime)
    (sound : SharedSound state) {events : List RegistryEvent}
    (fresh : (sharedMachine fromIsoFormat).Guarded SavesWhatItRead state events) :
    SharedSound ((sharedMachine fromIsoFormat).run state events) ∧
      Grown state.database ((sharedMachine fromIsoFormat).run state events).database := by
  induction events generalizing state with
  | nil => exact ⟨sound, fun _ => List.prefix_refl _⟩
  | cons event rest ih =>
    obtain ⟨next, grown⟩ := shared_step fromIsoFormat fresh.1 sound
    obtain ⟨last, more⟩ := ih next fresh.2
    exact ⟨last, fun familyId => (grown familyId).trans (more familyId)⟩

/-- When every save finds the registry as it was read, no activation and no registration is ever
lost. -/
theorem nothing_lost_of_fresh_saves (fromIsoFormat : String → Except String IsoDatetime)
    (families : StrategyFamilies) (events : List RegistryEvent)
    (fresh : (sharedMachine fromIsoFormat).Guarded SavesWhatItRead (.initial families) events) :
    NothingLost fromIsoFormat families events := by
  have sound (before after : List RegistryEvent) (split : events = before ++ after) :
      SharedSound ((sharedMachine fromIsoFormat).run (.initial families) before) := by
    subst split
    have first := ((sharedMachine fromIsoFormat).guarded_append _ before after).mp fresh
    exact (shared_run fromIsoFormat (sound_initial families) first.1).1
  refine ⟨fun before after split => (sound before after split).reflected,
    fun before after split => (sound before after split).registered,
    fun before middle after split familyId => ?_⟩
  have known := sound before (middle ++ after) split
  subst split
  have rest := ((sharedMachine fromIsoFormat).guarded_append _ before (middle ++ after)).mp fresh
  have next := ((sharedMachine fromIsoFormat).guarded_append _ middle after).mp rest.2
  rw [Machine.run_append]
  exact (shared_run fromIsoFormat known next.1).2 familyId

/-- A promotion that saves right after it has read finds what it read. -/
theorem read_savesWhatItRead (fromIsoFormat : String → Except String IsoDatetime)
    {client : Nat} {promotion : PromotionClient}
    (here : state.clients client = some promotion) (idle : promotion.pending = none)
    (runs : ResearchRuns) :
    SavesWhatItRead ((sharedMachine fromIsoFormat).next state (.read client runs))
      (.save client) := by
  intro after is pending waits
  simp only [sharedMachine, Machine.next, SharedRegistries.step, SharedRegistries.setClient, here,
    Option.map_some, Function.update_self, Option.some.injEq] at is ⊢
  subst is
  unfold PromotionClient.reads at waits
  split at waits
  · unfold readRun at waits
    split at waits
    · cases waits
    · dsimp only at waits
      split at waits
      · split at waits
        · cases waits
        · obtain rfl := Option.some.inj waits
          rfl
      · cases waits
  · rw [idle] at waits
    cases waits

/-- A research run that passes the bar. -/
def eligiblePayload : Json :=
  .obj [("run_id", .str "run-1"), ("final_recommendation", .str "candidate_preferred"),
    ("summary", .obj [("sample_confidence", .str "high"), ("concentration_decision", .str "broad"),
      ("aggregate_trade_count", .int 40), ("profitable_symbol_ratio", .int 1),
      ("median_return", .int 1)]),
    ("strategy", .obj [("entry", .obj []), ("exit", .obj []), ("filters", .obj []),
      ("fingerprint", .str "fp-1")])]

/-- The stored runs: one that passes the bar. -/
def eligibleRuns : ResearchRuns :=
  Table.empty.replace ⟨"run-1", "universe-1", "completed", "candidate_preferred", eligiblePayload,
    "2026-09-05T00:00:00Z", "stored"⟩

/-- The stored registries: a version of an earlier run waits for its approval. -/
def waitingFamilies : StrategyFamilies :=
  StrategyFamilies.save .empty "kr-equity-research:__"
    (StrategyVersionRegistry.empty.registerApplyReady "0" "kr-equity-research:__" "run-0" "fp-0"
      (.obj []) (.obj []) "2026-09-05T00:00:00Z" none).1 "2026-09-05T00:00:00Z"

/-- A promotion of the eligible run. -/
def nightlyPromotion : PromotionCall := ⟨fun _ => "", fun _ => "1", "2026-09-06T00:00:00Z"⟩

/-- The human approval of the waiting version. -/
def approveWaiting : StrategyActivationRequest :=
  ⟨"kr-equity-research:__", "strategy-version:0", "operator", "approval-1",
    "kr-equity-research:__", "strategy-version:0", "operator", "2026-09-06T00:00:00Z",
    "2026-09-06T00:00:00Z", "2026-09-06T00:00:00Z"⟩

/-- The moment of the sample times. -/
def sampleMoment (_ : String) : Except String IsoDatetime := .ok ⟨1788652800000000, some 0⟩

/-- An activation after a whole promotion loses nothing. -/
theorem activation_after_promotion :
    NothingLost sampleMoment waitingFamilies
      [.start 0 nightlyPromotion eligibleRuns 1000, .read 0 eligibleRuns, .save 0,
        .activate approveWaiting] :=
  nothing_lost_of_fresh_saves sampleMoment waitingFamilies _
    ⟨trivial, trivial, read_savesWhatItRead sampleMoment rfl rfl eligibleRuns, trivial, trivial⟩

/-- An activation between the read and the save of a promotion is lost. -/
theorem activation_during_promotion_lost :
    ¬NothingLost sampleMoment waitingFamilies
      [.start 0 nightlyPromotion eligibleRuns 1000, .read 0 eligibleRuns,
        .activate approveWaiting, .save 0] := by
  intro kept
  have reflected := kept.activations _ [] (List.append_nil _).symm
  have audited : ((sharedMachine sampleMoment).run (.initial waitingFamilies)
      [.start 0 nightlyPromotion eligibleRuns 1000, .read 0 eligibleRuns,
        .activate approveWaiting, .save 0]).database.audit.rows =
      [⟨"approval-1", "operator", "kr-equity-research:__", "strategy-version:0",
        "2026-09-06T00:00:00Z", "2026-09-06T00:00:00Z"⟩] := by decide +kernel
  have waiting : ((((sharedMachine sampleMoment).run (.initial waitingFamilies)
      [.start 0 nightlyPromotion eligibleRuns 1000, .read 0 eligibleRuns,
        .activate approveWaiting, .save 0]).database.families.get
          "kr-equity-research:__").get "strategy-version:0").map (·.status) =
      .ok .applyReady := by decide +kernel
  rcases reflected [] _ [] audited with ⟨next, none, -⟩ | ⟨version, read, active, -⟩
  · cases none
  · rw [read] at waiting
    have status : version.status = .applyReady := Except.ok.inj waiting
    rw [active] at status
    cases status

end StrategyLab
