import StrategyLab.Control.StrategyCandidatePromotion
import StrategyLab.Control.TrustedStrategyActivation

/-! Promotions and activations on one database: promotions read and write in separate steps. -/

namespace StrategyLab

/-- A registry that a promotion has read, and what it is going to save in its place. -/
structure PendingSave where
  familyId : String
  read : StrategyVersionRegistry
  registry : StrategyVersionRegistry
  version : StrategyVersion

/-- A promotion under way on a connection of its own. -/
structure PromotionClient where
  call : PromotionCall
  remaining : List String
  registered : List StrategyVersion
  pending : Option PendingSave

/-- The database and the promotions that run on it. -/
structure SharedRegistries where
  database : StrategyDatabase
  clients : Nat → Option PromotionClient

/-- A database without an activation, and no promotion under way. -/
def SharedRegistries.initial (families : StrategyFamilies) : SharedRegistries :=
  ⟨⟨families, .empty⟩, fun _ => none⟩

/-- What happens next on the database. -/
inductive RegistryEvent where
  /-- A promotion is called and lists its runs. -/
  | start (client : Nat) (call : PromotionCall) (runs : ResearchRuns) (limit : Nat)
  /-- A promotion takes its next run and reads the registry of its family. -/
  | read (client : Nat) (runs : ResearchRuns)
  /-- A promotion saves the registry it has extended. -/
  | save (client : Nat)
  /-- A promotion returns, raises or is killed. -/
  | stop (client : Nat)
  /-- An activation is called. -/
  | activate (request : StrategyActivationRequest)

/-- What a promotion makes of a run: the registry of its family and the one it would save. -/
def readRun (call : PromotionCall) (runs : ResearchRuns) (families : StrategyFamilies)
    (drawn : Nat) (runId : String) : Option PendingSave :=
  match runs.getPayload runId with
  | none => none
  | some payload =>
    let decision := evaluateRun call.str payload
    match decision.eligible, decision.familyId with
    | true, some familyId =>
      let registry := families.get familyId
      if registry.history.any (·.candidateId = runId) then none
      else
        let strategy := payload.getOr "strategy" (.obj [])
        let (extended, version) := registry.registerApplyReady (call.uuid drawn) familyId runId
          (decision.specFingerprint.getD "") (payloadRules strategy)
          (payload.getOr "summary" (.obj [])) call.now none
        some ⟨familyId, registry, extended, version⟩
    | _, _ => none

/-- A promotion after it has taken its next run, if it is not about to save. -/
def PromotionClient.reads (client : PromotionClient) (runs : ResearchRuns)
    (families : StrategyFamilies) : PromotionClient :=
  match client.pending, client.remaining with
  | none, runId :: rest =>
    { client with
      remaining := rest
      pending := readRun client.call runs families client.registered.length runId }
  | _, _ => client

namespace SharedRegistries

variable (fromIsoFormat : String → Except String IsoDatetime)

/-- Let a connection go on with a promotion, or without one. -/
def setClient (state : SharedRegistries) (client : Nat) (promotion : Option PromotionClient) :
    SharedRegistries :=
  { state with clients := Function.update state.clients client promotion }

/-- Save what a connection has pending. -/
def save (state : SharedRegistries) (client : Nat) : SharedRegistries :=
  match state.clients client with
  | none => state
  | some promotion =>
    match promotion.pending with
    | none => state
    | some pending =>
      let families :=
        state.database.families.save pending.familyId pending.registry promotion.call.now
      { state with database := { state.database with families } }.setClient client
        (some { promotion with
          registered := promotion.registered ++ [pending.version], pending := none })

/-- What happens, with the answer to an activation. -/
def step (state : SharedRegistries) :
    RegistryEvent → Option (Except ActivationError ActivationReport) × SharedRegistries
  | .start client call runs limit =>
    (none, state.setClient client (some ⟨call, (runs.listRuns limit).map (·.runId), [], none⟩))
  | .read client runs =>
    (none, state.setClient client
      ((state.clients client).map (·.reads runs state.database.families)))
  | .save client => (none, state.save client)
  | .stop client => (none, state.setClient client none)
  | .activate request =>
    let (answer, database) :=
      TrustedStrategyActivation.activateApprovedVersion fromIsoFormat request state.database
    (some answer, { state with database })

end SharedRegistries

/-- The database with its connections as a machine. -/
def sharedMachine (fromIsoFormat : String → Except String IsoDatetime) :
    Machine SharedRegistries RegistryEvent (Option (Except ActivationError ActivationReport)) :=
  ⟨SharedRegistries.step fromIsoFormat⟩

/-- Registering a run is reading the registry and saving it at once. -/
theorem promoteRun_eq_readRun (call : PromotionCall) (runs : ResearchRuns)
    (state : PromotionState) (runId : String) :
    promoteRun call runs state runId =
      match readRun call runs state.families state.registered.length runId with
      | none => state
      | some pending =>
        ⟨state.families.save pending.familyId pending.registry call.now,
          state.registered ++ [pending.version]⟩ := by
  unfold promoteRun readRun
  cases runs.getPayload runId with
  | none => rfl
  | some payload =>
    cases eligible : (evaluateRun call.str payload).eligible with
    | false => simp only [eligible]
    | true =>
      cases family : (evaluateRun call.str payload).familyId with
      | none => simp only [eligible, family]
      | some familyId =>
        simp only [eligible, family]
        by_cases known : (state.families.get familyId).history.any (·.candidateId = runId) = true
        · rw [if_pos known, if_pos known]
        · rw [if_neg known, if_neg known]

/-- Reading and saving at once registers the next run of a promotion. -/
theorem read_then_save (fromIsoFormat : String → Except String IsoDatetime) {client : Nat}
    {call : PromotionCall} (runs : ResearchRuns) {runId : String} {rest : List String}
    {registered : List StrategyVersion} {state : SharedRegistries}
    (here : state.clients client = some ⟨call, runId :: rest, registered, none⟩) :
    let after := (sharedMachine fromIsoFormat).run state [.read client runs, .save client]
    let promoted := promoteRun call runs ⟨state.database.families, registered⟩ runId
    after.database.families = promoted.families ∧
      after.clients client = some ⟨call, rest, promoted.registered, none⟩ := by
  rw [promoteRun_eq_readRun]
  cases read : readRun call runs state.database.families registered.length runId with
  | none =>
    simp [sharedMachine, Machine.next, SharedRegistries.step, SharedRegistries.setClient,
      SharedRegistries.save, here, PromotionClient.reads, read]
  | some pending =>
    simp [sharedMachine, Machine.next, SharedRegistries.step, SharedRegistries.setClient,
      SharedRegistries.save, here, PromotionClient.reads, read]

/-- A promotion that nothing interrupts does to its database what the call does. -/
theorem alone_promotes (fromIsoFormat : String → Except String IsoDatetime) (client : Nat)
    (call : PromotionCall) (runs : ResearchRuns) (limit : Nat) (state : SharedRegistries) :
    ((sharedMachine fromIsoFormat).run state (.start client call runs limit ::
      ((runs.listRuns limit).map (·.runId)).flatMap fun _ =>
        [.read client runs, .save client])).database.families =
      (promoteEligibleCandidates call runs state.database.families limit).families := by
  -- Wherever the promotion has got to, the remaining runs are registered one after the other.
  have onward (runIds : List String) (registered : List StrategyVersion)
      (state : SharedRegistries)
      (here : state.clients client = some ⟨call, runIds, registered, none⟩) :
      ((sharedMachine fromIsoFormat).run state (runIds.flatMap fun _ =>
        [.read client runs, .save client])).database.families =
        (runIds.foldl (promoteRun call runs) ⟨state.database.families, registered⟩).families := by
    induction runIds generalizing registered state with
    | nil => rfl
    | cons runId rest ih =>
      obtain ⟨families, gone⟩ := read_then_save fromIsoFormat runs here
      rw [List.flatMap_cons, List.foldl_cons, Machine.run_append, ih _ _ gone, families]
  refine onward _ [] _ ?_
  simp [sharedMachine, Machine.next, SharedRegistries.step, SharedRegistries.setClient]

end StrategyLab
