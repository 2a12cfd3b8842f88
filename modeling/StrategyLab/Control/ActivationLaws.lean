import StrategyLab.Control.SharedRegistries
import StrategyLab.Control.VersionRegistryLaws

/-! What an activation does to the stored registries and to what is read from them. -/

namespace StrategyLab

/-- Replacing an item that a search passes over by another such item does not change its result. -/
theorem find?_set_of_not {α : Type*} {cond : α → Bool} {items : List α} {index : Nat} {new : α}
    (old : ∀ item, items[index]? = some item → cond item = false) (notNew : cond new = false) :
    (items.set index new).find? cond = items.find? cond := by
  induction items generalizing index with
  | nil => rfl
  | cons head rest ih =>
    cases index with
    | zero =>
      rw [List.set_cons_zero, List.find?_cons, List.find?_cons, notNew, old head rfl]
    | succ index =>
      rw [List.set_cons_succ, List.find?_cons, List.find?_cons, ih old]

/-- Replacing the first item that meets a condition by another that does makes that one the
first. -/
theorem find?_set_first {α : Type*} {cond : α → Bool} {items : List α} {index : Nat} {new : α}
    (first : items.findIdx? cond = some index) (met : cond new = true) :
    (items.set index new).find? cond = some new := by
  obtain ⟨below, -, earlier⟩ := List.findIdx?_eq_some_iff_getElem.mp first
  refine List.find?_eq_some_iff_getElem.mpr ⟨met, index, by simpa using below, by simp, ?_⟩
  intro place before
  have apart : index ≠ place := by omega
  simpa [List.getElem_set, apart] using earlier place before

namespace StrategyVersionRegistry

variable {version : StrategyVersion} {registry : StrategyVersionRegistry}
  {strategyVersionId : String}

/-- A version that is read carries the id it was read by. -/
theorem id_of_get (read : registry.get strategyVersionId = .ok version) :
    registry.versions.find? (·.strategyVersionId = strategyVersionId) = some version ∧
      version.strategyVersionId = strategyVersionId := by
  unfold get at read
  split at read
  · rename_i found
    obtain rfl := Except.ok.inj read
    exact ⟨found, by simpa using List.find?_some found⟩
  · cases read

/-- Versions registered later do not change what is read. -/
theorem get_append (read : registry.get strategyVersionId = .ok version)
    (more : List StrategyVersion) :
    get ⟨registry.versions ++ more⟩ strategyVersionId = .ok version := by
  have found := (id_of_get read).1
  simp only [get, List.find?_append, found, Option.some_or]

/-- What marking a version active does to what is read. -/
theorem get_markActive {registry next : StrategyVersionRegistry} {strategyVersionId at_ : String}
    {target version : StrategyVersion} (read : registry.get strategyVersionId = .ok target)
    (marked : registry.markActive strategyVersionId at_ = .ok (next, version)) (other : String) :
    next.get other =
      if other = strategyVersionId then .ok (target.activated at_)
      else (registry.get other).map (demote target.direction at_) := by
  unfold markActive at marked
  cases located : registry.versions.findIdx? (·.strategyVersionId = strategyVersionId) with
  | none => simp only [located] at marked; cases marked
  | some index =>
    obtain ⟨found, there, first⟩ := findIdx?_eq_some located
    have named := (id_of_get read).2
    rw [(id_of_get read).1] at first
    obtain rfl := Option.some.inj first
    simp only [located, there] at marked
    split at marked
    · cases marked
    · obtain ⟨rfl, -⟩ := Prod.mk.inj (Except.ok.inj marked)
      -- Demoting leaves ids alone, so every search finds what it found before.
      have ids (wanted : String) : (fun version : StrategyVersion =>
          decide (version.strategyVersionId = wanted)) ∘ demote target.direction at_ =
            fun version => decide (version.strategyVersionId = wanted) := by
        funext version
        simp only [Function.comp_apply, demote]
        split <;> rfl
      by_cases same : other = strategyVersionId
      · subst same
        have stillFirst : (registry.versions.map (demote target.direction at_)).findIdx?
            (·.strategyVersionId = other) = some index := by
          rw [List.findIdx?_map, ids]
          exact located
        simp only [get, if_true]
        rw [find?_set_first stillFirst (by simpa using named)]
        rfl
      · simp only [get, if_neg same]
        rw [find?_set_of_not, List.find?_map, ids]
        · cases registry.versions.find? (·.strategyVersionId = other) <;> rfl
        · intro item here
          rw [List.getElem?_map, there] at here
          obtain rfl := Option.some.inj here
          have idKept : (demote target.direction at_ target).strategyVersionId =
              target.strategyVersionId := by
            unfold demote
            split <;> rfl
          simp [idKept, named, Ne.symm same]
        · simp [named, Ne.symm same]

/-- Marking a version active changes no identity. -/
theorem identities_markActive {registry next : StrategyVersionRegistry}
    {strategyVersionId at_ : String}
    (marked : registry.markActive strategyVersionId at_ = .ok (next, version)) :
    next.versions.map (·.identity) = registry.versions.map (·.identity) := by
  unfold markActive at marked
  cases located : registry.versions.findIdx? (·.strategyVersionId = strategyVersionId) with
  | none => simp only [located] at marked; cases marked
  | some index =>
    obtain ⟨found, there, -⟩ := findIdx?_eq_some located
    simp only [located, there] at marked
    split at marked
    · cases marked
    · obtain ⟨rfl, -⟩ := Prod.mk.inj (Except.ok.inj marked)
      have demoted : (registry.versions.map (demote found.direction at_)).map (·.identity) =
          registry.versions.map (·.identity) := by
        simp [Function.comp_def]
      have here : (registry.versions.map (demote found.direction at_))[index]? =
          some (demote found.direction at_ found) := by
        simp [there]
      refine (set_identity here ?_).trans demoted
      rw [demote_identity]
      rfl

end StrategyVersionRegistry

/-- What an activation does: nothing, or it marks the version, which was not active, and appends
its audit. -/
inductive ActivationEffect (request : StrategyActivationRequest) (database : StrategyDatabase) :
    StrategyDatabase → Prop where
  /-- The activation was refused. -/
  | refused : ActivationEffect request database database
  /-- The version was marked active and the approval consumed. -/
  | activated (target version : StrategyVersion) (registry : StrategyVersionRegistry)
    (audit : Table StrategyActivationAudit.approvalId)
    (read : (database.families.get request.familyId).get request.strategyVersionId = .ok target)
    (eligible : target.status = .applyReady ∨ target.status = .previous)
    (marked : (database.families.get request.familyId).markActive request.strategyVersionId
      request.now = .ok (registry, version))
    (appended : audit.rows = database.audit.rows ++ [⟨request.approvalId,
      request.authenticatedActor, request.familyId, request.strategyVersionId, request.approvedAt,
      request.now⟩]) :
    ActivationEffect request database
      ⟨database.families.save request.familyId registry request.now, audit⟩

/-- An activation has one of these effects. -/
theorem activation_effect (fromIsoFormat : String → Except String IsoDatetime)
    (request : StrategyActivationRequest) (database : StrategyDatabase) :
    ActivationEffect request database
      (TrustedStrategyActivation.activateApprovedVersion fromIsoFormat request database).2 := by
  unfold TrustedStrategyActivation.activateApprovedVersion
  cases outcome : (TrustedStrategyActivation.authorize fromIsoFormat request >>= fun _ =>
      TrustedStrategyActivation.transaction request database) with
  | error raised => exact .refused
  | ok committed =>
    obtain ⟨_, -, transacted⟩ := Raise.bind_eq_ok.mp outcome
    unfold TrustedStrategyActivation.transaction at transacted
    obtain ⟨_, -, transacted⟩ := Raise.bind_eq_ok.mp transacted
    obtain ⟨target, read, transacted⟩ := Raise.bind_eq_ok.mp transacted
    obtain ⟨_, eligible, transacted⟩ := Raise.bind_eq_ok.mp transacted
    obtain ⟨⟨registry, version⟩, marked, transacted⟩ := Raise.bind_eq_ok.mp transacted
    simp only [Raise.ensure_eq_ok, Bool.and_eq_true, Bool.or_eq_true, decide_eq_true_eq] at eligible
    dsimp only at transacted
    split at transacted
    · cases transacted
    · rename_i audit inserted
      obtain rfl := Except.ok.inj transacted
      exact .activated target version registry audit (Raise.mapError_eq_ok.mp read) eligible.2
        (Raise.mapError_eq_ok.mp marked) (Table.insert?_eq_some_iff.mp inserted).2

end StrategyLab
