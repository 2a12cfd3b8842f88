import StrategyLab.Control.VersionLifecycle
import StrategyLab.Lib.Numeral
import Mathlib.Data.Finset.Card
import Mathlib.Data.Finset.Range

/-! What every call does to the registered versions, and what it leaves true of them. -/

namespace StrategyLab

variable {registry : StrategyVersionRegistry}

namespace StrategyVersionRegistry

/-- Different sequence numbers give different display ids. -/
theorem displayId_injective {stem : String} {first second : Nat}
    (same : displayId stem first = displayId stem second) : first = second := by
  have texts := congrArg String.toList same
  simp only [displayId, String.toList_append, String.toList_ofList, List.append_assoc] at texts
  exact Numeral.padded_injective (List.append_cancel_left texts)

/-- Among one more number than there are used display ids, one gives an id that is free. -/
theorem exists_free_displayId (stem : String) (used : List String) :
    ∃ n ∈ List.range (used.length + 1), displayId stem (n + 1) ∉ used := by
  by_contra taken
  push Not at taken
  -- All of the ids would be used, but they are different and too many.
  have distinct : ((List.range (used.length + 1)).map fun n => displayId stem (n + 1)).Nodup := by
    refine List.Nodup.map (fun first second same => ?_) List.nodup_range
    have := displayId_injective same
    omega
  have inside : ((List.range (used.length + 1)).map fun n => displayId stem (n + 1)) ⊆ used := by
    intro id member
    obtain ⟨n, listed, rfl⟩ := List.mem_map.mp member
    exact taken n listed
  have fits := (distinct.subperm inside).length_le
  simp only [List.length_map, List.length_range] at fits
  omega

/-- The display id of a new version is not used yet. -/
theorem nextDisplayId_not_mem {at_ id : String}
    {direction : Option Direction} (next : registry.nextDisplayId at_ direction = some id) :
    id ∉ registry.versions.filterMap (·.displayId) := by
  unfold nextDisplayId at next
  split at next
  · cases next
  · dsimp only at next
    split at next
    · cases next
    · obtain ⟨n, found, rfl⟩ := Option.map_eq_some_iff.mp next
      simpa using List.find?_some found

end StrategyVersionRegistry

/-- Both mappings of a version are objects. -/
def StrategyVersion.Mapped (version : StrategyVersion) : Prop :=
  (∃ fields, version.specRules = .obj fields) ∧ ∃ fields, version.validationSummary = .obj fields

/-- A status is read back from its text. -/
@[simp] theorem StrategyVersionStatus.ofValue_value (status : StrategyVersionStatus) :
    ofValue status.value = .ok status := by
  cases status <;> rfl

/-- A direction is read back from its text. -/
@[simp] theorem Direction.ofValue_value (direction : Direction) :
    ofValue direction.value = .ok direction := by
  cases direction <;> rfl

namespace StrategyVersion

variable (str : Json → String) {raw : Json} {key text : String}

/-- A required field that holds a text is read as it is. -/
theorem required_eq (found : raw.get? key = some (.str text)) :
    required str raw key = .ok text := by
  simp only [required, found, Json.textOf]

/-- An optional field is read as it was written. -/
theorem opt_eq {text : Option String} (found : raw.get? key = some (optional text)) :
    opt str raw key = text := by
  cases text with
  | none => simp only [opt, found, optional]
  | some text => simp only [opt, found, optional, Json.textOf]

/-- A field that holds an object is read as it is. -/
theorem mapping_eq {fields : List (String × Json)} (found : raw.get? key = some (.obj fields)) :
    mapping raw key = .ok (.obj fields) := by
  have same : raw.getOr key (.obj []) = .obj fields := by
    simp only [Json.getOr, found]
    exact Json.obj_or_empty fields
  simp only [mapping, same, Json.isObject, if_true]

/-- A version is read back from its record. -/
theorem fromJson_toJson {version : StrategyVersion} (mapped : version.Mapped) :
    fromJson str version.toJson = .ok version := by
  obtain ⟨⟨rules, ruled⟩, summary, summed⟩ := mapped
  have direction : (opt str version.toJson "direction").mapM Direction.ofValue =
      .ok version.direction := by
    rw [opt_eq str (by simp [toJson] : version.toJson.get? "direction" =
      some (optional (version.direction.map Direction.value)))]
    cases version.direction with
    | none => rfl
    | some direction => simp [Option.mapM_some]
  have texts (key text : String) (found : version.toJson.get? key = some (.str text)) :
      required str version.toJson key = .ok text := required_eq str found
  have options (key : String) (text : Option String)
      (found : version.toJson.get? key = some (optional text)) :
      opt str version.toJson key = text := opt_eq str found
  rw [fromJson, texts "strategy_version_id" version.strategyVersionId (by simp [toJson]),
    texts "family_id" version.familyId (by simp [toJson]),
    texts "candidate_id" version.candidateId (by simp [toJson]),
    texts "spec_fingerprint" version.specFingerprint (by simp [toJson]),
    texts "status" version.status.value (by simp [toJson]),
    texts "created_at" version.createdAt (by simp [toJson]),
    mapping_eq (by simp [toJson, ruled] : version.toJson.get? "spec_rules" = some (.obj rules)),
    mapping_eq (by simp [toJson, summed] :
      version.toJson.get? "validation_summary" = some (.obj summary)),
    direction, options "display_id" version.displayId (by simp [toJson]),
    options "approved_at" version.approvedAt (by simp [toJson]),
    options "activated_at" version.activatedAt (by simp [toJson]),
    options "deactivated_at" version.deactivatedAt (by simp [toJson]),
    options "retired_at" version.retiredAt (by simp [toJson]),
    options "retired_reason" version.retiredReason (by simp [toJson]), ← ruled, ← summed]
  simp only [Except.bind, bind, StrategyVersionStatus.ofValue_value]
  rfl

end StrategyVersion

/-- A registry is read back from its record. -/
theorem StrategyVersionRegistry.fromJson_toJson (str : Json → String)
    (mapped : ∀ version ∈ registry.versions, version.Mapped) :
    fromJson str registry.toJson = .ok registry := by
  have items : registry.toJson.getOr "versions" (.list []) =
      .list (registry.versions.map StrategyVersion.toJson) := by
    simp only [toJson, Json.getOr, Json.get?_obj_cons, if_true]
    cases registry.versions <;> rfl
  have read := Raise.mapM_eq_ok_of_forall fun version member =>
    StrategyVersion.fromJson_toJson str (mapped version member)
  simp only [fromJson, items, read]
  rfl

/-- A version as it is made active. -/
def StrategyVersion.activated (version : StrategyVersion) (at_ : String) : StrategyVersion :=
  { version with status := .active, activatedAt := some at_, deactivatedAt := none }

/-- A version as it is retired. -/
def StrategyVersion.retired (version : StrategyVersion) (at_ reason : String) : StrategyVersion :=
  { version with status := .retired, retiredAt := some at_, retiredReason := some reason }

/-- A new version, before anything has happened to it. -/
structure StrategyVersion.Fresh (registry : StrategyVersionRegistry) (version : StrategyVersion) :
    Prop where
  mapped : version.Mapped
  status : version.status = .applyReady
  unactivated : version.activatedAt = none
  displayed : ∀ id, version.displayId = some id →
    id ∉ registry.versions.filterMap (·.displayId)

/-- What a call does to the versions of a registry. -/
inductive RegistryChange (registry : StrategyVersionRegistry) :
    VersionOp → StrategyVersionRegistry → Prop where
  /-- Nothing changes. -/
  | unchanged (op : VersionOp) : RegistryChange registry op registry
  /-- A version is added behind the others. -/
  | registered (op : VersionOp) (version : StrategyVersion) (fresh : version.Fresh registry) :
    RegistryChange registry op ⟨registry.versions ++ [version]⟩
  /-- A version is made active, and the active one of its direction is demoted. -/
  | activated (strategyVersionId at_ : String) (index : Nat) (target : StrategyVersion)
    (found : registry.versions[index]? = some target)
    (first : registry.versions.find? (·.strategyVersionId = strategyVersionId) = some target)
    (selectable : target.status ≠ .retired) :
    RegistryChange registry (.markActive strategyVersionId at_)
      ⟨(registry.versions.map (StrategyVersionRegistry.demote target.direction at_)).set index
        (target.activated at_)⟩
  /-- A version is retired. -/
  | retired (strategyVersionId at_ reason : String) (index : Nat) (version : StrategyVersion)
    (found : registry.versions[index]? = some version)
    (first : registry.versions.find? (·.strategyVersionId = strategyVersionId) = some version) :
    RegistryChange registry (.markRetired strategyVersionId at_ reason)
      ⟨registry.versions.set index (version.retired at_ reason)⟩

variable {versions : List StrategyVersion}

/-- The first version with an id, by its place and by itself. -/
theorem findIdx?_eq_some {strategyVersionId : String} {index : Nat}
    (located : versions.findIdx? (·.strategyVersionId = strategyVersionId) = some index) :
    ∃ version, versions[index]? = some version ∧
      versions.find? (·.strategyVersionId = strategyVersionId) = some version := by
  obtain ⟨below, named, first⟩ := List.findIdx?_eq_some_iff_getElem.mp located
  refine ⟨versions[index], List.getElem?_eq_getElem below, ?_⟩
  exact List.find?_eq_some_iff_getElem.mpr ⟨named, index, below, rfl, fun earlier before => by
    simpa using first earlier before⟩

/-- A call changes a registry in one of these ways. -/
theorem step_change (str : Json → String)
    (mapped : ∀ version ∈ registry.versions, version.Mapped) (op : VersionOp) :
    RegistryChange registry op ((versionMachine str).next registry op) := by
  cases op with
  | registerApplyReady uuid familyId candidateId specFingerprint specRules validationSummary at_
      direction =>
    refine .registered _ _ ⟨⟨⟨_, rfl⟩, _, rfl⟩, rfl, rfl, fun id displayed => ?_⟩
    exact StrategyVersionRegistry.nextDisplayId_not_mem displayed
  | markActive strategyVersionId at_ =>
    simp only [Machine.next, versionMachine, VersionOp.step, StrategyVersionRegistry.markActive]
    cases located : registry.versions.findIdx? (·.strategyVersionId = strategyVersionId) with
    | none => exact .unchanged _
    | some index =>
      obtain ⟨target, found, first⟩ := findIdx?_eq_some located
      simp only [found]
      by_cases gone : target.status = .retired
      · simp only [gone, if_true]
        exact .unchanged _
      · simp only [gone, if_false]
        exact .activated strategyVersionId at_ index target found first gone
  | markRetired strategyVersionId at_ reason =>
    simp only [Machine.next, versionMachine, VersionOp.step, StrategyVersionRegistry.markRetired]
    cases located : registry.versions.findIdx? (·.strategyVersionId = strategyVersionId) with
    | none => exact .unchanged _
    | some index =>
      obtain ⟨version, found, first⟩ := findIdx?_eq_some located
      simp only [found]
      exact .retired strategyVersionId at_ reason index version found first
  | roundTrip =>
    simp only [Machine.next, versionMachine, VersionOp.step,
      StrategyVersionRegistry.fromJson_toJson str mapped]
    exact .unchanged _

/-- What is known of the time stamps of a version from its status. -/
def StrategyVersion.Stamped (version : StrategyVersion) : Prop :=
  match version.status with
  | .applyReady => version.activatedAt = none
  | .active => version.activatedAt ≠ none ∧ version.deactivatedAt = none
  | .previous => version.deactivatedAt ≠ none
  | .retired => True

/-- What every registry that is reached by calls satisfies. -/
structure RegistrySound (registry : StrategyVersionRegistry) : Prop where
  mapped : ∀ version ∈ registry.versions, version.Mapped
  stamped : ∀ version ∈ registry.versions, version.Stamped
  displayed : (registry.versions.filterMap (·.displayId)).Nodup
  oneActive : ∀ (first second : Nat) (one other : StrategyVersion),
    registry.versions[first]? = some one → registry.versions[second]? = some other →
      one.status = .active → other.status = .active → one.direction = other.direction →
        first = second

/-- The part of a version that never changes. -/
def StrategyVersion.identity (version : StrategyVersion) : StrategyVersion :=
  { version with
    status := .applyReady, activatedAt := none, deactivatedAt := none, retiredAt := none,
    retiredReason := none }

/-- A demoted version is still the same version. -/
@[simp] theorem demote_identity (direction : Option Direction) (at_ : String)
    (version : StrategyVersion) :
    (StrategyVersionRegistry.demote direction at_ version).identity = version.identity := by
  unfold StrategyVersionRegistry.demote
  split <;> rfl

/-- Replacing a version by one with the same identity changes no identity. -/
theorem set_identity {index : Nat} {old new : StrategyVersion}
    (found : versions[index]? = some old) (same : new.identity = old.identity) :
    (versions.set index new).map (·.identity) = versions.map (·.identity) := by
  obtain ⟨below, here⟩ := List.getElem?_eq_some_iff.mp found
  apply List.ext_getElem?
  intro place
  rw [List.map_set, List.getElem?_set, List.getElem?_map, List.length_map]
  by_cases at_ : index = place
  · subst at_
    simp only [if_true, below, found, Option.map_some, same]
  · rw [if_neg at_]

/-- A call keeps what the versions are, and may add versions behind them. -/
theorem RegistryChange.identities {registry next : StrategyVersionRegistry} {op : VersionOp}
    (change : RegistryChange registry op next) :
    next.versions.map (·.identity) = registry.versions.map (·.identity) ∨
      ∃ version, version.Fresh registry ∧ next.versions = registry.versions ++ [version] := by
  cases change with
  | unchanged => exact Or.inl rfl
  | registered op version fresh => exact Or.inr ⟨version, fresh, rfl⟩
  | activated strategyVersionId at_ index target found =>
    -- The demoted list has the old identities, and so has the list with the target in it.
    have demoted : (registry.versions.map (StrategyVersionRegistry.demote target.direction
        at_)).map (·.identity) = registry.versions.map (·.identity) := by
      simp [Function.comp_def]
    have there : (registry.versions.map (StrategyVersionRegistry.demote target.direction
        at_))[index]? = some (StrategyVersionRegistry.demote target.direction at_ target) := by
      simp [found]
    refine Or.inl ((set_identity there ?_).trans demoted)
    rw [demote_identity]
    rfl
  | retired strategyVersionId at_ reason index version found =>
    exact Or.inl (set_identity found rfl)

/-- A version of a registry after a call: a new one, or an old one in its place. -/
theorem RegistryChange.version {registry next : StrategyVersionRegistry} {op : VersionOp}
    (change : RegistryChange registry op next) {place : Nat} {version : StrategyVersion}
    (now : next.versions[place]? = some version) :
    version.Fresh registry ∧ registry.versions.length ≤ place ∨
      ∃ old, registry.versions[place]? = some old ∧
        (version = old ∨
          (∃ strategyVersionId at_, op = .markActive strategyVersionId at_ ∧
            (old.status ≠ .retired ∧ version = old.activated at_ ∨
              old.status = .active ∧
                version = { old with status := .previous, deactivatedAt := some at_ })) ∨
          ∃ strategyVersionId at_ reason, op = .markRetired strategyVersionId at_ reason ∧
            registry.versions.find? (·.strategyVersionId = strategyVersionId) = some old ∧
            version = old.retired at_ reason) := by
  cases change with
  | unchanged => exact Or.inr ⟨version, now, Or.inl rfl⟩
  | registered op new fresh =>
    rw [List.getElem?_append] at now
    split at now
    · exact Or.inr ⟨version, now, Or.inl rfl⟩
    · rename_i behind
      rw [List.getElem?_singleton] at now
      split at now
      · obtain rfl := Option.some.inj now
        exact Or.inl ⟨fresh, Nat.le_of_not_lt behind⟩
      · cases now
  | activated strategyVersionId at_ index target found first selectable =>
    rw [List.getElem?_set] at now
    by_cases here : index = place
    · subst here
      rw [if_pos rfl] at now
      split at now
      · obtain rfl := Option.some.inj now
        exact Or.inr ⟨target, found, Or.inr (Or.inl ⟨strategyVersionId, at_, rfl,
          Or.inl ⟨selectable, rfl⟩⟩)⟩
      · cases now
    · rw [if_neg here, List.getElem?_map] at now
      obtain ⟨old, there, rfl⟩ := Option.map_eq_some_iff.mp now
      refine Or.inr ⟨old, there, ?_⟩
      unfold StrategyVersionRegistry.demote
      split
      · rename_i demoted
        exact Or.inr (Or.inl ⟨strategyVersionId, at_, rfl, Or.inr ⟨demoted.1, rfl⟩⟩)
      · exact Or.inl rfl
  | retired strategyVersionId at_ reason index old found first =>
    rw [List.getElem?_set] at now
    by_cases here : index = place
    · subst here
      rw [if_pos rfl] at now
      split at now
      · obtain rfl := Option.some.inj now
        exact Or.inr ⟨old, found, Or.inr (Or.inr ⟨strategyVersionId, at_, reason, rfl, first,
          rfl⟩)⟩
      · cases now
    · rw [if_neg here] at now
      exact Or.inr ⟨version, now, Or.inl rfl⟩

end StrategyLab
