import StrategyLab.Control.VersionRegistryLaws

/-! Runs of a version registry: one active version a direction, and what retirement forgets. -/

namespace StrategyLab

variable {version : StrategyVersion}

/-- A demoted version is no longer active, whatever it was. -/
theorem active_of_demote {direction : Option Direction} {at_ : String}
    (still : (StrategyVersionRegistry.demote direction at_ version).status = .active) :
    StrategyVersionRegistry.demote direction at_ version = version ∧
      version.direction ≠ direction := by
  unfold StrategyVersionRegistry.demote at still ⊢
  split at still
  · cases still
  · rename_i kept
    rw [if_neg kept]
    exact ⟨rfl, fun same => kept ⟨still, same⟩⟩

variable {op : VersionOp} {registry next : StrategyVersionRegistry}

/-- A call leaves at most one version of a direction active. -/
theorem RegistryChange.oneActive
    (change : RegistryChange registry op next) (sound : RegistrySound registry)
    {first second : Nat} {one other : StrategyVersion}
    (here : next.versions[first]? = some one) (there : next.versions[second]? = some other)
    (active : one.status = .active) (alsoActive : other.status = .active)
    (same : one.direction = other.direction) : first = second := by
  cases change with
  | unchanged => exact sound.oneActive first second one other here there active alsoActive same
  | registered op version fresh =>
    -- The version behind the others is not active, so both are old ones.
    have old {place : Nat} {found : StrategyVersion}
        (now : (registry.versions ++ [version])[place]? = some found)
        (active : found.status = .active) : registry.versions[place]? = some found := by
      rw [List.getElem?_append] at now
      split at now
      · exact now
      · rw [List.getElem?_singleton] at now
        split at now
        · obtain rfl := Option.some.inj now
          rw [fresh.status] at active
          cases active
        · cases now
    exact sound.oneActive first second one other (old here active) (old there alsoActive) active
      alsoActive same
  | activated strategyVersionId at_ index target found =>
    -- Apart from the target, active versions are old ones of another direction.
    have old {place : Nat} {found : StrategyVersion} (apart : index ≠ place)
        (now : ((registry.versions.map (StrategyVersionRegistry.demote target.direction at_)).set
          index (target.activated at_))[place]? = some found) (active : found.status = .active) :
        registry.versions[place]? = some found ∧ found.direction ≠ target.direction := by
      rw [List.getElem?_set, if_neg apart, List.getElem?_map] at now
      obtain ⟨before, located, rfl⟩ := Option.map_eq_some_iff.mp now
      obtain ⟨kept, differs⟩ := active_of_demote active
      rw [kept]
      exact ⟨located, differs⟩
    have own {found : StrategyVersion}
        (now : ((registry.versions.map (StrategyVersionRegistry.demote target.direction at_)).set
          index (target.activated at_))[index]? = some found) :
        found.direction = target.direction := by
      rw [List.getElem?_set, if_pos rfl] at now
      split at now
      · obtain rfl := Option.some.inj now
        rfl
      · cases now
    by_cases atFirst : index = first
    · by_cases atSecond : index = second
      · rw [← atFirst, ← atSecond]
      · subst atFirst
        exact absurd (same.symm.trans (own here)) (old atSecond there alsoActive).2
    · by_cases atSecond : index = second
      · subst atSecond
        exact absurd (same.trans (own there)) (old atFirst here active).2
      · exact sound.oneActive first second one other (old atFirst here active).1
          (old atSecond there alsoActive).1 active alsoActive same
  | retired strategyVersionId at_ reason index version found =>
    have old {place : Nat} {found : StrategyVersion}
        (now : (registry.versions.set index (version.retired at_ reason))[place]? = some found)
        (active : found.status = .active) : registry.versions[place]? = some found := by
      rw [List.getElem?_set] at now
      split at now
      · split at now
        · obtain rfl := Option.some.inj now
          cases active
        · cases now
      · exact now
    exact sound.oneActive first second one other (old here active) (old there alsoActive) active
      alsoActive same

/-- Versions with the same identities have the same display ids. -/
theorem displayIds_congr {versions others : List StrategyVersion}
    (same : others.map (·.identity) = versions.map (·.identity)) :
    others.filterMap (·.displayId) = versions.filterMap (·.displayId) := by
  have through (list : List StrategyVersion) : list.filterMap (·.displayId) =
      (list.map (·.identity)).filterMap (·.displayId) := by
    rw [List.filterMap_map]
    rfl
  rw [through others, same, ← through versions]

/-- A call keeps display ids distinct. -/
theorem RegistryChange.displayed (change : RegistryChange registry op next)
    (distinct : (registry.versions.filterMap (·.displayId)).Nodup) :
    (next.versions.filterMap (·.displayId)).Nodup := by
  rcases change.identities with same | ⟨version, fresh, grown⟩
  · rw [displayIds_congr same]
    exact distinct
  · rw [grown, List.filterMap_append]
    cases shown : version.displayId with
    | none => simpa [shown] using distinct
    | some id =>
      have unused := fresh.displayed id shown
      simp only [List.filterMap_cons, List.filterMap_nil, shown]
      refine List.nodup_append.mpr ⟨distinct, List.nodup_singleton id, ?_⟩
      intro used member other single same
      rw [same, List.mem_singleton.mp single] at member
      exact unused member

/-- A call keeps the registry sound. -/
theorem RegistryChange.sound
    (change : RegistryChange registry op next) (sound : RegistrySound registry) :
    RegistrySound next := by
  refine ⟨fun version member => ?_, fun version member => ?_, change.displayed sound.displayed,
    fun first second one other here there active alsoActive same =>
      change.oneActive sound here there active alsoActive same⟩
  · obtain ⟨place, now⟩ := List.mem_iff_getElem?.mp member
    rcases change.version now with ⟨fresh, -⟩ | ⟨old, there, moved⟩
    · exact fresh.mapped
    · have mapped := sound.mapped old (List.mem_of_getElem? there)
      rcases moved with rfl | ⟨-, -, -, ⟨-, rfl⟩ | ⟨-, rfl⟩⟩ | ⟨-, -, -, -, -, rfl⟩
      · exact mapped
      · exact mapped
      · exact mapped
      · exact mapped
  · obtain ⟨place, now⟩ := List.mem_iff_getElem?.mp member
    rcases change.version now with ⟨fresh, -⟩ | ⟨old, there, moved⟩
    · simp only [StrategyVersion.Stamped, fresh.status, fresh.unactivated]
    · rcases moved with rfl | ⟨-, at_, -, ⟨-, rfl⟩ | ⟨-, rfl⟩⟩ | ⟨-, -, -, -, -, rfl⟩
      · exact sound.stamped version (List.mem_of_getElem? there)
      · simp [StrategyVersion.Stamped, StrategyVersion.activated]
      · simp [StrategyVersion.Stamped]
      · simp [StrategyVersion.Stamped, StrategyVersion.retired]

/-- Every version that was activated and is active no longer has been given its time. -/
def EndsNoted (registry : StrategyVersionRegistry) : Prop :=
  ∀ version ∈ registry.versions, version.activatedAt ≠ none → version.status ≠ .active →
    version.deactivatedAt ≠ none

/-- A call that does not retire an active version. -/
def RetiresInactive (registry : StrategyVersionRegistry) : VersionOp → Prop
  | .markRetired strategyVersionId _ _ =>
    ∀ version, registry.get strategyVersionId = .ok version → version.status ≠ .active
  | _ => True

/-- What is asked of the versions throughout a run that starts without any. -/
structure VersionsSound (str : Json → String) (ops : List VersionOp) : Prop where
  oneActive : ∀ before after, ops = before ++ after → ∀ direction,
    (((versionMachine str).run .empty before).versions.filter fun version =>
      version.status = .active ∧ version.direction = direction).length ≤ 1
  kept : ∀ before middle after, ops = before ++ (middle ++ after) →
    ((versionMachine str).run .empty before).versions.map (·.identity) <+:
      ((versionMachine str).run .empty (before ++ middle)).versions.map (·.identity)
  displayed : ∀ before after, ops = before ++ after →
    (((versionMachine str).run .empty before).versions.filterMap (·.displayId)).Nodup
  retired : ∀ before middle after, ops = before ++ (middle ++ after) →
    ∀ (place : Nat) (version later : StrategyVersion),
    ((versionMachine str).run .empty before).versions[place]? = some version →
      version.status = .retired →
        ((versionMachine str).run .empty (before ++ middle)).versions[place]? = some later →
          later.status ≠ .active
  deactivated : ∀ before after, ops = before ++ after →
    EndsNoted ((versionMachine str).run .empty before)

/-- Every call keeps the registry sound. -/
theorem sound_step (str : Json → String) (registry : StrategyVersionRegistry) (op : VersionOp)
    (sound : RegistrySound registry) : RegistrySound ((versionMachine str).next registry op) :=
  (step_change str sound.mapped op).sound sound

/-- Every registry of a run is sound. -/
theorem sound_run (str : Json → String) (ops : List VersionOp) :
    RegistrySound ((versionMachine str).run .empty ops) := by
  refine (versionMachine str).invariant (sound_step str) ops ⟨?_, ?_, ?_, ?_⟩
  · simp [StrategyVersionRegistry.empty]
  · simp [StrategyVersionRegistry.empty]
  · simp [StrategyVersionRegistry.empty]
  · simp [StrategyVersionRegistry.empty]

/-- A condition that holds at one place of a list at most picks at most one item. -/
theorem length_filter_le_one {α : Type*} {items : List α} {cond : α → Bool}
    (single : ∀ (first second : Nat) (one other : α), items[first]? = some one →
      items[second]? = some other → cond one = true → cond other = true → first = second) :
    (items.filter cond).length ≤ 1 := by
  induction items with
  | nil => simp
  | cons item rest ih =>
    have inRest := ih fun first second one other here there met also => by
      have same := single (first + 1) (second + 1) one other here there met also
      omega
    by_cases met : cond item = true
    · -- A second item that meets the condition would be at another place.
      have none : rest.filter cond = [] := by
        rw [List.filter_eq_nil_iff]
        intro other member also
        obtain ⟨place, there⟩ := List.mem_iff_getElem?.mp member
        have same := single 0 (place + 1) item other rfl there met also
        omega
      rw [List.filter_cons_of_pos met, none]
      simp
    · rw [List.filter_cons_of_neg met]
      exact inRest

variable {registry : StrategyVersionRegistry}

/-- A sound registry has at most one active version a direction. -/
theorem RegistrySound.active_le_one
    (sound : RegistrySound registry) (direction : Option Direction) :
    (registry.versions.filter fun version =>
      version.status = .active ∧ version.direction = direction).length ≤ 1 := by
  refine length_filter_le_one fun first second one other here there met also => ?_
  simp only [decide_eq_true_eq] at met also
  exact sound.oneActive first second one other here there met.1 also.1 (met.2.trans also.2.symm)

/-- The identities of a run stay where they are. -/
theorem identities_extended (str : Json → String)
    (sound : RegistrySound registry) (ops : List VersionOp) :
    registry.versions.map (·.identity) <+:
      ((versionMachine str).run registry ops).versions.map (·.identity) := by
  induction ops generalizing registry with
  | nil => exact List.prefix_refl _
  | cons op rest ih =>
    have later := ih (sound_step str registry op sound)
    rcases (step_change str sound.mapped op).identities with same | ⟨version, -, grown⟩
    · rw [same] at later
      exact later
    · rw [grown, List.map_append] at later
      exact (List.prefix_append _ _).trans later

/-- A retired version stays retired, at its place. -/
theorem retired_run (str : Json → String)
    (sound : RegistrySound registry) (ops : List VersionOp) {place : Nat}
    (found : registry.versions[place]? = some version)
    (gone : version.status = .retired) {later : StrategyVersion}
    (now : ((versionMachine str).run registry ops).versions[place]? = some later) :
    later.status = .retired := by
  induction ops generalizing registry version with
  | nil =>
    rw [Machine.run_nil, found] at now
    obtain rfl := Option.some.inj now
    exact gone
  | cons op rest ih =>
    have soundNext := sound_step str registry op sound
    have change := step_change str sound.mapped op
    have below : place < ((versionMachine str).next registry op).versions.length := by
      have inside := (List.getElem?_eq_some_iff.mp found).1
      have lengths := (identities_extended str sound [op]).length_le
      simp only [List.length_map, Machine.run_cons, Machine.run_nil] at lengths
      omega
    have here := List.getElem?_eq_getElem below
    -- Only an activation could take the version out of retirement, and it refuses to.
    refine ih soundNext here ?_ now
    rcases change.version here with ⟨-, behind⟩ | ⟨old, there, moved⟩
    · have inside := (List.getElem?_eq_some_iff.mp found).1
      omega
    · rw [found] at there
      obtain rfl := Option.some.inj there
      rcases moved with same | ⟨_, _, -, ⟨open_, -⟩ | ⟨active, -⟩⟩ | ⟨_, _, _, -, -, again⟩
      · rw [same]
        exact gone
      · exact absurd gone open_
      · rw [gone] at active
        cases active
      · rw [again]
        rfl

/-- A call that retires no active version keeps the ends noted. -/
theorem endsNoted_step
    (change : RegistryChange registry op next) (inactive : RetiresInactive registry op)
    (noted : EndsNoted registry) : EndsNoted next := by
  intro version member activated ended
  obtain ⟨place, now⟩ := List.mem_iff_getElem?.mp member
  rcases change.version now with ⟨fresh, -⟩ | ⟨old, there, moved⟩
  · exact absurd fresh.unactivated activated
  · have before := noted old (List.mem_of_getElem? there)
    rcases moved with rfl | ⟨-, at_, -, ⟨-, rfl⟩ | ⟨-, rfl⟩⟩ | ⟨id, at_, reason, rfl, first, rfl⟩
    · exact before activated ended
    · exact absurd rfl ended
    · simp
    · -- The version was not active when it was retired, so its end was noted before.
      have read : registry.get id = .ok old := by
        simp only [StrategyVersionRegistry.get, first]
      exact before activated (inactive old read)

/-- Retiring an active version leaves it without the time at which it ended. -/
theorem not_endsNoted_step (str : Json → String)
    (sound : RegistrySound registry) (retires : ¬RetiresInactive registry op) :
    ¬EndsNoted ((versionMachine str).next registry op) := by
  cases op with
  | registerApplyReady => exact absurd trivial retires
  | markActive => exact absurd trivial retires
  | roundTrip => exact absurd trivial retires
  | markRetired strategyVersionId at_ reason =>
    simp only [RetiresInactive, not_forall, not_not] at retires
    obtain ⟨version, read, active⟩ := retires
    have first : registry.versions.find? (·.strategyVersionId = strategyVersionId) =
        some version := by
      simp only [StrategyVersionRegistry.get] at read
      split at read
      · rename_i found
        rw [found, Except.ok.inj read]
      · cases read
    have named : decide (version.strategyVersionId = strategyVersionId) = true :=
      @List.find?_some _ (fun held : StrategyVersion =>
        decide (held.strategyVersionId = strategyVersionId)) _ _ first
    obtain ⟨index, located⟩ : ∃ index,
        registry.versions.findIdx? (·.strategyVersionId = strategyVersionId) = some index :=
      ⟨_, List.findIdx?_eq_some_of_exists ⟨version, List.mem_of_find?_eq_some first, named⟩⟩
    obtain ⟨found, there, same⟩ := findIdx?_eq_some located
    rw [first] at same
    obtain rfl := Option.some.inj same
    have next : (versionMachine str).next registry (.markRetired strategyVersionId at_ reason) =
        ⟨registry.versions.set index (version.retired at_ reason)⟩ := by
      simp only [Machine.next, versionMachine, VersionOp.step,
        StrategyVersionRegistry.markRetired, located, there]
      rfl
    rw [next]
    intro noted
    have below := (List.getElem?_eq_some_iff.mp there).1
    have stamped := sound.stamped version (List.mem_of_getElem? there)
    simp only [StrategyVersion.Stamped, active] at stamped
    exact noted _ (List.mem_set below _) stamped.1 (by simp [StrategyVersion.retired]) stamped.2

/-- Throughout a run the versions are sound in every respect exactly when no call retires an active
version; all but the time stamps of retired versions are sound in every run. -/
theorem versions_sound_iff (str : Json → String) (ops : List VersionOp) :
    VersionsSound str ops ↔ (versionMachine str).Guarded RetiresInactive .empty ops := by
  constructor
  · intro sound
    rw [Machine.guarded_iff_split]
    intro before op after split
    by_contra retires
    have noted := sound.deactivated (before ++ [op]) after (by simp [split])
    rw [Machine.run_append] at noted
    exact not_endsNoted_step str (sound_run str before) retires noted
  · intro guarded
    refine ⟨fun before after _ direction => (sound_run str before).active_le_one direction,
      fun before middle after _ => ?_, fun before after _ => (sound_run str before).displayed,
      fun before middle after _ place version later found gone now => ?_,
      fun before after split => ?_⟩
    · rw [Machine.run_append]
      exact identities_extended str (sound_run str before) middle
    · rw [Machine.run_append] at now
      rw [retired_run str (sound_run str before) middle found gone now]
      decide
    · subst split
      have first := ((versionMachine str).guarded_append .empty before after).mp guarded
      -- Soundness goes along, because what a call does is only known of sound registries.
      have both := (versionMachine str).guarded_invariant
        (fun registry op inactive (known : RegistrySound registry ∧ EndsNoted registry) =>
          ⟨sound_step str registry op known.1,
            endsNoted_step (step_change str known.1.mapped op) inactive known.2⟩)
        first.1 ⟨sound_run str [], by simp [EndsNoted, StrategyVersionRegistry.empty]⟩
      exact both.2

/-- A version is registered, activated and then retired. -/
def retiredWhileActive : List VersionOp :=
  [.registerApplyReady "1" "family-1" "run-1" "fingerprint-1" [] [] "2026-09-06T00:00:00Z" none,
    .markActive "strategy-version:1" "2026-09-06T01:00:00Z",
    .markRetired "strategy-version:1" "2026-09-06T02:00:00Z" "superseded"]

/-- A version that is retired while it is active never gets the time at which it ended. -/
theorem retired_while_active_unsound :
    ¬VersionsSound (fun _ => "") retiredWhileActive := by
  intro sound
  have noted := sound.deactivated retiredWhileActive [] (by simp)
  have ended : ((versionMachine fun _ => "").run .empty retiredWhileActive).versions.map
      (fun version => (version.activatedAt, version.status, version.deactivatedAt)) =
        [(some "2026-09-06T01:00:00Z", .retired, none)] := by decide
  obtain ⟨version, only, fields⟩ := List.map_eq_singleton_iff.mp ended
  simp only [Prod.mk.injEq] at fields
  refine noted version (by rw [only]; exact List.mem_singleton_self _) ?_ ?_ fields.2.2
  · rw [fields.1]
    decide
  · rw [fields.2.1]
    decide

end StrategyLab
