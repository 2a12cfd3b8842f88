import StrategyLab.Knowledge.StrategySpace
import StrategyLab.Lib.Raise

/-! Real improvements: when every candidate that is generated differs from its strategy. -/

namespace StrategyLab

open Raise (bind_eq_ok pure_eq_ok)
open RuleBasedBacktestCapabilities (requiredRules supportedRules entryTriggerRules sorted
  unsupportedComponents missingRules unknownRules nonBoolRules triggerGroup)

/-- All of the rules of a specification. -/
def CanonicalStrategySpec.specRules (spec : CanonicalStrategySpec) : SpecRules :=
  ⟨spec.entry, spec.exit, spec.filters⟩

/-- A rule as candidates name it. -/
def RuleComponent.path : RuleComponent → String → String
  | .entry, key => "entry." ++ key
  | .exit, key => "exit." ++ key
  | .filter, key => "filters." ++ key

namespace RuleMap

/-- The value under a key. -/
def value? (rules : RuleMap) (key : String) : Option Py.Value := (rules.get key).map (·.value)

/-- A field that is assigned is under its key, and the others are as before. -/
theorem get_set (rules : RuleMap) (key : String) (field : ProvenancedValue) (other : String) :
    (rules.set key field).get other = if other = key then some field else rules.get other := by
  unfold get set
  rw [Table.find?_replace]
  split
  · rfl
  · rfl

/-- A value that is assigned is under its key, and the others are as before. -/
theorem value?_set (rules : RuleMap) (key : String) (field : ProvenancedValue) (other : String) :
    (rules.set key field).value? other =
      if other = key then some field.value else rules.value? other := by
  unfold value?
  rw [get_set]
  split
  · rfl
  · rfl

/-- A key is one of the rules exactly if there is a field under it. -/
theorem mem_keys_iff {rules : RuleMap} {key : String} :
    key ∈ rules.keys ↔ (rules.get key).isSome := by
  unfold keys get
  rw [Option.isSome_map, List.mem_map, Option.isSome_iff_exists]
  exact exists_congr fun row => Table.find?_eq_some_iff.symm

/-- The values are those under the keys. -/
theorem mem_values_iff {rules : RuleMap} {key : String} {value : Py.Value} :
    (key, value) ∈ rules.values ↔ rules.value? key = some value := by
  unfold values value? get
  simp only [List.mem_map, Py.mem_sortedBy, Prod.mk.injEq, Option.map_map,
    Option.map_eq_some_iff, Function.comp_apply, Table.find?_eq_some_iff]
  exact exists_congr fun row => by rw [and_assoc]

/-- Rules with the same values under all keys have the same values. -/
theorem values_eq_iff {left right : RuleMap} :
    left.values = right.values ↔ ∀ key, left.value? key = right.value? key := by
  constructor
  · intro same key
    refine Option.ext fun value => ?_
    rw [← mem_values_iff, ← mem_values_iff, same]
  · intro same
    -- Both lists rise in their keys, so they are equal if they have the same members.
    have rising : ∀ rules : RuleMap, rules.values.Pairwise fun one other => one.1 < other.1 := by
      intro rules
      have never := Py.sortedBy_pairwise StrategyRule.key rules.rows
      have distinct : ((Py.sortedBy StrategyRule.key rules.rows).map StrategyRule.key).Nodup :=
        ((Py.sortedBy_perm StrategyRule.key rules.rows).map _).nodup_iff.mpr rules.distinct
      refine List.pairwise_map.mpr ((never.and (List.pairwise_map.mp distinct)).imp ?_)
      exact fun both => lt_of_le_of_ne both.1 both.2
    have irreflexive : Std.Irrefl fun one other : String × Py.Value => one.1 < other.1 :=
      ⟨fun one => lt_irrefl one.1⟩
    have asymmetric : Std.Antisymm fun one other : String × Py.Value => one.1 < other.1 :=
      ⟨fun one other less greater => absurd less (lt_asymm greater)⟩
    refine List.Pairwise.eq_of_mem_iff (rising left) (rising right) fun entry => ?_
    rw [mem_values_iff, mem_values_iff, same]

end RuleMap

/-- What the digest of a family is taken of. -/
def SpecRules.payload (rules : SpecRules) : Json :=
  .obj [("entry", valuesJson rules.entry.values), ("exit", valuesJson rules.exit.values),
    ("filters", valuesJson rules.filters.values)]

namespace CanonicalStrategySpec

/-- The identity of the rules of a specification. -/
def strategyFamilyFingerprint (sha : Json → String) (spec : CanonicalStrategySpec) : String :=
  spec.specRules.strategyFamilyFingerprint sha

/-- Whether two specifications have the same values under all keys. -/
def SameValues (left right : CanonicalStrategySpec) : Prop :=
  ∀ component key, (left.rules component).value? key = (right.rules component).value? key

/-- The lookbacks of a specification. -/
def lookbackRules : List (RuleComponent × String) :=
  [(.entry, "breakout_lookback"), (.entry, "mean_reversion_ma_lookback"),
    (.entry, "momentum_roc_lookback"), (.entry, "volatility_atr_lookback"),
    (.exit, "channel_exit_lookback"), (.filter, "relative_strength_lookback"),
    (.filter, "regime_ma_lookback")]

/-- The lookbacks are positive integers. -/
def PositiveLookbacks (spec : CanonicalStrategySpec) : Prop :=
  ∀ rule ∈ lookbackRules, ∀ value, (spec.rules rule.1).value? rule.2 = some value →
    ∃ n : Int, 0 < n ∧ value = .int n

end CanonicalStrategySpec

/-- No two of some specifications have one digest for different rules. -/
def NoCollision (sha : Json → String) (specs : List CanonicalStrategySpec) : Prop :=
  ∀ left ∈ specs, ∀ right ∈ specs,
    left.strategyFamilyFingerprint sha = right.strategyFamilyFingerprint sha →
    left.specRules.payload = right.specRules.payload

/-- Every candidate is a specification that is accepted, differs from its strategy in the value of
the rule it names and in no other, and has an identity of its own. -/
structure RealImprovements (numerals : Py.Numerals) (sha : Json → String)
    (strategy : CanonicalStrategySpec) (candidates : List ImprovementCandidate) : Prop where
  accepted : ∀ candidate ∈ candidates,
    RuleBasedBacktestCapabilities.validate numerals candidate.strategy = .ok ()
  changed : ∀ candidate ∈ candidates, ∀ component key,
    (candidate.strategy.rules component).value? key ≠ (strategy.rules component).value? key ↔
      component.path key ∈ candidate.changedFields
  ofParent : ∀ candidate ∈ candidates,
    candidate.strategy.strategyFamilyFingerprint sha ≠ strategy.strategyFamilyFingerprint sha
  ofOthers : (candidates.map fun candidate =>
    candidate.strategy.strategyFamilyFingerprint sha).Nodup

/-- A strategy that has none of the values that its candidates are given. -/
structure Improvable (strategy : CanonicalStrategySpec) : Prop where
  breakout : strategy.entry.value? "breakout_lookback" ≠ some (.int 30)
  channel : strategy.exit.value? "channel_exit_lookback" ≠ some (.int 15)
  volume : strategy.filters.value? "volume_gte_ma20" ≠ some (.bool false)

section Identity

variable {left right : CanonicalStrategySpec} {sha : Json → String}

/-- Values as JSON tell the values apart. -/
theorem valuesJson_injective : Function.Injective valuesJson := by
  intro left right same
  unfold valuesJson at same
  refine List.map_injective_iff.mpr ?_ (Json.obj.inj same)
  rintro ⟨key, value⟩ ⟨other, value'⟩ equal
  cases value <;> cases value' <;> simp_all

/-- The payloads are the same exactly if the values are. -/
theorem payload_eq_iff : left.specRules.payload = right.specRules.payload ↔
    left.SameValues right := by
  have parts : left.specRules.payload = right.specRules.payload ↔
      left.entry.values = right.entry.values ∧ left.exit.values = right.exit.values ∧
        left.filters.values = right.filters.values := by
    unfold SpecRules.payload CanonicalStrategySpec.specRules
    simp [valuesJson_injective.eq_iff]
  rw [parts, RuleMap.values_eq_iff, RuleMap.values_eq_iff, RuleMap.values_eq_iff]
  constructor
  · rintro ⟨entry, exit, filters⟩ component key
    cases component with
    | entry => exact entry key
    | exit => exact exit key
    | filter => exact filters key
  · intro same
    exact ⟨same .entry, same .exit, same .filter⟩

/-- Specifications with the same values have one identity. -/
theorem fingerprint_of_sameValues (same : left.SameValues right) :
    left.strategyFamilyFingerprint sha = right.strategyFamilyFingerprint sha :=
  congrArg sha (payload_eq_iff.mpr same)

end Identity

section Acceptance

variable {numerals : Py.Numerals} {spec : CanonicalStrategySpec}

/-- What the engine requires of a specification that it can interpret. -/
structure Interpretable (numerals : Py.Numerals) (spec : CanonicalStrategySpec) : Prop where
  required : ∀ component, component ≠ .filter → ∀ key ∈ requiredRules numerals component,
    ((spec.rules component).get key).isSome
  supported : ∀ component key, ((spec.rules component).get key).isSome →
    key ∈ supportedRules numerals component
  boolean : ∀ definition ∈ backtestRuleDefinitions numerals, definition.isPredicate →
    ∀ field, (spec.rules definition.component).get definition.key = some field →
      field.value.isBool
  single : ((entryTriggerRules numerals).filter fun key =>
    (spec.entry.get key).isSome).length = 1

/-- Sorting leaves nothing exactly if there is nothing. -/
theorem sorted_eq_nil_iff {keys : List String} : sorted keys = [] ↔ keys = [] := by
  unfold sorted
  rw [← List.length_eq_zero_iff, ← List.length_eq_zero_iff, List.length_insertionSort]

/-- The trigger group is in order exactly if there is one trigger. -/
theorem triggerGroup_eq_nil_iff : triggerGroup numerals spec = [] ↔
    ((entryTriggerRules numerals).filter fun key => (spec.entry.get key).isSome).length = 1 := by
  have same : ((entryTriggerRules numerals).filter fun key => decide (key ∈ spec.entry.keys)) =
      (entryTriggerRules numerals).filter fun key => (spec.entry.get key).isSome :=
    List.filter_congr fun key _ => by rw [Bool.decide_congr RuleMap.mem_keys_iff]; simp
  have length : (sorted ((entryTriggerRules numerals).filter fun key =>
      decide (key ∈ spec.entry.keys))).length =
        ((entryTriggerRules numerals).filter fun key => (spec.entry.get key).isSome).length := by
    unfold sorted
    rw [List.length_insertionSort, same]
  rw [← length]
  unfold triggerGroup
  split
  · rename_i empty
    simp [empty]
  · rename_i single
    simp [single]
  · rename_i present some_ other
    constructor
    · intro empty
      exact absurd (List.map_eq_nil_iff.mp empty) some_
    · intro one
      obtain ⟨key, only⟩ := List.length_eq_one_iff.mp one
      exact absurd only (other key)

/-- A specification is accepted exactly if the engine can interpret it. -/
theorem validate_eq_ok_iff :
    RuleBasedBacktestCapabilities.validate numerals spec = .ok () ↔
      Interpretable numerals spec := by
  have none_ : RuleBasedBacktestCapabilities.validate numerals spec = .ok () ↔
      unsupportedComponents numerals spec = [] := by
    unfold RuleBasedBacktestCapabilities.validate
    split
    · rename_i empty
      simp [empty]
    · rename_i some_
      simp only [reduceCtorEq, false_iff]
      exact some_
  have missing : ∀ component, missingRules numerals spec component = [] ↔
      ∀ key ∈ requiredRules numerals component, ((spec.rules component).get key).isSome := by
    intro component
    unfold missingRules
    rw [List.map_eq_nil_iff, sorted_eq_nil_iff, List.filter_eq_nil_iff]
    refine forall₂_congr fun key _ => ?_
    rw [decide_eq_true_eq, not_not, RuleMap.mem_keys_iff]
  have unknown : ∀ component, unknownRules numerals spec component = [] ↔
      ∀ key, ((spec.rules component).get key).isSome → key ∈ supportedRules numerals component := by
    intro component
    unfold unknownRules
    rw [List.map_eq_nil_iff, sorted_eq_nil_iff, List.filter_eq_nil_iff]
    refine forall_congr' fun key => ?_
    rw [decide_eq_true_eq, not_not, RuleMap.mem_keys_iff]
  have boolean : nonBoolRules numerals spec = [] ↔
      ∀ definition ∈ backtestRuleDefinitions numerals, definition.isPredicate →
        ∀ field, (spec.rules definition.component).get definition.key = some field →
          field.value.isBool := by
    unfold nonBoolRules
    rw [List.filterMap_eq_nil_iff]
    simp only [List.mem_insertionSort, List.mem_filter, and_imp]
    refine forall₃_congr fun definition _ _ => ?_
    cases (spec.rules definition.component).get definition.key with
    | none => simp
    | some field => simp
  rw [none_]
  unfold unsupportedComponents
  simp only [List.append_eq_nil_iff, missing, unknown, boolean, triggerGroup_eq_nil_iff]
  constructor
  · rintro ⟨⟨⟨⟨⟨⟨entry, exit⟩, knownEntry⟩, knownExit⟩, knownFilter⟩, bools⟩, single⟩
    refine ⟨fun component other => ?_, fun component => ?_, bools, single⟩
    · cases component with
      | entry => exact entry
      | exit => exact exit
      | filter => exact absurd rfl other
    · cases component with
      | entry => exact knownEntry
      | exit => exact knownExit
      | filter => exact knownFilter
  · intro able
    exact ⟨⟨⟨⟨⟨⟨able.required .entry (by decide), able.required .exit (by decide)⟩,
      able.supported .entry⟩, able.supported .exit⟩, able.supported .filter⟩, able.boolean⟩,
      able.single⟩

end Acceptance

/-- A candidate assigns one field, and names the rule of it. -/
def Sets (strategy : CanonicalStrategySpec) (candidate : ImprovementCandidate)
    (component : RuleComponent) (key : String) (field : ProvenancedValue) : Prop :=
  (∀ other, candidate.strategy.rules other =
    if other = component then (strategy.rules component).set key field
    else strategy.rules other) ∧
  candidate.changedFields = [component.path key]

section Candidates

variable {numerals : Py.Numerals} {strategy : CanonicalStrategySpec}
  {candidate : ImprovementCandidate} {component : RuleComponent} {key : String}
  {field : ProvenancedValue}

/-- The names of rules tell the rules apart. -/
theorem path_injective {component other : RuleComponent} {key key' : String}
    (same : component.path key = other.path key') : component = other ∧ key = key' := by
  have chars := congrArg String.toList same
  cases component <;> cases other <;>
    simp only [RuleComponent.path, String.toList_append] at chars
  all_goals first
    | exact ⟨rfl, String.toList_injective (List.append_cancel_left chars)⟩
    | simp at chars

section Sets

variable (sets : Sets strategy candidate component key field)

include sets

/-- The values of a candidate are those of its strategy, but for the rule that it sets. -/
theorem Sets.value? (component' : RuleComponent) (key' : String) :
    (candidate.strategy.rules component').value? key' =
      if component' = component ∧ key' = key then some field.value
      else (strategy.rules component').value? key' := by
  rw [sets.1]
  by_cases here : component' = component
  · subst here
    rw [if_pos rfl, RuleMap.value?_set]
    simp
  · rw [if_neg here, if_neg (fun both => here both.1)]

/-- The fields of a candidate are those of its strategy, but for the rule that it sets. -/
theorem Sets.get (component' : RuleComponent) (key' : String) :
    (candidate.strategy.rules component').get key' =
      if component' = component ∧ key' = key then some field
      else (strategy.rules component').get key' := by
  rw [sets.1]
  by_cases here : component' = component
  · subst here
    rw [if_pos rfl, RuleMap.get_set]
    simp
  · rw [if_neg here, if_neg (fun both => here both.1)]

/-- A candidate differs from its strategy in exactly the rule that it names, if it differs there. -/
theorem Sets.changed (differs : (strategy.rules component).value? key ≠ some field.value)
    (component' : RuleComponent) (key' : String) :
    (candidate.strategy.rules component').value? key' ≠ (strategy.rules component').value? key' ↔
      component'.path key' ∈ candidate.changedFields := by
  rw [sets.value?, sets.2, List.mem_singleton]
  by_cases here : component' = component ∧ key' = key
  · obtain ⟨rfl, rfl⟩ := here
    simp [Ne.symm differs]
  · rw [if_neg here]
    constructor
    · intro other
      exact absurd rfl other
    · intro same
      exact absurd (path_injective same) here

/-- A candidate that differs from its strategy only in the rule that it names differs there. -/
theorem Sets.differs (changed : ∀ component' key',
      (candidate.strategy.rules component').value? key' ≠
        (strategy.rules component').value? key' ↔ component'.path key' ∈ candidate.changedFields) :
    (strategy.rules component).value? key ≠ some field.value := by
  have named : component.path key ∈ candidate.changedFields := by
    rw [sets.2]
    exact List.mem_singleton_self _
  have other := (changed component key).mpr named
  rw [sets.value?, if_pos ⟨rfl, rfl⟩] at other
  exact Ne.symm other

/-- A candidate that differs from its strategy does not have the same values. -/
theorem Sets.not_sameValues (differs : (strategy.rules component).value? key ≠ some field.value) :
    ¬candidate.strategy.SameValues strategy := by
  intro same
  have equal := same component key
  rw [sets.value?, if_pos ⟨rfl, rfl⟩] at equal
  exact differs equal.symm

end Sets

/-- Candidates that change rules of different parts do not have the same values. -/
theorem Sets.apart {other : ImprovementCandidate} {component' : RuleComponent} {key' : String}
    {field' : ProvenancedValue} (sets : Sets strategy candidate component key field)
    (otherSets : Sets strategy other component' key' field') (parts : component ≠ component')
    (differs : (strategy.rules component).value? key ≠ some field.value) :
    ¬candidate.strategy.SameValues other.strategy := by
  intro same
  have equal := same component key
  rw [sets.value?, otherSets.value?, if_pos ⟨rfl, rfl⟩, if_neg (fun both => parts both.1)] at equal
  exact differs equal.symm

/-- The keys of the gates. -/
def predicateRules : List String :=
  ["close_gt_ma20", "ma20_gt_ma60", "volume_gte_ma20", "relative_strength_min",
    "regime_bullish_only"]

/-- A gate has the key of one. -/
theorem key_of_predicate {definition : BacktestRuleDefinition}
    (member : definition ∈ backtestRuleDefinitions numerals) (predicate : definition.isPredicate) :
    definition.key ∈ predicateRules := by
  have keys : ((backtestRuleDefinitions numerals).filter (·.isPredicate)).map (·.key) =
      predicateRules := rfl
  rw [← keys]
  exact List.mem_map_of_mem (List.mem_filter.mpr ⟨member, predicate⟩)

/-- No entry trigger is a gate. -/
theorem not_predicate_of_trigger (known : key ∈ entryTriggerRules numerals) :
    key ∉ predicateRules := by
  have triggers : entryTriggerRules numerals = ["breakout_lookback",
    "mean_reversion_ma_lookback", "momentum_roc_lookback", "volatility_atr_lookback"] := rfl
  rw [triggers] at known
  simp only [List.mem_cons, List.not_mem_nil, or_false] at known
  rcases known with rfl | rfl | rfl | rfl
  all_goals decide

/-- A candidate can be interpreted if its strategy can, it sets a rule that the engine supports, a
gate only to a truth value, and a trigger only where there is one. -/
theorem Sets.interpretable (sets : Sets strategy candidate component key field)
    (able : Interpretable numerals strategy) (supported : key ∈ supportedRules numerals component)
    (boolean : ∀ definition ∈ backtestRuleDefinitions numerals, definition.isPredicate →
      definition.component = component → definition.key = key → field.value.isBool)
    (trigger : component = .entry → (strategy.entry.get key).isSome) :
    Interpretable numerals candidate.strategy := by
  refine ⟨fun component' other key' required => ?_, fun component' key' there => ?_,
    fun definition member predicate field' found => ?_, ?_⟩
  · rw [sets.get]
    split
    · rfl
    · exact able.required component' other key' required
  · rw [sets.get] at there
    split at there
    · rename_i here
      exact here.1 ▸ here.2 ▸ supported
    · exact able.supported component' key' there
  · rw [sets.get] at found
    split at found
    · rename_i here
      obtain rfl := Option.some.inj found
      exact boolean definition member predicate here.1 here.2
    · exact able.boolean definition member predicate field' found
  · rw [← able.single]
    refine congrArg List.length (List.filter_congr fun key' _ => ?_)
    have entry := sets.get .entry key'
    change candidate.strategy.entry.get key' = _ at entry
    rw [entry]
    split
    · rename_i here
      rw [here.2]
      exact (trigger here.1.symm).symm
    · rfl

/-- The candidate for the exit sets the channel. -/
theorem sets_exitCandidate (strategy : CanonicalStrategySpec) (runId createdAt : String) :
    Sets strategy (ImprovementCandidateGenerator.exitCandidate strategy runId createdAt) .exit
      "channel_exit_lookback" ⟨.int 15, .researchCandidate⟩ := by
  refine ⟨fun other => ?_, rfl⟩
  cases other with
  | entry => rfl
  | exit => rfl
  | filter => rfl

/-- The candidate for the volume sets its filter. -/
theorem sets_volumeCandidate (strategy : CanonicalStrategySpec) (runId createdAt : String) :
    Sets strategy (ImprovementCandidateGenerator.volumeCandidate strategy runId createdAt) .filter
      "volume_gte_ma20" ⟨.bool false, .researchCandidate⟩ := by
  refine ⟨fun other => ?_, rfl⟩
  cases other with
  | entry => rfl
  | exit => rfl
  | filter => rfl

/-- There is one candidate for the entry: it sets the breakout to thirty days, or widens the other
trigger of the strategy. -/
theorem entryCandidate_of_interpretable (able : Interpretable numerals strategy)
    (positive : strategy.PositiveLookbacks) (runId createdAt : String) :
    ∃ first trigger n, ImprovementCandidateGenerator.entryCandidate strategy runId createdAt
        numerals = .ok [first] ∧
      Sets strategy first .entry trigger ⟨.int n, .researchCandidate⟩ ∧
      (strategy.entry.get trigger).isSome ∧ trigger ∈ entryTriggerRules numerals ∧
      ((trigger = "breakout_lookback" ∧ n = 30) ∨
        strategy.entry.value? "breakout_lookback" = none ∧
          ∃ m, strategy.entry.value? trigger = some (.int m) ∧ n = m + 10) := by
  unfold ImprovementCandidateGenerator.entryCandidate
  dsimp only
  by_cases breakout : (strategy.entry.get "breakout_lookback").isSome = true
  · rw [if_pos breakout]
    refine ⟨_, "breakout_lookback", 30, rfl, ⟨fun other => ?_, rfl⟩, breakout, ?_, .inl ⟨rfl, rfl⟩⟩
    · cases other with
      | entry => rfl
      | exit => rfl
      | filter => rfl
    · exact List.mem_cons_self
  · rw [if_neg breakout]
    cases found : (entryTriggerRules numerals).find? fun key =>
        decide (key ∈ strategy.entry.keys) with
    | none =>
      -- One of the triggers is there.
      have some_ : 0 < ((entryTriggerRules numerals).filter fun key =>
          (strategy.entry.get key).isSome).length := by
        rw [able.single]
        exact Nat.one_pos
      obtain ⟨key, member⟩ := List.exists_mem_of_length_pos some_
      obtain ⟨known, there⟩ := List.mem_filter.mp member
      have absent := List.find?_eq_none.mp found key known
      simp [RuleMap.mem_keys_iff, there] at absent
    | some trigger =>
      have known := List.mem_of_find?_eq_some found
      have there : (strategy.entry.get trigger).isSome := by
        have inside := List.find?_some found
        rwa [decide_eq_true_eq, RuleMap.mem_keys_iff] at inside
      obtain ⟨field, stored⟩ := Option.isSome_iff_exists.mp there
      have value : strategy.entry.value? trigger = some field.value := by
        rw [RuleMap.value?, stored, Option.map_some]
      have lookback : (RuleComponent.entry, trigger) ∈ CanonicalStrategySpec.lookbackRules := by
        have triggers : entryTriggerRules numerals = ["breakout_lookback",
          "mean_reversion_ma_lookback", "momentum_roc_lookback", "volatility_atr_lookback"] := rfl
        rw [triggers] at known
        simp only [List.mem_cons, List.not_mem_nil, or_false] at known
        rcases known with rfl | rfl | rfl | rfl
        all_goals simp [CanonicalStrategySpec.lookbackRules]
      obtain ⟨m, -, isInt⟩ := positive _ lookback field.value value
      have required : strategy.entry.require trigger = .ok field := by
        rw [RuleMap.require, stored]
        rfl
      have read : field.toInt numerals = .ok m := by
        rw [ProvenancedValue.toInt, isInt]
        rfl
      have current : (strategy.entry.require trigger >>= fun field => field.toInt numerals) =
          .ok m := by
        rw [required]
        exact read
      dsimp only
      rw [current]
      refine ⟨_, trigger, m + 10, rfl, ⟨fun other => ?_, ?_⟩, there, known,
        .inr ⟨?_, m, ?_, rfl⟩⟩
      · cases other with
        | entry => rfl
        | exit => rfl
        | filter => rfl
      · rfl
      · rw [RuleMap.value?, Option.not_isSome_iff_eq_none.mp breakout, Option.map_none]
      · rw [value, isInt]

end Candidates

/-- Specifications with distinct digests do not collide. -/
theorem noCollision_of_nodup {sha : Json → String} {specs : List CanonicalStrategySpec}
    (distinct : (specs.map fun spec => spec.strategyFamilyFingerprint sha).Nodup) :
    NoCollision sha specs := by
  intro left inLeft right inRight same
  rw [List.inj_on_of_nodup_map distinct inLeft inRight same]

/-- The candidates of an accepted strategy are real improvements exactly if the strategy has none of
the values that they are given, as long as no two digests collide. -/
theorem realImprovements_iff_improvable (numerals : Py.Numerals) (sha : Json → String)
    (strategy : CanonicalStrategySpec) (runId createdAt : String)
    (candidates : List ImprovementCandidate)
    (accepted : RuleBasedBacktestCapabilities.validate numerals strategy = .ok ())
    (positive : strategy.PositiveLookbacks)
    (generated : ImprovementCandidateGenerator.generate strategy runId createdAt numerals =
      .ok candidates)
    (clean : NoCollision sha (strategy :: candidates.map (·.strategy))) :
    RealImprovements numerals sha strategy candidates ↔ Improvable strategy := by
  have able := validate_eq_ok_iff.mp accepted
  obtain ⟨first, trigger, n, made, sets, there, known, given⟩ :=
    entryCandidate_of_interpretable able positive runId createdAt
  have exits := sets_exitCandidate strategy runId createdAt
  have volumes := sets_volumeCandidate strategy runId createdAt
  obtain rfl : [first, ImprovementCandidateGenerator.exitCandidate strategy runId createdAt,
      ImprovementCandidateGenerator.volumeCandidate strategy runId createdAt] = candidates := by
    unfold ImprovementCandidateGenerator.generate at generated
    rw [made] at generated
    exact Except.ok.inj generated
  constructor
  · intro real
    have changed := real.changed
    simp only [List.mem_cons, List.not_mem_nil, or_false, forall_eq_or_imp, forall_eq] at changed
    refine ⟨fun thirty => ?_, exits.differs changed.2.1, volumes.differs changed.2.2⟩
    -- Another trigger is widened only where there is no breakout.
    rcases given with ⟨rfl, rfl⟩ | ⟨absent, -⟩
    · exact sets.differs changed.1 thirty
    · rw [absent] at thirty
      cases thirty
  · intro improvable
    have widened : (strategy.rules .entry).value? trigger ≠ some (.int n) := by
      rcases given with ⟨rfl, rfl⟩ | ⟨-, m, value, rfl⟩
      · exact improvable.breakout
      · intro same
        have equal := value.symm.trans same
        simp at equal
    have channel : (strategy.rules .exit).value? "channel_exit_lookback" ≠ some (.int 15) :=
      improvable.channel
    have volume : (strategy.rules .filter).value? "volume_gte_ma20" ≠ some (.bool false) :=
      improvable.volume
    have apart : ∀ {left right : CanonicalStrategySpec},
        left ∈ strategy :: [first, ImprovementCandidateGenerator.exitCandidate strategy runId
          createdAt, ImprovementCandidateGenerator.volumeCandidate strategy runId
          createdAt].map (·.strategy) →
        right ∈ strategy :: [first, ImprovementCandidateGenerator.exitCandidate strategy runId
          createdAt, ImprovementCandidateGenerator.volumeCandidate strategy runId
          createdAt].map (·.strategy) →
        ¬left.SameValues right →
        left.strategyFamilyFingerprint sha ≠ right.strategyFamilyFingerprint sha :=
      fun inLeft inRight differ same => differ (payload_eq_iff.mp (clean _ inLeft _ inRight same))
    refine ⟨?_, ?_, ?_, ?_⟩
    · simp only [List.mem_cons, List.not_mem_nil, or_false, forall_eq_or_imp, forall_eq]
      refine ⟨validate_eq_ok_iff.mpr (sets.interpretable able ?_ ?_ fun _ => there),
        validate_eq_ok_iff.mpr (exits.interpretable able ?_ ?_ fun entry => by cases entry),
        validate_eq_ok_iff.mpr (volumes.interpretable able ?_ ?_ fun entry => by cases entry)⟩
      · exact able.supported .entry trigger there
      · intro definition member predicate _ same
        have gate := key_of_predicate member predicate
        rw [same] at gate
        exact absurd gate (not_predicate_of_trigger known)
      · exact List.mem_cons_of_mem _ List.mem_cons_self
      · intro definition member predicate _ same
        have gate := key_of_predicate member predicate
        rw [same] at gate
        exact absurd gate (by decide)
      · exact List.mem_cons_self
      · exact fun definition member predicate _ same => rfl
    · simp only [List.mem_cons, List.not_mem_nil, or_false, forall_eq_or_imp, forall_eq]
      exact ⟨sets.changed widened, exits.changed channel, volumes.changed volume⟩
    · simp only [List.mem_cons, List.not_mem_nil, or_false, forall_eq_or_imp, forall_eq]
      exact ⟨apart (by simp) (by simp) (sets.not_sameValues widened),
        apart (by simp) (by simp) (exits.not_sameValues channel),
        apart (by simp) (by simp) (volumes.not_sameValues volume)⟩
    · simp only [List.map_cons, List.map_nil, List.nodup_cons, List.mem_cons, List.not_mem_nil,
        or_false, not_or, not_false_eq_true, List.nodup_nil, and_true]
      exact ⟨⟨apart (by simp) (by simp) (sets.apart exits (by decide) widened),
        apart (by simp) (by simp) (sets.apart volumes (by decide) widened)⟩,
        apart (by simp) (by simp) (exits.apart volumes (by decide) channel)⟩

/-- A breakout strategy with a stop and a channel exit. -/
def breakoutStrategy (lookback channel : Int) : CanonicalStrategySpec where
  specId := "spec-1"
  symbol := "005930"
  entry := userRules [("breakout_lookback", .int lookback)]
  exit := userRules [("channel_exit_lookback", .int channel), ("protective_stop_pct", .int (-5))]
  filters := userRules []
  sourceText := "breakout"
  createdAt := "2026-07-24T00:00:00Z"

/-- The candidates of a strategy. -/
def candidatesOf (strategy : CanonicalStrategySpec) : List ImprovementCandidate :=
  match ImprovementCandidateGenerator.generate strategy "run" "2026-07-24T00:00:01Z" noNumerals with
  | .ok candidates => candidates
  | .error _ => []

/-- The SHA-256 of the rules of a breakout strategy and of those of its candidates. -/
def breakoutDigest (payload : Json) : String :=
  if payload.same (breakoutStrategy 20 10).specRules.payload then
    "d5e70461913b10ba050b08a144a38a46e3c640c0eff780cc3d30c399060754f7"
  else if payload.same (breakoutStrategy 30 10).specRules.payload then
    "9a20ba221470cc4773b05c5ad1bf3ee78463c1e10e69742de7d51c1002578333"
  else if payload.same (breakoutStrategy 20 15).specRules.payload then
    "58b1ad064733d52da970a31263492a1bdb75aaf9fc83203dc4838c4a85b59d22"
  else "da23dc273f513578961db349bb1ca8563a86079cd04e6987672af7735da0fee8"

/-- The lookbacks of a breakout strategy are positive integers if those that it is made with are. -/
theorem positive_breakoutStrategy {lookback channel : Int} (entry : 0 < lookback)
    (exit : 0 < channel) : (breakoutStrategy lookback channel).PositiveLookbacks := by
  intro rule member value there
  simp only [CanonicalStrategySpec.lookbackRules, List.mem_cons, List.not_mem_nil, or_false]
    at member
  rcases member with rfl | rfl | rfl | rfl | rfl | rfl | rfl
  · exact ⟨lookback, entry, (Option.some.inj there).symm⟩
  · cases there
  · cases there
  · cases there
  · exact ⟨channel, exit, (Option.some.inj there).symm⟩
  · cases there
  · cases there

/-- The candidates of a breakout over twenty days are real improvements. -/
theorem breakout_improved : RealImprovements noNumerals breakoutDigest (breakoutStrategy 20 10)
    (candidatesOf (breakoutStrategy 20 10)) :=
  (realImprovements_iff_improvable noNumerals breakoutDigest (breakoutStrategy 20 10) "run"
    "2026-07-24T00:00:01Z" (candidatesOf (breakoutStrategy 20 10)) (by decide +kernel)
    (positive_breakoutStrategy (by decide) (by decide)) (by rfl)
    (noCollision_of_nodup (by decide +kernel))).mpr
    ⟨by decide +kernel, by decide +kernel, by decide +kernel⟩

/-- A breakout over thirty days that is left at the low of fifteen is accepted, but the candidates
for its entry and its exit are the strategy itself. -/
theorem slow_breakout_not_improved :
    RuleBasedBacktestCapabilities.validate noNumerals (breakoutStrategy 30 15) = .ok () ∧
    (breakoutStrategy 30 15).PositiveLookbacks ∧
    ImprovementCandidateGenerator.generate (breakoutStrategy 30 15) "run" "2026-07-24T00:00:01Z"
      noNumerals = .ok (candidatesOf (breakoutStrategy 30 15)) ∧
    ¬RealImprovements noNumerals breakoutDigest (breakoutStrategy 30 15)
      (candidatesOf (breakoutStrategy 30 15)) := by
  refine ⟨by decide +kernel, positive_breakoutStrategy (by decide) (by decide), by rfl, ?_⟩
  intro real
  have exits := sets_exitCandidate (breakoutStrategy 30 15) "run" "2026-07-24T00:00:01Z"
  have member : ImprovementCandidateGenerator.exitCandidate (breakoutStrategy 30 15) "run"
      "2026-07-24T00:00:01Z" ∈ candidatesOf (breakoutStrategy 30 15) :=
    List.mem_cons_of_mem _ List.mem_cons_self
  exact exits.differs (real.changed _ member) (by decide +kernel)

end StrategyLab
