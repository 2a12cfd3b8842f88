import StrategyLab.Research.RealImprovements
import StrategyLab.Research.SampleExhaustion
import StrategyLab.Lib.SortedJson

/-! Candidate rules read back: the two ways from stored rules to a specification, and what of the
original one is left. -/

namespace StrategyLab.CandidateRules

open RuleBasedBacktestCapabilities (requiredRules supportedRules entryTriggerRules sorted
  unsupportedComponents missingRules unknownRules nonBoolRules triggerGroup)

/-- What reading stored rules can raise. -/
inductive ReadError where
  | keyError (key : String)
  | typeError
  | valueError
  deriving DecidableEq, Repr

/-- A JSON value as the value of a rule; others than scalars have no place in its type. -/
def scalar? : Json → Option Py.Value
  | .bool value => some (.bool value)
  | .int value => some (.int value)
  | .float value => some (.float value)
  | .str value => some (.str value)
  | _ => none

/-- All provenances. -/
def provenances : List FieldProvenance :=
  [.userProvided, .default, .derived, .fixture, .real, .researchCandidate]

/-- The provenance of a text; other texts are refused. -/
def provenance (text : String) : Except ReadError FieldProvenance :=
  match provenances.find? (·.text = text) with
  | some known => .ok known
  | none => .error .valueError

/-- One stored rule; a rule without a provenance came from research. -/
def field (str : Json → String) : Json → Except ReadError ProvenancedValue
  | .obj raw => do
    match raw.lookup "value" with
    | none => .error (.keyError "value")
    | some stored =>
      let origin ← provenance (match raw.lookup "provenance" with
        | some text => text.textOf str
        | none => FieldProvenance.researchCandidate.text)
      match scalar? stored with
      | some value => .ok ⟨value, origin⟩
      | none => .error .typeError
  | _ => .error .typeError

/-- Read one more stored rule. -/
def addField (str : Json → String) (rules : RuleMap) (entry : String × Json) :
    Except ReadError RuleMap := do
  return rules.set entry.1 (← field str entry.2)

/-- The rules of one part; a part that is missing or empty has none. -/
def part (str : Json → String) (candidateSpec : List (String × Json)) (key : String) :
    Except ReadError RuleMap :=
  match (Json.obj candidateSpec).getOr key (.obj []) with
  | .obj stored => stored.foldlM (addField str) Table.empty
  | _ => .error .typeError

/-- What texts are turned into: capitals, digests and the texts of other values. -/
structure Texts where
  casing : Py.Casing
  sha : Json → String
  str : Json → String

section Readers

variable (texts : Texts)

/-- The specification of stored rules for a symbol, under a text that names its source. -/
def readRules (sourceText : String) (candidateSpec : List (String × Json))
    (symbol createdAt : String) : Except ReadError CanonicalStrategySpec := do
  let entry ← part texts.str candidateSpec "entry"
  let exit ← part texts.str candidateSpec "exit"
  let filters ← part texts.str candidateSpec "filters"
  -- The digest is that of the text with sorted keys.
  let digest := texts.sha (Json.obj candidateSpec).sortKeys
  return {
    specId := "candidate-spec:" ++ String.ofList (digest.toList.take 16)
    symbol := texts.casing.upper symbol
    entry, exit, filters, sourceText, createdAt }

/-- The specification that is validated in depth. -/
def candidateSpecFromRulesJson := readRules texts "strategy-candidate:direct-spec-validation"

/-- The specification that is run on many symbols. -/
def strategyFromCandidateSpec := readRules texts "strategy-candidate:multi-symbol-evaluation"

end Readers

/-- The rules of a specification as they are stored. -/
def specRulesToJson (spec : CanonicalStrategySpec) : Json := spec.rulesJson

/-- A specification has the rules of another one, its identity as a strategy and its verdict. -/
structure Survives (numerals : Py.Numerals) (sha : Json → String)
    (spec rebuilt : CanonicalStrategySpec) : Prop where
  rules : ∀ component key, (rebuilt.rules component).get key = (spec.rules component).get key
  family : rebuilt.strategyFamilyFingerprint sha = spec.strategyFamilyFingerprint sha
  verdict : RuleBasedBacktestCapabilities.validate numerals rebuilt =
    RuleBasedBacktestCapabilities.validate numerals spec

section Verdict

variable {numerals : Py.Numerals} {left right : CanonicalStrategySpec}

/-- The same fields stand under the same keys. -/
theorem mem_keys_congr {one other : RuleMap} (same : ∀ key, one.get key = other.get key)
    (key : String) : key ∈ one.keys ↔ key ∈ other.keys := by
  rw [RuleMap.mem_keys_iff, RuleMap.mem_keys_iff, same]

/-- Keys of the same rules are sorted in the same way, whatever is left out. -/
theorem sorted_keys_congr {one other : RuleMap} (same : ∀ key, one.get key = other.get key)
    (kept : String → Bool) : sorted (one.keys.filter kept) = sorted (other.keys.filter kept) := by
  have perm : (one.keys.filter kept).Perm (other.keys.filter kept) := by
    apply List.Perm.filter
    exact (List.perm_ext_iff_of_nodup one.distinct other.distinct).mpr (mem_keys_congr same)
  have order : (sorted (one.keys.filter kept)).Perm (sorted (other.keys.filter kept)) :=
    ((List.perm_insertionSort _ _).trans perm).trans (List.perm_insertionSort _ _).symm
  exact order.eq_of_pairwise (fun _ _ _ _ low high => le_antisymm low high)
    (List.pairwise_insertionSort _ _) (List.pairwise_insertionSort _ _)

/-- The engine looks at nothing but the rules. -/
theorem validate_congr
    (same : ∀ component key, (left.rules component).get key = (right.rules component).get key) :
    RuleBasedBacktestCapabilities.validate numerals left =
      RuleBasedBacktestCapabilities.validate numerals right := by
  have missing (component : RuleComponent) :
      missingRules numerals left component = missingRules numerals right component := by
    simp only [missingRules, mem_keys_congr (same component)]
  have unknown (component : RuleComponent) :
      unknownRules numerals left component = unknownRules numerals right component := by
    rw [unknownRules, unknownRules, sorted_keys_congr (same component)]
  have nonBool : nonBoolRules numerals left = nonBoolRules numerals right := by
    simp only [nonBoolRules, same]
  have triggers : triggerGroup numerals left = triggerGroup numerals right := by
    have entry : ∀ key, key ∈ left.entry.keys ↔ key ∈ right.entry.keys :=
      mem_keys_congr (same .entry)
    simp only [triggerGroup, entry]
  rw [RuleBasedBacktestCapabilities.validate, RuleBasedBacktestCapabilities.validate,
    unsupportedComponents, unsupportedComponents, missing, missing, unknown, unknown, unknown,
    nonBool, triggers]

end Verdict

section Reading

variable {str : Json → String} {rules : RuleMap} {known : ProvenancedValue}

/-- A provenance is read from its own text. -/
theorem provenance_text (origin : FieldProvenance) : provenance origin.text = .ok origin := by
  cases origin <;> decide

/-- A value that is stored as one of a rule is read as that one. -/
theorem scalar?_of_sortKeys {stored written : Json}
    (value : known.toJson.get? "value" = some written)
    (same : stored.sortKeys = written.sortKeys) : scalar? stored = some known.value := by
  obtain ⟨rule, origin⟩ := known
  cases rule <;>
  · obtain rfl := Option.some.inj value
    cases stored <;> simp_all [Json.sortKeys, scalar?]

/-- A text stays the text that it is. -/
theorem eq_str_of_sortKeys {stored : Json} {text : String}
    (same : stored.sortKeys = (Json.str text).sortKeys) : stored = .str text := by
  cases stored <;> simp_all [Json.sortKeys]

/-- A rule is read back, in whatever order its keys were stored. -/
theorem field_of_sortKeys {raw : Json} (same : raw.sortKeys = known.toJson.sortKeys) :
    field str raw = .ok known := by
  cases raw with
  | obj stored =>
    have under (key : String) : (stored.lookup key).map Json.sortKeys =
        (known.toJson.get? key).map Json.sortKeys := by
      have both := congrArg (Json.get? · key) same
      rw [Json.get?_sortKeys, Json.get?_sortKeys] at both
      exact both
    obtain ⟨written, value⟩ : ∃ written, known.toJson.get? "value" = some written := ⟨_, rfl⟩
    have text : known.toJson.get? "provenance" = some (.str known.provenance.text) := rfl
    obtain ⟨storedValue, foundValue, sameValue⟩ :=
      Option.map_eq_some_iff.mp ((under "value").trans (congrArg (Option.map Json.sortKeys) value))
    obtain ⟨storedText, foundText, sameText⟩ := Option.map_eq_some_iff.mp
      ((under "provenance").trans (congrArg (Option.map Json.sortKeys) text))
    obtain rfl := eq_str_of_sortKeys sameText
    simp only [field, foundValue, foundText, Json.textOf, provenance_text,
      scalar?_of_sortKeys value sameValue]
    rfl
  | _ => simp [Json.sortKeys, ProvenancedValue.toJson] at same

/-- Where every stored rule is one of some rules, it is read as that rule. -/
theorem foldlM_addField {stored : List (String × Json)} (built : RuleMap)
    (each : ∀ entry ∈ stored, ∃ known, rules.get entry.1 = some known ∧
      field str entry.2 = .ok known) :
    ∃ read, stored.foldlM (addField str) built = .ok read ∧
      ∀ key, read.get key =
        if key ∈ stored.map Prod.fst then rules.get key else built.get key := by
  induction stored generalizing built with
  | nil => exact ⟨built, rfl, fun key => by simp⟩
  | cons entry rest ih =>
    obtain ⟨known, there, readEntry⟩ := each entry List.mem_cons_self
    obtain ⟨read, done, under⟩ := ih (built.set entry.1 known)
      fun other member => each other (List.mem_cons_of_mem _ member)
    refine ⟨read, ?_, fun key => ?_⟩
    · rw [List.foldlM_cons, addField, readEntry]
      exact done
    · rw [under, RuleMap.get_set]
      -- A key that is stored again is read as the same rule.
      by_cases later : key ∈ rest.map Prod.fst
      · have inside : key ∈ (entry :: rest).map Prod.fst := List.mem_cons_of_mem _ later
        rw [if_pos later, if_pos inside]
      · by_cases now : key = entry.1
        · have inside : key ∈ (entry :: rest).map Prod.fst := by simp [now]
          rw [if_neg later, if_pos now, if_pos inside, now, there]
        · have outside : key ∉ (entry :: rest).map Prod.fst := by
            rw [List.map_cons, List.mem_cons]
            exact not_or.mpr ⟨now, later⟩
          rw [if_neg later, if_neg now, if_neg outside]

/-- A stored part is read back as the rules that it was made of. -/
theorem part_of_sortKeys {candidateSpec : List (String × Json)} {key : String} {written : Json}
    (there : (Json.obj candidateSpec).get? key = some written)
    (same : written.sortKeys = rules.toJson.sortKeys) :
    ∃ read, part str candidateSpec key = .ok read ∧ ∀ name, read.get name = rules.get name := by
  cases written with
  | obj stored =>
    have fields : (Json.obj candidateSpec).getOr key (.obj []) = .obj stored := by
      rw [Json.getOr, there]
      exact Json.obj_or_empty stored
    -- The stored entries are those of the rules, up to the order of their keys.
    have entries (entry : String × Json) : entry ∈ Json.sortFields stored ↔
        ∃ row ∈ rules.rows, (row.key, row.field.toJson.sortKeys) = entry := by
      have lists := Json.obj.inj same
      rw [← Py.mem_sortedBy Prod.fst, lists, Py.mem_sortedBy, Json.sortFields_eq]
      simp only [List.map_map, List.mem_map, Py.mem_sortedBy, Function.comp_apply]
    have each : ∀ entry ∈ stored, ∃ known, rules.get entry.1 = some known ∧
        field str entry.2 = .ok known := by
      intro entry member
      have inside : (entry.1, entry.2.sortKeys) ∈ Json.sortFields stored := by
        rw [Json.sortFields_eq]
        exact List.mem_map_of_mem member
      obtain ⟨row, inRules, equal⟩ := (entries _).mp inside
      obtain ⟨name, value⟩ := Prod.mk.inj equal
      refine ⟨row.field, ?_, field_of_sortKeys value.symm⟩
      rw [RuleMap.get, ← name, Table.find?_of_mem inRules]
      rfl
    obtain ⟨read, done, under⟩ := foldlM_addField Table.empty each
    refine ⟨read, by rw [part, fields]; exact done, fun name => ?_⟩
    rw [under]
    by_cases known : name ∈ stored.map Prod.fst
    · rw [if_pos known]
    · rw [if_neg known]
      -- A rule that is not stored is none of the rules.
      have missing : rules.find? name = none := by
        rw [Table.find?_eq_none_iff]
        intro row inRules named
        have inside := (entries (row.key, row.field.toJson.sortKeys)).mpr ⟨row, inRules, rfl⟩
        rw [Json.sortFields_eq] at inside
        obtain ⟨entry, member, equal⟩ := List.mem_map.mp inside
        apply known
        rw [← named, ← (Prod.mk.inj equal).1]
        exact List.mem_map_of_mem member
      have absent : rules.get name = none := by rw [RuleMap.get, missing, Option.map_none]
      rw [absent]
      rfl
  | _ => simp [Json.sortKeys, RuleMap.toJson] at same

end Reading

section Reload

variable {texts : Texts} {numerals : Py.Numerals} {spec other : CanonicalStrategySpec}
  {stored : List (String × Json)}

/-- Stored rules are read back, whatever the source that the specification is to name. -/
theorem survives_readRules (reloaded : (Json.obj stored).sortKeys = (specRulesToJson spec).sortKeys)
    (sourceText symbol createdAt : String) :
    ∃ rebuilt, readRules texts sourceText stored symbol createdAt = .ok rebuilt ∧
      Survives numerals texts.sha spec rebuilt := by
  have parts (key : String) (rules : RuleMap)
      (written : (specRulesToJson spec).get? key = some rules.toJson) :
      ∃ read, part texts.str stored key = .ok read ∧ ∀ name, read.get name = rules.get name := by
    have both := congrArg (Json.get? · key) reloaded
    simp only [Json.get?_sortKeys, written, Option.map_some] at both
    obtain ⟨value, there, same⟩ := Option.map_eq_some_iff.mp both
    exact part_of_sortKeys there same
  obtain ⟨entry, readEntry, sameEntry⟩ := parts "entry" spec.entry rfl
  obtain ⟨exit, readExit, sameExit⟩ := parts "exit" spec.exit rfl
  obtain ⟨filters, readFilters, sameFilters⟩ := parts "filters" spec.filters rfl
  refine ⟨_, by rw [readRules, readEntry, readExit, readFilters]; rfl, ?_⟩
  have rules : ∀ component key, (CanonicalStrategySpec.rules
      { specId := "candidate-spec:" ++ String.ofList
          ((texts.sha (Json.obj stored).sortKeys).toList.take 16)
        symbol := texts.casing.upper symbol
        entry, exit, filters, sourceText, createdAt } component).get key =
      (spec.rules component).get key := by
    intro component key
    cases component with
    | entry => exact sameEntry key
    | exit => exact sameExit key
    | filter => exact sameFilters key
  refine ⟨rules, ?_, validate_congr rules⟩
  apply fingerprint_of_sameValues
  intro component key
  exact congrArg (Option.map ProvenancedValue.value) (rules component key)

/-- Stored rules survive on both ways back, and the identity of a strategy is that of its values. -/
theorem rules_survive (numerals : Py.Numerals) (texts : Texts) (spec other : CanonicalStrategySpec)
    (stored : List (String × Json))
    (reloaded : (Json.obj stored).sortKeys = (specRulesToJson spec).sortKeys)
    (clean : NoCollision texts.sha [spec, other]) (symbol createdAt : String) :
    (∃ deep, candidateSpecFromRulesJson texts stored symbol createdAt = .ok deep ∧
      Survives numerals texts.sha spec deep) ∧
    (∃ breadth, strategyFromCandidateSpec texts stored symbol createdAt = .ok breadth ∧
      Survives numerals texts.sha spec breadth) ∧
    (spec.strategyFamilyFingerprint texts.sha = other.strategyFamilyFingerprint texts.sha ↔
      spec.SameValues other) := by
  refine ⟨survives_readRules reloaded _ symbol createdAt,
    survives_readRules reloaded _ symbol createdAt, fun equal => ?_, fingerprint_of_sameValues⟩
  exact payload_eq_iff.mp (clean spec (by simp) other (by simp) equal)

/-- How the rules of a breakout strategy may come back: in another order of their keys. -/
def breakoutStored : List (String × Json) :=
  [("filters", .obj []),
    ("exit", .obj [
      ("protective_stop_pct", .obj [("provenance", .str "user_provided"), ("value", .int (-5))]),
      ("channel_exit_lookback", .obj [("provenance", .str "user_provided"), ("value", .int 10)])]),
    ("entry", .obj [
      ("breakout_lookback", .obj [("provenance", .str "user_provided"), ("value", .int 20)])])]

/-- The rules of a breakout strategy survive, and it is told apart from a slower one. -/
theorem breakout_survives :
    (∃ deep, candidateSpecFromRulesJson ⟨asciiCasing, breakoutDigest, fun _ => ""⟩ breakoutStored
        "000660" "2026-07-24T00:00:01Z" = .ok deep ∧
      Survives noNumerals breakoutDigest (breakoutStrategy 20 10) deep) ∧
    (∃ breadth, strategyFromCandidateSpec ⟨asciiCasing, breakoutDigest, fun _ => ""⟩ breakoutStored
        "000660" "2026-07-24T00:00:01Z" = .ok breadth ∧
      Survives noNumerals breakoutDigest (breakoutStrategy 20 10) breadth) ∧
    ((breakoutStrategy 20 10).strategyFamilyFingerprint breakoutDigest =
        (breakoutStrategy 30 10).strategyFamilyFingerprint breakoutDigest ↔
      (breakoutStrategy 20 10).SameValues (breakoutStrategy 30 10)) :=
  rules_survive noNumerals ⟨asciiCasing, breakoutDigest, fun _ => ""⟩ (breakoutStrategy 20 10)
    (breakoutStrategy 30 10) breakoutStored (by rfl)
    (noCollision_of_nodup (by decide +kernel)) "000660" "2026-07-24T00:00:01Z"

end Reload

end StrategyLab.CandidateRules
