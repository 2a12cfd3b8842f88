import StrategyLab.Lib.Dict
import StrategyLab.Lib.Python
import StrategyLab.Lib.Raise
import StrategyLab.Lib.Sorted
import Mathlib.Data.Finset.Card
import Mathlib.Data.String.Basic

/-! The verdict on the positioned claims of a topic, and what it depends on. -/

namespace StrategyLab

/-- The position a claim takes on its topic. -/
inductive ClaimStance where
  | supports
  | opposes
  | neutral
  deriving DecidableEq, Repr

/-- The verdicts on the claims of a topic. -/
inductive ConflictStatus where
  | supported
  | unresolvedConflict
  | insufficientIndependence
  | noComparableEvidence
  deriving DecidableEq, Repr

/-- A claim of a source with its position on a topic. -/
structure PositionedClaim where
  candidateId : String
  claimId : String
  sourceId : String
  topicKey : String
  stance : ClaimStance
  claimText : String
  evidenceScore : Int
  knowledgeValidated : Bool := false
  productionApproved : Bool := false
  policyApplied : Bool := false
  deriving DecidableEq

/-- What is recorded about the claims of a topic. -/
structure KnowledgeConflictRecord where
  conflictId : String
  topicKey : String
  status : ConflictStatus
  supportingClaimIds : List String
  opposingClaimIds : List String
  neutralClaimIds : List String
  independentSourceCount : Nat
  supportingSourceCount : Nat
  opposingSourceCount : Nat
  supportingScore : Int
  opposingScore : Int
  reasons : List String
  knowledgeValidated : Bool := false
  productionApproved : Bool := false
  policyApplied : Bool := false
  automaticResolution : Bool := false
  deriving DecidableEq

/-- Small letters, and SHA-256 over the JSON text of a topic and sorted claim identifiers. -/
structure ConflictTexts where
  lower : String → String
  digest : String → List String → String

/-- A topic starts with a small letter or a digit and goes on with up to 127 more characters. -/
def topicValid (topic : String) : Bool :=
  let plain := fun c : Char => ('a' ≤ c && c ≤ 'z') || c.isDigit
  match topic.toList with
  | [] => false
  | first :: rest =>
    plain first && 1 ≤ rest.length && rest.length ≤ 127 &&
      rest.all fun c => plain c || c == '.' || c == '_' || c == ':' || c == '-'

/-- The identity of a conflict: the same claims of a topic have the same one. -/
def canonicalConflictId (texts : ConflictTexts) (topicKey : String)
    (claims : List PositionedClaim) : String :=
  "knowledge-conflict:" ++ texts.digest topicKey (Py.sortedBy id (claims.map (·.claimId)))

namespace KnowledgeConflictDetector

/-- The claims by their identifiers. -/
abbrev KnownClaims := Table PositionedClaim.claimId

/-- Keep a claim, unless another claim has its identifier. -/
def addClaim (known : KnownClaims) (item : PositionedClaim) : Except String KnownClaims :=
  match known.find? item.claimId with
  | some existing =>
    if existing ≠ item then .error "same claim_id has conflicting structured metadata"
    else .ok (known.assign item)
  | none => .ok (known.assign item)

/-- The claims of a stance. -/
def withStance (stance : ClaimStance) (claims : List PositionedClaim) : List PositionedClaim :=
  claims.filter (·.stance = stance)

/-- The sources of claims. -/
def sources (claims : List PositionedClaim) : Finset String :=
  (claims.map (·.sourceId)).toFinset

/-- The strongest evidence of each source. -/
abbrev StrongestBySource := Table (Prod.fst : String × Int → String)

/-- Keep a claim if it is the strongest one of its source so far. -/
def strengthen (strongest : StrongestBySource) (item : PositionedClaim) : StrongestBySource :=
  match strongest.find? item.sourceId with
  | none => strongest.assign (item.sourceId, item.evidenceScore)
  | some prior =>
    if item.evidenceScore > prior.2 then strongest.assign (item.sourceId, item.evidenceScore)
    else strongest

/-- The strongest evidence of the sources, added up. -/
def independentScore (claims : List PositionedClaim) : Int :=
  ((claims.foldl strengthen .empty).rows.map (·.2)).sum

/-- The verdict on claims, with its reasons. -/
def verdict (unique : List PositionedClaim) : ConflictStatus × List String :=
  let supporting := withStance .supports unique
  let opposing := withStance .opposes unique
  if supporting = [] ∧ opposing = [] then
    (.noComparableEvidence, ["no_directional_claims"])
  else if supporting ≠ [] ∧ opposing ≠ [] then
    if (sources unique).card < 2 then
      (.insufficientIndependence, ["opposing_stances_exist_but_only_one_source_is_present"])
    else if sources supporting = sources opposing ∧ (sources unique).card = 1 then
      (.insufficientIndependence, ["same_source_is_not_independent_corroboration"])
    else
      (.unresolvedConflict, ["independent_sources_support_opposing_stances",
        "conflict_must_not_be_auto_resolved_by_score"])
  else
    let directional := if supporting ≠ [] then supporting else opposing
    if 2 ≤ (sources directional).card then
      (.supported, ["multiple_independent_sources_share_same_direction"])
    else
      (.insufficientIndependence, ["single_source_direction_requires_corroboration"])

/-- The record of claims that are different and in the order of their identifiers. -/
def recordOf (texts : ConflictTexts) (topic : String) (unique : List PositionedClaim) :
    KnowledgeConflictRecord where
  conflictId := canonicalConflictId texts topic unique
  topicKey := topic
  status := (verdict unique).1
  supportingClaimIds := (withStance .supports unique).map (·.claimId)
  opposingClaimIds := (withStance .opposes unique).map (·.claimId)
  neutralClaimIds := (withStance .neutral unique).map (·.claimId)
  independentSourceCount := (sources unique).card
  supportingSourceCount := (sources (withStance .supports unique)).card
  opposingSourceCount := (sources (withStance .opposes unique)).card
  supportingScore := independentScore (withStance .supports unique)
  opposingScore := independentScore (withStance .opposes unique)
  reasons := (verdict unique).2

/-- Evaluate the claims of a topic. -/
def evaluate (texts : ConflictTexts) (topicKey : String) (claims : List PositionedClaim) :
    Except String KnowledgeConflictRecord := do
  let topic := texts.lower (Py.strip topicKey)
  Raise.ensure (topicValid topic) "invalid topic_key"
  Raise.ensure (claims.all (·.topicKey = topic)) "mixed topic claims are not comparable"
  let uniqueByClaim ← claims.foldlM addClaim .empty
  return recordOf texts topic (Py.sortedBy (·.claimId) uniqueByClaim.rows)

end KnowledgeConflictDetector

end StrategyLab
