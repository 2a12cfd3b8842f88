import StrategyLab.Knowledge.KnowledgeConflict
import Mathlib.Algebra.BigOperators.Group.Finset.Basic
import Mathlib.Order.Bounds.Basic

/-! What a verdict says about the sources of the claims, whatever their order and repetition. -/

namespace StrategyLab

open KnowledgeConflictDetector

variable {texts : ConflictTexts} {topicKey : String}

/-- Claims that share an identifier are the same claim. -/
def AgreeingIds (claims : List PositionedClaim) : Prop :=
  ∀ one ∈ claims, ∀ other ∈ claims, one.claimId = other.claimId → one = other

/-- The evidence a source has for its claims. -/
def scoresOf (claims : List PositionedClaim) (source : String) : Set Int :=
  {score | ∃ claim ∈ claims, claim.sourceId = source ∧ claim.evidenceScore = score}

/-- A score counts each source once, with its strongest claim. -/
def CountsStrongest (claims : List PositionedClaim) (score : Int) : Prop :=
  ∃ strongest : String → Int,
    (∀ claim ∈ claims, IsGreatest (scoresOf claims claim.sourceId) (strongest claim.sourceId)) ∧
      score = ∑ source ∈ sources claims, strongest source

/-- The record of claims speaks of independent sources, and only of the set of claims. -/
structure MeansIndependence (texts : ConflictTexts) (topicKey : String)
    (claims : List PositionedClaim) (record : KnowledgeConflictRecord) : Prop where
  /-- A conflict is one between two sources. -/
  conflict : record.status = .unresolvedConflict ↔ ∃ pro ∈ claims, ∃ contra ∈ claims,
    pro.stance = .supports ∧ contra.stance = .opposes ∧ pro.sourceId ≠ contra.sourceId
  /-- Support is one direction, given by two sources. -/
  support : record.status = .supported ↔
    ((∀ claim ∈ claims, claim.stance ≠ .opposes) ∨ ∀ claim ∈ claims, claim.stance ≠ .supports) ∧
      ∃ one ∈ claims, ∃ other ∈ claims, one.stance ≠ .neutral ∧ other.stance ≠ .neutral ∧
        one.sourceId ≠ other.sourceId
  /-- Nothing is comparable without a direction. -/
  incomparable : record.status = .noComparableEvidence ↔ ∀ claim ∈ claims, claim.stance = .neutral
  /-- The status is the one without the neutral claims. -/
  neutral : ∃ other, evaluate texts topicKey (claims.filter (·.stance ≠ .neutral)) = .ok other ∧
    other.status = record.status
  supportingScore : CountsStrongest (withStance .supports claims) record.supportingScore
  opposingScore : CountsStrongest (withStance .opposes claims) record.opposingScore
  /-- The same claims in another order, or repeated, have the same record. -/
  stable : ∀ others, (∀ claim, claim ∈ others ↔ claim ∈ claims) →
    evaluate texts topicKey others = .ok record

/-- One source both supports and opposes the topic, no other source does either, and a neutral claim
comes from another source. -/
def NeutralBystander (claims : List PositionedClaim) : Prop :=
  ∃ source, (∀ claim ∈ claims, claim.stance ≠ .neutral → claim.sourceId = source) ∧
    (∃ pro ∈ claims, pro.stance = .supports) ∧ (∃ contra ∈ claims, contra.stance = .opposes) ∧
    ∃ bystander ∈ claims, bystander.stance = .neutral ∧ bystander.sourceId ≠ source

variable {item : PositionedClaim}

/-- A claim is kept when it agrees with the kept one that has its identifier. -/
theorem addClaim_eq_ok {known next : KnownClaims} :
    addClaim known item = .ok next ↔
      (∀ other ∈ known.rows, other.claimId = item.claimId → other = item) ∧
        known.assign item = next := by
  unfold addClaim
  cases found : known.find? item.claimId with
  | none =>
    have free := Table.find?_eq_none_iff.mp found
    simp only [Except.ok.injEq, iff_and_self]
    exact fun _ other member same => absurd same (free other member)
  | some existing =>
    obtain ⟨member, keyed⟩ := Table.find?_eq_some_iff.mp found
    dsimp only
    split
    · rename_i differs
      simp only [reduceCtorEq, false_iff, not_and]
      exact fun agree => absurd (agree existing member keyed) differs
    · rename_i agrees
      rw [not_not] at agrees
      subst agrees
      simp only [Except.ok.injEq, iff_and_self]
      -- The row under an identifier is the only one with it.
      intro _ other inside same
      have again := Table.find?_of_mem inside
      rw [same, found] at again
      exact (Option.some.inj again).symm

/-- After an assignment that agrees with the rows, the new row is there with all others. -/
theorem mem_assign_of_agrees {known : KnownClaims} {item claim : PositionedClaim}
    (agrees : ∀ other ∈ known.rows, other.claimId = item.claimId → other = item) :
    claim ∈ (known.assign item).rows ↔ claim ∈ known.rows ∨ claim = item := by
  have found : claim ∈ (known.assign item).rows ↔
      (known.assign item).find? claim.claimId = some claim := by
    rw [Table.find?_eq_some_iff, and_iff_left rfl]
  rw [found, Table.find?_assign]
  by_cases same : claim.claimId = item.claimId
  · rw [if_pos same, Option.some.injEq, eq_comm]
    constructor
    · exact Or.inr
    · rintro (member | rfl)
      · exact agrees claim member same
      · rfl
  · rw [if_neg same, Table.find?_eq_some_iff, and_iff_left rfl]
    constructor
    · exact Or.inl
    · rintro (member | rfl)
      · exact member
      · exact absurd rfl same

/-- All claims are kept exactly when those that share an identifier are the same. -/
theorem foldlM_addClaim_eq_ok (claims : List PositionedClaim) (known : KnownClaims) :
    (∃ final, claims.foldlM addClaim known = .ok final) ↔ AgreeingIds (known.rows ++ claims) := by
  induction claims generalizing known with
  | nil =>
    -- The rows of a table never share a key.
    refine iff_of_true ⟨known, rfl⟩ fun one first other second same => ?_
    rw [List.append_nil] at first second
    exact List.inj_on_of_nodup_map known.distinct first second same
  | cons item rest ih =>
    rw [List.foldlM_cons]
    constructor
    · rintro ⟨final, done⟩
      obtain ⟨next, added, more⟩ := Raise.bind_eq_ok.mp done
      obtain ⟨agrees, rfl⟩ := addClaim_eq_ok.mp added
      have consistent := (ih _).mp ⟨final, more⟩
      intro one first other second same
      refine consistent one ?_ other ?_ same
      · simpa [mem_assign_of_agrees agrees, or_assoc] using first
      · simpa [mem_assign_of_agrees agrees, or_assoc] using second
    · intro consistent
      have agrees : ∀ other ∈ known.rows, other.claimId = item.claimId → other = item :=
        fun other member => consistent other (by simp [member]) item (by simp)
      obtain ⟨final, more⟩ := (ih (known.assign item)).mpr fun one first other second =>
        consistent one (by simpa [mem_assign_of_agrees agrees, or_assoc] using first) other
          (by simpa [mem_assign_of_agrees agrees, or_assoc] using second)
      exact ⟨final, Raise.bind_eq_ok.mpr ⟨_, addClaim_eq_ok.mpr ⟨agrees, rfl⟩, more⟩⟩

variable {claims : List PositionedClaim}

/-- What is kept in the end are the claims. -/
theorem mem_foldlM_addClaim {known final : KnownClaims}
    (done : claims.foldlM addClaim known = .ok final) {claim : PositionedClaim} :
    claim ∈ final.rows ↔ claim ∈ known.rows ∨ claim ∈ claims := by
  induction claims generalizing known with
  | nil =>
    cases Raise.pure_eq_ok.mp done
    simp
  | cons item rest ih =>
    rw [List.foldlM_cons] at done
    obtain ⟨next, added, more⟩ := Raise.bind_eq_ok.mp done
    obtain ⟨agrees, rfl⟩ := addClaim_eq_ok.mp added
    rw [ih more, mem_assign_of_agrees agrees, List.mem_cons, or_assoc]

/-- Two tables with the same claims are in the same order of identifiers. -/
theorem sortedBy_claimId_congr {left right : KnownClaims}
    (same : ∀ claim, claim ∈ left.rows ↔ claim ∈ right.rows) :
    Py.sortedBy (·.claimId) left.rows = Py.sortedBy (·.claimId) right.rows := by
  have shuffled : left.rows.Perm right.rows :=
    (List.perm_ext_iff_of_nodup left.distinct.of_map right.distinct.of_map).mpr fun claim =>
      same claim
  have rows := ((Py.sortedBy_perm (·.claimId) left.rows).trans shuffled).trans
    (Py.sortedBy_perm (·.claimId) right.rows).symm
  exact Py.eq_of_perm_of_rising rows
    (((Py.sortedBy_perm _ left.rows).map _).nodup_iff.mpr left.distinct)
    (Py.sortedBy_pairwise _ _) (Py.sortedBy_pairwise _ _)

variable {record : KnowledgeConflictRecord}

/-- What makes claims give a record, and which one. -/
theorem evaluate_eq_ok :
    evaluate texts topicKey claims = .ok record ↔
      topicValid (texts.lower (Py.strip topicKey)) ∧
      (∀ claim ∈ claims, claim.topicKey = texts.lower (Py.strip topicKey)) ∧
      ∃ known : KnownClaims, claims.foldlM addClaim .empty = .ok known ∧
        recordOf texts (texts.lower (Py.strip topicKey)) (Py.sortedBy (·.claimId) known.rows) =
          record := by
  simp only [evaluate, Raise.bind_eq_ok, Raise.ensure_eq_ok, Raise.pure_eq_ok, List.all_eq_true,
    decide_eq_true_eq]
  constructor
  · rintro ⟨_, valid, _, own, known, kept, same⟩
    exact ⟨valid, own, known, kept, same⟩
  · rintro ⟨valid, own, known, kept, same⟩
    exact ⟨(), valid, (), own, known, kept, same⟩

/-- A record depends on the set of claims only. -/
theorem evaluate_congr {claims others : List PositionedClaim}
    (done : evaluate texts topicKey claims = .ok record)
    (same : ∀ claim, claim ∈ others ↔ claim ∈ claims) :
    evaluate texts topicKey others = .ok record := by
  obtain ⟨valid, own, known, kept, made⟩ := evaluate_eq_ok.mp done
  have consistent := (foldlM_addClaim_eq_ok _ _).mp ⟨known, kept⟩
  obtain ⟨again, keptAgain⟩ := (foldlM_addClaim_eq_ok others .empty).mpr
    fun one first other second => consistent one (by simpa [same] using first) other
      (by simpa [same] using second)
  refine evaluate_eq_ok.mpr ⟨valid, fun claim member => own claim ((same claim).mp member), again,
    keptAgain, ?_⟩
  rw [← made, sortedBy_claimId_congr fun claim => ?_]
  rw [mem_foldlM_addClaim keptAgain, mem_foldlM_addClaim kept, same]

/-- Some of the claims of a record give a record as well. -/
theorem exists_evaluate_of_subset {claims others : List PositionedClaim}
    (done : evaluate texts topicKey claims = .ok record)
    (some_ : others ⊆ claims) : ∃ other, evaluate texts topicKey others = .ok other := by
  obtain ⟨valid, own, known, kept, _⟩ := evaluate_eq_ok.mp done
  have consistent := (foldlM_addClaim_eq_ok _ _).mp ⟨known, kept⟩
  obtain ⟨again, keptAgain⟩ := (foldlM_addClaim_eq_ok others .empty).mpr
    fun one first other second => consistent one (some_ (by simpa using first)) other
      (some_ (by simpa using second))
  exact ⟨_, evaluate_eq_ok.mpr ⟨valid, fun claim member => own claim (some_ member), again,
    keptAgain, rfl⟩⟩

/-- The claims of a stance are among the claims. -/
theorem withStance_eq_nil {stance : ClaimStance} :
    withStance stance claims = [] ↔ ∀ claim ∈ claims, claim.stance ≠ stance := by
  simp [withStance, List.filter_eq_nil_iff]

/-- Claims have two sources when two of them have different ones. -/
theorem two_le_card_sources :
    2 ≤ (sources claims).card ↔
      ∃ one ∈ claims, ∃ other ∈ claims, one.sourceId ≠ other.sourceId := by
  rw [Nat.succ_le_iff, Finset.one_lt_card]
  simp only [sources, List.mem_toFinset, List.mem_map, exists_exists_and_eq_and]

variable {unique : List PositionedClaim}

/-- Two directions need two sources of any claims to be in conflict. -/
theorem verdict_conflict_iff :
    (verdict unique).1 = .unresolvedConflict ↔
      (∃ pro ∈ unique, pro.stance = .supports) ∧ (∃ contra ∈ unique, contra.stance = .opposes) ∧
        ∃ one ∈ unique, ∃ other ∈ unique, one.sourceId ≠ other.sourceId := by
  rw [← two_le_card_sources]
  have pro : withStance .supports unique ≠ [] ↔ ∃ claim ∈ unique, claim.stance = .supports := by
    rw [Ne, withStance_eq_nil]
    push Not
    rfl
  have contra : withStance .opposes unique ≠ [] ↔ ∃ claim ∈ unique, claim.stance = .opposes := by
    rw [Ne, withStance_eq_nil]
    push Not
    rfl
  rw [← pro, ← contra]
  unfold verdict
  dsimp only
  split_ifs with empty both few one many
  · -- No claim has a direction.
    exact iff_of_false (by simp) fun all => all.1 empty.1
  · -- Both directions are there, but from one source.
    exact iff_of_false (by simp) fun all => by omega
  · exact iff_of_false (by simp) fun all => by omega
  · exact iff_of_true rfl ⟨both.1, both.2, by omega⟩
  -- One direction alone is supported or not, but is no conflict.
  all_goals exact iff_of_false (by simp) fun all => both ⟨all.1, all.2.1⟩

/-- Claims of one direction have two sources when two directional claims have different ones. -/
theorem two_sources_of_direction {stance : ClaimStance}
    (directed : ∀ claim ∈ unique, claim.stance ≠ .neutral ↔ claim.stance = stance) :
    2 ≤ (sources (withStance stance unique)).card ↔
      ∃ one ∈ unique, ∃ other ∈ unique, one.stance ≠ .neutral ∧ other.stance ≠ .neutral ∧
        one.sourceId ≠ other.sourceId := by
  rw [two_le_card_sources]
  simp only [withStance, List.mem_filter, decide_eq_true_eq]
  constructor
  · rintro ⟨one, ⟨first, left⟩, other, ⟨second, right⟩, apart⟩
    exact ⟨one, first, other, second, (directed one first).mpr left,
      (directed other second).mpr right, apart⟩
  · rintro ⟨one, first, other, second, left, right, apart⟩
    exact ⟨one, ⟨first, (directed one first).mp left⟩, other,
      ⟨second, (directed other second).mp right⟩, apart⟩

/-- Support needs one direction and two sources in it. -/
theorem verdict_support_iff :
    (verdict unique).1 = .supported ↔
      ((∀ claim ∈ unique, claim.stance ≠ .opposes) ∨ ∀ claim ∈ unique, claim.stance ≠ .supports) ∧
        ∃ one ∈ unique, ∃ other ∈ unique, one.stance ≠ .neutral ∧ other.stance ≠ .neutral ∧
          one.sourceId ≠ other.sourceId := by
  rw [← withStance_eq_nil, ← withStance_eq_nil]
  by_cases pro : withStance .supports unique = []
  · have noPro := withStance_eq_nil.mp pro
    by_cases contra : withStance .opposes unique = []
    · -- Without a direction there is no directional claim.
      have noContra := withStance_eq_nil.mp contra
      simp only [verdict, pro, contra, and_self, if_true, reduceCtorEq, or_self, true_and,
        false_iff]
      rintro ⟨one, first, _, _, left, _⟩
      cases stance : one.stance with
      | supports => exact noPro one first stance
      | opposes => exact noContra one first stance
      | neutral => exact left stance
    · have opposed : ∀ claim ∈ unique, claim.stance ≠ .neutral ↔ claim.stance = .opposes := by
        intro claim member
        have other := noPro claim member
        cases stance : claim.stance <;> simp_all
      rw [← two_sources_of_direction opposed]
      simp only [verdict, pro, contra, and_false, false_and, if_false, ne_eq, not_true_eq_false,
        true_and, or_true]
      split <;> simp_all
  · by_cases contra : withStance .opposes unique = []
    · have noContra := withStance_eq_nil.mp contra
      have backed : ∀ claim ∈ unique, claim.stance ≠ .neutral ↔ claim.stance = .supports := by
        intro claim member
        have other := noContra claim member
        cases stance : claim.stance <;> simp_all
      rw [← two_sources_of_direction backed]
      simp only [verdict, pro, contra, and_true, and_false, if_false, ne_eq, not_true_eq_false,
        not_false_eq_true, if_true, true_and, true_or]
      split <;> simp_all
    · -- Claims in both directions are a conflict or are not independent.
      simp only [verdict, pro, contra, false_and, if_false, ne_eq, not_false_eq_true, and_self,
        if_true, or_self, iff_false]
      split
      · simp
      · split <;> simp

/-- Nothing is comparable when all claims are neutral. -/
theorem verdict_incomparable_iff :
    (verdict unique).1 = .noComparableEvidence ↔ ∀ claim ∈ unique, claim.stance = .neutral := by
  have undirected : (∀ claim ∈ unique, claim.stance = .neutral) ↔
      withStance .supports unique = [] ∧ withStance .opposes unique = [] := by
    rw [withStance_eq_nil, withStance_eq_nil]
    constructor
    · exact fun neutral =>
        ⟨fun claim member => by simp [neutral claim member],
          fun claim member => by simp [neutral claim member]⟩
    · rintro ⟨noPro, noContra⟩ claim member
      cases stance : claim.stance with
      | supports => exact absurd stance (noPro claim member)
      | opposes => exact absurd stance (noContra claim member)
      | neutral => rfl
  rw [undirected]
  unfold verdict
  dsimp only
  split_ifs <;> simp_all

section

variable (done : evaluate texts topicKey claims = .ok record)

include done

/-- The status of a record is the verdict on the claims it is made from. -/
theorem exists_unique_claims :
    ∃ unique, (∀ claim, claim ∈ unique ↔ claim ∈ claims) ∧
      record = recordOf texts (texts.lower (Py.strip topicKey)) unique := by
  obtain ⟨_, _, known, kept, made⟩ := evaluate_eq_ok.mp done
  refine ⟨_, fun claim => ?_, made.symm⟩
  rw [Py.mem_sortedBy, mem_foldlM_addClaim kept]
  simp

/-- A record shows a conflict when there are both directions, and two sources of any claims. -/
theorem status_conflict_iff :
    record.status = .unresolvedConflict ↔
      (∃ pro ∈ claims, pro.stance = .supports) ∧ (∃ contra ∈ claims, contra.stance = .opposes) ∧
        ∃ one ∈ claims, ∃ other ∈ claims, one.sourceId ≠ other.sourceId := by
  obtain ⟨unique, same, rfl⟩ := exists_unique_claims done
  simp only [recordOf, verdict_conflict_iff, same]

/-- A record shows support for one direction that has two sources. -/
theorem status_support_iff :
    record.status = .supported ↔
      ((∀ claim ∈ claims, claim.stance ≠ .opposes) ∨ ∀ claim ∈ claims, claim.stance ≠ .supports) ∧
        ∃ one ∈ claims, ∃ other ∈ claims, one.stance ≠ .neutral ∧ other.stance ≠ .neutral ∧
          one.sourceId ≠ other.sourceId := by
  obtain ⟨unique, same, rfl⟩ := exists_unique_claims done
  simp only [recordOf, verdict_support_iff, same]

/-- A record shows nothing comparable when all claims are neutral. -/
theorem status_incomparable_iff :
    record.status = .noComparableEvidence ↔ ∀ claim ∈ claims, claim.stance = .neutral := by
  obtain ⟨unique, same, rfl⟩ := exists_unique_claims done
  simp only [recordOf, verdict_incomparable_iff, same]

end

/-- Without a bystander, both directions and two sources are two sources in conflict. -/
theorem conflict_iff_of_no_bystander (alone : ¬NeutralBystander claims) :
    ((∃ pro ∈ claims, pro.stance = .supports) ∧ (∃ contra ∈ claims, contra.stance = .opposes) ∧
        ∃ one ∈ claims, ∃ other ∈ claims, one.sourceId ≠ other.sourceId) ↔
      ∃ pro ∈ claims, ∃ contra ∈ claims,
        pro.stance = .supports ∧ contra.stance = .opposes ∧ pro.sourceId ≠ contra.sourceId := by
  constructor
  · rintro ⟨⟨pro, first, backs⟩, ⟨contra, second, against⟩, two⟩
    by_contra agree
    push Not at agree
    -- All directional claims come from the source of the supporting one.
    have single : ∀ claim ∈ claims, claim.stance ≠ .neutral → claim.sourceId = pro.sourceId := by
      intro claim member directional
      cases stance : claim.stance with
      | supports =>
        rw [agree claim member contra second stance against,
          agree pro first contra second backs against]
      | opposes => exact (agree pro first claim member backs stance).symm
      | neutral => exact absurd stance directional
    -- One of two claims from different sources is from another source, and so it is neutral.
    obtain ⟨bystander, member, elsewhere⟩ :
        ∃ claim ∈ claims, claim.sourceId ≠ pro.sourceId := by
      obtain ⟨one, inside, other, also, apart⟩ := two
      by_cases same : one.sourceId = pro.sourceId
      · exact ⟨other, also, fun equal => apart (same.trans equal.symm)⟩
      · exact ⟨one, inside, same⟩
    have neutral : bystander.stance = .neutral :=
      not_not.mp fun directional => elsewhere (single bystander member directional)
    exact alone ⟨pro.sourceId, single, ⟨pro, first, backs⟩, ⟨contra, second, against⟩, bystander,
      member, neutral, elsewhere⟩
  · rintro ⟨pro, first, contra, second, backs, against, apart⟩
    exact ⟨⟨pro, first, backs⟩, ⟨contra, second, against⟩, pro, first, contra, second, apart⟩

/-- A bystander stays out when the neutral claims are left out. -/
theorem no_bystander_directional (claims : List PositionedClaim) :
    ¬NeutralBystander (claims.filter (·.stance ≠ .neutral)) := by
  rintro ⟨_, _, _, _, bystander, member, neutral, _⟩
  simp [neutral] at member

/-- The conflict of two sources is the same one without the neutral claims. -/
theorem conflict_directional :
    (∃ pro ∈ claims.filter (·.stance ≠ .neutral), ∃ contra ∈ claims.filter (·.stance ≠ .neutral),
        pro.stance = .supports ∧ contra.stance = .opposes ∧ pro.sourceId ≠ contra.sourceId) ↔
      ∃ pro ∈ claims, ∃ contra ∈ claims,
        pro.stance = .supports ∧ contra.stance = .opposes ∧ pro.sourceId ≠ contra.sourceId := by
  constructor
  · rintro ⟨pro, first, contra, second, rest⟩
    exact ⟨pro, List.mem_of_mem_filter first, contra, List.mem_of_mem_filter second, rest⟩
  · rintro ⟨pro, first, contra, second, backs, against, apart⟩
    exact ⟨pro, List.mem_filter.mpr ⟨first, by simp [backs]⟩, contra,
      List.mem_filter.mpr ⟨second, by simp [against]⟩, backs, against, apart⟩

/-- Without a bystander, the neutral claims do not matter to the status. -/
theorem status_directional
    {record other : KnowledgeConflictRecord} (alone : ¬NeutralBystander claims)
    (done : evaluate texts topicKey claims = .ok record)
    (without : evaluate texts topicKey (claims.filter (·.stance ≠ .neutral)) = .ok other) :
    other.status = record.status := by
  have conflict : other.status = .unresolvedConflict ↔ record.status = .unresolvedConflict := by
    rw [status_conflict_iff done, status_conflict_iff without,
      conflict_iff_of_no_bystander alone,
      conflict_iff_of_no_bystander (no_bystander_directional claims), conflict_directional]
  have support : other.status = .supported ↔ record.status = .supported := by
    rw [status_support_iff done, status_support_iff without]
    simp only [List.mem_filter, decide_eq_true_eq]
    constructor
    · rintro ⟨direction, one, ⟨first, _⟩, another, ⟨second, _⟩, rest⟩
      refine ⟨direction.imp (fun none_ claim member stance => ?_) fun none_ claim member stance => ?_,
        one, first, another, second, rest⟩
      · exact none_ claim ⟨member, by simp [stance]⟩ stance
      · exact none_ claim ⟨member, by simp [stance]⟩ stance
    · rintro ⟨direction, one, first, another, second, left, right, apart⟩
      exact ⟨direction.imp (fun none_ claim member => none_ claim member.1) fun none_ claim member =>
        none_ claim member.1, one, ⟨first, left⟩, another, ⟨second, right⟩, left, right, apart⟩
  have incomparable :
      other.status = .noComparableEvidence ↔ record.status = .noComparableEvidence := by
    rw [status_incomparable_iff done, status_incomparable_iff without]
    simp only [List.mem_filter, decide_eq_true_eq]
    constructor
    · exact fun none_ claim member => not_not.mp fun directional =>
        directional (none_ claim ⟨member, directional⟩)
    · exact fun all claim member => all claim member.1
  -- The fourth status is the one that is left.
  cases left : other.status <;> cases right : record.status <;> simp_all

/-- What is kept of each source is the strongest of its claims. -/
def KeepsStrongest (strongest : StrongestBySource) (seen : List PositionedClaim) : Prop :=
  (∀ row ∈ strongest.rows, IsGreatest (scoresOf seen row.1) row.2) ∧
    ∀ source, source ∈ strongest.keyList ↔ ∃ claim ∈ seen, claim.sourceId = source

variable {seen : List PositionedClaim}

/-- The evidence of a source grows by its own claims only. -/
theorem mem_scoresOf_append {source : String} {score : Int} :
    score ∈ scoresOf (seen ++ [item]) source ↔
      score ∈ scoresOf seen source ∨ item.sourceId = source ∧ item.evidenceScore = score := by
  simp only [scoresOf, Set.mem_ofPred_eq, List.mem_append, List.mem_singleton]
  constructor
  · rintro ⟨claim, member | rfl, rest⟩
    · exact Or.inl ⟨claim, member, rest⟩
    · exact Or.inr rest
  · rintro (⟨claim, member, rest⟩ | rest)
    · exact ⟨claim, Or.inl member, rest⟩
    · exact ⟨item, Or.inr rfl, rest⟩

variable {strongest : StrongestBySource}

/-- Assigning what is the greatest evidence of the source with a further claim keeps the strongest
evidence of all sources. -/
theorem KeepsStrongest.assign (keeps : KeepsStrongest strongest seen)
    (greatest : IsGreatest (scoresOf (seen ++ [item]) item.sourceId) item.evidenceScore) :
    KeepsStrongest (strongest.assign (item.sourceId, item.evidenceScore)) (seen ++ [item]) := by
  constructor
  · rintro ⟨source, score⟩ member
    have found := Table.find?_of_mem member
    rw [Table.find?_assign] at found
    split at found
    · injection found with same
      cases same
      exact greatest
    · rename_i other
      -- Another source has the evidence it had.
      obtain ⟨inside, _⟩ := Table.find?_eq_some_iff.mp found
      have before := keeps.1 _ inside
      have same : scoresOf (seen ++ [item]) source = scoresOf seen source := by
        ext score
        rw [mem_scoresOf_append, or_iff_left]
        exact fun own => other own.1.symm
      rwa [same]
  · intro source
    rw [Table.keyList_assign, Py.mem_addKeys, keeps.2 source, List.mem_singleton]
    constructor
    · rintro (⟨claim, member, own⟩ | rfl)
      · exact ⟨claim, List.mem_append_left _ member, own⟩
      · exact ⟨item, by simp, rfl⟩
    · rintro ⟨claim, member, own⟩
      rcases List.mem_append.mp member with earlier | last
      · exact Or.inl ⟨claim, earlier, own⟩
      · exact Or.inr (by rw [← own, List.mem_singleton.mp last])

/-- A further claim is kept if it is the strongest one of its source. -/
theorem KeepsStrongest.strengthen (keeps : KeepsStrongest strongest seen) (item : PositionedClaim) :
    KeepsStrongest (strengthen strongest item) (seen ++ [item]) := by
  unfold KnowledgeConflictDetector.strengthen
  cases found : strongest.find? item.sourceId with
  | none =>
    -- The source has no claims yet.
    refine keeps.assign ⟨mem_scoresOf_append.mpr (Or.inr ⟨rfl, rfl⟩), fun score member => ?_⟩
    rcases mem_scoresOf_append.mp member with ⟨claim, earlier, own, _⟩ | ⟨_, rfl⟩
    · have known := (keeps.2 item.sourceId).mpr ⟨claim, earlier, own⟩
      rw [Table.mem_keyList_iff, found] at known
      cases known
    · exact le_rfl
  | some prior =>
    obtain ⟨inside, keyed⟩ := Table.find?_eq_some_iff.mp found
    have before := keeps.1 prior inside
    dsimp only
    split
    · rename_i stronger
      refine keeps.assign ⟨mem_scoresOf_append.mpr (Or.inr ⟨rfl, rfl⟩), fun score member => ?_⟩
      rcases mem_scoresOf_append.mp member with earlier | ⟨_, rfl⟩
      · rw [← keyed] at earlier
        exact (before.2 earlier).trans stronger.le
      · exact le_rfl
    · rename_i weaker
      constructor
      · intro row member
        have greatest := keeps.1 row member
        refine ⟨mem_scoresOf_append.mpr (Or.inl greatest.1), fun score among => ?_⟩
        rcases mem_scoresOf_append.mp among with earlier | ⟨own, rfl⟩
        · exact greatest.2 earlier
        · -- The row of the source is the one that was found.
          have again := Table.find?_of_mem member
          rw [← own, found] at again
          rw [← Option.some.inj again]
          omega
      · intro source
        rw [keeps.2 source]
        constructor
        · rintro ⟨claim, member, own⟩
          exact ⟨claim, List.mem_append_left _ member, own⟩
        · rintro ⟨claim, member, own⟩
          rcases List.mem_append.mp member with earlier | last
          · exact ⟨claim, earlier, own⟩
          · -- The source of a weaker claim is known.
            rw [← own, List.mem_singleton.mp last, ← keeps.2, Table.mem_keyList_iff, found]
            rfl

/-- After all claims the strongest evidence of each source is kept. -/
theorem keepsStrongest_foldl (claims : List PositionedClaim)
    (keeps : KeepsStrongest strongest seen) :
    KeepsStrongest (claims.foldl strengthen strongest) (seen ++ claims) := by
  induction claims generalizing strongest seen with
  | nil => simpa using keeps
  | cons item rest ih =>
    have more := ih (keeps.strengthen item)
    rwa [List.append_assoc, List.singleton_append] at more

/-- The independent score counts each source once, with its strongest claim. -/
theorem countsStrongest_independentScore (claims : List PositionedClaim) :
    CountsStrongest claims (independentScore claims) := by
  have start : KeepsStrongest .empty [] := by
    refine ⟨fun _ member => absurd member (by simp), fun source => ?_⟩
    simp
  have keeps := keepsStrongest_foldl claims start
  rw [List.nil_append] at keeps
  refine ⟨fun source => (((claims.foldl strengthen .empty).find? source).map (·.2)).getD 0, ?_, ?_⟩
  · intro claim member
    have known := (keeps.2 claim.sourceId).mpr ⟨claim, member, rfl⟩
    rw [Table.mem_keyList_iff, Option.isSome_iff_exists] at known
    obtain ⟨row, found⟩ := known
    obtain ⟨inside, keyed⟩ := Table.find?_eq_some_iff.mp found
    have greatest := keeps.1 row inside
    dsimp only
    rw [found]
    rwa [keyed] at greatest
  · -- The sources of the claims are the keys, each of them once.
    have keys : sources claims = (claims.foldl strengthen .empty).keyList.toFinset := by
      ext source
      rw [List.mem_toFinset, keeps.2, sources, List.mem_toFinset, List.mem_map]
    rw [keys, List.sum_toFinset _ (Table.nodup_keyList _), independentScore, Table.sum_rows]

/-- What counts each source once depends on the set of claims only. -/
theorem CountsStrongest.congr {left right : List PositionedClaim} {score : Int}
    (counts : CountsStrongest left score) (same : ∀ claim, claim ∈ left ↔ claim ∈ right) :
    CountsStrongest right score := by
  obtain ⟨strongest, greatest, total⟩ := counts
  have scores : ∀ source, scoresOf left source = scoresOf right source := by
    intro source
    ext score
    simp only [scoresOf, Set.mem_ofPred_eq, same]
  refine ⟨strongest, fun claim member => ?_, ?_⟩
  · rw [← scores]
    exact greatest claim ((same claim).mpr member)
  · rw [total]
    refine Finset.sum_congr ?_ fun _ _ => rfl
    ext source
    simp only [sources, List.mem_toFinset, List.mem_map, same]

/-- A record of claims means independence exactly when no neutral bystander makes a conflict. -/
theorem meansIndependence_iff {claims : List PositionedClaim} {record : KnowledgeConflictRecord}
    (done : evaluate texts topicKey claims = .ok record) :
    MeansIndependence texts topicKey claims record ↔ ¬NeutralBystander claims := by
  constructor
  · rintro means ⟨source, single, pros, contras, bystander, member, neutral, elsewhere⟩
    -- The bystander is the second source that makes the status a conflict.
    obtain ⟨pro, first, backs⟩ := pros
    have shown : record.status = .unresolvedConflict := by
      refine (status_conflict_iff done).mpr
        ⟨⟨pro, first, backs⟩, contras, pro, first, bystander, member, ?_⟩
      rw [single pro first (by simp [backs])]
      exact elsewhere.symm
    obtain ⟨one, inside, other, also, left, right, apart⟩ := means.conflict.mp shown
    refine apart ?_
    rw [single one inside (by simp [left]), single other also (by simp [right])]
  · intro alone
    obtain ⟨unique, same, made⟩ := exists_unique_claims done
    have stances : ∀ stance claim,
        claim ∈ withStance stance unique ↔ claim ∈ withStance stance claims := by
      intro stance claim
      simp only [withStance, List.mem_filter, same]
    refine ⟨?_, status_support_iff done, status_incomparable_iff done, ?_, ?_, ?_, ?_⟩
    · rw [status_conflict_iff done, conflict_iff_of_no_bystander alone]
    · obtain ⟨other, without⟩ := exists_evaluate_of_subset done
        fun _ member => List.mem_of_mem_filter member
      exact ⟨other, without, status_directional alone done without⟩
    · rw [made]
      exact (countsStrongest_independentScore _).congr (stances .supports)
    · rw [made]
      exact (countsStrongest_independentScore _).congr (stances .opposes)
    · exact fun others equal => evaluate_congr done equal

/-- Small letters of ASCII, and the digests of the claims below. -/
def momentumTexts : ConflictTexts where
  lower text := .ofList (text.toList.map Char.toLower)
  digest _ ids :=
    if ids = ["a", "b", "c"] then
      "528b617ff843cf74120b915927b5ab8ec75008ca22fb79f98fa676523f19e793"
    else
      "c097d3f278712f77704215d56d5f35c1b56c6a4bc75055286e47c1d60dd6edf6"

/-- A claim about momentum. -/
def momentumClaim (claimId sourceId : String) (stance : ClaimStance) (evidenceScore : Int) :
    PositionedClaim where
  candidateId := "candidate:" ++ claimId
  claimId := claimId
  sourceId := sourceId
  topicKey := "momentum"
  stance := stance
  claimText := "Momentum persists."
  evidenceScore := evidenceScore

/-- One source supports and opposes momentum, and another one is neutral. -/
def bystanderClaims : List PositionedClaim :=
  [momentumClaim "a" "journal" .supports 70, momentumClaim "b" "journal" .opposes 60,
    momentumClaim "c" "blog" .neutral 10]

/-- The record of the claims with a bystander. -/
def bystanderRecord : KnowledgeConflictRecord where
  conflictId := "knowledge-conflict:528b617ff843cf74120b915927b5ab8ec75008ca22fb79f98fa676523f19e793"
  topicKey := "momentum"
  status := .unresolvedConflict
  supportingClaimIds := ["a"]
  opposingClaimIds := ["b"]
  neutralClaimIds := ["c"]
  independentSourceCount := 2
  supportingSourceCount := 1
  opposingSourceCount := 1
  supportingScore := 70
  opposingScore := 60
  reasons := ["independent_sources_support_opposing_stances",
    "conflict_must_not_be_auto_resolved_by_score"]

/-- The claims with a bystander are a conflict. -/
theorem bystander_evaluated :
    evaluate momentumTexts " Momentum" bystanderClaims = .ok bystanderRecord := by
  decide +kernel

/-- What the record of the claims with a bystander depends on. -/
theorem bystander_meansIndependence_iff :
    evaluate momentumTexts " Momentum" bystanderClaims = .ok bystanderRecord ∧
      (MeansIndependence momentumTexts " Momentum" bystanderClaims bystanderRecord ↔
        ¬NeutralBystander bystanderClaims) :=
  ⟨bystander_evaluated, meansIndependence_iff bystander_evaluated⟩

/-- A neutral claim of a second source turns one source's two stances into a conflict. -/
theorem bystander_makes_conflict :
    evaluate momentumTexts " Momentum" bystanderClaims = .ok bystanderRecord ∧
      ¬MeansIndependence momentumTexts " Momentum" bystanderClaims bystanderRecord := by
  refine ⟨bystander_evaluated, fun means => ?_⟩
  obtain ⟨pro, first, contra, second, backs, against, apart⟩ := means.conflict.mp rfl
  -- Both directions are those of the same source.
  have single : ∀ claim ∈ bystanderClaims, claim.stance ≠ .neutral → claim.sourceId = "journal" := by
    decide
  exact apart ((single pro first (by simp [backs])).trans
    (single contra second (by simp [against])).symm)

end StrategyLab
