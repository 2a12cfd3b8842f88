import StrategyLab.Knowledge.RobustnessRanking
import Mathlib.Algebra.Order.Field.Basic

/-! How the ranking follows the metrics: where a better experiment ranks higher, and where not. -/

namespace StrategyLab

open StrategyRobustnessRanker

variable {numerals : Py.Numerals}

/-- One experiment is at least as good as another one in every metric that is ranked. -/
structure AtLeastAsGood (a b : RankedMetrics) : Prop where
  totalReturn : b.totalReturn ≤ a.totalReturn
  profitFactor : b.profitFactor ≤ a.profitFactor
  winRate : b.winRate ≤ a.winRate
  tradeCount : b.tradeCount ≤ a.tradeCount
  /-- The drawdown is not larger, whatever its sign. -/
  drawdown : |a.mdd| ≤ |b.mdd|

/-- Dividing by its drawdown hurts the experiment: it loses money and has the smaller divisor, or it
earns money and has the larger one. -/
def HurtByDrawdown (a b : RankedMetrics) : Prop :=
  a.totalReturn < 0 ∧ a.floored < b.floored ∨ 0 < a.totalReturn ∧ b.floored < a.floored

/-- What the experiment is better at makes up for its return over its drawdown, to six decimals. -/
def MakesUp (a b : RankedMetrics) : Prop :=
  Py.round 6 (b.totalReturn / b.floored + b.capped + b.winRate + b.sample) ≤
    Py.round 6 (a.totalReturn / a.floored + a.capped + a.winRate + a.sample)

/-- A ranked strategy without its place. -/
def RobustnessRankedStrategy.unplaced (entry : RobustnessRankedStrategy) :
    RobustnessRankedStrategy :=
  { entry with rank := 0 }

/-- Two rankings put strategies with different scores in the same order. -/
structure SameOrder (left right : List RobustnessRankedStrategy) : Prop where
  /-- The scores come one after the other in the same way. -/
  scores : left.map (·.score) = right.map (·.score)
  /-- The same strategies have each score. -/
  groups : ∀ score, ((left.map (·.unplaced)).filter (·.score = score)).Perm
    ((right.map (·.unplaced)).filter (·.score = score))

/-- A ranking follows the metrics and not the order of the input. -/
structure FollowsMetrics (numerals : Py.Numerals) (results : List ValidationLoopV2Result)
    (ranking : RobustnessRankingResult) : Prop where
  /-- What is at least as good is not placed behind, unless the scores are equal. -/
  monotone : ranking.ranked.Pairwise fun earlier later =>
    AtLeastAsGood later.metrics earlier.metrics → later.score = earlier.score
  /-- The order of the input changes nothing between different scores. -/
  independent : ∀ others, others.Perm results → ∃ other, rank numerals others = .ok other ∧
    SameOrder other.ranked ranking.ranked

/-- The divisor of a return is positive. -/
theorem RankedMetrics.floored_pos (metrics : RankedMetrics) : 0 < metrics.floored :=
  lt_max_of_lt_right (by norm_num)

variable {a b : RankedMetrics}

/-- A larger profit factor is not capped to a smaller one. -/
theorem RankedMetrics.capped_mono (below : b.profitFactor ≤ a.profitFactor) :
    b.capped ≤ a.capped := by
  unfold capped
  cases left : b.profitFactor with
  | top =>
    rw [left, top_le_iff] at below
    rw [below]
  | coe less =>
    cases right : a.profitFactor with
    | top => exact min_le_right _ _
    | coe more =>
      rw [left, right, WithTop.coe_le_coe] at below
      exact min_le_min_right 5 below

/-- More trades are not a smaller sample. -/
theorem RankedMetrics.sample_mono (below : b.tradeCount ≤ a.tradeCount) :
    b.sample ≤ a.sample := by
  unfold sample
  have counts : (b.tradeCount : ℚ) ≤ a.tradeCount := by exact_mod_cast below
  exact min_le_min_right 1 (by linarith)

/-- A return that is at least as good is so over its divisor, unless the divisor hurts it. -/
theorem div_floored_mono (below : b.totalReturn ≤ a.totalReturn)
    (unhurt : ¬HurtByDrawdown a b) : b.totalReturn / b.floored ≤ a.totalReturn / a.floored := by
  have left := b.floored_pos
  have right := a.floored_pos
  rw [div_le_div_iff₀ left right]
  rcases lt_trichotomy a.totalReturn 0 with losing | even | winning
  · -- Both lose, and the divisor of the better one is not the smaller one.
    have wider : b.floored ≤ a.floored := not_lt.mp fun smaller => unhurt (Or.inl ⟨losing, smaller⟩)
    nlinarith
  · rw [even] at below ⊢
    nlinarith
  · -- The better one wins, and its divisor is not the larger one.
    have narrower : a.floored ≤ b.floored :=
      not_lt.mp fun larger => unhurt (Or.inr ⟨winning, larger⟩)
    rcases le_or_gt 0 b.totalReturn with also | losing
    · nlinarith
    · nlinarith

/-- What is at least as good scores at least as high, unless its drawdown hurts it. -/
theorem AtLeastAsGood.score_le (better : AtLeastAsGood a b)
    (unhurt : ¬HurtByDrawdown a b) : b.score ≤ a.score := by
  have ratio := div_floored_mono better.totalReturn unhurt
  have factor := RankedMetrics.capped_mono better.profitFactor
  have sample := RankedMetrics.sample_mono better.tradeCount
  have rate := better.winRate
  exact Py.round_mono 6 (by linarith)

/-- The ranking of experiments whose numbers are known. -/
def rankedOf (known : List (AuthoritativeValidationEvidence × RankedMetrics)) :
    List RobustnessRankedStrategy :=
  (Py.sortedBy (fun entry => -entry.2.score) known).mapIdx fun index entry =>
    rankedStrategy (index + 1) entry.1 entry.2

variable {evidence : AuthoritativeValidationEvidence}
  {entry : AuthoritativeValidationEvidence × RankedMetrics}

/-- Evidence is scored by its own numbers. -/
theorem scored_eq_ok
    :
    scored numerals evidence = .ok entry ↔
      metricsOf numerals evidence = .ok entry.2 ∧ evidence = entry.1 := by
  rw [scored, Raise.bind_eq_ok]
  constructor
  · rintro ⟨metrics, found, same⟩
    cases Raise.pure_eq_ok.mp same
    exact ⟨found, rfl⟩
  · rintro ⟨found, rfl⟩
    exact ⟨entry.2, found, Raise.pure_eq_ok.mpr rfl⟩

variable {results : List ValidationLoopV2Result}

/-- The known numbers that a ranking without blockers is made of. -/
theorem rank_eq_ok {ranking : RobustnessRankingResult}
    (clear : blockers results = []) (done : rank numerals results = .ok ranking) :
    ∃ known, List.Forall₂ (fun evidence entry => scored numerals evidence = .ok entry)
      (accepted results) known ∧ ranking.ranked = rankedOf known := by
  rw [rank, if_neg (not_not.mpr clear), Raise.bind_eq_ok] at done
  obtain ⟨known, read, returned⟩ := done
  cases Raise.pure_eq_ok.mp returned
  exact ⟨known, Raise.mapM_eq_ok_iff_forall₂.mp read, rfl⟩

variable {known : List (AuthoritativeValidationEvidence × RankedMetrics)}

/-- Known numbers of results without blockers make a ranking. -/
theorem exists_rank (clear : blockers results = [])
    (read : List.Forall₂ (fun evidence entry => scored numerals evidence = .ok entry)
      (accepted results) known) :
    ∃ ranking, rank numerals results = .ok ranking ∧ ranking.ranked = rankedOf known := by
  rw [rank, if_neg (not_not.mpr clear), Raise.mapM_eq_ok_iff_forall₂.mpr read]
  exact ⟨_, rfl, rfl⟩

variable {left right : List ValidationLoopV2Result}

/-- The order of the input does not matter to what is accepted. -/
theorem accepted_perm (same : left.Perm right) :
    (accepted left).Perm (accepted right) :=
  same.filterMap _

/-- The order of the input does not matter to what blocks a ranking. -/
theorem blockers_perm (same : left.Perm right) :
    blockers left = blockers right := by
  have kept := accepted_perm same
  have empty : accepted left = [] ↔ accepted right = [] := by
    rw [← List.length_eq_zero_iff, ← List.length_eq_zero_iff, kept.length_eq]
  have missing : ((accepted left).any fun evidence => !hasRequiredMetrics evidence) =
      (accepted right).any fun evidence => !hasRequiredMetrics evidence := by
    rw [Bool.eq_iff_iff, List.any_eq_true, List.any_eq_true]
    simp only [kept.mem_iff]
  simp only [blockers, kept.length_eq, same.length_eq, empty, missing]

/-- The ranked strategies without their places, by falling scores. -/
theorem unplaced_rankedOf (known : List (AuthoritativeValidationEvidence × RankedMetrics)) :
    (rankedOf known).map (·.unplaced) =
      (Py.sortedBy (fun entry => -entry.2.score) known).map fun entry =>
        rankedStrategy 0 entry.1 entry.2 := by
  refine List.ext_getElem (by simp [rankedOf]) fun index _ _ => ?_
  simp [rankedOf, RobustnessRankedStrategy.unplaced, rankedStrategy]

/-- The scores of the ranked strategies. -/
theorem scores_rankedOf (known : List (AuthoritativeValidationEvidence × RankedMetrics)) :
    (rankedOf known).map (·.score) =
      (Py.sortedBy (fun entry => -entry.2.score) known).map (·.2.score) := by
  refine List.ext_getElem (by simp [rankedOf]) fun index _ _ => ?_
  simp [rankedOf, rankedStrategy]

/-- The order of the input does not matter to strategies with different scores. -/
theorem sameOrder_rankedOf {left right : List (AuthoritativeValidationEvidence × RankedMetrics)}
    (same : left.Perm right) : SameOrder (rankedOf left) (rankedOf right) := by
  constructor
  · have keys : (Py.sortedBy (fun entry => -entry.2.score) left).map (fun entry =>
        -entry.2.score) = (Py.sortedBy (fun entry => -entry.2.score) right).map fun entry =>
        -entry.2.score := Py.map_key_sortedBy same
    have turned := congrArg (List.map fun key : ℚ => -key) keys
    simpa [scores_rankedOf, Function.comp_def] using turned
  · intro score
    rw [unplaced_rankedOf, unplaced_rankedOf]
    exact ((((Py.sortedBy_perm _ left).trans same).trans (Py.sortedBy_perm _ right).symm).map
      _).filter _

/-- An order of the ranked strategies is one of the known numbers. -/
theorem pairwise_rankedOf {rel : RobustnessRankedStrategy → RobustnessRankedStrategy → Prop}
    (holds : (Py.sortedBy (fun entry => -entry.2.score) known).Pairwise fun earlier later =>
      ∀ place other, rel (rankedStrategy place earlier.1 earlier.2)
        (rankedStrategy other later.1 later.2)) :
    (rankedOf known).Pairwise rel := by
  rw [List.pairwise_iff_getElem] at holds ⊢
  intro first second inside below before
  rw [rankedOf, List.length_mapIdx] at inside below
  have both := holds first second inside below before (first + 1) (second + 1)
  simpa [rankedOf] using both

/-- Strategies with different scores are ranked by them. -/
theorem mem_rankedOf_before {rel : RobustnessRankedStrategy → RobustnessRankedStrategy → Prop}
    (holds : (rankedOf known).Pairwise rel) {high low :
      AuthoritativeValidationEvidence × RankedMetrics} (first : high ∈ known) (second : low ∈ known)
    (apart : low.2.score < high.2.score) :
    ∃ place other, rel (rankedStrategy place high.1 high.2) (rankedStrategy other low.1 low.2) := by
  rw [List.pairwise_iff_getElem] at holds
  have falls := List.pairwise_iff_getElem.mp
    (Py.sortedBy_pairwise (fun entry => -entry.2.score) known)
  rw [← Py.mem_sortedBy (fun entry => -entry.2.score)] at first second
  obtain ⟨i, inside, rfl⟩ := List.mem_iff_getElem.mp first
  obtain ⟨j, below, rfl⟩ := List.mem_iff_getElem.mp second
  -- The higher score comes first, since scores do not rise.
  have before : i < j := by
    rcases lt_trichotomy i j with less | same | more
    · exact less
    · subst same
      exact absurd apart (lt_irrefl _)
    · have order := falls j i below inside more
      linarith
  have both := holds i j (by simpa [rankedOf] using inside) (by simpa [rankedOf] using below) before
  exact ⟨i + 1, j + 1, by simpa [rankedOf] using both⟩

variable {evidences : List AuthoritativeValidationEvidence}

section

variable (read : List.Forall₂ (fun evidence entry => scored numerals evidence = .ok entry)
  evidences known)

include read

/-- Accepted evidence is known by its numbers. -/
theorem mem_known {metrics : RankedMetrics}
    (member : evidence ∈ evidences) (found : metricsOf numerals evidence = .ok metrics) :
    (evidence, metrics) ∈ known := by
  induction read with
  | nil => cases member
  | cons first _ ih =>
    rcases List.mem_cons.mp member with same | later
    · -- The numbers of evidence are read only once.
      rw [← same, scored_eq_ok, found] at first
      obtain ⟨numbers, own⟩ := first
      injection numbers with numbers
      rw [own, numbers]
      exact List.mem_cons_self
    · exact List.mem_cons_of_mem _ (ih later)

/-- What is known by its numbers is accepted evidence. -/
theorem mem_accepted
    (member : entry ∈ known) :
    entry.1 ∈ evidences ∧ metricsOf numerals entry.1 = .ok entry.2 := by
  induction read with
  | nil => cases member
  | cons first _ ih =>
    rcases List.mem_cons.mp member with rfl | later
    · obtain ⟨found, rfl⟩ := scored_eq_ok.mp first
      exact ⟨List.mem_cons_self, found⟩
    · obtain ⟨inside, found⟩ := ih later
      exact ⟨List.mem_cons_of_mem _ inside, found⟩

end

/-- The ranking follows the metrics exactly when no better experiment is hurt by its drawdown
without making up for it. -/
theorem rank_followsMetrics_iff {results : List ValidationLoopV2Result}
    {ranking : RobustnessRankingResult} (clear : blockers results = [])
    (done : rank numerals results = .ok ranking) :
    FollowsMetrics numerals results ranking ↔
      ∀ better ∈ accepted results, ∀ worse ∈ accepted results, ∀ a b,
        metricsOf numerals better = .ok a → metricsOf numerals worse = .ok b →
        AtLeastAsGood a b → HurtByDrawdown a b → MakesUp a b := by
  obtain ⟨known, read, listed⟩ := rank_eq_ok clear done
  constructor
  · intro follows better first worse second a b left right good _
    -- Otherwise the worse experiment has the higher score and comes first.
    by_contra lower
    have apart : a.score < b.score := not_le.mp lower
    have ahead := follows.monotone
    rw [listed] at ahead
    obtain ⟨_, _, rel⟩ := mem_rankedOf_before ahead (mem_known read second right)
      (mem_known read first left) apart
    exact apart.ne (rel good)
  · intro makesUp
    refine ⟨?_, fun others same => ?_⟩
    · rw [listed]
      refine pairwise_rankedOf ?_
      refine (Py.sortedBy_pairwise (fun entry => -entry.2.score) known).imp_of_mem ?_
      intro earlier later first second order _ _ good
      rw [Py.mem_sortedBy] at first second
      obtain ⟨left, known₁⟩ := mem_accepted read first
      obtain ⟨right, known₂⟩ := mem_accepted read second
      have rises : earlier.2.score ≤ later.2.score := by
        by_cases hurt : HurtByDrawdown later.2 earlier.2
        · exact makesUp _ right _ left _ _ known₂ known₁ good hurt
        · exact good.score_le hurt
      exact le_antisymm (neg_le_neg_iff.mp order) rises
    · -- The same experiments are accepted, in another order.
      obtain ⟨reordered, others_, shuffled⟩ :=
        List.perm_comp_forall₂ (accepted_perm same) read
      obtain ⟨other, ranked, list⟩ := exists_rank ((blockers_perm same).trans clear) others_
      exact ⟨other, ranked, by rw [list, listed]; exact sameOrder_rankedOf shuffled⟩

/-- No text is read as a number. -/
def noTexts : Py.Numerals := ⟨fun _ => none, fun _ => none⟩

/-- The evidence of an experiment that lost a fifth with some drawdown. -/
def losingEvidence (name : String) (mdd : ℚ) : AuthoritativeValidationEvidence where
  evidenceId := "evidence:" ++ name
  experimentId := name
  source := "backtest"
  fixtureBacked := false
  metrics := [("total_return", .plain (.float (-1 / 5))), ("mdd", .plain (.float mdd)),
    ("profit_factor", .plain (.float (4 / 5))), ("win_rate", .plain (.float (2 / 5)))]
  tradeCount := 30

/-- Two losing experiments that differ in their drawdowns. -/
def losingResults : List ValidationLoopV2Result :=
  [⟨.acceptedForReview, some (losingEvidence "shallow" (1 / 10))⟩,
    ⟨.acceptedForReview, some (losingEvidence "steep" (2 / 5))⟩]

/-- The numbers of a losing experiment. -/
def losingMetrics (mdd : ℚ) : RankedMetrics :=
  { totalReturn := -1 / 5, mdd, profitFactor := ((4 / 5 : ℚ) : WithTop ℚ), winRate := 2 / 5,
    tradeCount := 30 }

/-- The losing experiments are ranked with the steep one first. -/
def losingRanking : RobustnessRankingResult :=
  { status := .ranked
    blockers := []
    ranked := [rankedStrategy 1 (losingEvidence "steep" (2 / 5)) (losingMetrics (2 / 5)),
      rankedStrategy 2 (losingEvidence "shallow" (1 / 10)) (losingMetrics (1 / 10))]
    warnings := [] }

/-- Nothing blocks the losing experiments. -/
theorem losing_unblocked : blockers losingResults = [] := by
  decide

/-- The ranking of the losing experiments. -/
theorem losing_ranked : rank noTexts losingResults = .ok losingRanking := by
  decide +kernel

/-- The condition on a ranking, for the two losing experiments. -/
theorem losing_followsMetrics_iff :
    blockers losingResults = [] ∧ rank noTexts losingResults = .ok losingRanking ∧
      (FollowsMetrics noTexts losingResults losingRanking ↔
        ∀ better ∈ accepted losingResults, ∀ worse ∈ accepted losingResults, ∀ a b,
          metricsOf noTexts better = .ok a → metricsOf noTexts worse = .ok b →
          AtLeastAsGood a b → HurtByDrawdown a b → MakesUp a b) :=
  ⟨losing_unblocked, losing_ranked, rank_followsMetrics_iff losing_unblocked losing_ranked⟩

/-- A larger drawdown ranks a losing experiment higher, with all other metrics the same. -/
theorem drawdown_improves_rank :
    blockers losingResults = [] ∧ rank noTexts losingResults = .ok losingRanking ∧
      ¬FollowsMetrics noTexts losingResults losingRanking := by
  refine ⟨losing_unblocked, losing_ranked, fun follows => ?_⟩
  have ahead := List.pairwise_cons.mp follows.monotone
  have good : AtLeastAsGood (losingMetrics (1 / 10)) (losingMetrics (2 / 5)) :=
    ⟨le_rfl, le_rfl, le_rfl, le_rfl, by norm_num [losingMetrics]⟩
  have same : (losingMetrics (1 / 10)).score = (losingMetrics (2 / 5)).score :=
    ahead.1 _ List.mem_cons_self good
  -- The scores are -0.3 and 1.2.
  have apart : (losingMetrics (1 / 10)).score ≠ (losingMetrics (2 / 5)).score := by
    decide +kernel
  exact apart same

end StrategyLab
