import StrategyLab.Research.MultiSymbol
import Mathlib.Data.List.Dedup

/-! Candidate preference: when a candidate that is preferred is better than the original. -/

namespace StrategyLab

/-- The line of the original strategy. -/
def originalLine (original : List SymbolResearchEvidence) : ComparisonRow :=
  (aggregateSymbolEvidence original).row "original"

/-- The line of a candidate. -/
def candidateLine (candidates : List CandidateSymbolEvidence) (candidateId : String) :
    ComparisonRow :=
  (aggregateSymbolEvidence (evidenceFor candidates candidateId)).row candidateId

/-- A line has the greater return, no larger drawdown, and no fewer traded symbols and trades. -/
structure Dominates (original best : ComparisonRow) : Prop where
  improved : ∃ before after, original.medianReturn = some before ∧
    best.medianReturn = some after ∧ before < after
  drawdown : ∃ before after, original.medianMdd = some before ∧
    best.medianMdd = some after ∧ after ≤ before
  breadth : original.symbolsWithTrades ≤ best.symbolsWithTrades
  trades : original.aggregateTradeCount ≤ best.aggregateTradeCount

/-- A candidate that is preferred dominates the original. -/
def PrefersDominating (original : List SymbolResearchEvidence)
    (candidates : List CandidateSymbolEvidence) : Prop :=
  (compareCandidateGeneralization original candidates).decision = .candidatePreferred →
    ∃ candidateId ∈ candidates.map (·.candidateId),
      (compareCandidateGeneralization original candidates).winnerId = some candidateId ∧
        Dominates (originalLine original) (candidateLine candidates candidateId)

/-- Neither the order of the evidence nor that of the candidates matters. -/
def ComparesOrderFree (original : List SymbolResearchEvidence)
    (candidates : List CandidateSymbolEvidence) : Prop :=
  ∀ evidence results, original.Perm evidence → candidates.Perm results →
    (compareCandidateGeneralization evidence results).decision =
        (compareCandidateGeneralization original candidates).decision ∧
      (compareCandidateGeneralization evidence results).winnerId =
        (compareCandidateGeneralization original candidates).winnerId

/-- No other candidate with enough evidence ranks above a candidate, or comes before it in the order
of their names while it ranks the same. -/
def RanksFirst (candidates : List CandidateSymbolEvidence) (candidateId : String) : Prop :=
  ∀ other ∈ candidates.map (·.candidateId), (candidateLine candidates other).comparable →
    (candidateLine candidates other).rank ≤ (candidateLine candidates candidateId).rank ∧
      ((candidateLine candidates other).rank = (candidateLine candidates candidateId).rank →
        candidateId ≤ other)

/-- A candidate with enough evidence that ranks first has the greater return and no fewer traded
symbols and trades than the original with enough evidence, but falls where the original does not. -/
structure HidesDrawdown (original : List SymbolResearchEvidence)
    (candidates : List CandidateSymbolEvidence) (candidateId : String) : Prop where
  tested : candidateId ∈ candidates.map (·.candidateId)
  named : candidateId ≠ "original"
  confident : (originalLine original).confidence ≠ .low
  comparable : (candidateLine candidates candidateId).comparable
  first : RanksFirst candidates candidateId
  improved : (originalLine original).comparedReturn <
    (candidateLine candidates candidateId).comparedReturn
  breadth : (originalLine original).symbolsWithTrades ≤
    (candidateLine candidates candidateId).symbolsWithTrades
  trades : (originalLine original).aggregateTradeCount ≤
    (candidateLine candidates candidateId).aggregateTradeCount
  whole : (originalLine original).medianMdd = some 0
  falls : ∃ fall, (candidateLine candidates candidateId).medianMdd = some fall ∧ 0 < fall ∧ fall ≤ 1

/-- The medians of the same values are the same. -/
theorem median_congr {left right : List ℚ} (same : left.Perm right) : median left = median right := by
  have sorted : Py.sortedBy id left = Py.sortedBy id right := by
    have keys := @Py.map_key_sortedBy _ _ _ id _ _ same
    rwa [List.map_id, List.map_id] at keys
  have empty : left = [] ↔ right = [] := by
    rw [← List.length_eq_zero_iff, ← List.length_eq_zero_iff, same.length_eq]
  unfold median
  rw [sorted, if_congr empty rfl rfl]

/-- The largest shares of the same parts are the same. -/
theorem largestShare_congr {left right : List ℚ} (same : left.Perm right) :
    largestShare left = largestShare right := by
  unfold largestShare
  rw [same.sum_eq, same.foldl_eq]

/-- The lines of the same evidence are the same. -/
theorem row_congr {left right : List SymbolResearchEvidence} (same : left.Perm right)
    (candidateId : String) : (aggregateSymbolEvidence left).row candidateId =
      (aggregateSymbolEvidence right).row candidateId := by
  have eligible := same.filter (·.eligible)
  have traded := eligible.filter (0 < ·.tradeCount)
  have returns := traded.map (·.totalReturn)
  have trades := traded.map (·.tradeCount)
  have falls := traded.map (·.mdd)
  have empty : ((left.filter (·.eligible)).filter (0 < ·.tradeCount)).map (·.totalReturn) = [] ↔
      ((right.filter (·.eligible)).filter (0 < ·.tradeCount)).map (·.totalReturn) = [] := by
    rw [← List.length_eq_zero_iff, ← List.length_eq_zero_iff, returns.length_eq]
  unfold aggregateSymbolEvidence UniverseResearchSummary.row
  dsimp only
  rw [median_congr returns, median_congr falls, trades.sum_eq, traded.length_eq,
    largestShare_congr (trades.map _), largestShare_congr (returns.map abs), returns.countP_eq,
    returns.length_eq, eligible.length_eq, same.length_eq, if_congr empty rfl rfl]

/-- The lines of a comparison do not depend on any order. -/
theorem comparisonRows_congr {original evidence : List SymbolResearchEvidence}
    {candidates results : List CandidateSymbolEvidence} (same : original.Perm evidence)
    (sameResults : candidates.Perm results) :
    comparisonRows original candidates = comparisonRows evidence results := by
  have names : sortedSet (candidates.map (·.candidateId)) =
      sortedSet (results.map (·.candidateId)) := by
    have keys := @Py.map_key_sortedBy _ _ _ id _ _ (sameResults.map (·.candidateId)).dedup
    rwa [List.map_id, List.map_id] at keys
  unfold comparisonRows
  rw [row_congr same, names]
  refine congrArg _ (List.map_congr_left fun candidateId _ => row_congr ?_ candidateId)
  exact (sameResults.filter _).map _

variable {original : List SymbolResearchEvidence} {candidates : List CandidateSymbolEvidence}
  {candidateId : String}

/-- There is a median of values exactly if there are values. -/
theorem isSome_median {values : List ℚ} : (median values).isSome ↔ values ≠ [] := by
  unfold median
  split
  · rename_i none_
    simp [none_]
  · rename_i some_
    dsimp only
    split <;> simp [some_]

/-- A line has a return exactly if it has a drawdown. -/
theorem isSome_medianReturn_iff (evidence : List SymbolResearchEvidence) (candidateId : String) :
    ((aggregateSymbolEvidence evidence).row candidateId).medianReturn.isSome ↔
      ((aggregateSymbolEvidence evidence).row candidateId).medianMdd.isSome := by
  unfold aggregateSymbolEvidence UniverseResearchSummary.row
  dsimp only
  rw [isSome_median, isSome_median, ne_eq, ne_eq, List.map_eq_nil_iff, List.map_eq_nil_iff]

/-- The original can be compared if its sample says enough. -/
theorem comparable_originalLine (confident : (originalLine original).confidence ≠ .low) :
    (originalLine original).comparable := by
  have some_ : (originalLine original).medianReturn.isSome := by
    by_contra none_
    refine confident ?_
    unfold originalLine aggregateSymbolEvidence UniverseResearchSummary.row at none_ ⊢
    dsimp only at none_ ⊢
    rw [isSome_median, not_not, List.map_eq_nil_iff] at none_
    -- Without a traded symbol the sample is too small.
    rw [none_]
    exact if_pos (.inr (.inl (by decide)))
  unfold ComparisonRow.comparable
  rw [some_, Bool.and_true]
  exact decide_eq_true confident

variable {row : ComparisonRow}

/-- A return as it is compared is the median one. -/
theorem comparedReturn_eq {value : ℚ} (known : row.medianReturn = some value) :
    row.comparedReturn = value := by
  unfold ComparisonRow.comparedReturn orFloat
  rw [known]
  by_cases zero : value = 0
  · simp [Option.filter, zero]
  · simp [Option.filter, zero]

/-- A drawdown as it is compared is the median one, or one where there is none. -/
theorem comparedMdd_eq {value : ℚ} (known : row.medianMdd = some value) :
    row.comparedMdd = if value = 0 then 1 else value := by
  unfold ComparisonRow.comparedMdd orFloat
  rw [known]
  by_cases zero : value = 0
  · simp [Option.filter, zero]
  · simp [Option.filter, zero]

variable {rows : List ComparisonRow}

/-- A line that ranks highest is preferred exactly if it beats the original as it is compared. -/
theorem judgeBest_preferred_iff {best : ComparisonRow} {first : ComparisonRow}
    :
    (judgeBest first best rows).decision = .candidatePreferred ↔
      best.candidateId ≠ "original" ∧ first.comparedReturn < best.comparedReturn ∧
        first.symbolsWithTrades ≤ best.symbolsWithTrades ∧
        first.aggregateTradeCount ≤ best.aggregateTradeCount ∧
        best.comparedMdd ≤ first.comparedMdd := by
  unfold judgeBest
  split
  · rename_i itself
    exact iff_of_false (by simp) fun preferred => preferred.1 itself
  · rename_i other
    dsimp only
    split
    · rename_i beats
      simp only [Bool.and_eq_true, decide_eq_true_eq] at beats
      obtain ⟨⟨⟨improved, breadth⟩, trades⟩, falls⟩ := beats
      exact iff_of_true rfl ⟨other, improved, breadth, trades, falls⟩
    · rename_i fails
      refine iff_of_false (by simp) fun preferred => fails ?_
      obtain ⟨-, improved, breadth, trades, falls⟩ := preferred
      simp [improved, breadth, trades, falls]

/-- A line that is preferred is the winner. -/
theorem winnerId_judgeBest {best first : ComparisonRow}
    (preferred : (judgeBest first best rows).decision = .candidatePreferred) :
    (judgeBest first best rows).winnerId = some best.candidateId := by
  unfold judgeBest at preferred ⊢
  split
  · rename_i itself
    rw [if_pos itself] at preferred
    cases preferred
  · rename_i other
    rw [if_neg other] at preferred
    dsimp only at preferred ⊢
    split
    · rfl
    · rename_i fails
      rw [if_neg fails] at preferred
      cases preferred

/-- The lines that are compared: the original, then the candidates with enough evidence. -/
theorem filter_comparable (confident : (originalLine original).confidence ≠ .low) :
    (comparisonRows original candidates).filter (·.comparable) =
      originalLine original :: ((sortedSet (candidates.map (·.candidateId))).map
        (candidateLine candidates)).filter (·.comparable) := by
  unfold comparisonRows
  exact List.filter_cons_of_pos (comparable_originalLine confident)

/-- The lines of the candidates with enough evidence. -/
theorem mem_candidateLines :
    row ∈ ((sortedSet (candidates.map (·.candidateId))).map
        (candidateLine candidates)).filter (·.comparable) ↔
      ∃ candidateId ∈ candidates.map (·.candidateId),
        (candidateLine candidates candidateId).comparable ∧
          candidateLine candidates candidateId = row := by
  rw [List.mem_filter, List.mem_map]
  constructor
  · rintro ⟨⟨candidateId, named, rfl⟩, enough⟩
    rw [sortedSet, Py.mem_sortedBy, List.mem_dedup] at named
    exact ⟨candidateId, named, enough, rfl⟩
  · rintro ⟨candidateId, named, enough, rfl⟩
    refine ⟨⟨candidateId, ?_, rfl⟩, enough⟩
    rw [sortedSet, Py.mem_sortedBy, List.mem_dedup]
    exact named

/-- The lines of the candidates stand in the order of their names. -/
theorem pairwise_candidateLines : (((sortedSet (candidates.map (·.candidateId))).map
    (candidateLine candidates)).filter (·.comparable)).Pairwise fun one other =>
      one.candidateId < other.candidateId := by
  refine List.Pairwise.filter _ (List.pairwise_map.mpr ?_)
  have rising := Py.sortedBy_pairwise id (candidates.map (·.candidateId)).dedup
  have distinct : (sortedSet (candidates.map (·.candidateId))).Nodup :=
    (Py.sortedBy_perm id _).nodup_iff.mpr (List.nodup_dedup _)
  exact (rising.and distinct).imp fun both => lt_of_le_of_ne both.1 both.2

/-- A comparison with enough evidence judges the line that ranks highest. -/
theorem compare_eq_judgeBest (confident : (originalLine original).confidence ≠ .low)
    (some_ : ((sortedSet (candidates.map (·.candidateId))).map
      (candidateLine candidates)).filter (·.comparable) ≠ []) :
    compareCandidateGeneralization original candidates = judgeBest (originalLine original)
      ((originalLine original :: ((sortedSet (candidates.map (·.candidateId))).map
        (candidateLine candidates)).filter (·.comparable)).maxOn ComparisonRow.rank
          (List.cons_ne_nil _ _)) (comparisonRows original candidates) := by
  have all := @filter_comparable original candidates confident
  have enough : (aggregateSymbolEvidence original).sampleConfidence ≠ .low := confident
  unfold compareCandidateGeneralization
  dsimp only
  rw [if_neg enough, all]
  generalize ((sortedSet (candidates.map (·.candidateId))).map
    (candidateLine candidates)).filter (·.comparable) = lines at some_
  cases lines with
  | nil => exact absurd rfl some_
  | cons second others => rfl

/-- A candidate with enough evidence that ranks first and beats the original is preferred. -/
theorem preferred_of_first (confident : (originalLine original).confidence ≠ .low)
    (tested : candidateId ∈ candidates.map (·.candidateId)) (named : candidateId ≠ "original")
    (enough : (candidateLine candidates candidateId).comparable)
    (first : RanksFirst candidates candidateId)
    (improved : (originalLine original).comparedReturn <
      (candidateLine candidates candidateId).comparedReturn)
    (breadth : (originalLine original).symbolsWithTrades ≤
      (candidateLine candidates candidateId).symbolsWithTrades)
    (trades : (originalLine original).aggregateTradeCount ≤
      (candidateLine candidates candidateId).aggregateTradeCount)
    (falls : (candidateLine candidates candidateId).comparedMdd ≤
      (originalLine original).comparedMdd) :
    (compareCandidateGeneralization original candidates).decision = .candidatePreferred ∧
      (compareCandidateGeneralization original candidates).winnerId = some candidateId := by
  have among := mem_candidateLines.mpr ⟨candidateId, tested, enough, rfl⟩
  have below : (originalLine original).rank < (candidateLine candidates candidateId).rank :=
    Prod.Lex.toLex_lt_toLex.mpr (.inl improved)
  have best : (originalLine original :: ((sortedSet (candidates.map (·.candidateId))).map
      (candidateLine candidates)).filter (·.comparable)).maxOn ComparisonRow.rank
        (List.cons_ne_nil _ _) = candidateLine candidates candidateId := by
    -- The names order the lines behind the original, which ranks below.
    refine @Py.maxOn_eq_of_first _ _ _ ComparisonRow.rank _ _
      (fun one other => one = originalLine original ∨ one.candidateId < other.candidateId)
      (List.mem_cons_of_mem _ among) ?_ ?_ ?_
    · intro other member
      rcases List.mem_cons.mp member with rfl | line
      · exact below.le
      · obtain ⟨name, listed, full, rfl⟩ := mem_candidateLines.mp line
        exact (first name listed full).1
    · refine List.pairwise_cons.mpr ⟨fun other _ => .inl rfl, ?_⟩
      exact pairwise_candidateLines.imp fun less => .inr less
    · intro other member same before
      rcases List.mem_cons.mp member with rfl | line
      · exact absurd same below.ne
      · obtain ⟨name, listed, full, rfl⟩ := mem_candidateLines.mp line
        rcases before with head | less
        · rw [head] at same
          exact absurd same below.ne
        · exact absurd less (not_lt.mpr ((first name listed full).2 same))
  have judged := compare_eq_judgeBest confident (List.ne_nil_of_mem among)
  rw [best] at judged
  have preferred : (judgeBest (originalLine original) (candidateLine candidates candidateId)
      (comparisonRows original candidates)).decision = .candidatePreferred :=
    judgeBest_preferred_iff.mpr ⟨named, improved, breadth, trades, falls⟩
  rw [judged]
  exact ⟨preferred, winnerId_judgeBest preferred⟩

/-- A candidate that is preferred has enough evidence, ranks first and beats the original. -/
theorem first_of_preferred
    (preferred : (compareCandidateGeneralization original candidates).decision =
      .candidatePreferred) :
    (originalLine original).confidence ≠ .low ∧ ∃ candidateId ∈ candidates.map (·.candidateId),
      (compareCandidateGeneralization original candidates).winnerId = some candidateId ∧
        candidateId ≠ "original" ∧ (candidateLine candidates candidateId).comparable ∧
        RanksFirst candidates candidateId ∧
        (originalLine original).comparedReturn <
          (candidateLine candidates candidateId).comparedReturn ∧
        (originalLine original).symbolsWithTrades ≤
          (candidateLine candidates candidateId).symbolsWithTrades ∧
        (originalLine original).aggregateTradeCount ≤
          (candidateLine candidates candidateId).aggregateTradeCount ∧
        (candidateLine candidates candidateId).comparedMdd ≤
          (originalLine original).comparedMdd := by
  have confident : (originalLine original).confidence ≠ .low := by
    intro low
    have little : (aggregateSymbolEvidence original).sampleConfidence = .low := low
    unfold compareCandidateGeneralization at preferred
    dsimp only at preferred
    rw [if_pos little] at preferred
    cases preferred
  have some_ : ((sortedSet (candidates.map (·.candidateId))).map
      (candidateLine candidates)).filter (·.comparable) ≠ [] := by
    intro none_
    have enough : (aggregateSymbolEvidence original).sampleConfidence ≠ .low := confident
    unfold compareCandidateGeneralization at preferred
    dsimp only at preferred
    rw [if_neg enough, filter_comparable confident, none_] at preferred
    cases preferred
  have judged := compare_eq_judgeBest confident some_
  obtain ⟨before, after, whole, below⟩ := @Py.maxOn_first _ _ _ ComparisonRow.rank _
    (List.cons_ne_nil (originalLine original) (((sortedSet (candidates.map
      (·.candidateId))).map (candidateLine candidates)).filter (·.comparable)))
  have member := List.maxOn_mem (f := ComparisonRow.rank) (h := List.cons_ne_nil
    (originalLine original) (((sortedSet (candidates.map (·.candidateId))).map
      (candidateLine candidates)).filter (·.comparable)))
  have largest := (List.apply_maxOn_le_iff (f := ComparisonRow.rank) (List.cons_ne_nil
    (originalLine original) (((sortedSet (candidates.map (·.candidateId))).map
      (candidateLine candidates)).filter (·.comparable)))).mp le_rfl
  generalize (originalLine original :: ((sortedSet (candidates.map (·.candidateId))).map
    (candidateLine candidates)).filter (·.comparable)).maxOn ComparisonRow.rank
      (List.cons_ne_nil _ _) = best at judged whole below member largest
  rw [judged] at preferred ⊢
  have winner := winnerId_judgeBest preferred
  obtain ⟨named, improved, breadth, trades, falls⟩ := judgeBest_preferred_iff.mp preferred
  rcases List.mem_cons.mp member with itself | line
  · rw [itself] at improved
    exact absurd improved (lt_irrefl _)
  obtain ⟨candidateId, tested, enough, rfl⟩ := mem_candidateLines.mp line
  refine ⟨confident, candidateId, tested, winner, named, enough, ?_, improved, breadth, trades,
    falls⟩
  intro other listed full
  have inside := mem_candidateLines.mpr ⟨other, listed, full, rfl⟩
  refine ⟨largest _ (List.mem_cons_of_mem _ inside), fun same => ?_⟩
  -- A line that ranks the same does not stand before the best one, so its name is later.
  have ordered : (originalLine original :: ((sortedSet (candidates.map (·.candidateId))).map
      (candidateLine candidates)).filter (·.comparable)).Pairwise fun one other =>
        one = originalLine original ∨ one.candidateId < other.candidateId :=
    List.pairwise_cons.mpr ⟨fun _ _ => .inl rfl, pairwise_candidateLines.imp .inr⟩
  rw [whole] at ordered
  have among := List.mem_cons_of_mem (originalLine original) inside
  rw [whole] at among
  rcases List.mem_append.mp among with early | late
  · exact absurd same (below _ early).ne
  · rcases List.mem_cons.mp late with itself | behind
    · exact (congrArg ComparisonRow.candidateId itself).ge
    · rcases (List.pairwise_cons.mp (List.pairwise_append.mp ordered).2.1).1 _ behind with
        head | less
      · rw [head] at improved
        exact absurd improved (lt_irrefl _)
      · exact le_of_lt less

/-- A line with enough evidence has a return and a drawdown. -/
theorem medians_of_comparable {evidence : List SymbolResearchEvidence}
    (enough : ((aggregateSymbolEvidence evidence).row candidateId).comparable) :
    ∃ value fall, ((aggregateSymbolEvidence evidence).row candidateId).medianReturn = some value ∧
      ((aggregateSymbolEvidence evidence).row candidateId).medianMdd = some fall := by
  unfold ComparisonRow.comparable at enough
  rw [Bool.and_eq_true] at enough
  obtain ⟨value, known⟩ := Option.isSome_iff_exists.mp enough.2
  obtain ⟨fall, there⟩ := Option.isSome_iff_exists.mp
    ((isSome_medianReturn_iff evidence candidateId).mp enough.2)
  exact ⟨value, fall, known, there⟩

/-- A candidate that hides its drawdown is preferred although it falls further. -/
theorem not_dominates_of_hidesDrawdown (hides : HidesDrawdown original candidates candidateId) :
    ¬PrefersDominating original candidates := by
  obtain ⟨fall, known, positive, small⟩ := hides.falls
  have falls : (candidateLine candidates candidateId).comparedMdd ≤
      (originalLine original).comparedMdd := by
    rw [comparedMdd_eq hides.whole, comparedMdd_eq known, if_pos rfl, if_neg positive.ne']
    exact small
  obtain ⟨preferred, winner⟩ := preferred_of_first hides.confident hides.tested hides.named
    hides.comparable hides.first hides.improved hides.breadth hides.trades falls
  intro dominating
  obtain ⟨other, -, same, dominates⟩ := dominating preferred
  rw [winner, Option.some.injEq] at same
  subst same
  obtain ⟨before, after, was, is, less⟩ := dominates.drawdown
  rw [hides.whole, Option.some.injEq] at was
  rw [known, Option.some.injEq] at is
  rw [← was, ← is] at less
  exact absurd positive (not_lt.mpr less)

/-- Where no candidate hides its drawdown, a preferred one dominates the original. -/
theorem prefersDominating_of_open
    (clear : ∀ candidateId, ¬HidesDrawdown original candidates candidateId) :
    PrefersDominating original candidates := by
  intro preferred
  obtain ⟨confident, candidateId, tested, winner, named, enough, first, improved, breadth, trades,
    falls⟩ := first_of_preferred preferred
  obtain ⟨before, drop, was, wasDrop⟩ := medians_of_comparable (comparable_originalLine confident)
  obtain ⟨after, fall, is, isFall⟩ := medians_of_comparable enough
  have oldReturn : (originalLine original).comparedReturn = before := comparedReturn_eq was
  have newReturn : (candidateLine candidates candidateId).comparedReturn = after :=
    comparedReturn_eq is
  have oldFall : (originalLine original).comparedMdd = if drop = 0 then 1 else drop :=
    comparedMdd_eq wasDrop
  have newFall : (candidateLine candidates candidateId).comparedMdd =
      if fall = 0 then 1 else fall := comparedMdd_eq isFall
  refine ⟨candidateId, tested, winner, ⟨before, after, was, is, ?_⟩,
    ⟨drop, fall, wasDrop, isFall, ?_⟩, breadth, trades⟩
  · rwa [← oldReturn, ← newReturn]
  · have compared := falls
    rw [oldFall, newFall] at compared
    by_cases whole : drop = 0
    · -- The drawdown of the original reads as one, so only the condition excludes a fall.
      rw [if_pos whole] at compared
      by_contra further
      rw [whole, not_le] at further
      rw [if_neg further.ne'] at compared
      exact clear candidateId ⟨tested, named, confident, enough, first, improved, breadth, trades,
        whole ▸ wasDrop, fall, isFall, further, compared⟩
    · rw [if_neg whole] at compared
      by_cases still : fall = 0
      · rw [if_pos still] at compared
        rw [still]
        exact zero_le_one.trans compared
      · rwa [if_neg still] at compared

/-- A candidate that is preferred dominates the original, in any order of the evidence and of the
candidates, exactly if no candidate hides its drawdown. -/
theorem prefersDominating_iff (original : List SymbolResearchEvidence)
    (candidates : List CandidateSymbolEvidence) :
    (PrefersDominating original candidates ∧ ComparesOrderFree original candidates) ↔
      ∀ candidateId, ¬HidesDrawdown original candidates candidateId := by
  constructor
  · intro both candidateId hides
    exact not_dominates_of_hidesDrawdown hides both.1
  · intro clear
    refine ⟨prefersDominating_of_open clear, fun evidence results same sameResults => ?_⟩
    have rows := comparisonRows_congr same sameResults
    have line : (aggregateSymbolEvidence original).row "original" =
        (aggregateSymbolEvidence evidence).row "original" := row_congr same "original"
    have confidence : (aggregateSymbolEvidence original).sampleConfidence =
        (aggregateSymbolEvidence evidence).sampleConfidence :=
      congrArg ComparisonRow.confidence line
    unfold compareCandidateGeneralization
    dsimp only
    rw [← rows, ← line, ← confidence]
    exact ⟨rfl, rfl⟩

/-- Ten trades with a return and a drawdown. -/
def tenTrades (totalReturn mdd : ℚ) : RealPerformanceMetrics :=
  { totalReturn, mdd, winRate := none, profitFactor := none, tradeCount := 10, averageTrade := none,
    averageWin := none, averageLoss := none, payoffRatio := none, exposure := 0,
    endingEquity := 0, expectancy := none, longestLosingStreak := 0 }

/-- An original strategy that never falls, on three symbols. -/
def steadyOriginal : List SymbolResearchEvidence :=
  ["A", "B", "C"].map fun symbol =>
    { evidenceId := symbol, symbol, eligible := true, blockedReason := none, source := "real",
      fixtureBacked := false, metrics := some (tenTrades (1 / 10) 0), backtestResult := none }

/-- A candidate that gains more and loses half of it on the way. -/
def steepCandidate : List CandidateSymbolEvidence :=
  ["A", "B", "C"].map fun symbol =>
    { candidateId := "steep", symbol, eligible := true, metrics := some (tenTrades (2 / 10) (1 / 2)),
      backtestResult := none }

/-- A candidate that falls by half is preferred to an original that never falls. -/
theorem steep_candidate_preferred :
    ¬∀ (original : List SymbolResearchEvidence) (candidates : List CandidateSymbolEvidence),
      PrefersDominating original candidates ∧ ComparesOrderFree original candidates := by
  intro always
  have preferred : (compareCandidateGeneralization steadyOriginal steepCandidate).decision =
      .candidatePreferred := by decide +kernel
  obtain ⟨candidateId, tested, -, dominates⟩ :=
    (always steadyOriginal steepCandidate).1 preferred
  obtain rfl : candidateId = "steep" := by simpa [steepCandidate] using tested
  obtain ⟨before, after, was, is, less⟩ := dominates.drawdown
  have whole : (originalLine steadyOriginal).medianMdd = some 0 := by decide +kernel
  have half : (candidateLine steepCandidate "steep").medianMdd = some (1 / 2) := by decide +kernel
  rw [whole, Option.some.injEq] at was
  rw [half, Option.some.injEq] at is
  rw [← was, ← is] at less
  exact absurd less (by decide +kernel)

end StrategyLab
