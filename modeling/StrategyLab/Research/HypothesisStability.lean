import StrategyLab.Research.PaperFailureAnalysis
import Mathlib.Algebra.BigOperators.Group.List.Basic
import Mathlib.Tactic.Ring

/-! Hypotheses about failures depend on the trades and not on their order, unless two symbols tie. -/

variable {left right : List (String × ℚ)}

namespace StrategyLab.PaperFailureAnalysis

variable {digest : String → String → HypothesisEvidence → String} {familyId : String}

/-- A hypothesis without its time. -/
def Hypothesis.undated (hypothesis : Hypothesis) : Hypothesis :=
  { hypothesis with generatedAt := "" }

/-- A candidate rests on the trades that any comparison needs, and the comparison of two groups on
those that each of them needs. -/
structure Backed (records : List TradeRecord) (hypothesis : Hypothesis) : Prop where
  total : minTotalTrades ≤ hypothesis.tradeCount
  groups : hypothesis.patternType = "early_exit_vs_scheduled" →
    minGroupTrades ≤ (scheduledExits records).length ∧ minGroupTrades ≤ (earlyExits records).length

/-- The hypotheses about a family depend on its trades only, and on enough of them. -/
structure DependsOnTrades (digest : String → String → HypothesisEvidence → String)
    (familyId : String) (records : List TradeRecord) (now : String) : Prop where
  /-- In another order, and at another time, the trades give the same hypotheses. -/
  stable : ∀ others, others.Perm records → ∀ later,
    (generateHypotheses digest familyId others later).map (·.undated) =
      (generateHypotheses digest familyId records now).map (·.undated)
  /-- Nothing is stored when the hypotheses are made again from the same trades. -/
  once : ∀ others, others.Perm records → ∀ later table,
    (generateHypotheses digest familyId others later).foldl insertHypothesis
        ((generateHypotheses digest familyId records now).foldl insertHypothesis table) =
      (generateHypotheses digest familyId records now).foldl insertHypothesis table
  /-- Every candidate is backed. -/
  backed : ∀ hypothesis ∈ generateHypotheses digest familyId records now,
    hypothesis.status = .candidate → Backed records hypothesis

/-- The result of a symbol. -/
def pnlOf (trades : List (String × ℚ)) (symbol : String) : ℚ :=
  ((trades.filter (·.1 = symbol)).map (·.2)).sum

/-- Two symbols tie for the largest of results that are concentrated on one symbol. -/
def AmbiguousTop (trades : List (String × ℚ)) : Prop :=
  minTotalTrades ≤ trades.length ∧ negligible ≤ |(trades.map (·.2)).sum| ∧
    ∃ one ∈ trades, ∃ other ∈ trades, one.1 ≠ other.1 ∧
      |pnlOf trades one.1| = |pnlOf trades other.1| ∧
      (∀ trade ∈ trades, |pnlOf trades trade.1| ≤ |pnlOf trades one.1|) ∧
      symbolConcentrationThreshold < |pnlOf trades one.1| / |(trades.map (·.2)).sum|

/-- Enough trades are known for a comparison, and fees take too much of the results of fewer of them,
but of as many as a group needs. -/
def ThinFees (records : List TradeRecord) : Prop :=
  minTotalTrades ≤ records.length ∧ minGroupTrades ≤ (feePairs records).length ∧
    (feePairs records).length < minTotalTrades ∧
    negligible ≤ ((feePairs records).map fun pair => |pair.2|).sum / (feePairs records).length ∧
    feeDragThreshold <
      ((feePairs records).map fun pair => |pair.1|).sum / (feePairs records).length /
        (((feePairs records).map fun pair => |pair.2|).sum / (feePairs records).length)

/-- One more trade adds to the results of its symbol. -/
theorem pnlBySymbol_append (trades : List (String × ℚ)) (trade : String × ℚ) :
    pnlBySymbol (trades ++ [trade]) = addPnl (pnlBySymbol trades) trade := by
  rw [pnlBySymbol, List.foldl_append]
  rfl

/-- One more trade adds to the result of its symbol only. -/
theorem pnlOf_append (trades : List (String × ℚ)) (trade : String × ℚ) (symbol : String) :
    pnlOf (trades ++ [trade]) symbol =
      pnlOf trades symbol + if trade.1 = symbol then trade.2 else 0 := by
  unfold pnlOf
  rw [List.filter_append, List.map_append, List.sum_append]
  by_cases own : trade.1 = symbol
  · simp [own]
  · simp [own]

/-- The symbols are those of the trades, in the order in which they come first. -/
theorem keyList_pnlBySymbol (trades : List (String × ℚ)) :
    (pnlBySymbol trades).keyList = Py.fromkeys (trades.map (·.1)) := by
  induction trades using List.reverseRecOn with
  | nil => rfl
  | append_singleton trades trade ih =>
    rw [pnlBySymbol_append, addPnl, Table.keyList_assign, ih, List.map_append, Py.fromkeys,
      Py.fromkeys, Py.addKeys_append]
    rfl

/-- Under each symbol of a trade stands the result of the symbol. -/
theorem find?_pnlBySymbol (trades : List (String × ℚ)) (symbol : String) :
    (pnlBySymbol trades).find? symbol =
      if symbol ∈ trades.map (·.1) then some (symbol, pnlOf trades symbol) else none := by
  induction trades using List.reverseRecOn with
  | nil => rfl
  | append_singleton trades trade ih =>
    rw [pnlBySymbol_append, addPnl, Table.find?_assign, pnlOf_append]
    have earlier : (((pnlBySymbol trades).find? symbol).map (·.2)).getD 0 = pnlOf trades symbol := by
      rw [ih]
      split
      · rfl
      · rename_i fresh
        -- No earlier trade has the symbol.
        have none_ : trades.filter (·.1 = symbol) = [] := by
          rw [List.filter_eq_nil_iff]
          intro other member same
          exact fresh (List.mem_map.mpr ⟨other, member, by simpa using same⟩)
        rw [pnlOf, none_]
        rfl
    by_cases own : symbol = trade.1
    · subst own
      rw [if_pos rfl, earlier, if_pos rfl, if_pos]
      rw [List.map_append]
      exact List.mem_append_right _ (List.mem_singleton_self _)
    · rw [if_neg own, ih, if_neg (Ne.symm own), add_zero, List.map_append, List.map_singleton]
      simp only [List.mem_append, List.mem_singleton, own, or_false]

/-- The results of the symbols add up to those of the trades. -/
theorem sum_pnlBySymbol (trades : List (String × ℚ)) :
    ((pnlBySymbol trades).rows.map (·.2)).sum = (trades.map (·.2)).sum := by
  induction trades using List.reverseRecOn with
  | nil => rfl
  | append_singleton trades trade ih =>
    rw [pnlBySymbol_append, addPnl, Table.sum_assign, ih, List.map_append, List.sum_append]
    simp only [List.map_singleton, List.sum_singleton]
    ring

variable {trades : List (String × ℚ)}

/-- The rows are the symbols of the trades with their results. -/
theorem mem_pnlBySymbol {row : String × ℚ} :
    row ∈ (pnlBySymbol trades).rows ↔
      row.1 ∈ trades.map (·.1) ∧ row.2 = pnlOf trades row.1 := by
  have found : row ∈ (pnlBySymbol trades).rows ↔
      (pnlBySymbol trades).find? row.1 = some row := by
    rw [Table.find?_eq_some_iff, and_iff_left rfl]
  rw [found, find?_pnlBySymbol]
  obtain ⟨symbol, pnl⟩ := row
  split
  · rename_i known
    simp [known, eq_comm]
  · rename_i unknown
    simp [unknown]

section

variable (same : left.Perm right)

include same

/-- The result of a symbol is the same one in another order. -/
theorem pnlOf_perm (symbol : String) :
    pnlOf left symbol = pnlOf right symbol :=
  ((same.filter _).map _).sum_eq

/-- In another order the trades give the same results, in some order. -/
theorem pnlBySymbol_perm :
    (pnlBySymbol left).rows.Perm (pnlBySymbol right).rows := by
  have results : ∀ symbol, pnlOf left symbol = pnlOf right symbol := pnlOf_perm same
  refine (List.perm_ext_iff_of_nodup (pnlBySymbol left).distinct.of_map
    (pnlBySymbol right).distinct.of_map).mpr fun row => ?_
  rw [mem_pnlBySymbol, mem_pnlBySymbol, (same.map _).mem_iff, results]

/-- The largest result is the same one in another order. -/
theorem abs_maxOn_perm (some_ : left ≠ []) (others : right ≠ []) :
    |(left.maxOn (fun row => |row.2|) some_).2| = |(right.maxOn (fun row => |row.2|) others).2| :=
  le_antisymm
    (List.le_apply_maxOn_of_mem (f := fun row : String × ℚ => |row.2|)
      (same.mem_iff.mp List.maxOn_mem))
    (List.le_apply_maxOn_of_mem (f := fun row : String × ℚ => |row.2|)
      (same.mem_iff.mpr List.maxOn_mem))

/-- The symbol with the largest result is the same one in another order, if no other one ties. -/
theorem maxOn_eq_of_perm
    (enough : minTotalTrades ≤ left.length) (earns : negligible ≤ |(left.map (·.2)).sum|)
    (clear : ¬AmbiguousTop left) (some_ : (pnlBySymbol left).rows ≠ [])
    (others : (pnlBySymbol right).rows ≠ [])
    (large : symbolConcentrationThreshold <
      |((pnlBySymbol left).rows.maxOn (fun row => |row.2|) some_).2| / |(left.map (·.2)).sum|) :
    (pnlBySymbol left).rows.maxOn (fun row => |row.2|) some_ =
      (pnlBySymbol right).rows.maxOn (fun row => |row.2|) others := by
  have rows := pnlBySymbol_perm same
  have first : (pnlBySymbol left).rows.maxOn (fun row => |row.2|) some_ ∈ _ := List.maxOn_mem
  have second : (pnlBySymbol right).rows.maxOn (fun row => |row.2|) others ∈ _ := List.maxOn_mem
  have equal := abs_maxOn_perm rows some_ others
  have largest : ∀ row ∈ (pnlBySymbol left).rows,
      |row.2| ≤ |((pnlBySymbol left).rows.maxOn (fun row => |row.2|) some_).2| := fun row member =>
    List.le_apply_maxOn_of_mem (f := fun row : String × ℚ => |row.2|) member
  rw [← rows.mem_iff] at second
  generalize (pnlBySymbol left).rows.maxOn (fun row => |row.2|) some_ = top at *
  generalize (pnlBySymbol right).rows.maxOn (fun row => |row.2|) others = other at *
  obtain ⟨known, result⟩ := mem_pnlBySymbol.mp first
  obtain ⟨known', result'⟩ := mem_pnlBySymbol.mp second
  by_contra apart
  -- Two rows with one symbol are the same row.
  have symbols : top.1 ≠ other.1 := fun own =>
    apart (Prod.ext own (by rw [result, result', own]))
  obtain ⟨one, member, own⟩ := List.mem_map.mp known
  obtain ⟨another, member', own'⟩ := List.mem_map.mp known'
  refine clear ⟨enough, earns, one, member, another, member', ?_, ?_, ?_, ?_⟩
  · rw [own, own']
    exact symbols
  · rw [own, own', ← result, ← result']
    exact equal
  · intro trade inside
    rw [own, ← result]
    refine largest (trade.1, pnlOf left trade.1) (mem_pnlBySymbol.mpr ⟨?_, rfl⟩)
    exact List.mem_map.mpr ⟨trade, inside, rfl⟩
  · rw [own, ← result]
    exact large

end

/-- Amounts by symbol are written in the same way in another order. -/
theorem concentratedHypothesis_perm {left right : PnlBySymbol} (same : left.rows.Perm right.rows)
    (counted : Nat) (top : String × ℚ) (now : String) :
    concentratedHypothesis digest familyId counted left.rows top now =
      concentratedHypothesis digest familyId counted right.rows top now := by
  have total : (left.rows.map (·.2)).sum = (right.rows.map (·.2)).sum := (same.map _).sum_eq
  have amounts : Py.sortedBy (·.1) (left.rows.map fun row => (row.1, Py.round 6 row.2)) =
      Py.sortedBy (·.1) (right.rows.map fun row => (row.1, Py.round 6 row.2)) := by
    have rounded := same.map fun row : String × ℚ => (row.1, Py.round 6 row.2)
    refine Py.eq_of_perm_of_rising
      (((Py.sortedBy_perm _ _).trans rounded).trans (Py.sortedBy_perm _ _).symm) ?_
      (Py.sortedBy_pairwise _ _) (Py.sortedBy_pairwise _ _)
    rw [((Py.sortedBy_perm _ _).map _).nodup_iff, List.map_map]
    exact left.distinct
  simp only [concentratedHypothesis, total, amounts]

variable {left right : List TradeRecord}

section

variable (same : left.Perm right)

include same

/-- The trades with known results come in another order together with the trades. -/
theorem knownTrades_perm :
    (knownTrades left).Perm (knownTrades right) := same.filterMap _

/-- Without a tie the concentration does not depend on the order of the trades. -/
theorem symbolConcentrationHypothesis_perm
    (clear : ¬AmbiguousTop (knownTrades left)) (now : String) :
    symbolConcentrationHypothesis digest familyId left now =
      symbolConcentrationHypothesis digest familyId right now := by
  have trades := knownTrades_perm same
  have rows := pnlBySymbol_perm trades
  have total : ((pnlBySymbol (knownTrades left)).rows.map (·.2)).sum =
      ((pnlBySymbol (knownTrades right)).rows.map (·.2)).sum := (rows.map _).sum_eq
  have empty : (pnlBySymbol (knownTrades left)).rows = [] ↔
      (pnlBySymbol (knownTrades right)).rows = [] := by
    rw [← List.length_eq_zero_iff, ← List.length_eq_zero_iff, rows.length_eq]
  unfold symbolConcentrationHypothesis
  dsimp only
  by_cases gate : (knownTrades left).length < minTotalTrades ∨
      |((pnlBySymbol (knownTrades left)).rows.map (·.2)).sum| < negligible ∨
      (pnlBySymbol (knownTrades left)).rows = []
  · rw [dif_pos gate, dif_pos (by rwa [trades.length_eq, total, empty] at gate), trades.length_eq]
  · have gate' := gate
    rw [trades.length_eq, total, empty] at gate'
    rw [dif_neg gate, dif_neg gate']
    obtain ⟨enough, earns, some_⟩ := by
      simpa only [not_or, not_lt] using gate
    rw [← abs_maxOn_perm rows some_ (not_or.mp (not_or.mp gate').2).2, ← total]
    split
    · rfl
    · rename_i large
      rw [sum_pnlBySymbol] at large earns
      rw [maxOn_eq_of_perm trades enough earns clear some_ (not_or.mp (not_or.mp gate').2).2
        (not_le.mp large), concentratedHypothesis_perm rows, trades.length_eq]

/-- The fees do not depend on the order of the trades. -/
theorem feeDragHypothesis_perm (now : String) :
    feeDragHypothesis digest familyId left now = feeDragHypothesis digest familyId right now := by
  have pairs : (feePairs left).Perm (feePairs right) := same.filterMap _
  have fees : ((feePairs left).map fun pair => |pair.1|).sum =
      ((feePairs right).map fun pair => |pair.1|).sum := (pairs.map _).sum_eq
  have results : ((feePairs left).map fun pair => |pair.2|).sum =
      ((feePairs right).map fun pair => |pair.2|).sum := (pairs.map _).sum_eq
  simp only [feeDragHypothesis, pairs.length_eq, fees, results]

/-- The part of trades that won does not depend on their order. -/
theorem winRate_perm :
    winRate left = winRate right := by
  rw [winRate, winRate, same.countP_eq, same.length_eq]

/-- The exits do not depend on the order of the trades. -/
theorem earlyExitHypothesis_perm (now : String) :
    earlyExitHypothesis digest familyId left now = earlyExitHypothesis digest familyId right now := by
  have scheduled : (scheduledExits left).Perm (scheduledExits right) := same.filter _
  have early : (earlyExits left).Perm (earlyExits right) := same.filter _
  have counts : (fun reason => (reason, (earlyExits left).countP (·.reason = some reason))) =
      fun reason => (reason, (earlyExits right).countP (·.reason = some reason)) :=
    funext fun reason => congrArg (Prod.mk reason) (early.countP_eq _)
  unfold earlyExitHypothesis
  dsimp only
  rw [scheduled.length_eq, early.length_eq, winRate_perm scheduled, winRate_perm early, counts]

/-- Without a tie the hypotheses do not depend on the order of the trades. -/
theorem generateHypotheses_perm (clear : ¬AmbiguousTop (knownTrades left)) (now : String) :
    generateHypotheses digest familyId left now = generateHypotheses digest familyId right now := by
  simp only [generateHypotheses, same.length_eq, symbolConcentrationHypothesis_perm same clear,
    feeDragHypothesis_perm same, earlyExitHypothesis_perm same]

end

/-- The time does not matter to the hypothesis about symbols. -/
theorem symbolConcentrationHypothesis_undated (records : List TradeRecord) (now later : String) :
    (symbolConcentrationHypothesis digest familyId records now).map (·.undated) =
      (symbolConcentrationHypothesis digest familyId records later).map (·.undated) := by
  unfold symbolConcentrationHypothesis
  dsimp only
  split
  · rfl
  · split <;> rfl

/-- The time does not matter to the hypothesis about fees. -/
theorem feeDragHypothesis_undated (records : List TradeRecord) (now later : String) :
    (feeDragHypothesis digest familyId records now).map (·.undated) =
      (feeDragHypothesis digest familyId records later).map (·.undated) := by
  unfold feeDragHypothesis
  dsimp only
  split
  · rfl
  · split
    · rfl
    · split <;> rfl

/-- The time does not matter to the hypothesis about exits. -/
theorem earlyExitHypothesis_undated (records : List TradeRecord) (now later : String) :
    (earlyExitHypothesis digest familyId records now).map (·.undated) =
      (earlyExitHypothesis digest familyId records later).map (·.undated) := by
  unfold earlyExitHypothesis
  dsimp only
  split
  · rfl
  · split <;> rfl

/-- The hypotheses that are there, without their times. -/
theorem map_undated_filterMap (hypotheses : List (Option Hypothesis)) :
    (hypotheses.filterMap id).map (·.undated) =
      (hypotheses.map fun hypothesis? => hypothesis?.map (·.undated)).filterMap id := by
  rw [List.map_filterMap, List.filterMap_map]
  rfl

/-- The time does not matter to the hypotheses. -/
theorem generateHypotheses_undated (records : List TradeRecord) (now later : String) :
    (generateHypotheses digest familyId records now).map (·.undated) =
      (generateHypotheses digest familyId records later).map (·.undated) := by
  unfold generateHypotheses
  split
  · rfl
  · rw [map_undated_filterMap, map_undated_filterMap]
    simp only [List.map_cons, symbolConcentrationHypothesis_undated records now later,
      feeDragHypothesis_undated records now later, earlyExitHypothesis_undated records now later]

variable {hypothesis : Hypothesis} {table : HypothesisTable}

/-- Storing what is stored changes nothing. -/
theorem insertHypothesis_of_found
    (found : (table.find? (hypothesis.familyId, hypothesis.fingerprint)).isSome = true) :
    insertHypothesis table hypothesis = table := by
  rw [insertHypothesis, Table.insert?_eq_none_iff.mpr (Option.isSome_iff_exists.mp found)]
  rfl

/-- What is stored stays so. -/
theorem isSome_find?_insertHypothesis {key : String × String}
    (found : (table.find? key).isSome = true ∨ (hypothesis.familyId, hypothesis.fingerprint) = key) :
    ((insertHypothesis table hypothesis).find? key).isSome = true := by
  rw [insertHypothesis, Table.find?_getD_insert?, Option.isSome_or]
  rcases found with before | rfl
  · simp [before]
  · simp

variable {hypotheses : List Hypothesis}

/-- All hypotheses are stored under their fingerprints. -/
theorem isSome_find?_foldl {key : String × String} (found : (table.find? key).isSome = true ∨
      ∃ hypothesis ∈ hypotheses, (hypothesis.familyId, hypothesis.fingerprint) = key) :
    ((hypotheses.foldl insertHypothesis table).find? key).isSome = true := by
  induction hypotheses generalizing table with
  | nil => simpa using found
  | cons first rest ih =>
    refine ih ?_
    rcases found with before | ⟨hypothesis, member, own⟩
    · exact Or.inl (isSome_find?_insertHypothesis (Or.inl before))
    · rcases List.mem_cons.mp member with rfl | later
      · exact Or.inl (isSome_find?_insertHypothesis (Or.inr own))
      · exact Or.inr ⟨hypothesis, later, own⟩

/-- Hypotheses that are all stored are not stored again. -/
theorem foldl_insertHypothesis_of_found (found : ∀ hypothesis ∈ hypotheses,
      (table.find? (hypothesis.familyId, hypothesis.fingerprint)).isSome = true) :
    hypotheses.foldl insertHypothesis table = table := by
  induction hypotheses with
  | nil => rfl
  | cons first rest ih =>
    rw [List.foldl_cons, insertHypothesis_of_found (found first List.mem_cons_self)]
    exact ih fun hypothesis member => found hypothesis (List.mem_cons_of_mem _ member)

/-- Hypotheses that are the same but for their times are stored once. -/
theorem foldl_insertHypothesis_again {hypotheses others : List Hypothesis}
    (same : others.map (·.undated) = hypotheses.map (·.undated)) (table : HypothesisTable) :
    others.foldl insertHypothesis (hypotheses.foldl insertHypothesis table) =
      hypotheses.foldl insertHypothesis table := by
  refine foldl_insertHypothesis_of_found fun other member => ?_
  have undated : other.undated ∈ hypotheses.map (·.undated) := by
    rw [← same]
    exact List.mem_map_of_mem member
  obtain ⟨hypothesis, among, equal⟩ := List.mem_map.mp undated
  refine isSome_find?_foldl (Or.inr ⟨hypothesis, among, ?_⟩)
  have family : hypothesis.undated.familyId = other.undated.familyId := congrArg _ equal
  have print : hypothesis.undated.fingerprint = other.undated.fingerprint := congrArg _ equal
  exact Prod.ext family print

variable {records : List TradeRecord} {now : String}

/-- A candidate about symbols counts the trades that any comparison needs. -/
theorem symbolConcentrationHypothesis_backed
    (made : symbolConcentrationHypothesis digest familyId records now = some hypothesis)
    (chosen : hypothesis.status = .candidate) : Backed records hypothesis := by
  unfold symbolConcentrationHypothesis at made
  dsimp only at made
  split at made
  · cases made
    cases chosen
  · rename_i gate
    split at made
    · cases made
    · cases made
      refine ⟨not_lt.mp (not_or.mp gate).1, fun pattern => ?_⟩
      simp [concentratedHypothesis, hypothesisOf] at pattern

/-- A candidate about fees counts as many trades as a group needs, with a large part of fees. -/
theorem feeDragHypothesis_candidate
    (made : feeDragHypothesis digest familyId records now = some hypothesis)
    (chosen : hypothesis.status = .candidate) :
    hypothesis.patternType = "fee_drag" ∧ hypothesis.tradeCount = (feePairs records).length ∧
      minGroupTrades ≤ (feePairs records).length ∧
      negligible ≤ ((feePairs records).map fun pair => |pair.2|).sum / (feePairs records).length ∧
      feeDragThreshold <
        ((feePairs records).map fun pair => |pair.1|).sum / (feePairs records).length /
          (((feePairs records).map fun pair => |pair.2|).sum / (feePairs records).length) := by
  unfold feeDragHypothesis at made
  dsimp only at made
  split at made
  · cases made
    cases chosen
  · rename_i enough
    split at made
    · cases made
    · rename_i earns
      split at made
      · cases made
      · rename_i large
        cases made
        exact ⟨rfl, rfl, not_lt.mp enough, not_lt.mp earns, not_le.mp large⟩

/-- A candidate about exits compares two groups of enough trades. -/
theorem earlyExitHypothesis_backed
    (made : earlyExitHypothesis digest familyId records now = some hypothesis)
    (chosen : hypothesis.status = .candidate) : Backed records hypothesis := by
  unfold earlyExitHypothesis at made
  dsimp only at made
  split at made
  · cases made
    cases chosen
  · rename_i gate
    obtain ⟨scheduled, early⟩ := not_or.mp gate
    rw [not_lt] at scheduled early
    split at made
    · cases made
    · cases made
      refine ⟨?_, fun _ => ⟨scheduled, early⟩⟩
      simp only [hypothesisOf, minTotalTrades, minGroupTrades] at scheduled early ⊢
      omega

/-- Unless the fees are thin, every candidate is backed. -/
theorem backed_of_not_thinFees (thick : ¬ThinFees records)
    (member : hypothesis ∈ generateHypotheses digest familyId records now)
    (chosen : hypothesis.status = .candidate) : Backed records hypothesis := by
  unfold generateHypotheses at member
  split at member
  · rw [List.mem_singleton.mp member] at chosen
    cases chosen
  · rename_i enough
    simp only [List.mem_filterMap, List.mem_cons, List.not_mem_nil, or_false, id] at member
    obtain ⟨_, rfl | rfl | rfl, made⟩ := member
    · exact symbolConcentrationHypothesis_backed made chosen
    · obtain ⟨pattern, count, group, earns, large⟩ := feeDragHypothesis_candidate made chosen
      refine ⟨?_, fun other => ?_⟩
      · rw [count]
        exact not_lt.mp fun few => thick ⟨not_lt.mp enough, group, few, earns, large⟩
      · rw [pattern] at other
        simp at other
    · exact earlyExitHypothesis_backed made chosen

/-- Thin fees give a candidate that is not backed. -/
theorem ThinFees.not_backed (thin : ThinFees records)
    (digest : String → String → HypothesisEvidence → String) (familyId now : String) :
    ∃ hypothesis ∈ generateHypotheses digest familyId records now,
      hypothesis.status = .candidate ∧ ¬Backed records hypothesis := by
  obtain ⟨enough, group, few, earns, large⟩ := thin
  have made : ∃ hypothesis, feeDragHypothesis digest familyId records now = some hypothesis ∧
      hypothesis.status = .candidate ∧ hypothesis.tradeCount = (feePairs records).length := by
    unfold feeDragHypothesis
    dsimp only
    rw [if_neg group.not_gt, if_neg earns.not_gt, if_neg large.not_ge]
    exact ⟨_, rfl, rfl, rfl⟩
  obtain ⟨hypothesis, found, chosen, count⟩ := made
  refine ⟨hypothesis, ?_, chosen, fun backed => ?_⟩
  · rw [generateHypotheses, if_neg enough.not_gt, List.mem_filterMap]
    exact ⟨_, List.mem_cons_of_mem _ List.mem_cons_self, found⟩
  · have total := backed.total
    rw [count] at total
    exact absurd few total.not_gt

/-- The symbol that a hypothesis names as the largest. -/
def Hypothesis.topSymbol (hypothesis : Hypothesis) : Option EvidenceValue :=
  hypothesis.evidence.lookup "top_symbol"

/-- Concentrated results give a candidate that names the symbol of the first largest result. -/
theorem generateHypotheses_concentrated (digest : String → String → HypothesisEvidence → String)
    (familyId now : String)
    (enough : minTotalTrades ≤ (knownTrades records).length)
    (earns : negligible ≤ |((knownTrades records).map (·.2)).sum|)
    (some_ : (pnlBySymbol (knownTrades records)).rows ≠ [])
    (large : symbolConcentrationThreshold <
      |((pnlBySymbol (knownTrades records)).rows.maxOn (fun row => |row.2|) some_).2| /
        |((knownTrades records).map (·.2)).sum|) :
    (generateHypotheses digest familyId records now).head?.map (·.undated.topSymbol) =
      some (some (.text
        ((pnlBySymbol (knownTrades records)).rows.maxOn (fun row => |row.2|) some_).1)) := by
  have total : ¬records.length < minTotalTrades :=
    (enough.trans (List.length_filterMap_le _ _)).not_gt
  rw [← sum_pnlBySymbol] at earns large
  have gate : ¬((knownTrades records).length < minTotalTrades ∨
      |((pnlBySymbol (knownTrades records)).rows.map (·.2)).sum| < negligible ∨
      (pnlBySymbol (knownTrades records)).rows = []) := by
    rintro (few | none_ | empty)
    · exact absurd few enough.not_gt
    · exact absurd none_ earns.not_gt
    · exact some_ empty
  have made : symbolConcentrationHypothesis digest familyId records now =
      some (concentratedHypothesis digest familyId (knownTrades records).length
        (pnlBySymbol (knownTrades records)).rows
        ((pnlBySymbol (knownTrades records)).rows.maxOn (fun row => |row.2|) some_) now) := by
    unfold symbolConcentrationHypothesis
    dsimp only
    rw [dif_neg gate, if_neg large.not_ge]
  rw [generateHypotheses, if_neg total, made]
  rfl

variable {trade : String × ℚ}

/-- The trades of a symbol can come first. -/
theorem exists_perm_first (member : trade ∈ knownTrades records) :
    ∃ others rest, others.Perm records ∧ knownTrades others = trade :: rest := by
  obtain ⟨record, inside, known⟩ := List.mem_filterMap.mp member
  obtain ⟨before, after, rfl⟩ := List.append_of_mem inside
  refine ⟨record :: (before ++ after), knownTrades (before ++ after), List.perm_middle.symm, ?_⟩
  rw [knownTrades, List.filterMap_cons, known]
  rfl

/-- The symbol of the first trade is the first largest one, if no other one is larger. -/
theorem maxOn_pnlBySymbol_first {rest : List (String × ℚ)}
    (some_ : (pnlBySymbol (trade :: rest)).rows ≠ [])
    (largest : ∀ other ∈ trade :: rest,
      |pnlOf (trade :: rest) other.1| ≤ |pnlOf (trade :: rest) trade.1|) :
    (pnlBySymbol (trade :: rest)).rows.maxOn (fun row => |row.2|) some_ =
      (trade.1, pnlOf (trade :: rest) trade.1) := by
  have keys := keyList_pnlBySymbol (trade :: rest)
  obtain ⟨more, first⟩ : ∃ more, (pnlBySymbol (trade :: rest)).keyList = trade.1 :: more := by
    rw [keys, List.map_cons, Py.fromkeys, Py.addKeys_cons, if_neg (by simp), List.nil_append]
    obtain ⟨more, same⟩ := Py.prefix_addKeys [trade.1] (rest.map (·.1))
    exact ⟨more, same.symm⟩
  have rows := Table.rows_eq_filterMap (pnlBySymbol (trade :: rest))
  rw [first, List.filterMap_cons, find?_pnlBySymbol, if_pos (by simp)] at rows
  have below : ∀ row ∈ (pnlBySymbol (trade :: rest)).rows,
      |row.2| ≤ |pnlOf (trade :: rest) trade.1| := by
    intro row member
    obtain ⟨known, result⟩ := mem_pnlBySymbol.mp member
    obtain ⟨other, inside, own⟩ := List.mem_map.mp known
    rw [result, ← own]
    exact largest other inside
  generalize (pnlBySymbol (trade :: rest)).rows = all at *
  subst rows
  rw [List.maxOn_cons]
  split
  · rfl
  · rename_i others
    refine maxOn_eq_left ?_
    exact below _ (List.mem_cons_of_mem _ List.maxOn_mem)

/-- The symbol of a trade has a row. -/
theorem mem_rows_of_mem
    (member : trade ∈ trades) : (trade.1, pnlOf trades trade.1) ∈ (pnlBySymbol trades).rows :=
  mem_pnlBySymbol.mpr ⟨List.mem_map.mpr ⟨trade, member, rfl⟩, rfl⟩

/-- Trades have results. -/
theorem pnlBySymbol_ne_nil (member : trade ∈ trades) : (pnlBySymbol trades).rows ≠ [] :=
  List.ne_nil_of_mem (mem_rows_of_mem member)

/-- The largest result is that of a symbol that no other one exceeds. -/
theorem abs_maxOn_pnlBySymbol (member : trade ∈ trades)
    (largest : ∀ other ∈ trades, |pnlOf trades other.1| ≤ |pnlOf trades trade.1|)
    (some_ : (pnlBySymbol trades).rows ≠ []) :
    |((pnlBySymbol trades).rows.maxOn (fun row => |row.2|) some_).2| = |pnlOf trades trade.1| := by
  have top : (pnlBySymbol trades).rows.maxOn (fun row => |row.2|) some_ ∈ _ := List.maxOn_mem
  refine le_antisymm ?_
    (List.le_apply_maxOn_of_mem (f := fun row : String × ℚ => |row.2|) (mem_rows_of_mem member))
  obtain ⟨known, result⟩ := mem_pnlBySymbol.mp top
  obtain ⟨other, inside, own⟩ := List.mem_map.mp known
  rw [result, ← own]
  exact largest other inside

/-- With a tie, some order of the trades gives another hypothesis. -/
theorem AmbiguousTop.not_stable (ambiguous : AmbiguousTop (knownTrades records))
    (digest : String → String → HypothesisEvidence → String) (familyId now : String) :
    ∃ others, others.Perm records ∧
      (generateHypotheses digest familyId others now).map (·.undated) ≠
        (generateHypotheses digest familyId records now).map (·.undated) := by
  obtain ⟨enough, earns, one, first, other, second, apart, tie, largest, large⟩ := ambiguous
  have some_ : (pnlBySymbol (knownTrades records)).rows ≠ [] :=
    pnlBySymbol_ne_nil first
  have result := abs_maxOn_pnlBySymbol first largest some_
  have named := generateHypotheses_concentrated digest familyId now enough earns some_
    (by rwa [result])
  generalize (pnlBySymbol (knownTrades records)).rows.maxOn (fun row => |row.2|) some_ = top at named
  -- One of the two symbols is not the one that is named.
  obtain ⟨trade, member, differs, greatest⟩ : ∃ trade ∈ knownTrades records, trade.1 ≠ top.1 ∧
      |pnlOf (knownTrades records) trade.1| = |pnlOf (knownTrades records) one.1| := by
    by_cases same : one.1 = top.1
    · exact ⟨other, second, fun equal => apart (same.trans equal.symm), tie.symm⟩
    · exact ⟨one, first, same, rfl⟩
  obtain ⟨others, rest, shuffled, starts⟩ := exists_perm_first member
  have trades := knownTrades_perm shuffled
  have results : ∀ symbol, pnlOf (knownTrades others) symbol = pnlOf (knownTrades records) symbol :=
    pnlOf_perm trades
  have bound : ∀ item ∈ knownTrades others,
      |pnlOf (knownTrades others) item.1| ≤ |pnlOf (knownTrades others) trade.1| := by
    intro item inside
    rw [results, results, greatest]
    exact largest item (trades.mem_iff.mp inside)
  have total : ((knownTrades others).map (·.2)).sum = ((knownTrades records).map (·.2)).sum :=
    (trades.map _).sum_eq
  have start : trade ∈ knownTrades others := trades.mem_iff.mpr member
  have some' : (pnlBySymbol (knownTrades others)).rows ≠ [] :=
    pnlBySymbol_ne_nil start
  have result' := abs_maxOn_pnlBySymbol start bound some'
  have named' := generateHypotheses_concentrated digest familyId now
    (by rwa [trades.length_eq]) (by rwa [total]) some' (by rwa [result', total, results, greatest])
  refine ⟨others, shuffled, fun same => ?_⟩
  have heads := congrArg (fun hypotheses => hypotheses.head?.map (·.topSymbol)) same
  simp only [List.head?_map, Option.map_map, Function.comp_def] at heads
  rw [named, named'] at heads
  have tops : ((pnlBySymbol (knownTrades others)).rows.maxOn (fun row => |row.2|) some').1 =
      top.1 := by simpa using heads
  refine differs ?_
  rw [← tops]
  -- In the other order the symbol comes first.
  have first_ : (pnlBySymbol (knownTrades others)).rows.maxOn (fun row => |row.2|) some' =
      (trade.1, pnlOf (knownTrades others) trade.1) := by
    rw [starts] at bound
    simp only [starts]
    exact maxOn_pnlBySymbol_first _ bound
  rw [first_]

/-- The hypotheses depend on the trades exactly when no two symbols tie and the fees are not thin. -/
theorem dependsOnTrades_iff (digest : String → String → HypothesisEvidence → String)
    (familyId : String) (records : List TradeRecord) (now : String) :
    DependsOnTrades digest familyId records now ↔
      ¬AmbiguousTop (knownTrades records) ∧ ¬ThinFees records := by
  constructor
  · intro depends
    constructor
    · intro ambiguous
      obtain ⟨others, shuffled, differs⟩ :=
        ambiguous.not_stable digest familyId now
      exact differs (depends.stable others shuffled now)
    · intro thin
      obtain ⟨hypothesis, member, chosen, unbacked⟩ :=
        thin.not_backed digest familyId now
      exact unbacked (depends.backed hypothesis member chosen)
  · rintro ⟨clear, thick⟩
    have stable : ∀ others, others.Perm records → ∀ later,
        (generateHypotheses digest familyId others later).map (·.undated) =
          (generateHypotheses digest familyId records now).map (·.undated) := by
      intro others shuffled later
      rw [← generateHypotheses_perm shuffled.symm clear]
      exact generateHypotheses_undated records later now
    exact ⟨stable, fun others shuffled later table =>
      foldl_insertHypothesis_again (stable others shuffled later) table,
      fun hypothesis member chosen => backed_of_not_thinFees thick member chosen⟩

/-- The digests of the evidence below. -/
def tiedDigest (_familyId patternType : String) (evidence : HypothesisEvidence) : String :=
  if patternType = "fee_drag" then
    "43b25de6d86ff0d3d53e30740b93d5801712b4d41ca46dd2065b5bb2b5be59dc"
  else if patternType = "early_exit_vs_scheduled" then
    "7d514909f2fa366c4429494637434967ee6132e6c6e15e8b4e306f0b985a8f2d"
  else if evidence.lookup "top_symbol" = some (.text "ADAUSDT") then
    "01cf442d0595bd3d82ed89a01c5b2b365f0fa4ef1f817305fec7eecf1edeacff"
  else
    "3fa9e8160ba644b2b588f154b6f54afe2ef5274b8f0e2724c7395a05849d5bc1"

/-- A trade that earned one, before fees. -/
def earningTrade (symbol : String) : TradeRecord where
  symbol := symbol
  grossPnl := some 1
  fees := none
  netPnl := none
  reason := none
  isWin := some true

/-- Five trades in each of two symbols. -/
def tiedTrades : List TradeRecord :=
  List.replicate 5 (earningTrade "ADAUSDT") ++ List.replicate 5 (earningTrade "BTCUSDT")

/-- The fingerprints of the tied trades. -/
theorem tied_fingerprints :
    (generateHypotheses tiedDigest "csm-48h-long" tiedTrades "2026-01-01T00:00:00Z").map
        (·.fingerprint) = ["sha256:01cf442d0595bd3d", "sha256:43b25de6d86ff0d3", "sha256:7d514909f2fa366c"] := by
  decide +kernel

/-- The fingerprints of the tied trades in the other order. -/
theorem tied_fingerprints_reverse :
    (generateHypotheses tiedDigest "csm-48h-long" tiedTrades.reverse "2026-01-01T00:00:00Z").map
        (·.fingerprint) = ["sha256:3fa9e8160ba644b2", "sha256:43b25de6d86ff0d3", "sha256:7d514909f2fa366c"] := by
  decide +kernel

/-- Which of two tied symbols is named depends on the order of the trades. -/
theorem tied_not_dependsOnTrades :
    ¬DependsOnTrades tiedDigest "csm-48h-long" tiedTrades "2026-01-01T00:00:00Z" := by
  intro depends
  have same := depends.stable tiedTrades.reverse (List.reverse_perm _) "2026-01-01T00:00:00Z"
  have prints := congrArg (List.map (·.fingerprint)) same
  simp only [List.map_map, Function.comp_def] at prints
  rw [show (fun hypothesis : Hypothesis => hypothesis.undated.fingerprint) = (·.fingerprint) from
    rfl, tied_fingerprints, tied_fingerprints_reverse] at prints
  simp at prints

end StrategyLab.PaperFailureAnalysis
