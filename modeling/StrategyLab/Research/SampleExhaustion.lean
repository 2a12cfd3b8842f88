import StrategyLab.Lib.RoundRobin
import StrategyLab.Research.AdaptiveSampling

/-! When a market sample is said to have exhausted its candidates, and when that is true. -/

namespace StrategyLab

variable {used : List String} {limit : Nat}

variable {groups : List (List String)} {ordered : List String}

/-- A pass orders the symbols in front that are new, up to the limit; short of the limit it has
taken every front. -/
theorem passOver_spec (apart : ∀ group ∈ groups, ∀ symbol ∈ group, symbol ∉ used)
    (room : used.length + ordered.length < limit) (progress : Bool) :
    (passOver used limit groups ordered progress).ordered =
        (Py.addKeys ordered (RoundRobin.fronts groups)).take (limit - used.length) ∧
      (used.length + (passOver used limit groups ordered progress).ordered.length < limit →
        (passOver used limit groups ordered progress).groups = RoundRobin.rests groups) ∧
      (passOver used limit groups ordered progress).progress =
        (progress || decide (∃ symbol ∈ RoundRobin.fronts groups, symbol ∉ ordered)) := by
  induction groups generalizing ordered progress with
  | nil =>
    have whole : ordered.take (limit - used.length) = ordered :=
      List.take_of_length_le (by omega)
    simp [passOver, whole, RoundRobin.rests]
  | cons group groups ih =>
    have later : ∀ other ∈ groups, ∀ symbol ∈ other, symbol ∉ used := by
      intro other member
      exact apart other (List.mem_cons_of_mem group member)
    cases group with
    | nil =>
      -- An exchange without symbols is passed by.
      obtain ⟨orders, leaves, shows⟩ := ih later room progress
      refine ⟨orders, ?_, shows⟩
      intro short
      rw [passOver, RoundRobin.rests_cons, List.tail_nil, leaves short]
    | cons symbol group =>
      have unused : symbol ∉ used := apart _ List.mem_cons_self symbol List.mem_cons_self
      by_cases known : symbol ∈ ordered
      · -- A symbol that is ordered already only leaves its queue.
        obtain ⟨orders, leaves, shows⟩ := ih later room progress
        have below : ¬limit ≤ used.length + ordered.length := by omega
        simp only [passOver, unused, known, not_true_eq_false, and_false, decide_false,
          Bool.false_eq_true, if_false, Bool.or_false, if_neg below,
          RoundRobin.fronts_cons_cons, RoundRobin.rests_cons, List.tail_cons, Py.addKeys_cons,
          if_true, List.exists_mem_cons_iff, false_or]
        refine ⟨orders, ?_, shows⟩
        intro short
        rw [leaves short]
      · -- A new symbol is ordered, and it may be the last one.
        have longer : (ordered ++ [symbol]).length = ordered.length + 1 := by simp
        simp only [passOver, unused, known, not_false_eq_true, and_self, decide_true, if_true,
          Bool.or_true, RoundRobin.fronts_cons_cons, RoundRobin.rests_cons, List.tail_cons,
          Py.addKeys_cons, if_false, List.exists_mem_cons_iff, true_or]
        by_cases full : limit ≤ used.length + (ordered ++ [symbol]).length
        · rw [if_pos full]
          obtain ⟨rest, whole⟩ := Py.prefix_addKeys (ordered ++ [symbol])
            (RoundRobin.fronts groups)
          refine ⟨?_, fun short => absurd full (Nat.not_le.mpr short), rfl⟩
          rw [← whole, List.take_append_of_le_length (by omega),
            List.take_of_length_le (by omega)]
        · rw [if_neg full]
          have space : used.length + (ordered ++ [symbol]).length < limit := Nat.not_le.mp full
          obtain ⟨orders, leaves, shows⟩ := ih later space true
          refine ⟨orders, ?_, ?_⟩
          · intro short
            rw [leaves short]
          · rw [shows, Bool.true_or]

/-- Once the limit is reached nothing is ordered any more. -/
theorem orderSymbols_full {fuel : Nat} (full : limit ≤ used.length + ordered.length) :
    orderSymbols used limit fuel groups ordered = ordered := by
  cases fuel with
  | zero => rfl
  | succ fuel => rw [orderSymbols, if_pos full]

variable {symbol : String}

/-- A new symbol among others makes the list of the ordered ones longer. -/
theorem length_lt_addKeys {ordered symbols : List String}
    (member : symbol ∈ symbols) (fresh : symbol ∉ ordered) :
    ordered.length < (Py.addKeys ordered symbols).length := by
  have before := Py.prefix_addKeys ordered symbols
  refine Nat.lt_of_le_of_ne before.length_le ?_
  intro same
  apply fresh
  rw [before.eq_of_length same, Py.mem_addKeys]
  exact .inr member

/-- The symbols that are ordered are the first ones of those drawn from the queues in turn. -/
theorem orderSymbols_eq {fuel n : Nat} (apart : ∀ group ∈ groups, ∀ symbol ∈ group, symbol ∉ used)
    (room : used.length + ordered.length ≤ limit)
    (enough : limit ≤ used.length + ordered.length + fuel)
    (deep : RoundRobin.rounds groups ≤ n) :
    orderSymbols used limit fuel groups ordered =
      (RoundRobin.drawRounds n ordered groups).take (limit - used.length) := by
  -- What fills the room already is not changed by drawing more.
  have filled : ∀ (n : Nat) (groups : List (List String)) (ordered : List String),
      used.length + ordered.length ≤ limit → limit ≤ used.length + ordered.length →
      (RoundRobin.drawRounds n ordered groups).take (limit - used.length) = ordered := by
    intro n groups ordered above below
    obtain ⟨rest, whole⟩ := RoundRobin.prefix_drawRounds n ordered groups
    rw [← whole, List.take_append_of_le_length (by omega), List.take_of_length_le (by omega)]
  induction fuel generalizing n groups ordered with
  | zero =>
    rw [orderSymbols, filled n groups ordered room (by omega)]
  | succ fuel ih =>
    rw [orderSymbols]
    by_cases full : limit ≤ used.length + ordered.length
    · rw [if_pos full, filled n groups ordered room full]
    · rw [if_neg full]
      have space : used.length + ordered.length < limit := Nat.not_le.mp full
      obtain ⟨orders, leaves, shows⟩ := passOver_spec apart space false
      rw [Bool.false_or] at shows
      by_cases idle : ∀ symbol ∈ RoundRobin.fronts groups, symbol ∈ ordered
      · -- The pass only repeats, and drawing ends here too.
        have still : ¬∃ symbol ∈ RoundRobin.fronts groups, symbol ∉ ordered := by
          push Not
          exact idle
        have same : (passOver used limit groups ordered false).ordered = ordered := by
          rw [orders, Py.addKeys_eq_self idle, List.take_of_length_le (by omega)]
        have ends : RoundRobin.drawRounds n ordered groups = ordered := by
          cases n with
          | zero => rfl
          | succ n => rw [RoundRobin.drawRounds, if_pos idle]
        simp only [shows, still, decide_false, Bool.false_eq_true, if_false]
        rw [same, ends, List.take_of_length_le (by omega)]
      · -- The pass orders something new, so it is one of the rounds drawn.
        have moves : ∃ symbol ∈ RoundRobin.fronts groups, symbol ∉ ordered := by
          push Not at idle
          exact idle
        obtain ⟨symbol, front, fresh⟩ := moves
        have waiting := RoundRobin.rounds_pos front
        obtain ⟨m, rfl⟩ : ∃ m, n = m + 1 := ⟨n - 1, by omega⟩
        have going : (passOver used limit groups ordered false).progress = true := by
          rw [shows]
          exact decide_eq_true ⟨symbol, front, fresh⟩
        rw [if_pos going, RoundRobin.drawRounds, if_neg idle]
        by_cases short : used.length +
            (passOver used limit groups ordered false).ordered.length < limit
        · -- There is room for more, so the pass has taken every front.
          have whole : (passOver used limit groups ordered false).ordered =
              Py.addKeys ordered (RoundRobin.fronts groups) := by
            rw [orders, List.length_take] at short
            rw [orders, List.take_of_length_le (by omega)]
          have longer := length_lt_addKeys front fresh
          rw [leaves short, whole]
          rw [whole] at short
          refine ih ?_ (by omega) (by omega) ?_
          · intro rest waiting symbol member
            obtain ⟨group, inside, rfl⟩ := List.mem_map.mp waiting
            exact apart group inside symbol (List.mem_of_mem_tail member)
          · rw [RoundRobin.rounds_rests]
            omega
        · -- The room is filled, and what is drawn later lies beyond it.
          obtain ⟨rest, further⟩ := RoundRobin.prefix_drawRounds m
            (Py.addKeys ordered (RoundRobin.fronts groups)) (RoundRobin.rests groups)
          have cut : limit - used.length ≤
              (Py.addKeys ordered (RoundRobin.fronts groups)).length := by
            rw [orders, List.length_take] at short
            omega
          rw [orderSymbols_full (by omega), orders, ← further,
            List.take_append_of_le_length cut]

/-- There are no batches of nothing. -/
theorem batchesOf_nil (batchSize : Nat) : batchesOf batchSize [] = [] := by
  have none : (([] : List String).length + batchSize - 1) / batchSize = 0 := by
    rcases Nat.eq_zero_or_pos batchSize with rfl | positive
    · rfl
    · exact Nat.div_eq_of_lt (by simp only [List.length_nil]; omega)
  rw [batchesOf, none]
  rfl

/-- Batches hold what was cut into them. -/
theorem flatten_batchesOf {batchSize : Nat} (positive : 0 < batchSize) (ordered : List String) :
    (batchesOf batchSize ordered).flatten = ordered := by
  have cut : ∀ n, ((List.range n).map fun i => (ordered.drop (i * batchSize)).take
      batchSize).flatten = ordered.take (n * batchSize) := by
    intro n
    induction n with
    | zero => simp
    | succ n ih =>
      rw [List.range_succ, List.map_append, List.flatten_append, ih, Nat.succ_mul, List.take_add]
      simp
  rw [batchesOf, cut, List.take_of_length_le]
  -- The number of batches is the length divided by their size, rounded up.
  have upward := Nat.div_add_mod (ordered.length + batchSize - 1) batchSize
  have rest := Nat.mod_lt (ordered.length + batchSize - 1) positive
  rw [Nat.mul_comm]
  omega

namespace MarketResearch

variable (research : MarketResearch)

/-- The symbols that a run starts with. -/
def firstSample : List String :=
  match research.selection with
  | .ok selection => normalizeSymbols research.texts selection.symbols
  | .error _ => []

/-- The symbols that are not drawn any more: those of the first sample and the avoided ones. -/
def settled : List String :=
  Py.fromkeys ((research.firstSample ++ research.avoidSymbols).map research.texts.casing.upper)

/-- The queues of the exchanges after the first sample. -/
def queues : List (List String) :=
  adaptiveGroups research.texts research.candidatePool research.marketScope.exchanges
    research.settled s!"{research.endDate}|{research.requestText}|adaptive-v7"

/-- The symbols that come up when the exchanges take turns, until a turn only repeats. -/
def drawn : List String := RoundRobin.draw research.queues

/-- The part of the budget that neither the first sample nor an avoided symbol takes. -/
def room : Nat := research.budget research.firstSample.length - research.settled.length

/-- The evidence after some batches of the symbols that there is room for. -/
def gathered (n : Nat) : List SymbolResearchEvidence :=
  ((batchesOf (max 1 research.sampleSize) (research.drawn.take research.room)).take n).foldl
    research.researchBatch (research.firstEvidence research.firstSample)

/-- A run that says the candidates are exhausted has researched all that it was not to avoid. -/
def TellsExhaustionTruly (sampled : SampledResearch) : Prop :=
  sampled.adaptiveSampling.stopReason = .candidatePoolExhausted →
    ∀ item ∈ research.candidatePool, research.marketScope.Takes research.texts item →
      item.ticker research.texts ∈ sampled.evidence.map (·.symbol) ∨
        item.ticker research.texts ∈ research.avoidSymbols.map research.texts.casing.upper

/-- The ways in which a run comes to a true report. -/
inductive SamplesTruly : Prop where
  | gathers (n : Nat) (enough : sufficientEvidence (research.gathered n))
  | starts (filled : research.budget research.firstSample.length ≤ research.firstSample.length)
  | draws
    (all : ∀ item ∈ research.candidatePool, research.marketScope.Takes research.texts item →
      item.ticker research.texts ∈ research.settled ∨ item.ticker research.texts ∈ research.drawn)
    (fit : research.drawn.length ≤ research.room)
  | spends
    (nothing : ∀ symbol ∈ research.avoidSymbols,
      research.texts.casing.upper symbol ∈ research.firstSample)
    (many : research.budget research.firstSample.length ≤
      research.firstSample.length + research.drawn.length)

/-- A run starts with one symbol at least and with twenty at most. -/
theorem sampleSize_bounds : 1 ≤ research.sampleSize ∧ research.sampleSize ≤ 20 := by
  rw [sampleSize, researchSampleSize, maxResearchSampleSize]
  omega

variable {research}

/-- Nothing is in the first sample twice. -/
theorem nodup_firstSample : research.firstSample.Nodup := by
  rw [firstSample]
  split
  · exact Py.nodup_addKeys List.nodup_nil _
  · exact List.nodup_nil

/-- The first sample is in capitals. -/
theorem upper_of_mem_firstSample (member : symbol ∈ research.firstSample) :
    research.texts.casing.upper symbol = symbol := by
  rw [firstSample] at member
  split at member
  · rename_i selection _
    rw [normalizeSymbols, Py.mem_fromkeys] at member
    obtain ⟨text, -, rfl⟩ := List.mem_map.mp (List.mem_filter.mp member).1
    exact research.texts.casing.upper_upper _
  · cases member

variable {selection : MarketUniverseSelection}

/-- The first sample has symbols of the pool, within its bounds; where the selection is
exhaustive, it misses none of its scope but the avoided ones. -/
theorem firstSample_spec (selected : research.selection = .ok selection) :
    research.firstSample.length ≤ research.sampleSize ∧
      research.firstSample.length ≤ research.candidatePool.length ∧
      (selection.coverageMode = .exhaustive → ∀ item ∈ research.candidatePool,
        research.marketScope.Takes research.texts item →
          item.ticker research.texts ∈ research.settled) := by
  obtain ⟨items, symbols, few, pooled, covers⟩ :=
    selectBoundedUniverse_spec research.texts selected
  have first : research.firstSample = Py.fromkeys (items.map (·.ticker research.texts)) := by
    rw [firstSample, selected]
    show normalizeSymbols research.texts selection.symbols = _
    rw [symbols, normalizeSymbols_tickers]
  have fewer : research.firstSample.length ≤ items.length := by
    have sub : research.firstSample ⊆ items.map (·.ticker research.texts) := by
      intro symbol member
      rwa [first, Py.mem_fromkeys] at member
    have short := (List.subperm_of_subset nodup_firstSample sub).length_le
    rwa [List.length_map] at short
  have bounds := research.sampleSize_bounds
  refine ⟨by omega, by omega, ?_⟩
  intro exhaustive item member takes
  rw [settled, Py.mem_fromkeys, List.map_append, List.mem_append]
  rcases covers exhaustive item member takes with avoided | inside
  · -- The avoided symbols are in capitals when the selection gets them.
    obtain ⟨text, listed, same⟩ := List.mem_map.mp avoided
    obtain ⟨symbol, inside, rfl⟩ := List.mem_map.mp listed
    rw [research.texts.casing.upper_upper] at same
    exact .inr (List.mem_map.mpr ⟨symbol, inside, same⟩)
  · refine .inl (List.mem_map.mpr ⟨item.ticker research.texts, ?_, item.upper_ticker _⟩)
    rwa [first, Py.mem_fromkeys, ← symbols]

/-- The first sample stays within the budget. -/
theorem length_firstSample_le (selected : research.selection = .ok selection) :
    research.firstSample.length ≤ research.budget research.firstSample.length := by
  obtain ⟨few, pooled, -⟩ := firstSample_spec selected
  have bounds := research.sampleSize_bounds
  rw [budget, adaptiveBudget]
  omega

/-- A symbol is settled when it is in the first sample or avoided. -/
theorem mem_settled :
    symbol ∈ research.settled ↔ symbol ∈ research.firstSample ∨
      symbol ∈ research.avoidSymbols.map research.texts.casing.upper := by
  rw [settled, Py.mem_fromkeys, List.map_append, List.mem_append]
  have same : research.firstSample.map research.texts.casing.upper = research.firstSample := by
    have capital : research.firstSample.map research.texts.casing.upper =
        research.firstSample.map id := by
      refine List.map_congr_left ?_
      intro symbol member
      exact upper_of_mem_firstSample member
    rw [capital, List.map_id]
  rw [same]

/-- What waits in a queue is a symbol of the scope that is not settled. -/
theorem mem_queue {group : List String} (waits : group ∈ research.queues)
    (member : symbol ∈ group) :
    symbol ∉ research.settled ∧ ∃ item ∈ research.candidatePool,
      research.marketScope.Takes research.texts item ∧ item.ticker research.texts = symbol := by
  rw [queues, adaptiveGroups] at waits
  obtain ⟨exchange, listed, rfl⟩ := List.mem_map.mp waits
  obtain ⟨item, sorted, rfl⟩ := List.mem_map.mp member
  obtain ⟨inside, fits⟩ := List.mem_filter.mp ((Py.mem_sortedBy _).mp sorted)
  obtain ⟨fresh, here⟩ := of_decide_eq_true fits
  refine ⟨fresh, item, inside, .inr ?_, rfl⟩
  -- The exchange of a queue is one of the scope, which is in capitals already.
  rw [Py.mem_fromkeys] at listed
  obtain ⟨name, known, capital⟩ := List.mem_map.mp listed
  rw [research.marketScope.upper_exchange research.texts known] at capital
  rw [here, ← capital]
  exact known

/-- What is drawn is a symbol of the scope that is not settled. -/
theorem mem_drawn (member : symbol ∈ research.drawn) :
    symbol ∉ research.settled ∧ ∃ item ∈ research.candidatePool,
      research.marketScope.Takes research.texts item ∧ item.ticker research.texts = symbol := by
  obtain ⟨group, waits, inside⟩ := RoundRobin.mem_queue_of_mem_draw member
  exact mem_queue waits inside

/-- The evidence for symbols in capitals is evidence for these symbols. -/
theorem symbols_firstEvidence :
    (research.firstEvidence research.firstSample).map (·.symbol) = research.firstSample := by
  have same : (research.firstEvidence research.firstSample).map (·.symbol) =
      research.firstSample.map id := by
    rw [firstEvidence, List.map_map]
    refine List.map_congr_left ?_
    intro symbol member
    exact upper_of_mem_firstSample member
  rw [same, List.map_id]

/-- The first evidence is as long as the first sample. -/
@[simp] theorem length_firstEvidence :
    (research.firstEvidence research.firstSample).length = research.firstSample.length := by
  rw [firstEvidence, List.length_map]

/-- The batches that a run goes through are cut from what is drawn, as far as there is room. -/
theorem furtherBatches_eq :
    research.furtherBatches (research.firstEvidence research.firstSample) =
      batchesOf (max 1 research.sampleSize) (research.drawn.take research.room) := by
  rw [furtherBatches, adaptiveBatches, symbols_firstEvidence, length_firstEvidence]
  have named : Py.fromkeys ((research.firstSample ++ research.avoidSymbols).map
      research.texts.casing.upper) = research.settled := rfl
  rw [named]
  split
  · -- The settled symbols take the whole budget, so there is no room.
    rename_i full
    have none : research.room = 0 := by
      rw [room]
      omega
    rw [none, List.take_zero, batchesOf_nil]
  · rename_i short
    refine congrArg (batchesOf _) (orderSymbols_eq ?_ ?_ ?_ le_rfl)
    · intro group waits symbol member
      exact (mem_queue waits member).1
    · rw [List.length_nil]
      omega
    · rw [List.length_nil]
      omega

end MarketResearch

variable {evidence : List SymbolResearchEvidence}

/-- Researching symbols that there is no evidence for adds evidence for each of them. -/
theorem MarketResearch.symbols_foldl_researchSymbol (research : MarketResearch)
    (batch : List String) {symbols : List String}
    (capital : ∀ symbol ∈ symbols, research.texts.casing.upper symbol = symbol)
    (distinct : (evidence.map (·.symbol) ++ symbols).Nodup) :
    (symbols.foldl (research.researchSymbol batch) evidence).map (·.symbol) =
      evidence.map (·.symbol) ++ symbols := by
  induction symbols generalizing evidence with
  | nil => simp
  | cons symbol symbols ih =>
    have here := capital symbol List.mem_cons_self
    have fresh : symbol ∉ evidence.map (·.symbol) := by
      intro member
      exact (List.nodup_append.mp distinct).2.2 symbol member symbol List.mem_cons_self rfl
    have unknown : ¬evidence.any (·.symbol = research.texts.casing.upper symbol) := by
      rw [here, List.any_eq_true]
      intro known
      obtain ⟨item, member, same⟩ := known
      exact fresh (List.mem_map.mpr ⟨item, member, of_decide_eq_true same⟩)
    rw [List.foldl_cons, researchSymbol, if_neg unknown, ih]
    · simp [symbolEvidence, here]
    · intro other member
      exact capital other (List.mem_cons_of_mem symbol member)
    · simpa [symbolEvidence, here] using distinct

/-- So does researching them batch by batch. -/
theorem MarketResearch.symbols_foldl_researchBatch (research : MarketResearch)
    {batches : List (List String)}
    (capital : ∀ symbol ∈ batches.flatten, research.texts.casing.upper symbol = symbol)
    (distinct : (evidence.map (·.symbol) ++ batches.flatten).Nodup) :
    (batches.foldl research.researchBatch evidence).map (·.symbol) =
      evidence.map (·.symbol) ++ batches.flatten := by
  induction batches generalizing evidence with
  | nil => simp
  | cons batch batches ih =>
    rw [List.flatten_cons] at capital distinct
    rw [← List.append_assoc] at distinct
    have added : (research.researchBatch evidence batch).map (·.symbol) =
        evidence.map (·.symbol) ++ batch := by
      refine research.symbols_foldl_researchSymbol batch ?_ (List.nodup_append.mp distinct).1
      intro symbol member
      exact capital symbol (List.mem_append_left _ member)
    rw [List.foldl_cons, ih, added, List.flatten_cons, List.append_assoc]
    · intro symbol member
      exact capital symbol (List.mem_append_right _ member)
    · rwa [added]

/-- A run stops at the first batch after which the evidence suffices, or it goes through all. -/
theorem MarketResearch.researchBatches_cases (research : MarketResearch)
    (batches : List (List String)) (rounds : Nat) (evidence : List SymbolResearchEvidence) :
    ((∃ n, (research.researchBatches batches rounds evidence).2 =
        (batches.take n).foldl research.researchBatch evidence) ∧
      sufficientEvidence (research.researchBatches batches rounds evidence).2) ∨
    ((research.researchBatches batches rounds evidence).2 =
        batches.foldl research.researchBatch evidence ∧
      ∀ n, sufficientEvidence ((batches.take n).foldl research.researchBatch evidence) →
        sufficientEvidence evidence) := by
  induction batches generalizing rounds evidence with
  | nil =>
    refine .inr ⟨rfl, ?_⟩
    intro n enough
    simpa using enough
  | cons batch batches ih =>
    rw [researchBatches]
    split
    · -- An empty batch changes nothing.
      rename_i empty
      subst empty
      rcases ih rounds evidence with ⟨⟨n, stops⟩, enough⟩ | ⟨ends, never⟩
      · exact .inl ⟨⟨n + 1, stops⟩, enough⟩
      · refine .inr ⟨ends, ?_⟩
        intro n enough
        cases n with
        | zero => simpa using enough
        | succ n => exact never n enough
    · split
      · rename_i enough
        exact .inl ⟨⟨1, by simp⟩, enough⟩
      · rename_i thin
        rcases ih (rounds + 1) (research.researchBatch evidence batch) with
          ⟨⟨n, stops⟩, enough⟩ | ⟨ends, never⟩
        · exact .inl ⟨⟨n + 1, by simpa using stops⟩, enough⟩
        · refine .inr ⟨by simpa using ends, ?_⟩
          intro n enough
          cases n with
          | zero => simpa using enough
          | succ n => exact absurd (never n (by simpa using enough)) thin

namespace MarketResearch

variable {research : MarketResearch}

/-- The first sample and the symbols drawn after it have no symbol in common. -/
theorem nodup_firstSample_append {symbols : List String}
    (part : symbols.Sublist research.drawn) : (research.firstSample ++ symbols).Nodup := by
  refine List.nodup_append.mpr ⟨nodup_firstSample, (RoundRobin.nodup_draw _).sublist part, ?_⟩
  intro symbol first other member same
  exact (mem_drawn (part.subset member)).1 (mem_settled.mpr (.inl (same ▸ first)))

variable (research) in
/-- The evidence after some batches is evidence for the first sample and for these batches. -/
theorem symbols_gathered (n : Nat) :
    ∃ symbols, symbols.Sublist (research.drawn.take research.room) ∧
      (research.gathered n).map (·.symbol) = research.firstSample ++ symbols ∧
      ((batchesOf (max 1 research.sampleSize) (research.drawn.take research.room)).length ≤ n →
        symbols = research.drawn.take research.room) := by
  have whole := flatten_batchesOf (by omega : 0 < max 1 research.sampleSize)
    (research.drawn.take research.room)
  have part : ((batchesOf (max 1 research.sampleSize)
      (research.drawn.take research.room)).take n).flatten.Sublist
      (research.drawn.take research.room) := by
    rw [← List.take_append_drop n (batchesOf (max 1 research.sampleSize)
      (research.drawn.take research.room)), List.flatten_append] at whole
    have front := List.sublist_append_left
      ((batchesOf (max 1 research.sampleSize) (research.drawn.take research.room)).take n).flatten
      ((batchesOf (max 1 research.sampleSize) (research.drawn.take research.room)).drop n).flatten
    rwa [whole] at front
  have inside := part.trans (List.take_sublist research.room research.drawn)
  refine ⟨_, part, ?_, ?_⟩
  · rw [gathered, research.symbols_foldl_researchBatch, symbols_firstEvidence]
    · intro symbol member
      obtain ⟨-, item, -, -, rfl⟩ := mem_drawn (inside.subset member)
      exact item.upper_ticker _
    · rw [symbols_firstEvidence]
      exact nodup_firstSample_append inside
  · intro all
    rw [List.take_of_length_le all, whole]

/-- Nothing is drawn after an exhaustive first sample. -/
theorem drawn_of_exhaustive {selection : MarketUniverseSelection}
    (selected : research.selection = .ok selection)
    (exhaustive : selection.coverageMode = .exhaustive) : research.drawn = [] := by
  obtain ⟨-, -, covers⟩ := firstSample_spec selected
  refine List.eq_nil_iff_forall_not_mem.mpr ?_
  intro symbol member
  obtain ⟨fresh, item, inside, takes, rfl⟩ := mem_drawn member
  exact fresh (covers exhaustive item inside takes)

variable {sampled : SampledResearch}

/-- A run lets its first sample grow. -/
theorem run_eq_ok (ran : research.run = .ok sampled) :
    ∃ selection, research.selection = .ok selection ∧ sampled =
      research.sampleAdaptively selection (research.firstEvidence research.firstSample) := by
  rw [run] at ran
  cases selected : research.selection with
  | error message =>
    rw [selected] at ran
    cases ran
  | ok selection =>
    have first : research.firstSample = normalizeSymbols research.texts selection.symbols := by
      rw [firstSample, selected]
    simp only [selected, ← first] at ran
    split at ran
    · cases ran
    · exact ⟨selection, rfl, (Except.ok.inj ran).symm⟩

/-- A run keeps its first sample, stops at a batch that suffices, or researches all it drew. -/
theorem evidence_cases (ran : research.run = .ok sampled) :
    (sampled.evidence = research.firstEvidence research.firstSample ∧
      (sufficientEvidence sampled.evidence ∨
        research.budget research.firstSample.length ≤ research.firstSample.length)) ∨
    (sufficientEvidence sampled.evidence ∧ ∃ n, sampled.evidence = research.gathered n) ∨
    ((∀ n, ¬sufficientEvidence (research.gathered n)) ∧ ∃ n, sampled.evidence = research.gathered n ∧
      (sampled.evidence.map (·.symbol) =
        research.firstSample ++ research.drawn.take research.room)) := by
  obtain ⟨selection, selected, rfl⟩ := run_eq_ok ran
  simp only [sampleAdaptively, length_firstEvidence]
  split
  · rename_i grows
    obtain ⟨thin, -, -⟩ := grows
    rw [furtherBatches_eq]
    rcases research.researchBatches_cases (batchesOf (max 1 research.sampleSize)
      (research.drawn.take research.room)) 1 (research.firstEvidence research.firstSample) with
      ⟨⟨n, stops⟩, enough⟩ | ⟨ends, never⟩
    · exact .inr (.inl ⟨enough, n, stops⟩)
    · -- Without a batch that suffices the run goes through all of them.
      refine .inr (.inr ⟨fun n enough => thin (never n enough),
        (batchesOf (max 1 research.sampleSize) (research.drawn.take research.room)).length, ?_, ?_⟩)
      · rw [ends, gathered, List.take_length]
      · obtain ⟨symbols, -, named, all⟩ := research.symbols_gathered
          (batchesOf (max 1 research.sampleSize) (research.drawn.take research.room)).length
        rw [gathered, List.take_length] at named
        rw [ends, named, all le_rfl]
  · rename_i stays
    by_cases enough : sufficientEvidence (research.firstEvidence research.firstSample)
    · exact .inl ⟨rfl, .inl enough⟩
    · by_cases filled :
        research.budget research.firstSample.length ≤ research.firstSample.length
      · exact .inl ⟨rfl, .inr filled⟩
      · -- Only an exhaustive selection keeps such a sample from growing, and nothing is drawn.
        have exhaustive : selection.coverageMode = .exhaustive := by
          by_contra partly
          exact stays ⟨enough, Nat.not_le.mp filled, partly⟩
        have nothing := drawn_of_exhaustive selected exhaustive
        have same : ∀ n, research.gathered n = research.firstEvidence research.firstSample := by
          intro n
          rw [gathered, nothing, List.take_nil, batchesOf_nil, List.take_nil, List.foldl_nil]
        refine .inr (.inr ⟨?_, 0, rfl, ?_⟩)
        · intro n
          rwa [same]
        · rw [symbols_firstEvidence, nothing, List.take_nil, List.append_nil]

/-- The candidates are exhausted if neither of the other reasons comes first. -/
theorem exhausted_iff {enough filled : Prop} [Decidable enough] [Decidable filled] :
    (if enough then StopReason.evidenceSufficient
      else if filled then .researchBudgetExhausted else .candidatePoolExhausted) =
        .candidatePoolExhausted ↔ ¬enough ∧ ¬filled := by
  by_cases enough
  · simp [*]
  · by_cases filled <;> simp [*]

/-- A report of exhausted candidates means that no evidence sufficed and there was budget left. -/
theorem stops_exhausted_iff (ran : research.run = .ok sampled) :
    sampled.adaptiveSampling.stopReason = .candidatePoolExhausted ↔
      (∀ n, ¬sufficientEvidence (research.gathered n)) ∧
        research.firstSample.length + (research.drawn.take research.room).length <
          research.budget research.firstSample.length := by
  have reason : sampled.adaptiveSampling.stopReason = .candidatePoolExhausted ↔
      ¬sufficientEvidence sampled.evidence ∧
        sampled.evidence.length < research.budget research.firstSample.length := by
    obtain ⟨selection, -, rfl⟩ := run_eq_ok ran
    simp only [sampleAdaptively, length_firstEvidence]
    rw [exhausted_iff, Nat.not_le]
  rw [reason]
  rcases evidence_cases ran with ⟨first, stays⟩ | ⟨enough, n, stops⟩ | ⟨thin, n, stops, named⟩
  · -- The run kept its first sample because it sufficed or filled the budget.
    have many : sampled.evidence.length = research.firstSample.length := by
      rw [first, length_firstEvidence]
    constructor
    · intro report
      obtain ⟨short, space⟩ := report
      rcases stays with enough | filled
      · exact absurd enough short
      · omega
    · intro report
      obtain ⟨thin, space⟩ := report
      rw [first] at stays ⊢
      rcases stays with enough | filled
      · exact absurd enough (thin 0)
      · omega
  · constructor
    · intro report
      exact absurd enough report.1
    · intro report
      exact absurd (stops ▸ enough) (report.1 n)
  · have many : sampled.evidence.length =
        research.firstSample.length + (research.drawn.take research.room).length := by
      rw [← List.length_map (f := fun item => item.symbol), named, List.length_append]
    rw [many]
    constructor
    · intro report
      exact ⟨thin, report.2⟩
    · intro report
      exact ⟨stops ▸ thin n, report.2⟩

/-- A run that stops with candidates exhausted has researched all that it drew. -/
theorem symbols_of_exhausted (ran : research.run = .ok sampled)
    (exhausted : sampled.adaptiveSampling.stopReason = .candidatePoolExhausted) :
    sampled.evidence.map (·.symbol) =
      research.firstSample ++ research.drawn.take research.room := by
  obtain ⟨thin, space⟩ := (stops_exhausted_iff ran).mp exhausted
  rcases evidence_cases ran with ⟨first, stays⟩ | ⟨enough, n, stops⟩ | ⟨-, -, -, named⟩
  · rw [first] at stays
    rcases stays with enough | filled
    · exact absurd enough (thin 0)
    · omega
  · exact absurd (stops ▸ enough) (thin n)
  · exact named

variable (research) in
/-- The settled symbols are no fewer than those of the first sample, and as many only if no other
symbol is avoided. -/
theorem length_settled :
    research.firstSample.length ≤ research.settled.length ∧
      (research.settled.length ≤ research.firstSample.length ↔
        ∀ symbol ∈ research.avoidSymbols,
          research.texts.casing.upper symbol ∈ research.firstSample) := by
  have inside : research.firstSample ⊆ research.settled := by
    intro symbol member
    exact mem_settled.mpr (.inl member)
  have fewer := List.subperm_of_subset nodup_firstSample inside
  refine ⟨fewer.length_le, ?_⟩
  constructor
  · intro few symbol avoided
    have same := fewer.perm_of_length_le few
    exact same.mem_iff.mpr (mem_settled.mpr (.inr (List.mem_map_of_mem avoided)))
  · intro nothing
    have distinct : research.settled.Nodup := Py.nodup_addKeys List.nodup_nil _
    refine (List.subperm_of_subset distinct ?_).length_le
    intro symbol member
    rcases mem_settled.mp member with first | avoided
    · exact first
    · obtain ⟨text, listed, rfl⟩ := List.mem_map.mp avoided
      exact nothing text listed

/-- No run researches more symbols than its budget has. -/
theorem length_evidence_le (ran : research.run = .ok sampled) :
    sampled.evidence.length ≤ sampled.adaptiveSampling.researchBudgetLimit := by
  obtain ⟨selection, selected, whole⟩ := run_eq_ok ran
  have limit : sampled.adaptiveSampling.researchBudgetLimit =
      research.budget research.firstSample.length := by
    rw [whole, sampleAdaptively, length_firstEvidence]
  have first := length_firstSample_le selected
  have settled := research.length_settled.1
  have few : ∀ n, (research.gathered n).length ≤
      research.budget research.firstSample.length := by
    intro n
    obtain ⟨symbols, part, named, -⟩ := research.symbols_gathered n
    have short := part.length_le
    rw [List.length_take, room] at short
    rw [← List.length_map (f := fun item => item.symbol), named, List.length_append]
    omega
  rw [limit]
  rcases evidence_cases ran with ⟨keeps, -⟩ | ⟨-, n, stops⟩ | ⟨-, n, stops, -⟩
  · rw [keeps, length_firstEvidence]
    exact first
  · exact stops ▸ few n
  · exact stops ▸ few n

end MarketResearch

open MarketResearch

/-- A run never exceeds its budget, and it tells the truth about exhausted candidates exactly if
its evidence suffices at some point, the first sample fills the budget, all that is left of the
scope is drawn and fits into the room that the avoided symbols leave, or no avoided symbol takes
any of the budget and what is drawn spends it. -/
theorem exhaustion_told_truly_iff (research : MarketResearch) (sampled : SampledResearch)
    (ran : research.run = .ok sampled) :
    (research.TellsExhaustionTruly sampled ∧
      sampled.evidence.length ≤ sampled.adaptiveSampling.researchBudgetLimit) ↔
      research.SamplesTruly := by
  have nothingTwice : research.drawn.Nodup := RoundRobin.nodup_draw _
  have fewer := research.length_settled
  have taken : (research.drawn.take research.room).length =
      min research.room research.drawn.length := List.length_take
  have space : research.room =
      research.budget research.firstSample.length - research.settled.length := rfl
  constructor
  · intro report
    obtain ⟨truly, -⟩ := report
    by_cases thin : ∀ n, ¬sufficientEvidence (research.gathered n)
    swap
    · push Not at thin
      obtain ⟨n, enough⟩ := thin
      exact .gathers n enough
    by_cases filled : research.budget research.firstSample.length ≤ research.firstSample.length
    · exact .starts filled
    by_cases left : research.firstSample.length + (research.drawn.take research.room).length <
        research.budget research.firstSample.length
    · -- The run reports that the candidates are exhausted, so nothing may be left.
      have exhausted := (stops_exhausted_iff ran).mpr ⟨thin, left⟩
      have all := truly exhausted
      rw [symbols_of_exhausted ran exhausted] at all
      refine .draws ?_ ?_
      · intro item member takes
        rcases all item member takes with researched | avoided
        · rcases List.mem_append.mp researched with first | later
          · exact .inl (mem_settled.mpr (.inl first))
          · exact .inr (List.mem_of_mem_take later)
        · exact .inl (mem_settled.mpr (.inr avoided))
      · -- A symbol beyond the room would be in scope, but not researched.
        by_contra beyond
        have past : research.room < research.drawn.length := Nat.not_le.mp beyond
        obtain ⟨fresh, item, member, takes, same⟩ :=
          mem_drawn (List.getElem_mem past)
        rcases all item member takes with researched | avoided
        · rcases List.mem_append.mp researched with first | later
          · exact fresh (same ▸ mem_settled.mpr (.inl first))
          · rw [same] at later
            obtain ⟨i, below, found⟩ := List.mem_take_iff_getElem.mp later
            have index := (nothingTwice.getElem_inj_iff).mp found
            omega
        · exact fresh (same ▸ mem_settled.mpr (.inr avoided))
    · -- The budget is spent, which leaves nothing of it to avoided symbols.
      refine .spends (fewer.2.mp (by omega)) (by omega)
  · intro ways
    refine ⟨?_, length_evidence_le ran⟩
    intro exhausted item member takes
    obtain ⟨thin, left⟩ := (stops_exhausted_iff ran).mp exhausted
    cases ways with
    | gathers n enough => exact absurd enough (thin n)
    | starts filled => omega
    | draws all fit =>
      rw [symbols_of_exhausted ran exhausted, List.take_of_length_le fit]
      rcases all item member takes with known | later
      · rcases mem_settled.mp known with first | avoided
        · exact .inl (List.mem_append_left _ first)
        · exact .inr avoided
      · exact .inl (List.mem_append_right _ later)
    | spends nothing many =>
      have few := fewer.2.mpr nothing
      omega

/-- A letter that was put in capitals stays what it is. -/
theorem toUpper_toUpper (c : Char) : c.toUpper.toUpper = c.toUpper := by
  by_cases small : 'a'.val ≤ c.val ∧ c.val ≤ 'z'.val
  · have low : 'a'.val.toNat = 97 := rfl
    have high : 'z'.val.toNat = 122 := rfl
    have apart : ('A'.val - 'a'.val).toNat = 4294967264 := rfl
    -- The distance between the cases is taken modulo the word size.
    have code : c.toUpper.val.toNat = c.val.toNat - 32 := by
      have above := small.1
      have below := small.2
      rw [UInt32.le_iff_toNat_le] at above below
      have capital : c.toUpper.val = c.val + ('A'.val - 'a'.val) := by
        delta Char.toUpper
        rw [dif_pos small]
      rw [capital]
      rw [UInt32.toNat_add, apart]
      omega
    have large : ¬('a'.val ≤ c.toUpper.val ∧ c.toUpper.val ≤ 'z'.val) := by
      have above := small.1
      have below := small.2
      rw [UInt32.le_iff_toNat_le] at above below
      rw [UInt32.le_iff_toNat_le, code]
      omega
    exact dif_neg large
  · have same : c.toUpper = c := dif_neg small
    rw [same, same]

/-- Capitals of the letters in ASCII. -/
def asciiCasing : Py.Casing where
  upper text := .ofList (text.toList.map Char.toUpper)
  upper_upper := by
    intro text
    rw [String.toList_ofList, List.map_map]
    refine congrArg String.ofList (List.map_congr_left ?_)
    intro c _
    exact toUpper_toUpper c
  upper_ascii _ _ := rfl

/-- The hashes of six listings of one request. -/
def listingDigests : List (String × String) :=
  [("000010", "97bcc089048ae014ebfad7cdab9c7ebbd9a521cc4ce32a4dd2956825e44645fc"),
    ("000020", "6518f55b311dabc576173bc71bcfc78523e202bbd340da700f17d4678d95681c"),
    ("000030", "1371e3e7978bd8e38b9df06047f93964b456cb38f8e0c237eee11fd77e80bcda"),
    ("000040", "00af04f48ba97bbd769966274a3b4a4019fc82b1666a869ba250b30014b89c3a"),
    ("000050", "24fbece85ea107df17297b9e294f40bb9e09664bde9a3c5e61200c2d20ced764"),
    ("000060", "b4b329b0205b9a96eea19d34e9680e1d7b3f6ccd7433ce2555a4d067894a8ca1")]

/-- The hash of one of these listings. -/
def listingDigest (text : String) : String :=
  (listingDigests.find? fun entry =>
    s!"2026-07-24|research KOSPI universe|KR:KOSPI|KOSPI|{entry.1}" = text).elim "" (·.2)

/-- A market of six symbols, of which none can be researched, and one symbol to avoid that is not
listed any more. -/
def delistedResearch : MarketResearch where
  texts := ⟨asciiCasing, listingDigest⟩
  numerals := noNumerals
  environ _ := none
  runId := "run"
  requestText := "research KOSPI universe"
  endDate := "2026-07-24"
  source := "real:kis-master+yahoo-chart"
  candidatePool := [⟨"000010", "KOSPI", by decide⟩, ⟨"000020", "KOSPI", by decide⟩,
    ⟨"000030", "KOSPI", by decide⟩, ⟨"000040", "KOSPI", by decide⟩,
    ⟨"000050", "KOSPI", by decide⟩, ⟨"000060", "KOSPI", by decide⟩]
  marketScope := ⟨"KR", ["KOSPI"], by decide, by simp⟩
  avoidSymbols := ["999990"]
  relativeStrength := false
  outcome _ _ := ⟨false, some "blocking_data_quality", "unknown", false, none, none⟩

/-- What is seen of the report on that market: five symbols, and nothing left to research. -/
theorem delistedResearch_reports :
    ∃ sampled, delistedResearch.run = .ok sampled ∧
      sampled.adaptiveSampling.stopReason = .candidatePoolExhausted ∧
      sampled.evidence.map (·.symbol) = ["000040", "000030", "000050", "000020", "000010"] := by
  have seen : (match delistedResearch.run with
      | .ok sampled => decide (sampled.adaptiveSampling.stopReason = .candidatePoolExhausted ∧
          sampled.evidence.map (·.symbol) = ["000040", "000030", "000050", "000020", "000010"])
      | .error _ => false) = true := by
    decide +kernel
  cases ran : delistedResearch.run with
  | error message =>
    rw [ran] at seen
    cases seen
  | ok sampled =>
    rw [ran] at seen
    exact ⟨sampled, rfl, of_decide_eq_true seen⟩

/-- The report on that market is settled by what can be said of its symbols beforehand. -/
theorem delisted_exhaustion_told_truly_iff :
    ∃ sampled, delistedResearch.run = .ok sampled ∧
      ((delistedResearch.TellsExhaustionTruly sampled ∧
        sampled.evidence.length ≤ sampled.adaptiveSampling.researchBudgetLimit) ↔
          delistedResearch.SamplesTruly) := by
  obtain ⟨sampled, ran, -⟩ := delistedResearch_reports
  exact ⟨sampled, ran, exhaustion_told_truly_iff delistedResearch sampled ran⟩

/-- A symbol is left in a market that is reported to be exhausted, because an avoided symbol that
is not listed any more takes its place in the budget. -/
theorem exhausted_with_symbol_left :
    ¬∀ (research : MarketResearch) (sampled : SampledResearch), research.run = .ok sampled →
      research.TellsExhaustionTruly sampled := by
  intro always
  obtain ⟨sampled, ran, exhausted, researched⟩ := delistedResearch_reports
  have left := always delistedResearch sampled ran exhausted ⟨"000060", "KOSPI", by decide⟩
    (by decide) (by decide)
  rw [researched] at left
  revert left
  decide +kernel

end StrategyLab
