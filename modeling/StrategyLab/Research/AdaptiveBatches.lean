import StrategyLab.Research.SampleExhaustion

/-! Adaptive batches: when the exchanges, taking turns, bring every symbol that there is room for. -/

namespace StrategyLab

section Batches

variable (texts : MarketTexts) (candidates : List MarketSymbol)
  (exchanges usedSymbols : List String)

/-- The used symbols in capitals, each once. -/
def usedTickers : List String := Py.fromkeys (usedSymbols.map texts.casing.upper)

/-- The symbols of the candidates that are listed on one of the exchanges and not used. -/
def unusedTickers : List String :=
  (candidates.filter fun item =>
    texts.casing.upper item.exchange ∈ exchanges.map texts.casing.upper ∧
      item.ticker texts ∉ usedTickers texts usedSymbols).map (·.ticker texts)

/-- Batches of different symbols in capitals that are listed and not used, as many as there is room
for, in full batches up to the last one. -/
structure CompleteBatches (limit batchSize : Nat) (batches : List (List String)) : Prop where
  distinct : batches.flatten.Nodup
  capital : ∀ symbol ∈ batches.flatten, texts.casing.upper symbol = symbol
  listed : ∀ symbol ∈ batches.flatten, symbol ∈ unusedTickers texts candidates exchanges usedSymbols
  complete : batches.flatten.length = min (limit - (usedTickers texts usedSymbols).length)
    (Py.fromkeys (unusedTickers texts candidates exchanges usedSymbols)).length
  filled : ∀ i batch, batches[i]? = some batch → i + 1 < batches.length → batch.length = batchSize

end Batches

variable {texts : MarketTexts} {candidates : List MarketSymbol}
  {exchanges usedSymbols : List String} {limit batchSize : Nat} {seed : String}

/-- What waits in the queues of the exchanges are the symbols that are listed and not used. -/
theorem mem_flatten_adaptiveGroups {symbol : String} :
    symbol ∈ (adaptiveGroups texts candidates exchanges (usedTickers texts usedSymbols)
        seed).flatten ↔
      symbol ∈ unusedTickers texts candidates exchanges usedSymbols := by
  unfold adaptiveGroups unusedTickers
  rw [List.mem_flatten]
  constructor
  · rintro ⟨group, waits, member⟩
    obtain ⟨exchange, known, rfl⟩ := List.mem_map.mp waits
    obtain ⟨item, sorted, rfl⟩ := List.mem_map.mp member
    obtain ⟨inside, fits⟩ := List.mem_filter.mp ((Py.mem_sortedBy _).mp sorted)
    obtain ⟨fresh, here⟩ := of_decide_eq_true fits
    rw [Py.mem_fromkeys, ← here] at known
    exact List.mem_map_of_mem (List.mem_filter.mpr ⟨inside, decide_eq_true ⟨known, fresh⟩⟩)
  · intro member
    obtain ⟨item, among, rfl⟩ := List.mem_map.mp member
    obtain ⟨inside, fits⟩ := List.mem_filter.mp among
    obtain ⟨known, fresh⟩ := of_decide_eq_true fits
    refine ⟨_, List.mem_map_of_mem (Py.mem_fromkeys.mpr known), List.mem_map_of_mem ?_⟩
    exact (Py.mem_sortedBy _).mpr (List.mem_filter.mpr ⟨inside, decide_eq_true ⟨fresh, rfl⟩⟩)

/-- Every batch but the last one is full. -/
theorem length_of_getElem?_batchesOf {ordered : List String} (positive : 0 < batchSize) {i : Nat}
    {batch : List String} (found : (batchesOf batchSize ordered)[i]? = some batch)
    (more : i + 1 < (batchesOf batchSize ordered).length) : batch.length = batchSize := by
  unfold batchesOf at found more
  rw [List.length_map, List.length_range] at more
  rw [List.getElem?_map, List.getElem?_range (by omega), Option.map_some, Option.some.injEq]
    at found
  -- A batch that follows starts within the list, so this one ends within it.
  have enough : (i + 2) * batchSize ≤ ordered.length + batchSize - 1 :=
    (Nat.le_div_iff_mul_le positive).mp more
  rw [← found, List.length_take, List.length_drop]
  have split : (i + 2) * batchSize = i * batchSize + 2 * batchSize := by ring
  omega

/-- The batches hold what is drawn from the exchanges, as far as there is room. -/
theorem adaptiveBatches_eq :
    adaptiveBatches texts candidates exchanges usedSymbols limit batchSize seed =
      batchesOf batchSize ((RoundRobin.draw (adaptiveGroups texts candidates exchanges
        (usedTickers texts usedSymbols) seed)).take
          (limit - (usedTickers texts usedSymbols).length)) := by
  unfold adaptiveBatches
  dsimp only
  change (if limit ≤ (usedTickers texts usedSymbols).length then [] else batchesOf batchSize
    (orderSymbols (usedTickers texts usedSymbols) limit limit (adaptiveGroups texts candidates
      exchanges (usedTickers texts usedSymbols) seed) [])) = _
  split
  · rename_i full
    rw [Nat.sub_eq_zero_of_le full, List.take_zero, batchesOf_nil]
  · refine congrArg (batchesOf batchSize) (orderSymbols_eq ?_ ?_ ?_ le_rfl)
    · intro group waits symbol member
      have listed := mem_flatten_adaptiveGroups.mp (List.mem_flatten.mpr ⟨group, waits, member⟩)
      obtain ⟨item, among, rfl⟩ := List.mem_map.mp listed
      exact (of_decide_eq_true (List.mem_filter.mp among).2).2
    · rw [List.length_nil]
      omega
    · rw [List.length_nil]
      omega

/-- The batches are complete exactly if the queues of the exchanges stall only where the room is
filled or nothing new waits behind. -/
theorem completeBatches_iff (texts : MarketTexts) (candidates : List MarketSymbol)
    (exchanges usedSymbols : List String) (limit batchSize : Nat) (seed : String)
    (positive : 0 < batchSize) :
    CompleteBatches texts candidates exchanges usedSymbols limit batchSize
        (adaptiveBatches texts candidates exchanges usedSymbols limit batchSize seed) ↔
      ∀ n, RoundRobin.Stalls (adaptiveGroups texts candidates exchanges
          (usedTickers texts usedSymbols) seed) n →
        limit - (usedTickers texts usedSymbols).length ≤
            (RoundRobin.firstOf n (adaptiveGroups texts candidates exchanges
              (usedTickers texts usedSymbols) seed)).length ∨
          ∀ queue ∈ adaptiveGroups texts candidates exchanges (usedTickers texts usedSymbols) seed,
            ∀ symbol ∈ queue, symbol ∈ RoundRobin.firstOf n (adaptiveGroups texts candidates
              exchanges (usedTickers texts usedSymbols) seed) := by
  rw [← RoundRobin.length_take_draw_iff]
  have flat : (adaptiveBatches texts candidates exchanges usedSymbols limit batchSize
      seed).flatten = (RoundRobin.draw (adaptiveGroups texts candidates exchanges
        (usedTickers texts usedSymbols) seed)).take
          (limit - (usedTickers texts usedSymbols).length) := by
    rw [adaptiveBatches_eq, flatten_batchesOf positive]
  have counts : (Py.fromkeys (adaptiveGroups texts candidates exchanges
      (usedTickers texts usedSymbols) seed).flatten).length =
        (Py.fromkeys (unusedTickers texts candidates exchanges usedSymbols)).length := by
    refine ((List.perm_ext_iff_of_nodup (Py.nodup_fromkeys _)
      (Py.nodup_fromkeys _)).mpr fun symbol => ?_).length_eq
    rw [Py.mem_fromkeys, Py.mem_fromkeys, mem_flatten_adaptiveGroups]
  have listed : ∀ symbol ∈ (adaptiveBatches texts candidates exchanges usedSymbols limit batchSize
      seed).flatten, symbol ∈ unusedTickers texts candidates exchanges usedSymbols := by
    intro symbol member
    rw [flat] at member
    exact mem_flatten_adaptiveGroups.mp (List.mem_flatten.mpr
      (RoundRobin.mem_queue_of_mem_draw (List.mem_of_mem_take member)))
  constructor
  · intro whole
    rw [← flat, counts]
    exact whole.complete
  · intro length
    refine ⟨?_, fun symbol member => ?_, listed, ?_, fun i batch found more => ?_⟩
    · rw [flat]
      exact (RoundRobin.nodup_draw _).sublist (List.take_sublist _ _)
    · obtain ⟨item, -, rfl⟩ := List.mem_map.mp (listed symbol member)
      exact item.upper_ticker texts
    · rw [flat, ← counts]
      exact length
    · rw [adaptiveBatches_eq] at found more
      exact length_of_getElem?_batchesOf positive found more

/-- The hashes of five listings under one seed. -/
def crossDigests : List (String × String) :=
  [("seed3|NASDAQ|MSFT", "5db1d68f1637c30184c47f589916803565088dd88fc9c78fa3c7e264de202d92"),
    ("seed3|NASDAQ|AAPL", "6f0668ed2dd4414198d17b1239cbba4dab911d4cffa911de0460ff93cd905a95"),
    ("seed3|NASDAQ|NVDA", "d995e92b0b75c1188335a37e8c8073e60aff3aa2c4760b099a82ab689a96a2bd"),
    ("seed3|NYSE|AAPL", "5527b9186cdcce85670d921f5e7a8a055318050397266c188e87b773132c900d"),
    ("seed3|NYSE|MSFT", "e44433d866abf7c89a84241bf88622675c7a2b4c2311924c68e1d71cecd35014")]

/-- Texts with the hashes of these listings. -/
def crossTexts : MarketTexts :=
  ⟨asciiCasing, fun text => (crossDigests.lookup text).getD ""⟩

/-- The first symbol is an identifier. -/
theorem isSafeId_aapl : isSafeId "AAPL" := by decide

/-- The second symbol is an identifier. -/
theorem isSafeId_msft : isSafeId "MSFT" := by decide

/-- The third symbol is an identifier. -/
theorem isSafeId_nvda : isSafeId "NVDA" := by decide

/-- Three symbols on one exchange, two of which are listed on another one too. -/
def crossListed : List MarketSymbol :=
  [⟨"AAPL", "NASDAQ", isSafeId_aapl⟩, ⟨"MSFT", "NASDAQ", isSafeId_msft⟩,
    ⟨"NVDA", "NASDAQ", isSafeId_nvda⟩, ⟨"AAPL", "NYSE", isSafeId_aapl⟩,
    ⟨"MSFT", "NYSE", isSafeId_msft⟩]

/-- The symbols of one exchange come up completely. -/
theorem one_exchange_complete : CompleteBatches crossTexts crossListed ["nyse"] [] 10 5
    (adaptiveBatches crossTexts crossListed ["nyse"] [] 10 5 "seed3") := by
  refine (completeBatches_iff _ _ _ _ _ _ _ (by decide)).mpr fun n stalls => ?_
  have queues : adaptiveGroups crossTexts crossListed ["nyse"] (usedTickers crossTexts [])
      "seed3" = [["AAPL", "MSFT"]] := by decide +kernel
  rw [queues] at stalls ⊢
  right
  -- A single queue of different symbols stalls behind its end.
  match n with
  | 0 => exact absurd (stalls _ List.mem_cons_self "AAPL" rfl) (by decide)
  | 1 => exact absurd (stalls _ List.mem_cons_self "MSFT" rfl) (by decide)
  | n + 2 =>
    intro queue member symbol inside
    rw [List.mem_singleton.mp member] at inside
    simpa [RoundRobin.firstOf] using inside

/-- Two symbols that both exchanges bring in one turn after the other hide the third one. -/
theorem third_symbol_missed : ¬∀ (texts : MarketTexts) (candidates : List MarketSymbol)
    (exchanges usedSymbols : List String) (limit batchSize : Nat) (seed : String), 0 < batchSize →
      CompleteBatches texts candidates exchanges usedSymbols limit batchSize
        (adaptiveBatches texts candidates exchanges usedSymbols limit batchSize seed) := by
  intro always
  have complete := (always crossTexts crossListed ["NASDAQ", "NYSE"] [] 10 5 "seed3"
    (by decide)).complete
  have batches : adaptiveBatches crossTexts crossListed ["NASDAQ", "NYSE"] [] 10 5 "seed3" =
      [["MSFT", "AAPL"]] := by decide +kernel
  rw [batches] at complete
  revert complete
  decide +kernel

end StrategyLab
