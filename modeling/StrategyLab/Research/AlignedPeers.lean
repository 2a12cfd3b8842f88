import StrategyLab.Research.MultiSymbolValidation
import Mathlib.Data.List.Dedup

/-! Aligned peers: what a relative-strength dataset consists of, and when it covers its timeline. -/

namespace StrategyLab

open Raise (bind_eq_ok pure_eq_ok ensure_eq_ok)

section Timelines

variable (primary : MarketDataset) (peers : List MarketDataset) (primarySymbol : String)

/-- The bars of the primary symbol in its dataset. -/
def primaryBarsOf : List MarketBar := primary.bars.filter (·.symbol = primarySymbol)

/-- The bars of other symbols in the datasets of the peers. -/
def peerBarsOf : List MarketBar := (peers.flatMap (·.bars)).filter (·.symbol ≠ primarySymbol)

/-- The symbols of the peers. -/
def peerSymbolsOf : List String := sortedSet ((peerBarsOf peers primarySymbol).map (·.symbol))

/-- The timestamps of the primary symbol. -/
def primaryTimeline : List String := timestampsOf primary.bars primarySymbol

/-- The timestamps that the primary symbol and every peer share. -/
def sharedTimeline : List String :=
  (primaryTimeline primary primarySymbol).filter fun timestamp =>
    (peerSymbolsOf peers primarySymbol).all fun peer =>
      timestamp ∈ timestampsOf (peerBarsOf peers primarySymbol) peer

/-- The bars at the timestamps that are shared, one for each symbol, in their order. -/
def sharedBars : List MarketBar :=
  Py.sortedBy (fun bar => toLex (bar.timestamp, bar.symbol))
    (alignedBars
      ((primaryBarsOf primary primarySymbol).filter
        (·.timestamp ∈ sharedTimeline primary peers primarySymbol))
      ((peerBarsOf peers primarySymbol).filter
        (·.timestamp ∈ sharedTimeline primary peers primarySymbol))).rows

end Timelines

/-- A dataset that has one bar for each symbol at each shared timestamp and nothing else, made of
bars that were supplied, on a timeline that is long enough and covers nine tenths of the primary
one. -/
structure RelativeStrengthDataset (primary : MarketDataset) (peers : List MarketDataset)
    (primarySymbol : String) (minAligned : Nat) (result : MarketDataset) : Prop where
  one : ∀ symbol, (symbol = primarySymbol ∨ symbol ∈ peerSymbolsOf peers primarySymbol) →
    ∀ timestamp ∈ sharedTimeline primary peers primarySymbol,
      (result.bars.countP fun bar => bar.symbol = symbol ∧ bar.timestamp = timestamp) = 1
  nothingElse : ∀ bar ∈ result.bars,
    (bar.symbol = primarySymbol ∨ bar.symbol ∈ peerSymbolsOf peers primarySymbol) ∧
      bar.timestamp ∈ sharedTimeline primary peers primarySymbol
  supplied : ∀ bar ∈ result.bars, bar ∈ primary.bars ∨ ∃ peer ∈ peers, bar ∈ peer.bars
  enough : minAligned ≤ (sharedTimeline primary peers primarySymbol).length
  covers : 9 * (primaryTimeline primary primarySymbol).length ≤
    10 * (sharedTimeline primary peers primarySymbol).length

/-- The members of a set of texts are those of the texts. -/
theorem mem_sortedSet {texts : List String} {text : String} :
    text ∈ sortedSet texts ↔ text ∈ texts := by
  rw [sortedSet, Py.mem_sortedBy, List.mem_dedup]

variable {symbol timestamp : String}

/-- A symbol has the timestamps of its bars. -/
theorem mem_timestampsOf {bars : List MarketBar} :
    timestamp ∈ timestampsOf bars symbol ↔
      ∃ bar ∈ bars, bar.symbol = symbol ∧ bar.timestamp = timestamp := by
  rw [timestampsOf, mem_sortedSet]
  simp only [List.mem_map, List.mem_filter, decide_eq_true_eq, and_assoc]

/-- A bar is found under a symbol and a timestamp exactly if one of the primary or of a peer is. -/
theorem isSome_alignedBars (primaryBars peerBars : List MarketBar) (key : String × String) :
    ((alignedBars primaryBars peerBars).find? key).isSome ↔
      ∃ bar ∈ primaryBars ++ peerBars, (bar.symbol, bar.timestamp) = key := by
  have replaced : ∀ table : BarTable, ((primaryBars.foldl Table.replace table).find? key).isSome ↔
      (table.find? key).isSome ∨ ∃ bar ∈ primaryBars, (bar.symbol, bar.timestamp) = key := by
    induction primaryBars with
    | nil => simp
    | cons bar rest ih =>
      intro table
      rw [List.foldl_cons, ih, Table.find?_replace, List.exists_mem_cons_iff, ← or_assoc]
      refine or_congr_left ?_
      by_cases same : key = (bar.symbol, bar.timestamp)
      · simp [same]
      · simp [same, Ne.symm same]
  have inserted : ∀ table : BarTable,
      ((peerBars.foldl (fun bars bar => (bars.insert? bar).getD bars) table).find? key).isSome ↔
        (table.find? key).isSome ∨ ∃ bar ∈ peerBars, (bar.symbol, bar.timestamp) = key := by
    induction peerBars with
    | nil => simp
    | cons bar rest ih =>
      intro table
      rw [List.foldl_cons, ih, Table.find?_getD_insert?, List.exists_mem_cons_iff, ← or_assoc]
      refine or_congr_left ?_
      by_cases same : key = (bar.symbol, bar.timestamp)
      · simp [same]
      · simp [same, Ne.symm same]
  rw [alignedBars, inserted, replaced]
  simp [or_and_right, exists_or]

variable {bar : MarketBar}

/-- Every bar was one of the primary or of a peer. -/
theorem mem_alignedBars {primaryBars peerBars : List MarketBar}
    (member : bar ∈ (alignedBars primaryBars peerBars).rows) : bar ∈ primaryBars ++ peerBars := by
  have replaced : ∀ table : BarTable, bar ∈ (primaryBars.foldl Table.replace table).rows →
      bar ∈ table.rows ∨ bar ∈ primaryBars := by
    clear member
    induction primaryBars with
    | nil => exact fun table there => .inl there
    | cons first rest ih =>
      intro table there
      rcases ih _ there with before | later
      · rcases Table.mem_replace before with rfl | old
        · exact .inr List.mem_cons_self
        · exact .inl old
      · exact .inr (List.mem_cons_of_mem _ later)
  have inserted : ∀ table : BarTable,
      bar ∈ (peerBars.foldl (fun bars bar => (bars.insert? bar).getD bars) table).rows →
        bar ∈ table.rows ∨ bar ∈ peerBars := by
    clear member
    induction peerBars with
    | nil => exact fun table there => .inl there
    | cons first rest ih =>
      intro table there
      rcases ih _ there with before | later
      · dsimp only at before
        cases built : table.insert? first with
        | none =>
          rw [built] at before
          exact .inl before
        | some grown =>
          rw [built, Option.getD_some, (Table.insert?_eq_some_iff.mp built).2, List.mem_append,
            List.mem_singleton] at before
          rcases before with old | rfl
          · exact .inl old
          · exact .inr List.mem_cons_self
      · exact .inr (List.mem_cons_of_mem _ later)
  rw [List.mem_append]
  rcases inserted _ member with first | peer
  · rcases replaced _ first with none_ | own
    · cases none_
    · exact .inl own
  · exact .inr peer

section Building

variable {primary : MarketDataset} {peers : List MarketDataset} {primarySymbol : String}
  {minAligned : Nat}

/-- The dataset that is built: the shared bars under a name of their own. -/
def combinedDataset (primary : MarketDataset) (peers : List MarketDataset)
    (primarySymbol : String) : MarketDataset :=
  { primary with
    datasetId := s!"{primary.datasetId}:rs-multi-symbol"
    bars := sharedBars primary peers primarySymbol }

/-- A dataset is built exactly if all checks hold. -/
theorem build_eq_ok_iff {result : MarketDataset} :
    buildRelativeStrengthValidationDataset primary peers primarySymbol minAligned = .ok result ↔
      primaryBarsOf primary primarySymbol ≠ [] ∧ peers ≠ [] ∧
      peerSymbolsOf peers primarySymbol ≠ [] ∧
      minAligned ≤ (sharedTimeline primary peers primarySymbol).length ∧
      (primaryTimeline primary primarySymbol).length * 9 / 10 ≤
        (sharedTimeline primary peers primarySymbol).length ∧
      (∃ context, MultiSymbolValidationContext.fromDataset
        (combinedDataset primary peers primarySymbol) primarySymbol = .ok context) ∧
      combinedDataset primary peers primarySymbol = result := by
  have own : timestampsOf (primary.bars.filter (·.symbol = primarySymbol)) primarySymbol =
      primaryTimeline primary primarySymbol := by
    unfold primaryTimeline timestampsOf
    rw [List.filter_filter]
    simp
  unfold buildRelativeStrengthValidationDataset
  simp only [bind_eq_ok, ensure_eq_ok, pure_eq_ok, own, decide_eq_true_eq, exists_const,
    exists_and_right]
  rfl

/-- The symbols of the peers are those of their bars. -/
theorem mem_peerSymbolsOf {symbol : String} : symbol ∈ peerSymbolsOf peers primarySymbol ↔
    ∃ bar ∈ peerBarsOf peers primarySymbol, bar.symbol = symbol := by
  unfold peerSymbolsOf
  rw [mem_sortedSet, List.mem_map]

/-- A timestamp is shared exactly if the primary symbol and every peer have a bar there. -/
theorem mem_sharedTimeline {timestamp : String} :
    timestamp ∈ sharedTimeline primary peers primarySymbol ↔
      (∃ bar ∈ primaryBarsOf primary primarySymbol, bar.timestamp = timestamp) ∧
      ∀ peer ∈ peerSymbolsOf peers primarySymbol, ∃ bar ∈ peerBarsOf peers primarySymbol,
        bar.symbol = peer ∧ bar.timestamp = timestamp := by
  unfold sharedTimeline primaryTimeline primaryBarsOf
  simp only [List.mem_filter, List.all_eq_true, decide_eq_true_eq, mem_timestampsOf, and_assoc]

/-- A peer is not the primary symbol. -/
theorem ne_of_mem_peerBarsOf (member : bar ∈ peerBarsOf peers primarySymbol) :
    bar.symbol ≠ primarySymbol :=
  of_decide_eq_true (List.mem_filter.mp member).2

/-- A shared bar is one of the primary or of a peer, at a shared timestamp. -/
theorem mem_sharedBars (member : bar ∈ sharedBars primary peers primarySymbol) :
    (bar ∈ primaryBarsOf primary primarySymbol ∨ bar ∈ peerBarsOf peers primarySymbol) ∧
      bar.timestamp ∈ sharedTimeline primary peers primarySymbol := by
  unfold sharedBars at member
  rw [Py.mem_sortedBy] at member
  have among := mem_alignedBars member
  rw [List.mem_append, List.mem_filter, List.mem_filter, decide_eq_true_eq] at among
  rcases among with own | peer
  · exact ⟨.inl own.1, own.2⟩
  · exact ⟨.inr peer.1, peer.2⟩

/-- Each symbol has exactly one shared bar at every shared timestamp. -/
theorem countP_sharedBars
    (known : symbol = primarySymbol ∨ symbol ∈ peerSymbolsOf peers primarySymbol)
    (shared : timestamp ∈ sharedTimeline primary peers primarySymbol) :
    ((sharedBars primary peers primarySymbol).countP fun bar =>
      bar.symbol = symbol ∧ bar.timestamp = timestamp) = 1 := by
  unfold sharedBars
  rw [(Py.sortedBy_perm _ _).countP_eq]
  -- A bar of the symbol is there, so it is found in the table.
  have there := (isSome_alignedBars
    ((primaryBarsOf primary primarySymbol).filter
      (·.timestamp ∈ sharedTimeline primary peers primarySymbol))
    ((peerBarsOf peers primarySymbol).filter
      (·.timestamp ∈ sharedTimeline primary peers primarySymbol)) (symbol, timestamp)).mpr ?_
  · obtain ⟨bar, found⟩ := Option.isSome_iff_exists.mp there
    have one := (@Table.countP_key_eq_one_iff _ _ _ _ _ _ (fun _ => True) _).mpr ⟨bar, found, trivial⟩
    rw [← one]
    refine List.countP_congr fun other _ => ?_
    simp
  · obtain ⟨⟨own, ownMember, ownTime⟩, covered⟩ := mem_sharedTimeline.mp shared
    rcases known with rfl | peer
    · refine ⟨own, List.mem_append_left _ (List.mem_filter.mpr ⟨ownMember, ?_⟩), ?_⟩
      · rw [ownTime]
        exact decide_eq_true shared
      · rw [ownTime, of_decide_eq_true (List.mem_filter.mp ownMember).2]
    · obtain ⟨bar, member, named, time⟩ := covered symbol peer
      refine ⟨bar, List.mem_append_right _ (List.mem_filter.mpr ⟨member, ?_⟩), ?_⟩
      · rw [time]
        exact decide_eq_true shared
      · rw [named, time]

/-- There is a shared bar of each symbol at every shared timestamp. -/
theorem exists_sharedBar
    (known : symbol = primarySymbol ∨ symbol ∈ peerSymbolsOf peers primarySymbol)
    (shared : timestamp ∈ sharedTimeline primary peers primarySymbol) :
    ∃ bar ∈ sharedBars primary peers primarySymbol,
      bar.symbol = symbol ∧ bar.timestamp = timestamp := by
  have one := countP_sharedBars known shared
  have positive : 0 < (sharedBars primary peers primarySymbol).countP fun bar =>
      bar.symbol = symbol ∧ bar.timestamp = timestamp := by omega
  obtain ⟨bar, member, is⟩ := List.countP_pos_iff.mp positive
  exact ⟨bar, member, of_decide_eq_true is⟩

/-- The context of the shared bars is accepted if a timestamp is shared and there is a peer. -/
theorem exists_context (some_ : sharedTimeline primary peers primarySymbol ≠ [])
    (peer : peerSymbolsOf peers primarySymbol ≠ []) :
    ∃ context, MultiSymbolValidationContext.fromDataset
      (combinedDataset primary peers primarySymbol) primarySymbol = .ok context := by
  obtain ⟨timestamp, shared⟩ := List.exists_mem_of_ne_nil _ some_
  obtain ⟨other, known⟩ := List.exists_mem_of_ne_nil _ peer
  have symbols : ∀ symbol, symbol ∈ sortedSet
      ((combinedDataset primary peers primarySymbol).bars.map (·.symbol)) ↔
        symbol = primarySymbol ∨ symbol ∈ peerSymbolsOf peers primarySymbol := by
    intro symbol
    rw [mem_sortedSet, List.mem_map]
    constructor
    · rintro ⟨bar, member, rfl⟩
      rcases (mem_sharedBars member).1 with own | peer
      · exact .inl (of_decide_eq_true (List.mem_filter.mp own).2)
      · exact .inr (mem_peerSymbolsOf.mpr ⟨bar, peer, rfl⟩)
    · intro is
      obtain ⟨bar, member, named, -⟩ := exists_sharedBar is shared
      exact ⟨bar, member, named⟩
  unfold MultiSymbolValidationContext.fromDataset
  simp only [bind_eq_ok, ensure_eq_ok, pure_eq_ok, decide_eq_true_eq]
  refine ⟨_, (), (symbols primarySymbol).mpr (.inl rfl), (), ?_, (),
    Raise.forM_eq_ok_of_forall fun member among => ?_, rfl⟩
  · -- The peer is one of the symbols that are not the primary one.
    refine List.ne_nil_of_mem (List.mem_filter.mpr ⟨(symbols other).mpr (.inr known), ?_⟩)
    obtain ⟨bar, inside, rfl⟩ := mem_peerSymbolsOf.mp known
    exact decide_eq_true (ne_of_mem_peerBarsOf inside)
  · rw [ensure_eq_ok, decide_eq_true_eq, List.filter_eq_nil_iff]
    intro time own
    obtain ⟨bar, inside, -, rfl⟩ := mem_timestampsOf.mp own
    have covered := exists_sharedBar ((symbols member).mp (List.mem_filter.mp among).1)
      (mem_sharedBars inside).2
    simpa [mem_timestampsOf, combinedDataset] using covered

/-- What is built has every bar that it should have, and is long enough. -/
theorem relativeStrengthDataset_iff_covers {result : MarketDataset}
    (built : buildRelativeStrengthValidationDataset primary peers primarySymbol minAligned =
      .ok result) :
    RelativeStrengthDataset primary peers primarySymbol minAligned result ↔
      9 * (primaryTimeline primary primarySymbol).length ≤
        10 * (sharedTimeline primary peers primarySymbol).length := by
  obtain ⟨-, -, -, enough, -, -, rfl⟩ := build_eq_ok_iff.mp built
  constructor
  · exact RelativeStrengthDataset.covers
  · intro covers
    refine ⟨fun symbol known timestamp shared => countP_sharedBars known shared,
      fun bar member => ⟨?_, (mem_sharedBars member).2⟩, fun bar member => ?_, enough, covers⟩
    · rcases (mem_sharedBars member).1 with own | peer
      · exact .inl (of_decide_eq_true (List.mem_filter.mp own).2)
      · exact .inr (mem_peerSymbolsOf.mpr ⟨bar, peer, rfl⟩)
    · rcases (mem_sharedBars member).1 with own | peer
      · exact .inl (List.mem_filter.mp own).1
      · exact .inr (List.mem_flatMap.mp (List.mem_filter.mp peer).1)

/-- A dataset is built where enough timestamps are shared, also if the primary timeline is longer
than ten ninths of what is shared. -/
theorem built_of_uncovered (positive : 1 ≤ minAligned)
    (enough : minAligned ≤ (sharedTimeline primary peers primarySymbol).length)
    (floor : (primaryTimeline primary primarySymbol).length * 9 / 10 ≤
      (sharedTimeline primary peers primarySymbol).length)
    (uncovered : 10 * (sharedTimeline primary peers primarySymbol).length <
      9 * (primaryTimeline primary primarySymbol).length) :
    buildRelativeStrengthValidationDataset primary peers primarySymbol minAligned =
      .ok (combinedDataset primary peers primarySymbol) := by
  have some_ : sharedTimeline primary peers primarySymbol ≠ [] :=
    List.ne_nil_of_length_pos (by omega)
  -- Without a peer the whole timeline would be shared.
  have peer : peerSymbolsOf peers primarySymbol ≠ [] := by
    intro none_
    have whole : sharedTimeline primary peers primarySymbol =
        primaryTimeline primary primarySymbol := by
      unfold sharedTimeline
      rw [none_]
      simp
    rw [whole] at uncovered
    omega
  have datasets : peers ≠ [] := by
    rintro rfl
    exact peer rfl
  obtain ⟨timestamp, shared⟩ := List.exists_mem_of_ne_nil _ some_
  obtain ⟨⟨bar, own, -⟩, -⟩ := mem_sharedTimeline.mp shared
  exact build_eq_ok_iff.mpr ⟨List.ne_nil_of_mem own, datasets, peer, enough, floor,
    exists_context some_ peer, rfl⟩

end Building

/-- Whatever is built is a relative-strength dataset exactly if the timestamps that are shared, where
they are enough, are not nine tenths of the primary ones rounded down, or nothing is rounded. -/
theorem builds_relativeStrengthDataset_iff (primary : MarketDataset) (peers : List MarketDataset)
    (primarySymbol : String) (minAligned : Nat) (positive : 1 ≤ minAligned) :
    (∀ result, buildRelativeStrengthValidationDataset primary peers primarySymbol minAligned =
        .ok result → RelativeStrengthDataset primary peers primarySymbol minAligned result) ↔
      (minAligned ≤ (sharedTimeline primary peers primarySymbol).length →
        (sharedTimeline primary peers primarySymbol).length =
          (primaryTimeline primary primarySymbol).length * 9 / 10 →
        10 ∣ (primaryTimeline primary primarySymbol).length) := by
  constructor
  · intro all enough floor
    by_contra rounded
    have uncovered : 10 * (sharedTimeline primary peers primarySymbol).length <
        9 * (primaryTimeline primary primarySymbol).length := by omega
    have built := built_of_uncovered positive enough (by omega) uncovered
    have covers := (all _ built).covers
    omega
  · intro exact_ result built
    obtain ⟨-, -, -, enough, floor, -, -⟩ := build_eq_ok_iff.mp built
    refine (relativeStrengthDataset_iff_covers built).mpr ?_
    -- Only a count that is the floor itself can lie below nine tenths.
    by_cases boundary : (sharedTimeline primary peers primarySymbol).length =
        (primaryTimeline primary primarySymbol).length * 9 / 10
    · have divides := exact_ enough boundary
      omega
    · omega

/-- A bar of a symbol at which nothing is traded. -/
def quietBar (symbol timestamp : String) : MarketBar :=
  { timestamp, symbol, open_ := 1, high := 1, low := 1, close := 1, volume := 0,
    tradingValue := 0 }

/-- The quiet bars of a symbol at some timestamps. -/
def quietDataset (symbol : String) (timestamps : List String) : MarketDataset :=
  { datasetId := symbol, bars := timestamps.map (quietBar symbol), fixtureBacked := true }

/-- A peer that is there on both days covers the timeline. -/
theorem whole_peer_covers : ∃ result,
    buildRelativeStrengthValidationDataset (quietDataset "A" ["1", "2"])
      [quietDataset "B" ["2", "1"]] "A" 1 = .ok result ∧
    RelativeStrengthDataset (quietDataset "A" ["1", "2"]) [quietDataset "B" ["2", "1"]] "A" 1
      result := by
  have covers := (builds_relativeStrengthDataset_iff (quietDataset "A" ["1", "2"])
    [quietDataset "B" ["2", "1"]] "A" 1 (by decide)).mpr (by decide +kernel)
  have built : (buildRelativeStrengthValidationDataset (quietDataset "A" ["1", "2"])
      [quietDataset "B" ["2", "1"]] "A" 1).toOption.isSome = true := by decide +kernel
  cases made : buildRelativeStrengthValidationDataset (quietDataset "A" ["1", "2"])
      [quietDataset "B" ["2", "1"]] "A" 1 with
  | error raised =>
    rw [made] at built
    cases built
  | ok result => exact ⟨result, rfl, covers result made⟩

/-- A peer that is there on one of two days covers half of the timeline, and a dataset is built. -/
theorem half_peer_built : ¬ ∀ (primary : MarketDataset) (peers : List MarketDataset)
    (primarySymbol : String) (minAligned : Nat), 1 ≤ minAligned → ∀ result,
      buildRelativeStrengthValidationDataset primary peers primarySymbol minAligned = .ok result →
        RelativeStrengthDataset primary peers primarySymbol minAligned result := by
  intro all
  have half : (sharedTimeline (quietDataset "A" ["1", "2"]) [quietDataset "B" ["1"]] "A").length =
      1 := by decide +kernel
  have whole : (primaryTimeline (quietDataset "A" ["1", "2"]) "A").length = 2 := by decide +kernel
  have built := built_of_uncovered (le_refl 1) half.ge
    (by rw [half, whole]) (by rw [half, whole]; decide)
  have covers := (all _ _ _ 1 le_rfl _ built).covers
  rw [half, whole] at covers
  omega

end StrategyLab
