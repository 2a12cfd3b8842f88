import StrategyLab.Research.AdaptiveBatches

/-! Bounded selections: which listings of a market are selected, and what that depends on. -/

namespace StrategyLab

section Listings

variable (texts : MarketTexts) (candidates : List MarketSymbol) (scope : MarketScope)
  (avoidSymbols : List String)

/-- A candidate that is not to be avoided, unless all of them are. -/
def Welcome (item : MarketSymbol) : Prop :=
  item.ticker texts ∉ avoidSymbols.map texts.casing.upper ∨
    ∀ other ∈ candidates, other.ticker texts ∈ avoidSymbols.map texts.casing.upper

instance (item : MarketSymbol) : Decidable (Welcome texts candidates avoidSymbols item) :=
  inferInstanceAs (Decidable (_ ∨ _))

/-- The candidates of a scope that are welcome. -/
def eligibleCandidates : List MarketSymbol :=
  candidates.filter fun item => scope.Takes texts item ∧ Welcome texts candidates avoidSymbols item

/-- The exchanges that a scope names and an eligible candidate is listed on. -/
def filledExchanges : List String :=
  scope.exchanges.filter fun exchange =>
    ∃ item ∈ eligibleCandidates texts candidates scope avoidSymbols,
      texts.casing.upper item.exchange = exchange

/-- Different listings of eligible candidates, as many as asked for, from each exchange if there is
room, and called exhaustive exactly if they are all. -/
structure SelectsEligible (requestedSize : Nat) (selection : MarketUniverseSelection)
    (items : List MarketSymbol) : Prop where
  symbols : selection.symbols = items.map (·.ticker texts)
  eligible : ∀ item ∈ items, item ∈ eligibleCandidates texts candidates scope avoidSymbols
  distinct : (items.map (·.listing texts)).Nodup
  size : items.length = min (max 1 requestedSize) (Py.fromkeys
    ((eligibleCandidates texts candidates scope avoidSymbols).map (·.listing texts))).length
  spread : (filledExchanges texts candidates scope avoidSymbols).length ≤ max 1 requestedSize →
    ∀ exchange ∈ filledExchanges texts candidates scope avoidSymbols,
      ∃ item ∈ items, texts.casing.upper item.exchange = exchange
  different : (∀ one ∈ eligibleCandidates texts candidates scope avoidSymbols,
    ∀ other ∈ eligibleCandidates texts candidates scope avoidSymbols,
      one.ticker texts = other.ticker texts → one.listing texts = other.listing texts) →
        selection.symbols.Nodup
  coverage : selection.coverageMode = .exhaustive ↔
    ∀ item ∈ eligibleCandidates texts candidates scope avoidSymbols,
      item.listing texts ∈ items.map (·.listing texts)

end Listings

variable {texts : MarketTexts} {candidates : List MarketSymbol} {scope : MarketScope}
  {avoidSymbols : List String} {seed source : String} {requestedSize : Nat}

/-- What the scope takes of the candidates that are left are the eligible ones. -/
theorem filter_unavoided :
    (unavoided texts candidates avoidSymbols).filter (scope.Takes texts ·) =
      eligibleCandidates texts candidates scope avoidSymbols := by
  unfold unavoided eligibleCandidates
  dsimp only
  split
  · -- All candidates are to be avoided, so all of them are welcome.
    rename_i all
    rw [List.filter_eq_nil_iff] at all
    refine List.filter_congr fun item member => ?_
    have welcome : Welcome texts candidates avoidSymbols item := by
      right
      intro other inside
      simpa using all other inside
    simp [welcome]
  · rename_i left_
    rw [List.filter_filter]
    refine List.filter_congr fun item member => ?_
    have one : ¬∀ other ∈ candidates, other.ticker texts ∈
        avoidSymbols.map texts.casing.upper := by
      intro all
      exact left_ (List.filter_eq_nil_iff.mpr fun other inside => by simpa using all other inside)
    simp only [Welcome, one, or_false, Bool.decide_and]

/-- The listings that are selected from are those of the eligible candidates. -/
theorem map_listing_rows :
    (uniqueListings texts scope (unavoided texts candidates avoidSymbols)).map (·.listing texts) =
      Py.fromkeys ((eligibleCandidates texts candidates scope avoidSymbols).map
        (·.listing texts)) := by
  rw [map_listing_uniqueListings, filter_unavoided]

/-- A listing that is selected from is an eligible candidate. -/
theorem mem_eligible_of_mem_rows {item : MarketSymbol}
    (member : item ∈ uniqueListings texts scope (unavoided texts candidates avoidSymbols)) :
    item ∈ eligibleCandidates texts candidates scope avoidSymbols := by
  rw [← filter_unavoided]
  exact Table.mem_of_find?_ofRows (Table.find?_of_mem member)

section Fold

variable (texts scope seed) (rows : List MarketSymbol) (size : Nat)

/-- The first listing of an exchange is added behind the others, if there are any and there is
room. -/
theorem withFirstOf_cases (selected : List MarketSymbol) (exchange : String) :
    withFirstOf texts scope seed rows size selected exchange = selected ∧
        (size ≤ selected.length ∨ rows.filter (texts.casing.upper ·.exchange = exchange) = []) ∨
      ∃ item ∈ rows.filter (texts.casing.upper ·.exchange = exchange), selected.length < size ∧
        withFirstOf texts scope seed rows size selected exchange = selected ++ [item] := by
  unfold withFirstOf
  dsimp only
  split
  · rename_i item found
    split
    · rename_i room
      exact .inr ⟨item, List.minOn?_mem found, room, rfl⟩
    · rename_i full
      exact .inl ⟨rfl, .inl (Nat.not_lt.mp full)⟩
  · rename_i nothing
    refine .inl ⟨rfl, .inr ?_⟩
    by_contra filled
    have there := List.isSome_minOn?_iff (f := selectionScore texts scope seed) |>.mpr filled
    rw [nothing] at there
    cases there

variable {selected : List MarketSymbol}

/-- The exchanges add behind what is selected, within the size. -/
theorem prefix_foldl_withFirstOf (exchanges : List String) (room : selected.length ≤ size) :
    selected <+: exchanges.foldl (withFirstOf texts scope seed rows size) selected ∧
      (exchanges.foldl (withFirstOf texts scope seed rows size) selected).length ≤ size := by
  induction exchanges generalizing selected with
  | nil => exact ⟨List.prefix_refl _, room⟩
  | cons exchange rest ih =>
    rw [List.foldl_cons]
    rcases withFirstOf_cases texts scope seed rows size selected exchange with
      ⟨same, -⟩ | ⟨item, -, short, grown⟩
    · rw [same]
      exact ih room
    · rw [grown]
      have longer : (selected ++ [item]).length ≤ size := by
        rw [List.length_append, List.length_singleton]
        omega
      obtain ⟨after, within⟩ := ih longer
      exact ⟨(List.prefix_append selected [item]).trans after, within⟩

/-- Where there is room for a listing of each exchange that has any, each of them adds one. -/
theorem exists_of_foldl_withFirstOf (exchanges : List String)
    (room : selected.length + (exchanges.filter fun exchange =>
      rows.filter (texts.casing.upper ·.exchange = exchange) ≠ []).length ≤ size) :
    ∀ exchange ∈ exchanges, rows.filter (texts.casing.upper ·.exchange = exchange) ≠ [] →
      ∃ item ∈ exchanges.foldl (withFirstOf texts scope seed rows size) selected,
        texts.casing.upper item.exchange = exchange := by
  induction exchanges generalizing selected with
  | nil => intro exchange none_; cases none_
  | cons first rest ih =>
    intro exchange member filled
    rw [List.foldl_cons]
    rcases withFirstOf_cases texts scope seed rows size selected first with
      ⟨same, blocked⟩ | ⟨item, here, short, grown⟩
    · -- An exchange that adds nothing although there is room has no listings.
      have empty : rows.filter (texts.casing.upper ·.exchange = first) = [] := by
        rcases blocked with full | empty
        · by_contra some_
          rw [List.filter_cons_of_pos (by simpa using some_), List.length_cons] at room
          omega
        · exact empty
      rw [List.filter_cons_of_neg (by simpa using empty)] at room
      rw [same]
      rcases List.mem_cons.mp member with rfl | later
      · exact absurd empty filled
      · exact ih room exchange later filled
    · rw [grown]
      have within : (selected ++ [item]).length ≤ size := by
        rw [List.length_append, List.length_singleton]
        omega
      have named : texts.casing.upper item.exchange = first :=
        of_decide_eq_true (List.mem_filter.mp here).2
      by_cases this_ : first = exchange
      · refine ⟨item, ?_, named.trans this_⟩
        exact (prefix_foldl_withFirstOf texts scope seed rows size rest within).1.subset
          (List.mem_append_right _ List.mem_cons_self)
      · refine ih ?_ exchange ((List.mem_cons.mp member).resolve_left (Ne.symm this_)) filled
        rw [List.length_append, List.length_singleton]
        have some_ : rows.filter (texts.casing.upper ·.exchange = first) ≠ [] :=
          List.ne_nil_of_mem here
        rw [List.filter_cons_of_pos (by simpa using some_), List.length_cons] at room
        omega

/-- As many listings are selected as the size allows. -/
theorem length_selectedListings (distinct : (rows.map (·.listing texts)).Nodup)
    (within : size ≤ rows.length) :
    (selectedListings texts scope seed rows size).length = size := by
  have nothing : ∀ item ∈ ([] : List MarketSymbol), item ∈ rows := by simp
  obtain ⟨listed, once⟩ := foldl_withFirstOf texts scope seed rows size scope.distinct
    nothing List.nodup_nil (by simp)
  have start : ([] : List MarketSymbol).length ≤ size := Nat.zero_le size
  have short := (prefix_foldl_withFirstOf texts scope seed rows size scope.exchanges start).2
  unfold selectedListings
  dsimp only
  generalize scope.exchanges.foldl (withFirstOf texts scope seed rows size) [] = selected
    at listed once short
  -- The rows are those that the exchanges add and the others.
  have parts : (rows.filter (·.listing texts ∈ selected.map (·.listing texts))).Perm selected := by
    refine (List.perm_ext_iff_of_nodup ((distinct.of_map _).filter _) once).mpr fun item => ?_
    rw [List.mem_filter, decide_eq_true_eq]
    constructor
    · rintro ⟨member, same⟩
      obtain ⟨other, among, agree⟩ := List.mem_map.mp same
      rwa [← List.inj_on_of_nodup_map distinct (listed other among) member agree]
    · intro among
      exact ⟨listed item among, List.mem_map_of_mem among⟩
  have total := List.length_eq_length_filter_add (l := rows)
    (fun item => decide (item.listing texts ∈ selected.map (·.listing texts)))
  rw [parts.length_eq] at total
  have others : rows.filter (fun item =>
      !decide (item.listing texts ∈ selected.map (·.listing texts))) =
        rows.filter (·.listing texts ∉ selected.map (·.listing texts)) :=
    List.filter_congr fun item _ => (decide_not).symm
  rw [others] at total
  rw [List.length_take, List.length_append, List.length_take, Py.length_sortedBy]
  omega

/-- What the exchanges add is selected. -/
theorem mem_selectedListings_of_first {item : MarketSymbol}
    (first : item ∈ scope.exchanges.foldl (withFirstOf texts scope seed rows size) []) :
    item ∈ selectedListings texts scope seed rows size := by
  have start : ([] : List MarketSymbol).length ≤ size := Nat.zero_le size
  have short := (prefix_foldl_withFirstOf texts scope seed rows size scope.exchanges start).2
  unfold selectedListings
  dsimp only
  rw [List.take_append, List.take_of_length_le short]
  exact List.mem_append_left _ first

end Fold

/-- An exchange has listings to select from exactly if an eligible candidate is listed there. -/
theorem filter_rows_ne_nil_iff {exchange : String} :
    (uniqueListings texts scope (unavoided texts candidates avoidSymbols)).filter
        (texts.casing.upper ·.exchange = exchange) ≠ [] ↔
      ∃ item ∈ eligibleCandidates texts candidates scope avoidSymbols,
        texts.casing.upper item.exchange = exchange := by
  constructor
  · intro some_
    obtain ⟨item, member⟩ := List.exists_mem_of_ne_nil _ some_
    obtain ⟨inside, here⟩ := List.mem_filter.mp member
    exact ⟨item, mem_eligible_of_mem_rows inside, of_decide_eq_true here⟩
  · rintro ⟨item, member, here⟩
    have listed : item.listing texts ∈
        (uniqueListings texts scope (unavoided texts candidates avoidSymbols)).map
          (·.listing texts) := by
      rw [map_listing_rows, Py.mem_fromkeys]
      exact List.mem_map_of_mem member
    obtain ⟨row, inside, same⟩ := List.mem_map.mp listed
    have exchange : texts.casing.upper row.exchange = texts.casing.upper item.exchange :=
      congrArg Prod.fst same
    exact List.ne_nil_of_mem (List.mem_filter.mpr ⟨inside, decide_eq_true (exchange.trans here)⟩)

/-- Wherever a candidate is eligible, a selection of eligible candidates is made. -/
theorem exists_selection (requestedSize : Nat) (seed source : String)
    (some_ : eligibleCandidates texts candidates scope avoidSymbols ≠ []) :
    ∃ selection items, selectBoundedUniverse texts candidates scope requestedSize seed source
        avoidSymbols = .ok selection ∧
      SelectsEligible texts candidates scope avoidSymbols requestedSize selection items := by
  have listings := @map_listing_rows texts candidates scope avoidSymbols
  have filled := @filter_rows_ne_nil_iff texts candidates scope avoidSymbols
  have inside := @mem_eligible_of_mem_rows texts candidates scope avoidSymbols
  have distinct := nodup_uniqueListings texts scope (unavoided texts candidates avoidSymbols)
  unfold selectBoundedUniverse
  dsimp only
  generalize uniqueListings texts scope (unavoided texts candidates avoidSymbols) = rows
    at listings filled inside distinct
  have count := congrArg List.length listings
  rw [List.length_map] at count
  have positive : 0 < rows.length := by
    rw [count, List.length_pos_iff]
    obtain ⟨item, member⟩ := List.exists_mem_of_ne_nil _ some_
    exact List.ne_nil_of_mem (Py.mem_fromkeys.mpr (List.mem_map_of_mem member))
  rw [if_neg (List.ne_nil_of_length_pos positive)]
  obtain ⟨listed, once, -⟩ := selectedListings_spec texts scope seed distinct
    (max 1 (min requestedSize rows.length))
  have long := length_selectedListings texts scope seed rows
    (max 1 (min requestedSize rows.length)) distinct (by omega)
  have kinds : ((selectedListings texts scope seed rows
      (max 1 (min requestedSize rows.length))).map (·.listing texts)).Nodup :=
    once.map_on fun one first other second same =>
      List.inj_on_of_nodup_map distinct (listed one first) (listed other second) same
  refine ⟨_, selectedListings texts scope seed rows (max 1 (min requestedSize rows.length)), rfl,
    rfl, fun item member => inside (listed item member), kinds, ?_, ?_, fun apart => ?_, ?_⟩
  · rw [long, ← count]
    omega
  · intro room exchange member
    have all : scope.exchanges.filter (fun exchange =>
        rows.filter (texts.casing.upper ·.exchange = exchange) ≠ []) =
          filledExchanges texts candidates scope avoidSymbols :=
      List.filter_congr fun exchange _ => decide_eq_decide.mpr filled
    -- Different exchanges have different listings, so there are no more of them than rows.
    have fewer : (filledExchanges texts candidates scope avoidSymbols).length ≤ rows.length := by
      rw [← List.length_map (fun row : MarketSymbol => texts.casing.upper row.exchange)]
      refine (List.subperm_of_subset (scope.distinct.filter _) fun name among => ?_).length_le
      obtain ⟨row, member⟩ := List.exists_mem_of_ne_nil _
        (filled.mpr (of_decide_eq_true (List.mem_filter.mp among).2))
      obtain ⟨there, here⟩ := List.mem_filter.mp member
      exact List.mem_map.mpr ⟨row, there, of_decide_eq_true here⟩
    obtain ⟨named, has⟩ := List.mem_filter.mp member
    have space : ([] : List MarketSymbol).length + (scope.exchanges.filter fun exchange =>
        rows.filter (texts.casing.upper ·.exchange = exchange) ≠ []).length ≤
          max 1 (min requestedSize rows.length) := by
      rw [all, List.length_nil]
      omega
    obtain ⟨item, first, here⟩ := exists_of_foldl_withFirstOf texts scope seed rows _ _ space
      exchange named (filled.mpr (of_decide_eq_true has))
    exact ⟨item, mem_selectedListings_of_first texts scope seed rows _ first, here⟩
  · refine once.map_on fun one first other second same => ?_
    exact List.inj_on_of_nodup_map distinct (listed one first) (listed other second)
      (apart one (inside (listed one first)) other (inside (listed other second)) same)
  · -- The label says that as many listings are selected as there are.
    have label : (if (selectedListings texts scope seed rows
        (max 1 (min requestedSize rows.length))).length = rows.length then CoverageMode.exhaustive
        else .boundedCrossExchangeSample) = .exhaustive ↔
          (selectedListings texts scope seed rows
            (max 1 (min requestedSize rows.length))).length = rows.length := by
      split
      · rename_i whole
        exact iff_of_true rfl whole
      · rename_i partly
        exact iff_of_false (by decide) partly
    rw [List.length_map, label]
    constructor
    · intro whole item member
      have every := (List.subperm_of_subset once listed).perm_of_length_le whole.ge
      rw [every.map _ |>.mem_iff, listings, Py.mem_fromkeys]
      exact List.mem_map_of_mem member
    · intro covered
      have more : (rows.map (·.listing texts)).length ≤ ((selectedListings texts scope seed rows
          (max 1 (min requestedSize rows.length))).map (·.listing texts)).length := by
        refine (List.subperm_of_subset distinct fun listing member => ?_).length_le
        rw [listings, Py.mem_fromkeys] at member
        obtain ⟨item, among, rfl⟩ := List.mem_map.mp member
        exact covered item among
      rw [List.length_map, List.length_map] at more
      omega

section Order

variable {rows others : List MarketSymbol}

/-- The first listing of an exchange does not depend on the order of the rows. -/
theorem withFirstOf_congr (same : rows.Perm others) (distinct : (rows.map (·.listing texts)).Nodup)
    (size : Nat) : withFirstOf texts scope seed rows size =
      withFirstOf texts scope seed others size := by
  funext selected exchange
  have firsts : (rows.filter (texts.casing.upper ·.exchange = exchange)).minOn?
      (selectionScore texts scope seed) =
        (others.filter (texts.casing.upper ·.exchange = exchange)).minOn?
          (selectionScore texts scope seed) := by
    refine Py.minOn?_eq_of_perm (same.filter _) fun one first other second agree => ?_
    obtain ⟨insideOne, hereOne⟩ := List.mem_filter.mp first
    obtain ⟨insideOther, hereOther⟩ := List.mem_filter.mp second
    -- Two rows of one exchange with the same score have the same symbol, so they are one row.
    have symbol : one.symbol = other.symbol := congrArg (fun score => (ofLex score).2) agree
    refine List.inj_on_of_nodup_map distinct insideOne insideOther ?_
    refine Prod.ext ?_ (congrArg texts.casing.upper symbol)
    exact (of_decide_eq_true hereOne).trans (of_decide_eq_true hereOther).symm
  unfold withFirstOf
  dsimp only
  rw [firsts]

/-- The selected symbols do not depend on the order of the rows. -/
theorem tickers_selectedListings_congr (same : rows.Perm others)
    (distinct : (rows.map (·.listing texts)).Nodup) (size : Nat) :
    (selectedListings texts scope seed rows size).map (·.ticker texts) =
      (selectedListings texts scope seed others size).map (·.ticker texts) := by
  unfold selectedListings
  dsimp only
  rw [withFirstOf_congr same distinct size]
  generalize scope.exchanges.foldl (withFirstOf texts scope seed others size) [] = selected
  -- The symbol of a row is a part of its score.
  have scored : ∀ items : List MarketSymbol, items.map (·.ticker texts) =
      (items.map (selectionScore texts scope seed)).map fun score =>
        texts.casing.upper (ofLex score).2 := by
    intro items
    rw [List.map_map]
    rfl
  rw [List.map_take, List.map_take, List.map_append, List.map_append, List.map_take, List.map_take,
    scored (Py.sortedBy _ _), scored (Py.sortedBy _ (others.filter _)),
    Py.map_key_sortedBy (same.filter _)]

end Order

/-- Two lists of the same candidates, no two of which are one listing, have the same rows. -/
theorem perm_rows {others : List MarketSymbol} (same : ∀ item, item ∈ candidates ↔ item ∈ others)
    (apart : ∀ one ∈ candidates, ∀ other ∈ candidates,
      one.listing texts = other.listing texts → one = other) :
    (uniqueListings texts scope (unavoided texts candidates avoidSymbols)).Perm
      (uniqueListings texts scope (unavoided texts others avoidSymbols)) := by
  -- A row of one list is its own row, since it is the only candidate with its listing.
  have rows : ∀ (list : List MarketSymbol), (∀ item ∈ list, item ∈ candidates) → ∀ item,
      item ∈ uniqueListings texts scope (unavoided texts list avoidSymbols) ↔
        item ∈ eligibleCandidates texts list scope avoidSymbols := by
    intro list inside item
    refine ⟨mem_eligible_of_mem_rows, fun member => ?_⟩
    have listed : item.listing texts ∈
        (uniqueListings texts scope (unavoided texts list avoidSymbols)).map
          (·.listing texts) := by
      rw [map_listing_rows, Py.mem_fromkeys]
      exact List.mem_map_of_mem member
    obtain ⟨row, among, agree⟩ := List.mem_map.mp listed
    have known := inside row (List.mem_filter.mp (mem_eligible_of_mem_rows among)).1
    rwa [← apart row known item (inside item (List.mem_filter.mp member).1) agree]
  have eligible : ∀ item, item ∈ eligibleCandidates texts candidates scope avoidSymbols ↔
      item ∈ eligibleCandidates texts others scope avoidSymbols := by
    intro item
    unfold eligibleCandidates Welcome
    simp only [List.mem_filter, same, decide_eq_true_eq]
  refine (List.perm_ext_iff_of_nodup (nodup_uniqueListings texts scope _).of_map
    (nodup_uniqueListings texts scope _).of_map).mpr fun item => ?_
  rw [rows candidates (fun _ member => member), rows others fun item => (same item).mpr, eligible]

/-- What is selected depends only on which candidates there are. -/
theorem selectBoundedUniverse_congr {others : List MarketSymbol}
    (same : ∀ item, item ∈ candidates ↔ item ∈ others)
    (apart : ∀ one ∈ candidates, ∀ other ∈ candidates,
      one.listing texts = other.listing texts → one = other) :
    selectBoundedUniverse texts candidates scope requestedSize seed source avoidSymbols =
      selectBoundedUniverse texts others scope requestedSize seed source avoidSymbols := by
  have perm := @perm_rows texts candidates scope avoidSymbols others same apart
  have distinct := nodup_uniqueListings texts scope (unavoided texts candidates avoidSymbols)
  unfold selectBoundedUniverse
  dsimp only
  generalize uniqueListings texts scope (unavoided texts candidates avoidSymbols) = rows
    at perm distinct
  generalize uniqueListings texts scope (unavoided texts others avoidSymbols) = more at perm
  have empty : rows = [] ↔ more = [] := by
    rw [← List.length_eq_zero_iff, ← List.length_eq_zero_iff, perm.length_eq]
  rw [perm.length_eq, tickers_selectedListings_congr perm distinct, if_congr empty rfl rfl]

/-- The hashes of eight listings under one seed. -/
def selectionDigests : List (String × String) :=
  [("seed15|US:NASDAQ|NASDAQ|aapl",
      "0b75d83b7234cdd934ec3f329509f1f7950da5a575e41c83613e62ec77440f9b"),
    ("seed15|US:NASDAQ|NASDAQ|AAPL",
      "d120c0b268c726c82476866b1134cd515f005d0a766d11a953d67bbea33395bf"),
    ("seed15|US:NASDAQ|NASDAQ|MSFT",
      "131bfe48e6a06f3392a3f4836dee76e5102cf9b9478b16b27dbc7a699318a838"),
    ("seed15|US:NASDAQ,NYSE|NASDAQ|AAPL",
      "16aec48a422040aa3e34eb9474595bb6b2943def5846e3e221bb753395cdc3f8"),
    ("seed15|US:NASDAQ,NYSE|NYSE|AAPL",
      "9317d06212c90e288afc110e991a14995caf7054836318ef7fcd12e111271e0a"),
    ("seed15|US:ALL|NASDAQ|AAPL",
      "6f8a4e07fb305a9927e3a7b515574cced1051687059a23c6618f90936bed2712"),
    ("seed15|US:ALL|NASDAQ|MSFT",
      "aeab32b4405a83c79b6efe825672e039b6012a13487ffdcc747ad08e19c917fc"),
    ("seed15|US:ALL|NYSE|IBM",
      "f79ba998dad938387208747961b98efbb44c1a1738e947392ed0b12d2c062efe")]

/-- Texts with the hashes of these listings. -/
def selectionTexts : MarketTexts :=
  ⟨asciiCasing, fun text => (selectionDigests.lookup text).getD ""⟩

/-- The exchanges of the examples are named in capitals. -/
theorem exchanges_isUpper :
    ∀ exchange ∈ ["NASDAQ", "NYSE"], ∀ c ∈ exchange.toList, c.isUpper := by
  simp

/-- So is the first of them alone. -/
theorem nasdaq_isUpper : ∀ exchange ∈ ["NASDAQ"], ∀ c ∈ exchange.toList, c.isUpper := by
  simp

/-- A scope of one exchange. -/
def nasdaqScope : MarketScope := ⟨"US", ["NASDAQ"], List.nodup_singleton _, nasdaq_isUpper⟩

/-- A scope of two exchanges. -/
def crossScope : MarketScope := ⟨"US", ["NASDAQ", "NYSE"], by decide, exchanges_isUpper⟩

/-- A scope of all exchanges. -/
def openScope : MarketScope := ⟨"US", [], by decide, by simp⟩

/-- Two symbols of one exchange. -/
def nasdaqPair : List MarketSymbol :=
  [⟨"AAPL", "NASDAQ", isSafeId_aapl⟩, ⟨"MSFT", "NASDAQ", isSafeId_msft⟩]

/-- The first symbol in small letters is an identifier. -/
theorem isSafeId_small : isSafeId "aapl" := by decide

end StrategyLab
