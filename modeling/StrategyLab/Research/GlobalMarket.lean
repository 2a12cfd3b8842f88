import Mathlib.Data.Prod.Lex
import Mathlib.Data.String.Basic
import StrategyLab.Lib.Dict
import StrategyLab.Lib.Sorted
import StrategyLab.Lib.Python

/-! Market symbols, market scopes and the bounded first selection from a market. -/

namespace StrategyLab

/-- A character that identifiers are written with after their first one. -/
def isIdChar (c : Char) : Bool := c.isAlphanum || c ∈ ['_', '.', ':', '-']

/-- The pattern of identifiers: two to 128 characters, the first one a letter or a digit. -/
def isSafeId (text : String) : Bool :=
  match text.toList with
  | [] => false
  | first :: rest =>
    first.isAlphanum && rest.all isIdChar && 1 ≤ rest.length && rest.length ≤ 127

/-- A symbol as a market lists it; it cannot be made without an identifier. -/
structure MarketSymbol where
  symbol : String
  exchange : String
  safe : isSafeId symbol
  deriving DecidableEq

/-- A part of the market as it is resolved from a request: exchanges in capitals, each once. -/
structure MarketScope where
  market : String
  exchanges : List String
  distinct : exchanges.Nodup
  capital : ∀ exchange ∈ exchanges, ∀ c ∈ exchange.toList, c.isUpper

/-- The text a scope is selected by. -/
def MarketScope.selector (scope : MarketScope) : String :=
  let listed := if scope.exchanges = [] then "ALL" else ",".intercalate scope.exchanges
  s!"{scope.market}:{listed}"

/-- How much of a market a selection covers. -/
inductive CoverageMode where
  | exhaustive
  | boundedCrossExchangeSample
  deriving DecidableEq, Repr

/-- The text a coverage is written as. -/
def CoverageMode.value : CoverageMode → String
  | .exhaustive => "exhaustive"
  | .boundedCrossExchangeSample => "bounded_cross_exchange_sample"

/-- The symbols that research on a market starts with. -/
structure MarketUniverseSelection where
  scope : MarketScope
  symbols : List String
  candidateCount : Nat
  selectedCount : Nat
  source : String
  coverageMode : CoverageMode
  seed : String

/-- What the texts of a market are read with: their capitals, and `sha256` of them. -/
structure MarketTexts where
  casing : Py.Casing
  sha256 : String → String

/-- The number of symbols that research starts with where nothing is configured. -/
def defaultResearchSampleSize : Nat := 5

/-- The most symbols that research starts with. -/
def maxResearchSampleSize : Nat := 20

/-- The configured number of symbols to start with, within its bounds. -/
def researchSampleSize (numerals : Py.Numerals) (environ : String → Option String) : Nat :=
  let value : Int :=
    match environ "GAON_GLOBAL_RESEARCH_MAX_SYMBOLS" with
    | some raw => (numerals.int (Py.strip raw)).getD defaultResearchSampleSize
    | none => defaultResearchSampleSize
  (max 1 (min (maxResearchSampleSize : Int) value)).toNat

section Selection

variable (texts : MarketTexts)

/-- A symbol in capitals, as it is researched. -/
def MarketSymbol.ticker (item : MarketSymbol) : String := texts.casing.upper item.symbol

/-- What makes two listings the same: exchange and symbol in capitals. -/
def MarketSymbol.listing (item : MarketSymbol) : String × String :=
  (texts.casing.upper item.exchange, item.ticker texts)

/-- Whether a listing belongs to a scope; a scope without exchanges takes all. -/
def MarketScope.Takes (scope : MarketScope) (item : MarketSymbol) : Prop :=
  scope.exchanges = [] ∨ texts.casing.upper item.exchange ∈ scope.exchanges

instance (scope : MarketScope) (item : MarketSymbol) : Decidable (scope.Takes texts item) :=
  inferInstanceAs (Decidable (_ ∨ _))

/-- The order in which the listings of a scope are selected. -/
def selectionScore (scope : MarketScope) (seed : String) (item : MarketSymbol) :
    String ×ₗ String :=
  toLex (texts.sha256 s!"{seed}|{scope.selector}|{item.exchange}|{item.symbol}", item.symbol)

/-- The candidates that are not to be avoided, or all of them if none is left. -/
def unavoided (candidates : List MarketSymbol) (avoidSymbols : List String) : List MarketSymbol :=
  let avoid := avoidSymbols.map texts.casing.upper
  let filtered := candidates.filter (·.ticker texts ∉ avoid)
  if filtered = [] then candidates else filtered

/-- The listings of a scope, one of each kind. -/
def uniqueListings (scope : MarketScope) (candidates : List MarketSymbol) : List MarketSymbol :=
  (Table.ofRows (candidates.filter (scope.Takes texts ·)) :
    Table (MarketSymbol.listing texts)).rows

/-- Add the listing of an exchange that comes first, as long as there is room. -/
def withFirstOf (scope : MarketScope) (seed : String) (rows : List MarketSymbol) (size : Nat)
    (selected : List MarketSymbol) (exchange : String) : List MarketSymbol :=
  let group := rows.filter (texts.casing.upper ·.exchange = exchange)
  match group.minOn? (selectionScore texts scope seed) with
  | some item => if selected.length < size then selected ++ [item] else selected
  | none => selected

/-- Listings are told apart by equality. -/
theorem lawful_listings : LawfulBEq (String × String) := inferInstance

attribute [local instance] lawful_listings

/-- The listings that research starts with: one of each exchange, then the others in order. -/
def selectedListings (scope : MarketScope) (seed : String) (rows : List MarketSymbol)
    (size : Nat) : List MarketSymbol :=
  let selected := scope.exchanges.foldl (withFirstOf texts scope seed rows size) []
  let used := selected.map (·.listing texts)
  let others := rows.filter (·.listing texts ∉ used)
  (selected ++ (Py.sortedBy (selectionScore texts scope seed) others).take
    (size - selected.length)).take size

/-- Select the symbols that research starts with. -/
def selectBoundedUniverse (candidates : List MarketSymbol) (scope : MarketScope)
    (requestedSize : Nat) (seed source : String) (avoidSymbols : List String) :
    Except String MarketUniverseSelection :=
  let rows := uniqueListings texts scope (unavoided texts candidates avoidSymbols)
  if rows = [] then
    .error "real_data_unavailable: market universe contains no eligible stock symbols"
  else
    let size := max 1 (min requestedSize rows.length)
    let symbols := (selectedListings texts scope seed rows size).map (·.ticker texts)
    .ok
      { scope, symbols
        candidateCount := rows.length
        selectedCount := symbols.length
        source
        coverageMode :=
          if symbols.length = rows.length then .exhaustive else .boundedCrossExchangeSample
        seed }

/-- Symbols without surrounding spaces, in capitals, each once and none empty. -/
def normalizeSymbols (symbols : List String) : List String :=
  Py.fromkeys ((symbols.map fun symbol => texts.casing.upper (Py.strip symbol)).filter (· ≠ ""))

/-- Letters and digits, and what may stand between them, are no spaces, also in capitals. -/
theorem toUpper_not_space {c : Char} (valid : isIdChar c) :
    c.toNat < 128 ∧ ¬Py.isSpace c.toUpper := by
  have small : c.toNat < 128 := by
    by_contra large
    -- From 128 on no character is a letter, a digit or one of the four marks.
    have code : c.val.toNat = c.toNat := rfl
    have letters : c.isAlpha = (decide (c.val ≥ 'A'.val ∧ c.val ≤ 'Z'.val) ||
        (decide (c.val ≥ 'a'.val) && decide (c.val ≤ 'z'.val))) := rfl
    simp [isIdChar, Char.isAlphanum, letters, Char.isDigit, UInt32.le_iff_toNat_le, code] at valid
    rcases valid with (letter | digit) | rfl | rfl | rfl | rfl
    · omega
    · omega
    all_goals exact large (by decide)
  have checked : ∀ n < 128, isIdChar (Char.ofNat n) → ¬Py.isSpace (Char.ofNat n).toUpper := by
    decide
  refine ⟨small, ?_⟩
  have here := checked c.toNat small
  rw [Char.ofNat_toNat] at here
  exact here valid

/-- A capital letter stays what it is in capitals. -/
theorem toUpper_of_isUpper {c : Char} (capital : c.isUpper) :
    c.toNat < 128 ∧ c.toUpper = c := by
  have small : c.toNat < 128 := by
    have code : c.val.toNat = c.toNat := rfl
    have letters : c.isUpper = decide (c.val ≥ 'A'.val ∧ c.val ≤ 'Z'.val) := rfl
    simp [letters, UInt32.le_iff_toNat_le, code] at capital
    omega
  have checked : ∀ n < 128, (Char.ofNat n).isUpper → (Char.ofNat n).toUpper = Char.ofNat n := by
    decide
  have here := checked c.toNat small
  rw [Char.ofNat_toNat] at here
  exact ⟨small, here capital⟩

/-- Every character of an identifier may stand in one. -/
theorem isIdChar_of_mem {text : String} (safe : isSafeId text) {c : Char}
    (member : c ∈ text.toList) : isIdChar c := by
  rw [isSafeId] at safe
  cases chars : text.toList with
  | nil => simp [chars] at member
  | cons first rest =>
    simp only [chars, Bool.and_eq_true, List.all_eq_true] at safe
    obtain ⟨⟨⟨start, rest⟩, -⟩, -⟩ := safe
    rw [chars] at member
    rcases List.mem_cons.mp member with rfl | later
    · rw [isIdChar, start, Bool.true_or]
    · exact rest c later

/-- An identifier is not empty. -/
theorem toList_ne_nil_of_safe {text : String} (safe : isSafeId text) : text.toList ≠ [] := by
  intro empty
  simp [isSafeId, empty] at safe

namespace MarketSymbol

variable (item : MarketSymbol)

/-- A symbol is put in capitals letter by letter. -/
theorem ticker_eq : item.ticker texts = .ofList (item.symbol.toList.map Char.toUpper) := by
  refine texts.casing.upper_ascii item.symbol ?_
  intro c member
  exact (toUpper_not_space (isIdChar_of_mem item.safe member)).1

@[simp] theorem upper_ticker : texts.casing.upper (item.ticker texts) = item.ticker texts :=
  texts.casing.upper_upper item.symbol

@[simp] theorem strip_ticker : Py.strip (item.ticker texts) = item.ticker texts := by
  refine Py.strip_eq_self ?_
  intro c member
  rw [ticker_eq, String.toList_ofList, List.mem_map] at member
  obtain ⟨letter, inside, rfl⟩ := member
  exact (toUpper_not_space (isIdChar_of_mem item.safe inside)).2

theorem ticker_ne_empty : item.ticker texts ≠ "" := by
  intro empty
  have chars : (item.ticker texts).toList = [] := by rw [empty]; rfl
  rw [ticker_eq, String.toList_ofList, List.map_eq_nil_iff] at chars
  exact toList_ne_nil_of_safe item.safe chars

end MarketSymbol

/-- Normalising the symbols of listings only leaves out repetitions. -/
theorem normalizeSymbols_tickers (items : List MarketSymbol) :
    normalizeSymbols texts (items.map (·.ticker texts)) =
      Py.fromkeys (items.map (·.ticker texts)) := by
  have same : (items.map (·.ticker texts)).map
      (fun symbol => texts.casing.upper (Py.strip symbol)) = items.map (·.ticker texts) := by
    rw [List.map_map]
    refine List.map_congr_left ?_
    intro item _
    simp
  rw [normalizeSymbols, same, List.filter_eq_self.mpr]
  intro symbol member
  obtain ⟨item, -, rfl⟩ := List.mem_map.mp member
  simpa using item.ticker_ne_empty texts

/-- The exchanges of a scope are in capitals already. -/
theorem MarketScope.upper_exchange (scope : MarketScope) {exchange : String}
    (member : exchange ∈ scope.exchanges) : texts.casing.upper exchange = exchange := by
  have capital := scope.capital exchange member
  have small : ∀ c ∈ exchange.toList, c.toNat < 128 := by
    intro c inside
    exact (toUpper_of_isUpper (capital c inside)).1
  have kept : exchange.toList.map Char.toUpper = exchange.toList := by
    have letters : exchange.toList.map Char.toUpper = exchange.toList.map id := by
      refine List.map_congr_left ?_
      intro c inside
      exact (toUpper_of_isUpper (capital c inside)).2
    rw [letters, List.map_id]
  rw [texts.casing.upper_ascii exchange small, kept, String.ofList_toList]

/-- No two of the unique listings are the same. -/
theorem nodup_uniqueListings (scope : MarketScope) (candidates : List MarketSymbol) :
    ((uniqueListings texts scope candidates).map (·.listing texts)).Nodup :=
  (Table.ofRows (candidates.filter (scope.Takes texts ·)) :
    Table (MarketSymbol.listing texts)).distinct

/-- The unique listings of a scope stand for the candidates that it takes. -/
theorem map_listing_uniqueListings (scope : MarketScope) (candidates : List MarketSymbol) :
    (uniqueListings texts scope candidates).map (·.listing texts) =
      Py.fromkeys ((candidates.filter (scope.Takes texts ·)).map (·.listing texts)) :=
  Table.keyList_ofRows _

/-- There are no more unique listings than candidates. -/
theorem length_uniqueListings_le (scope : MarketScope) (candidates : List MarketSymbol) :
    (uniqueListings texts scope candidates).length ≤ candidates.length := by
  have fewer : ((uniqueListings texts scope candidates).map (·.listing texts)).length ≤
      ((candidates.filter (scope.Takes texts ·)).map (·.listing texts)).length := by
    refine (List.subperm_of_subset (nodup_uniqueListings texts scope candidates) ?_).length_le
    intro listing member
    rwa [map_listing_uniqueListings, Py.mem_fromkeys] at member
  rw [List.length_map, List.length_map] at fewer
  exact fewer.trans (List.length_filter_le _ _)

/-- Leaving out candidates leaves no more of them. -/
theorem length_unavoided_le (candidates : List MarketSymbol) (avoidSymbols : List String) :
    (unavoided texts candidates avoidSymbols).length ≤ candidates.length := by
  rw [unavoided]
  split
  · exact le_rfl
  · exact List.length_filter_le _ _

/-- The exchanges add listings one by one, and none of them twice. -/
theorem foldl_withFirstOf (scope : MarketScope) (seed : String) (rows : List MarketSymbol)
    (size : Nat) {exchanges : List String} (distinct : exchanges.Nodup)
    {selected : List MarketSymbol} (listed : ∀ item ∈ selected, item ∈ rows)
    (once : selected.Nodup)
    (done : ∀ item ∈ selected, texts.casing.upper item.exchange ∉ exchanges) :
    (∀ item ∈ exchanges.foldl (withFirstOf texts scope seed rows size) selected, item ∈ rows) ∧
      (exchanges.foldl (withFirstOf texts scope seed rows size) selected).Nodup := by
  induction exchanges generalizing selected with
  | nil => exact ⟨listed, once⟩
  | cons exchange exchanges ih =>
    obtain ⟨fresh, distinct⟩ := List.nodup_cons.mp distinct
    have earlier : ∀ item ∈ selected, texts.casing.upper item.exchange ∉ exchanges := by
      intro item member later
      exact done item member (List.mem_cons_of_mem exchange later)
    rw [List.foldl_cons, withFirstOf]
    split
    · rename_i item found
      obtain ⟨inside, here⟩ := List.mem_filter.mp (List.minOn?_mem found)
      have here : texts.casing.upper item.exchange = exchange := by simpa using here
      split
      · -- The listing is the first one of its exchange.
        have new : item ∉ selected := by
          intro member
          exact done item member (here ▸ List.mem_cons_self)
        refine ih distinct ?_ ?_ ?_
        · intro other member
          rcases List.mem_append.mp member with before | single
          · exact listed other before
          · exact List.mem_singleton.mp single ▸ inside
        · refine List.nodup_append.mpr ⟨once, List.nodup_singleton item, ?_⟩
          intro other member last single same
          exact new (List.mem_singleton.mp single ▸ same ▸ member)
        · intro other member
          rcases List.mem_append.mp member with before | single
          · exact earlier other before
          · rw [List.mem_singleton.mp single, here]
            exact fresh
      · exact ih distinct listed once earlier
    · exact ih distinct listed once earlier

/-- The selected listings are listings of the market, and none is selected twice. -/
theorem selectedListings_spec (scope : MarketScope) (seed : String) {rows : List MarketSymbol}
    (distinct : (rows.map (·.listing texts)).Nodup) (size : Nat) :
    (∀ item ∈ selectedListings texts scope seed rows size, item ∈ rows) ∧
      (selectedListings texts scope seed rows size).Nodup ∧
      (selectedListings texts scope seed rows size).length ≤ size := by
  have nothing : ∀ item ∈ ([] : List MarketSymbol), item ∈ rows := by simp
  obtain ⟨listed, once⟩ := foldl_withFirstOf texts scope seed rows size scope.distinct
    nothing List.nodup_nil (by simp)
  rw [selectedListings]
  refine ⟨?_, ?_, List.length_take_le _ _⟩
  · intro item member
    rcases List.mem_append.mp (List.mem_of_mem_take member) with first | other
    · exact listed item first
    · have member := (Py.mem_sortedBy _).mp (List.mem_of_mem_take other)
      exact (List.mem_filter.mp member).1
  · refine (List.nodup_append.mpr ⟨once, ?_, ?_⟩).sublist (List.take_sublist _ _)
    · refine List.Nodup.sublist (List.take_sublist _ _) ?_
      exact (Py.sortedBy_perm _ _).nodup_iff.mpr ((distinct.of_map _).filter _)
    · -- The others are no listings that the exchanges have added.
      intro item first other later same
      have member := (Py.mem_sortedBy _).mp (List.mem_of_mem_take later)
      have apart := (List.mem_filter.mp member).2
      simp only [decide_eq_true_eq] at apart
      exact apart (List.mem_map_of_mem (same ▸ first))

variable {candidates : List MarketSymbol} {avoidSymbols : List String}

/-- A candidate of a scope that is not avoided is among the unique listings of what is left. -/
theorem exists_listing_of_unavoided {scope : MarketScope}
    {item : MarketSymbol} (member : item ∈ candidates)
    (takes : scope.Takes texts item)
    (welcome : item.ticker texts ∉ avoidSymbols.map texts.casing.upper) :
    ∃ row ∈ uniqueListings texts scope (unavoided texts candidates avoidSymbols),
      row.ticker texts = item.ticker texts := by
  have kept : item ∈ unavoided texts candidates avoidSymbols := by
    rw [unavoided]
    split
    · exact member
    · exact List.mem_filter.mpr ⟨member, decide_eq_true welcome⟩
  have listed : item.listing texts ∈
      (uniqueListings texts scope (unavoided texts candidates avoidSymbols)).map
        (·.listing texts) := by
    rw [map_listing_uniqueListings, Py.mem_fromkeys]
    exact List.mem_map_of_mem (List.mem_filter.mpr ⟨kept, decide_eq_true takes⟩)
  obtain ⟨row, inside, same⟩ := List.mem_map.mp listed
  exact ⟨row, inside, congrArg Prod.snd same⟩

/-- A selection has symbols of the candidates, within its bounds; if it is exhaustive, then it
misses no symbol of its scope but the avoided ones. -/
theorem selectBoundedUniverse_spec {scope : MarketScope}
    {requestedSize : Nat} {seed source : String}
    {selection : MarketUniverseSelection}
    (selected : selectBoundedUniverse texts candidates scope requestedSize seed source
      avoidSymbols = .ok selection) :
    ∃ items : List MarketSymbol, selection.symbols = items.map (·.ticker texts) ∧
      items.length ≤ max 1 requestedSize ∧ items.length ≤ candidates.length ∧
      (selection.coverageMode = .exhaustive → ∀ item ∈ candidates, scope.Takes texts item →
        item.ticker texts ∈ avoidSymbols.map texts.casing.upper ∨
          item.ticker texts ∈ selection.symbols) := by
  have kept := length_unavoided_le texts candidates avoidSymbols
  have fewer := length_uniqueListings_le texts scope (unavoided texts candidates avoidSymbols)
  have distinct := nodup_uniqueListings texts scope
    (unavoided texts candidates avoidSymbols)
  rw [selectBoundedUniverse] at selected
  generalize rowsAre : uniqueListings texts scope (unavoided texts candidates avoidSymbols) = rows
    at selected fewer distinct
  split at selected
  · cases selected
  · rename_i filled
    have some := List.length_pos_of_ne_nil filled
    cases selected
    obtain ⟨listed, once, short⟩ := selectedListings_spec texts scope seed distinct
      (max 1 (min requestedSize rows.length))
    refine ⟨_, rfl, by omega, by omega, ?_⟩
    intro exhaustive item member takes
    by_cases avoided : item.ticker texts ∈ avoidSymbols.map texts.casing.upper
    · exact .inl avoided
    · -- As many listings are selected as there are, so every one is.
      right
      have complete : (selectedListings texts scope seed rows
          (max 1 (min requestedSize rows.length))).length = rows.length := by
        by_contra partly
        simp [partly] at exhaustive
      have all := (List.subperm_of_subset once listed).perm_of_length_le complete.ge
      obtain ⟨row, inside, same⟩ := exists_listing_of_unavoided texts member takes avoided
      rw [rowsAre] at inside
      exact List.mem_map.mpr ⟨row, all.mem_iff.mpr inside, same⟩

end Selection

end StrategyLab
