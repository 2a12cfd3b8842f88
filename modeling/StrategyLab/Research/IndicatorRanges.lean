import StrategyLab.Research.TechnicalIndicators

/-! Ranges of technical indicators: what the figures of valid bars are bounded by. -/

namespace StrategyLab.TechnicalIndicators

open Average (smoothed)

variable {K : Type} [Field K] [LinearOrder K]

/-- A figure is between the smallest low and the largest high of some bars. -/
def InRange (used : List (OhlcvRow K)) (value : K) : Prop :=
  ∃ lowest ∈ used, ∃ highest ∈ used, (∀ bar ∈ used, lowest.low ≤ bar.low) ∧
    (∀ bar ∈ used, bar.high ≤ highest.high) ∧ lowest.low ≤ value ∧ value ≤ highest.high

/-- The bars that a period takes; without one it takes all. -/
def usedBars (rows : List (OhlcvRow K)) : Option Int → List (OhlcvRow K)
  | none => rows
  | some period => Py.lastSlice period rows

/-- The bins lie next to each other from the least close to the greatest and hold all volume. -/
structure ProfileFits (close volume : List K) (profile : Profile K) : Prop where
  contiguous : ∀ (i : Nat) (level next : Level K), profile.bins[i]? = some level →
    profile.bins[i + 1]? = some next → level.high = next.low
  covers : ∃ first last, profile.bins.head? = some first ∧ profile.bins.getLast? = some last ∧
    first.low ∈ close ∧ last.high ∈ close ∧
    ∀ price ∈ close, first.low ≤ price ∧ price ≤ last.high
  total : (profile.bins.map (·.volume)).sum = volume.sum

/-- The figures of some bars are in their ranges, whatever the period. -/
structure IndicatorRanges [FloorRing K] (sqrt : K → K) (rows : List (OhlcvRow K)) : Prop where
  rsi : ∀ period value, rsi (rows.map (·.close)) period = .ok (some value) →
    value ∈ Set.Icc 0 100
  stochastic : ∀ period value, stochastic (rows.map (·.high)) (rows.map (·.low))
    (rows.map (·.close)) period = .ok (some value) → value ∈ Set.Icc 0 100
  adx : ∀ period value, adx (rows.map (·.high)) (rows.map (·.low)) (rows.map (·.close)) period =
    .ok (some value) → value ∈ Set.Icc 0 100
  sma : ∀ period value, sma (rows.map (·.close)) period = .ok (some value) →
    InRange (Py.lastSlice period rows) value
  ema : ∀ period value, ema (rows.map (·.close)) period = .ok (some value) → InRange rows value
  vwap : ∀ period value, vwap (rows.map (·.high)) (rows.map (·.low)) (rows.map (·.close))
    (rows.map (·.volume)) period = .ok (some value) → InRange (usedBars rows period) value
  bollinger : ∀ period deviations bands, bollinger sqrt (rows.map (·.close)) period deviations =
    .ok (some bands) → InRange (Py.lastSlice period rows) bands.middle ∧
      bands.lower ≤ bands.middle ∧ bands.middle ≤ bands.upper
  atr : ∀ period value, atr (rows.map (·.high)) (rows.map (·.low)) (rows.map (·.close)) period =
    .ok (some value) → 0 ≤ value ∧
      ∃ largest ∈ trueRanges (rows.map (·.high)) (rows.map (·.low)) (rows.map (·.close)),
        (∀ range ∈ trueRanges (rows.map (·.high)) (rows.map (·.low)) (rows.map (·.close)),
          range ≤ largest) ∧ value ≤ largest
  volumeProfile : ∀ count bins profile, volumeProfile (Py.lastSlice count (rows.map (·.close)))
    (Py.lastSlice count (rows.map (·.volume))) bins = .ok (some profile) →
      ProfileFits (Py.lastSlice count (rows.map (·.close)))
        (Py.lastSlice count (rows.map (·.volume))) profile

section Slices

variable {α β : Type*} {items : List α} {period : Int}

/-- The last of some figures are those of the last items. -/
theorem lastSlice_map (figure : α → β) :
    Py.lastSlice period (items.map figure) = (Py.lastSlice period items).map figure := by
  unfold Py.lastSlice
  split
  · rw [List.length_map, List.map_drop]
  · rw [List.map_drop]

/-- The last items are some of the items. -/
theorem mem_of_mem_lastSlice {item : α} (member : item ∈ Py.lastSlice period items) :
    item ∈ items := by
  unfold Py.lastSlice at member
  split at member
  · exact List.mem_of_mem_drop member
  · exact List.mem_of_mem_drop member

/-- There are as many of them as are asked for. -/
theorem length_lastSlice (positive : 1 ≤ period) (enough : period ≤ items.length) :
    ((Py.lastSlice period items).length : Int) = period := by
  unfold Py.lastSlice
  rw [if_pos (by omega), List.length_drop]
  omega

/-- The last item is one of them. -/
theorem getLast_mem_lastSlice {last : α} (positive : 1 ≤ period)
    (isLast : items.getLast? = some last) : last ∈ Py.lastSlice period items := by
  obtain ⟨front, rfl⟩ := List.getLast?_eq_some_iff.mp isLast
  unfold Py.lastSlice
  rw [if_pos (by omega), List.length_append, List.length_singleton,
    List.drop_append_of_le_length (by omega)]
  simp

end Slices

/-- A valid bar has its close between its low and its high. -/
structure ValidRow (row : OhlcvRow K) : Prop where
  low : row.low ≤ row.close
  high : row.close ≤ row.high
  volume : 0 ≤ row.volume

omit [Field K] in
/-- What is between all bounds of some bars is in their range. -/
theorem inRange_of_bounds {used : List (OhlcvRow K)} {value : K} (some_ : used ≠ [])
    (bounded : ∀ a b, (∀ bar ∈ used, a ≤ bar.low) → (∀ bar ∈ used, bar.high ≤ b) →
      value ∈ Set.Icc a b) : InRange used value := by
  obtain ⟨lowest, member, low⟩ := Average.exists_least OhlcvRow.low some_
  obtain ⟨highest, member', high⟩ := Average.exists_greatest OhlcvRow.high some_
  obtain ⟨above, below⟩ := bounded lowest.low highest.high low high
  exact ⟨lowest, member, highest, member', low, high, above, below⟩

/-- A period that is accepted has a bar. -/
theorem requirePeriod_eq_ok {period : Int} {done : Unit} :
    requirePeriod period = .ok done ↔ 1 ≤ period := by
  rw [requirePeriod, Raise.ensure_eq_ok, decide_eq_true_eq]

/-- What is computed after the check of a length is computed for a positive one. -/
theorem of_requirePeriod {α : Type} {period : Int} {rest : α} {result : α}
    (computed : (do requirePeriod period; pure rest : Except String α) = .ok result) :
    1 ≤ period ∧ rest = result := by
  obtain ⟨_, checked, computed⟩ := Raise.bind_eq_ok.mp computed
  exact ⟨requirePeriod_eq_ok.mp checked, Raise.pure_eq_ok.mp computed⟩

omit [LinearOrder K] in
/-- There is one change less than there are values. -/
theorem length_changes (values : List K) : (changes values).length = values.length - 1 := by
  rw [changes, List.length_zipWith, List.length_tail]
  omega

section Closes

variable {rows used : List (OhlcvRow K)} {period : Int} {value : K}

/-- Valid closes are between the bounds of their bars. -/
theorem closes_mem (valid : ∀ row ∈ used, ValidRow row) {a b : K}
    (low : ∀ bar ∈ used, a ≤ bar.low) (high : ∀ bar ∈ used, bar.high ≤ b) :
    ∀ close ∈ used.map (·.close), close ∈ Set.Icc a b := by
  intro close member
  obtain ⟨row, there, rfl⟩ := List.mem_map.mp member
  have fits := valid row there
  exact ⟨(low row there).trans fits.low, fits.high.trans (high row there)⟩

variable [IsStrictOrderedRing K]

/-- The mean of the last closes is in the range of their bars. -/
theorem mean_inRange (valid : ∀ row ∈ rows, ValidRow row) (positive : 1 ≤ period)
    (enough : period ≤ rows.length) : InRange (Py.lastSlice period rows)
      ((Py.lastSlice period (rows.map (·.close))).sum / period) := by
  have length := length_lastSlice positive enough
  have filled : Py.lastSlice period rows ≠ [] := by
    rw [← List.length_pos_iff]
    omega
  have count : (period : K) = ((Py.lastSlice period (rows.map (·.close))).length : K) := by
    rw [lastSlice_map, List.length_map, ← Int.cast_natCast, length]
  rw [count, lastSlice_map]
  apply inRange_of_bounds filled
  intro a b low high
  apply Average.mean_mem
  · simpa using filled
  · exact closes_mem (fun row member => valid row (mem_of_mem_lastSlice member)) low high

/-- The simple average is in the range of the bars that it takes. -/
theorem sma_inRange (valid : ∀ row ∈ rows, ValidRow row)
    (computed : sma (rows.map (·.close)) period = .ok (some value)) :
    InRange (Py.lastSlice period rows) value := by
  unfold sma at computed
  obtain ⟨positive, result⟩ := of_requirePeriod computed
  split at result
  · rename_i enough
    rw [List.length_map] at enough
    rw [← Option.some.inj result]
    exact mean_inRange valid positive enough
  · cases result

/-- The exponential average is in the range of all bars. -/
theorem ema_inRange (valid : ∀ row ∈ rows, ValidRow row)
    (computed : ema (rows.map (·.close)) period = .ok (some value)) : InRange rows value := by
  unfold ema at computed
  obtain ⟨positive, result⟩ := of_requirePeriod computed
  split at result
  · cases result
  · rename_i enough
    rw [← Option.some.inj result]
    rw [List.length_map] at enough
    have filled : rows ≠ [] := by
      rw [← List.length_pos_iff]
      omega
    have many : (1 : K) ≤ period := by exact_mod_cast positive
    apply inRange_of_bounds filled
    intro a b low high
    have closes := closes_mem valid low high
    apply Average.foldl_mem
    · have length : (((rows.map (·.close)).take period.toNat).length : Int) = period := by
        rw [List.length_take, List.length_map]
        omega
      have count : (period : K) = (((rows.map (·.close)).take period.toNat).length : K) := by
        rw [← Int.cast_natCast, length]
      rw [count]
      apply Average.mean_mem
      · rw [← List.length_pos_iff]
        omega
      · exact fun close member => closes close (List.mem_of_mem_take member)
    · intro average inside close member
      apply Average.towards_mem _ _ inside (closes close (List.mem_of_mem_drop member))
      · exact div_nonneg zero_le_two (by linarith)
      · rw [div_le_one₀ (by linarith)]
        linarith

end Closes

section Percentages

variable [IsStrictOrderedRing K] {rows : List (OhlcvRow K)} {period : Int} {value : K}

/-- The part of gains in gains and losses is a percentage. -/
theorem rsi_mem {close : List K} (computed : rsi close period = .ok (some value)) :
    value ∈ Set.Icc 0 100 := by
  unfold rsi at computed
  obtain ⟨positive, result⟩ := of_requirePeriod computed
  split at result
  · cases result
  · rename_i enough
    have gains : 0 ≤ smoothed period.toNat ((changes close).map fun change => max change 0) := by
      apply Average.smoothed_nonneg (by omega)
      · rw [List.length_map, length_changes]
        omega
      · simp
    have losses :
        0 ≤ smoothed period.toNat ((changes close).map fun change => max (-change) 0) := by
      apply Average.smoothed_nonneg (by omega)
      · rw [List.length_map, length_changes]
        omega
      · simp
    split at result
    · rw [← Option.some.inj result]
      split
      · constructor <;> norm_num
      · constructor <;> norm_num
    · rename_i some_
      rw [← Option.some.inj result]
      have ratio := div_nonneg gains losses
      constructor
      · have part := div_le_self (show (0 : K) ≤ 100 by norm_num)
          (le_add_of_nonneg_right ratio)
        linarith
      · have part := div_nonneg (show (0 : K) ≤ 100 by norm_num) (add_nonneg zero_le_one ratio)
        linarith

/-- The last close lies between the extremes of the last bars. -/
theorem stochastic_mem (valid : ∀ row ∈ rows, ValidRow row)
    (computed : stochastic (rows.map (·.high)) (rows.map (·.low)) (rows.map (·.close)) period =
      .ok (some value)) : value ∈ Set.Icc 0 100 := by
  unfold stochastic at computed
  obtain ⟨_, -, computed⟩ := Raise.bind_eq_ok.mp computed
  obtain ⟨positive, result⟩ := of_requirePeriod computed
  split at result
  · cases result
  · split at result
    · rename_i top bottom last isTop isBottom isLast
      rw [← Option.some.inj result]
      split
      · constructor <;> norm_num
      · rename_i apart
        rw [lastSlice_map] at isTop isBottom
        obtain ⟨row, isRow, rfl⟩ : ∃ row, rows.getLast? = some row ∧ row.close = last := by
          rwa [List.getLast?_map, Option.map_eq_some_iff] at isLast
        have used := getLast_mem_lastSlice positive isRow
        have fits := valid row (mem_of_mem_lastSlice used)
        have below := (List.max?_eq_some_iff.mp isTop).2 row.high (List.mem_map_of_mem used)
        have above := (List.min?_eq_some_iff.mp isBottom).2 row.low (List.mem_map_of_mem used)
        have wide : 0 < top - bottom := by
          have ordered : bottom ≤ top :=
            above.trans ((fits.low.trans fits.high).trans below)
          exact sub_pos.mpr (lt_of_le_of_ne ordered (Ne.symm apart))
        have low := fits.low
        have high := fits.high
        constructor
        · apply div_nonneg _ wide.le
          linarith
        · rw [div_le_iff₀ wide]
          linarith
    · cases result

/-- The difference of two movements is at most their sum. -/
theorem directionalIndex_mem {plus minus : K} (up : 0 ≤ plus) (down : 0 ≤ minus) :
    directionalIndex plus minus ∈ Set.Icc 0 100 := by
  unfold directionalIndex
  split
  · constructor <;> norm_num
  · rename_i some_
    have positive : 0 < plus + minus := lt_of_le_of_ne (add_nonneg up down) (Ne.symm some_)
    have most : |plus - minus| ≤ plus + minus := abs_le.mpr ⟨by linarith, by linarith⟩
    constructor
    · exact div_nonneg (mul_nonneg (by norm_num) (abs_nonneg _)) positive.le
    · rw [div_le_iff₀ positive]
      linarith

/-- Every index is a percentage, and there is one more than there are further movements. -/
theorem directionalIndices_mem {count : Nat} (positive : 0 < count) {plus minus : K}
    {rest : List (K × K)} (up : 0 ≤ plus) (down : 0 ≤ minus)
    (all : ∀ movement ∈ rest, 0 ≤ movement.1 ∧ 0 ≤ movement.2) :
    (directionalIndices count plus minus rest).length = rest.length + 1 ∧
      ∀ index ∈ directionalIndices count plus minus rest, index ∈ Set.Icc 0 100 := by
  have many : (1 : K) ≤ count := by exact_mod_cast positive
  induction rest generalizing plus minus with
  | nil =>
    refine ⟨rfl, fun index member => ?_⟩
    rw [List.mem_singleton.mp member]
    exact directionalIndex_mem up down
  | cons movement rest ih =>
    obtain ⟨further, further'⟩ := all movement List.mem_cons_self
    -- At most all of the smoothed movement is taken away.
    have keptUp := div_le_self up many
    have keptDown := div_le_self down many
    obtain ⟨length, inside⟩ := @ih (plus - plus / count + movement.1)
      (minus - minus / count + movement.2) (by linarith) (by linarith)
      fun other member => all other (List.mem_cons_of_mem _ member)
    refine ⟨by rw [directionalIndices, List.length_cons, length, List.length_cons], ?_⟩
    intro index member
    rcases List.mem_cons.mp member with rfl | later
    · exact directionalIndex_mem up down
    · exact inside index later

omit [IsStrictOrderedRing K] in
/-- No movement is negative. -/
theorem movements_nonneg {high low : List K} :
    ∀ movement ∈ movements high low, 0 ≤ movement.1 ∧ 0 ≤ movement.2 := by
  intro movement member
  obtain ⟨pair, -, rfl⟩ := List.mem_map.mp (by rwa [movements, ← List.map_uncurry_zip_eq_zipWith]
    at member)
  constructor
  · dsimp only [Function.uncurry]
    split
    · rename_i further
      exact further.2.le
    · exact le_rfl
  · dsimp only [Function.uncurry]
    split
    · rename_i further
      exact further.2.le
    · exact le_rfl

/-- The smoothed index is a percentage. -/
theorem adx_mem (computed : adx (rows.map (·.high)) (rows.map (·.low)) (rows.map (·.close)) period =
      .ok (some value)) : value ∈ Set.Icc 0 100 := by
  unfold adx at computed
  obtain ⟨_, -, computed⟩ := Raise.bind_eq_ok.mp computed
  obtain ⟨positive, result⟩ := of_requirePeriod computed
  split at result
  · cases result
  · rename_i enough
    rw [List.length_map] at enough
    rw [← Option.some.inj result]
    have all := @movements_nonneg K _ _ (rows.map (·.high)) (rows.map (·.low))
    have count : (movements (rows.map (·.high)) (rows.map (·.low))).length = rows.length - 1 := by
      rw [movements, List.length_zipWith, List.length_map, length_changes, length_changes,
        List.length_map, List.length_map, Nat.min_self]
    obtain ⟨length, inside⟩ := @directionalIndices_mem K _ _ _ period.toNat (by omega)
      (((movements (rows.map (·.high)) (rows.map (·.low))).take period.toNat).map (·.1)).sum
      (((movements (rows.map (·.high)) (rows.map (·.low))).take period.toNat).map (·.2)).sum
      ((movements (rows.map (·.high)) (rows.map (·.low))).drop period.toNat)
      (List.sum_nonneg fun amount member => by
        obtain ⟨movement, there, rfl⟩ := List.mem_map.mp member
        exact (all movement (List.mem_of_mem_take there)).1)
      (List.sum_nonneg fun amount member => by
        obtain ⟨movement, there, rfl⟩ := List.mem_map.mp member
        exact (all movement (List.mem_of_mem_take there)).2)
      fun movement member => all movement (List.mem_of_mem_drop member)
    apply Average.smoothed_mem (by omega) _ inside
    rw [length, List.length_drop, count]
    omega

end Percentages

section Prices

variable {rows used : List (OhlcvRow K)} {value : K}

/-- The price of some bars is weighted bar by bar. -/
theorem weightedPrice_rows (used : List (OhlcvRow K)) :
    weightedPrice (used.map (·.high)) (used.map (·.low)) (used.map (·.close))
      (used.map (·.volume)) =
    if (used.map (·.volume)).sum = 0 then none
    else some ((used.map fun row => (row.high + row.low + row.close) / 3 * row.volume).sum /
      (used.map (·.volume)).sum) := by
  unfold weightedPrice
  rw [List.zip_map', List.zip_map', List.zipWith_map, List.zipWith_self]

variable [IsStrictOrderedRing K]

/-- The smoothed true range is at most the largest one. -/
theorem atr_bounded {high low close : List K} {period : Int} (same : high.length = close.length)
    (same' : low.length = close.length) (computed : atr high low close period = .ok (some value)) :
    0 ≤ value ∧ ∃ largest ∈ trueRanges high low close,
      (∀ range ∈ trueRanges high low close, range ≤ largest) ∧ value ≤ largest := by
  unfold atr at computed
  obtain ⟨_, -, computed⟩ := Raise.bind_eq_ok.mp computed
  obtain ⟨_, -, computed⟩ := Raise.bind_eq_ok.mp computed
  obtain ⟨positive, result⟩ := of_requirePeriod computed
  split at result
  · cases result
  · rename_i enough
    rw [← Option.some.inj result]
    have length : (trueRanges high low close).length = close.length - 1 := by
      rw [trueRanges, List.length_zipWith, List.length_zip, List.length_tail, List.length_tail]
      omega
    have filled : trueRanges high low close ≠ [] := by
      rw [← List.length_pos_iff]
      omega
    obtain ⟨largest, member, above⟩ := Average.exists_greatest id filled
    have within := @Average.smoothed_mem K _ _ _ 0 largest period.toNat (trueRanges high low close)
      (by omega) (by omega) fun range there => by
        refine ⟨?_, above range there⟩
        rw [trueRanges, ← List.map_uncurry_zip_eq_zipWith] at there
        obtain ⟨bar, -, rfl⟩ := List.mem_map.mp there
        exact le_max_of_le_right (le_max_of_le_left (abs_nonneg _))
    exact ⟨within.1, largest, member, above, within.2⟩

/-- A price that is weighted with the volume is in the range of the bars. -/
theorem weightedPrice_inRange (valid : ∀ row ∈ used, ValidRow row)
    (computed : weightedPrice (used.map (·.high)) (used.map (·.low)) (used.map (·.close))
      (used.map (·.volume)) = some value) : InRange used value := by
  rw [weightedPrice_rows] at computed
  split at computed
  · cases computed
  · rename_i traded
    rw [← Option.some.inj computed]
    have filled : used ≠ [] := by
      rintro rfl
      exact traded rfl
    apply inRange_of_bounds filled
    intro a b low high
    have weighted := @Average.weighted_mem K _ _ _ a b
      (used.map fun row => ((row.high + row.low + row.close) / 3, row.volume))
      (by simpa using fun row member => (valid row member).volume)
      (by simpa [List.map_map, Function.comp_def] using traded)
      (by
        intro pair member
        obtain ⟨row, there, rfl⟩ := List.mem_map.mp member
        have fits := valid row there
        have above := low row there
        have below := high row there
        have first := fits.low
        have second := fits.high
        exact ⟨by dsimp only; linarith, by dsimp only; linarith⟩)
    simpa only [List.map_map, Function.comp_def] using weighted

/-- So is the one of a period. -/
theorem vwap_inRange (valid : ∀ row ∈ rows, ValidRow row) {period : Option Int}
    (computed : vwap (rows.map (·.high)) (rows.map (·.low)) (rows.map (·.close))
      (rows.map (·.volume)) period = .ok (some value)) : InRange (usedBars rows period) value := by
  unfold vwap at computed
  obtain ⟨_, -, computed⟩ := Raise.bind_eq_ok.mp computed
  obtain ⟨_, -, computed⟩ := Raise.bind_eq_ok.mp computed
  cases period with
  | none => exact weightedPrice_inRange valid (Raise.pure_eq_ok.mp computed)
  | some period =>
    obtain ⟨_, -, computed⟩ := Raise.bind_eq_ok.mp computed
    have result := Raise.pure_eq_ok.mp computed
    split at result
    · cases result
    · simp only [lastSlice_map] at result
      exact weightedPrice_inRange (fun row member => valid row (mem_of_mem_lastSlice member)) result

/-- The band lies around a mean that is in the range of the bars. -/
theorem bollinger_inRange {sqrt : K → K} (root : ∀ x, 0 ≤ x → 0 ≤ sqrt x)
    (valid : ∀ row ∈ rows, ValidRow row) {period : Int} {deviations : K} {bands : Bands K}
    (computed : bollinger sqrt (rows.map (·.close)) period deviations = .ok (some bands)) :
    InRange (Py.lastSlice period rows) bands.middle ∧ bands.lower ≤ bands.middle ∧
      bands.middle ≤ bands.upper := by
  unfold bollinger at computed
  obtain ⟨_, checked, computed⟩ := Raise.bind_eq_ok.mp computed
  rw [Raise.ensure_eq_ok, Bool.and_eq_true, decide_eq_true_eq, decide_eq_true_eq] at checked
  have result := Raise.pure_eq_ok.mp computed
  split at result
  · cases result
  · rename_i enough
    rw [List.length_map] at enough
    rw [← Option.some.inj result]
    have many : (0 : K) ≤ period := by
      have low : (0 : Int) ≤ period := by omega
      exact_mod_cast low
    have squares : 0 ≤ ((Py.lastSlice period (rows.map (·.close))).map fun close =>
        (close - (Py.lastSlice period (rows.map (·.close))).sum / period) ^ 2).sum := by
      refine List.sum_nonneg fun square member => ?_
      obtain ⟨close, -, rfl⟩ := List.mem_map.mp member
      exact sq_nonneg _
    have spread := mul_nonneg checked.2.le (root _ (div_nonneg squares many))
    refine ⟨mean_inRange valid (by omega) (by omega), ?_, ?_⟩
    · exact sub_le_self _ spread
    · exact le_add_of_nonneg_right spread

end Prices

section Histogram

variable {totals close volume : List K} {bins : Nat}

omit [LinearOrder K] in
/-- What is added to one of some amounts is added to their sum. -/
theorem sum_modify (totals : List K) {i : Nat} (amount : K) (inside : i < totals.length) :
    (totals.modify i (· + amount)).sum = totals.sum + amount := by
  induction totals generalizing i with
  | nil => simp at inside
  | cons first rest ih =>
    cases i with
    | zero =>
      rw [List.modify_zero_cons, List.sum_cons, List.sum_cons]
      ring
    | succ i =>
      rw [List.modify_succ_cons, List.sum_cons, List.sum_cons, ih (by simpa using inside)]
      ring

variable [FloorRing K]

/-- All volume comes into the bins, also that at the upper edge. -/
theorem sum_totals (low width : K) (some_ : 0 < bins) (bars : List (K × K))
    (length : totals.length = bins) :
    (bars.foldl (fun totals bar => totals.modify (binOf bins low width bar.1) (· + bar.2))
      totals).length = bins ∧
    (bars.foldl (fun totals bar => totals.modify (binOf bins low width bar.1) (· + bar.2))
      totals).sum = totals.sum + (bars.map (·.2)).sum := by
  induction bars generalizing totals with
  | nil => simp [length]
  | cons bar rest ih =>
    have inside : binOf bins low width bar.1 < totals.length := by
      rw [binOf, length]
      omega
    obtain ⟨kept, sum⟩ := @ih (totals.modify (binOf bins low width bar.1) (· + bar.2))
      (by rw [List.length_modify, length])
    refine ⟨kept, ?_⟩
    rw [List.foldl_cons, sum, sum_modify totals bar.2 inside, List.map_cons, List.sum_cons]
    ring

/-- The bins of a profile fit the closes and the volume that it is made of. -/
theorem volumeProfile_fits {bins : Int} {profile : Profile K}
    (computed : volumeProfile close volume bins = .ok (some profile)) :
    ProfileFits close volume profile := by
  unfold volumeProfile at computed
  obtain ⟨_, -, computed⟩ := Raise.bind_eq_ok.mp computed
  obtain ⟨_, lengths, computed⟩ := Raise.bind_eq_ok.mp computed
  obtain ⟨_, checked, computed⟩ := Raise.bind_eq_ok.mp computed
  rw [Raise.ensure_eq_ok, Bool.and_eq_true, decide_eq_true_eq, decide_eq_true_eq] at checked
  have same : volume.length = close.length := by
    simpa [requireLengths] using lengths
  split at computed
  · rename_i low high isLow isHigh
    obtain ⟨lowIn, least⟩ := List.min?_eq_some_iff.mp isLow
    obtain ⟨highIn, greatest⟩ := List.max?_eq_some_iff.mp isHigh
    split at computed
    · cases Raise.pure_eq_ok.mp computed
    · split at computed
      · obtain rfl := Option.some.inj (Raise.pure_eq_ok.mp computed)
        refine ⟨?_, ⟨_, _, rfl, rfl, lowIn, highIn, fun price member =>
          ⟨least price member, greatest price member⟩⟩, by simp⟩
        intro i level next _ behind
        simp at behind
      · obtain rfl := Option.some.inj (Raise.pure_eq_ok.mp computed)
        obtain ⟨length, sum⟩ := @sum_totals K _ _ (List.replicate bins.toNat 0) bins.toNat _ low
          ((high - low) / bins) (by omega) (close.zip volume) (by simp)
        have some_ : (bins : K) ≠ 0 := by
          have positive : bins ≠ 0 := by omega
          exact_mod_cast positive
        refine ⟨?_, ?_, ?_⟩
        · intro i level next here behind
          simp only [List.getElem?_map, List.getElem?_zipIdx, Option.map_map,
            Option.map_eq_some_iff, Function.comp_apply] at here behind
          obtain ⟨_, -, rfl⟩ := here
          obtain ⟨_, -, rfl⟩ := behind
          simp
        · -- The last bin ends at the greatest close.
          have first : 0 < bins.toNat := by omega
          rw [← length] at first
          refine ⟨_, _, by rw [List.head?_eq_getElem?, List.getElem?_map, List.getElem?_zipIdx,
            List.getElem?_eq_getElem first]; rfl, by
              rw [List.getLast?_eq_getElem?, List.length_map, List.length_zipIdx,
                List.getElem?_map, List.getElem?_zipIdx,
                List.getElem?_eq_getElem (Nat.sub_lt first Nat.one_pos)]
              rfl, ?_⟩
          have count : ((bins.toNat - 1 : Nat) : Int) + 1 = bins := by omega
          have many : (((bins.toNat - 1 : Nat) : K) + 1) = (bins : K) := by exact_mod_cast count
          have lower : low + ((0 + 0 : Nat) : K) * ((high - low) / bins) = low := by simp
          have upper : low + (((bins.toNat - 1 : Nat) : K) + 1) * ((high - low) / bins) = high := by
            rw [many, mul_div_cancel₀ _ some_]
            ring
          simp only [length, Nat.zero_add] at lower ⊢
          rw [upper, lower]
          exact ⟨lowIn, highIn, fun price member => ⟨least price member, greatest price member⟩⟩
        · rw [List.map_map]
          have volumes : ((Level.volume ∘ fun total : K × Nat =>
              (⟨low + total.2 * ((high - low) / bins), low + (total.2 + 1) * ((high - low) / bins),
                total.1⟩ : Level K)) : K × Nat → K) = Prod.fst := rfl
          have zeros : (List.replicate bins.toNat (0 : K)).sum = 0 := by simp
          rw [volumes, List.zipIdx_map_fst, sum, zeros, zero_add, List.map_snd_zip (by omega)]
  · cases Raise.pure_eq_ok.mp computed

end Histogram

/-- A row that is accepted is valid. -/
theorem validRow_of_isValid {row : OhlcvRow K} (accepted : row.isValid = true) : ValidRow row := by
  simp only [OhlcvRow.isValid, Bool.and_eq_true, decide_eq_true_eq] at accepted
  exact ⟨accepted.1.1.1, accepted.1.1.2, accepted.2⟩

/-- The bars that features are extracted of are valid. -/
theorem rows_of_extractFeatures [FloorRing K] {sqrt : K → K} {bars : List (FeatureBar K)}
    {market timeframe : String} {report : FeatureReport K}
    (accepted : extractFeatures sqrt bars market timeframe = .ok report) :
    ∃ rows, bars.mapM FeatureBar.row = .ok rows ∧ ∀ row ∈ rows, ValidRow row := by
  unfold extractFeatures at accepted
  obtain ⟨_, -, accepted⟩ := Raise.bind_eq_ok.mp accepted
  obtain ⟨_, -, accepted⟩ := Raise.bind_eq_ok.mp accepted
  obtain ⟨_, -, accepted⟩ := Raise.bind_eq_ok.mp accepted
  obtain ⟨_, -, accepted⟩ := Raise.bind_eq_ok.mp accepted
  obtain ⟨_, -, accepted⟩ := Raise.bind_eq_ok.mp accepted
  obtain ⟨_, -, accepted⟩ := Raise.bind_eq_ok.mp accepted
  obtain ⟨rows, read, accepted⟩ := Raise.bind_eq_ok.mp accepted
  obtain ⟨_, checked, -⟩ := Raise.bind_eq_ok.mp accepted
  rw [Raise.ensure_eq_ok, List.all_eq_true] at checked
  exact ⟨rows, read, fun row member => validRow_of_isValid (checked row member)⟩

/-- Whatever the root that is taken, as long as it is not negative: the indicators of bars that are
accepted are in their ranges for every period. -/
theorem indicators_in_range [FloorRing K] [IsStrictOrderedRing K] (sqrt : K → K)
    (root : ∀ x, 0 ≤ x → 0 ≤ sqrt x) (bars : List (FeatureBar K)) (market timeframe : String)
    (report : FeatureReport K)
    (accepted : extractFeatures sqrt bars market timeframe = .ok report) :
    ∃ rows, bars.mapM FeatureBar.row = .ok rows ∧ IndicatorRanges sqrt rows := by
  obtain ⟨rows, read, valid⟩ := rows_of_extractFeatures accepted
  refine ⟨rows, read, ?_⟩
  constructor
  · exact fun period value => rsi_mem
  · exact fun period value => stochastic_mem valid
  · exact fun period value => adx_mem
  · exact fun period value => sma_inRange valid
  · exact fun period value => ema_inRange valid
  · exact fun period value => vwap_inRange valid
  · exact fun period deviations bands => bollinger_inRange root valid
  · exact fun period value => atr_bounded (by simp) (by simp)
  · exact fun count bins profile => volumeProfile_fits

/-- Two bars that close one above and one below their mean. -/
def twoBars : List (FeatureBar ℚ) :=
  [⟨"005930", "2026-07-01", some 2, some 1, some 1, some 10⟩,
    ⟨"005930", "2026-07-02", some 4, some 2, some 3, some 30⟩]

/-- The indicators of the two bars are in their ranges; the variance of their closes is one. -/
theorem two_bars_in_range : ∃ report rows, extractFeatures id twoBars "KR_STOCK" "1d" = .ok report ∧
    twoBars.mapM FeatureBar.row = .ok rows ∧ IndicatorRanges id rows := by
  have accepted : (extractFeatures id twoBars "KR_STOCK" "1d").toOption.isSome = true := by
    decide +kernel
  cases made : extractFeatures id twoBars "KR_STOCK" "1d" with
  | error raised =>
    rw [made] at accepted
    cases accepted
  | ok report =>
    obtain ⟨rows, read, ranges⟩ :=
      indicators_in_range id (fun _ some_ => some_) twoBars "KR_STOCK" "1d" report made
    exact ⟨report, rows, rfl, read, ranges⟩

end StrategyLab.TechnicalIndicators
