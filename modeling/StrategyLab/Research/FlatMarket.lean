import StrategyLab.Research.CryptoForward
import Mathlib.Tactic.NormNum
import Mathlib.Tactic.Ring

/-! A flat market: bars of one price and volume, their running means, and what is decided there. -/

namespace StrategyLab

/-- Scores in descending order, and symbols in descending order where the scores are equal. -/
def notBefore (left right : ℚ × String) : Bool :=
  decide (right.1 < left.1) || (decide (left.1 = right.1) && decide (right.2 ≤ left.2))

/-- Exact arithmetic in place of the one of floats. -/
def rationals : Floats ℚ where
  ofRat := id
  isNan _ := false
  isZero value := value = 0
  neg := (- ·)
  add := (· + ·)
  sub := (· - ·)
  mul := (· * ·)
  div := (· / ·)
  less left right := left < right
  max values := values.foldl max (values.headD 0)
  min values := values.foldl min (values.headD 0)
  sum values := values.foldl (· + ·) 0
  sortDescending scored := scored.mergeSort notBefore
  sorted scored := List.mergeSort_perm scored notBefore

/-- A bar of a flat market. -/
def flatBar (time : Int) (volume : ℚ) : Bar ℚ := ⟨time, 1, 1, 1, 1, volume⟩

/-- The minutes of groups of five in a row. -/
def flatMinutes (start : Int) : Nat → List (Bar ℚ)
  | 0 => []
  | groups + 1 =>
    flatBar start 20000 :: flatBar (start + 60000) 20000 :: flatBar (start + 120000) 20000 ::
      flatBar (start + 180000) 20000 :: flatBar (start + 240000) 20000 ::
        flatMinutes (start + 300000) groups

/-- The bars of groups of five minutes in a row. -/
def flatBars (start : Int) : Nat → List (Bar ℚ)
  | 0 => []
  | groups + 1 => flatBar (start + 240000) 100000 :: flatBars (start + 300000) groups

/-- Every group of minutes is one bar. -/
theorem to5mBars_flatMinutes (start : Int) (groups : Nat) :
    to5mBars rationals (flatMinutes start groups) = flatBars start groups := by
  induction groups generalizing start with
  | zero => rfl
  | succ groups ih =>
    have bar : fiveMinuteBar rationals (flatBar start 20000) (flatBar (start + 60000) 20000)
        (flatBar (start + 120000) 20000) (flatBar (start + 180000) 20000)
        (flatBar (start + 240000) 20000) = some (flatBar (start + 240000) 100000) := by
      have span : start + 240000 - start = 240000 := by omega
      simp only [fiveMinuteBar, flatBar, span, ne_eq, not_true_eq_false, if_false]
      simp [rationals]
      norm_num
    rw [flatMinutes, to5mBars, bar]
    simp only [flatBars, ih]

/-- There are as many bars as groups. -/
@[simp] theorem length_flatBars (start : Int) (groups : Nat) :
    (flatBars start groups).length = groups := by
  induction groups generalizing start with
  | zero => rfl
  | succ groups ih => simp [flatBars, ih]

/-- Every bar has the price and the volume of all. -/
theorem mem_flatBars {start : Int} {groups : Nat} {bar : Bar ℚ}
    (member : bar ∈ flatBars start groups) : bar.close = 1 ∧ bar.volume = 100000 := by
  induction groups generalizing start with
  | zero => cases member
  | succ groups ih =>
    rcases List.mem_cons.mp member with rfl | later
    · exact ⟨rfl, rfl⟩
    · exact ih later

/-- No minute of the groups is before their start. -/
theorem le_time_of_mem_flatMinutes {start : Int} {groups : Nat} {minute : Bar ℚ}
    (member : minute ∈ flatMinutes start groups) : start ≤ minute.time := by
  induction groups generalizing start with
  | zero => cases member
  | succ groups ih =>
    simp only [flatMinutes, List.mem_cons] at member
    rcases member with rfl | rfl | rfl | rfl | rfl | later
    · exact le_refl start
    all_goals try (simp only [flatBar]; omega)
    have after := ih later
    omega

/-- The minutes are in the order of their times. -/
theorem pairwise_flatMinutes (start : Int) (groups : Nat) :
    (flatMinutes start groups).Pairwise fun first second => first.time < second.time := by
  induction groups generalizing start with
  | zero => exact List.Pairwise.nil
  | succ groups ih =>
    have later : ∀ minute ∈ flatMinutes (start + 300000) groups, start + 300000 ≤ minute.time :=
      fun minute => le_time_of_mem_flatMinutes
    simp only [flatMinutes, List.pairwise_cons, List.mem_cons, forall_eq_or_imp, flatBar]
    refine ⟨⟨?_, ?_, ?_, ?_, ?_⟩, ⟨?_, ?_, ?_, ?_⟩, ⟨?_, ?_, ?_⟩, ⟨?_, ?_⟩, ?_, ih _⟩
    all_goals first
      | omega
      | (intro minute member
         have after := later minute member
         omega)

/-- The running mean of equal volumes is that volume. -/
theorem rollingMeanDollarVolume_flat {bars : List (Bar ℚ)} {window : Nat} (positive : 0 < window)
    (flat : ∀ bar ∈ bars, bar.close = 1 ∧ bar.volume = 100000) {i : Nat} (inside : i < bars.length)
    (full : window ≤ i + 1) :
    (rollingMeanDollarVolume rationals bars window)[i]? = some (some 100000) := by
  have volumes : ∀ k < bars.length,
      (bars.map fun bar => rationals.mul bar.close bar.volume).getD k (rationals.ofRat 0) =
        100000 := by
    intro k short
    have member := flat _ (List.getElem_mem short)
    simp [List.getD, short, rationals, member.1, member.2]
  -- After `n` bars the sum holds the volumes of the window, and every full window has its mean.
  let next : ℚ × List (Option ℚ) → Nat → ℚ := fun sofar i =>
    let sum := rationals.add sofar.1
      ((bars.map fun bar => rationals.mul bar.close bar.volume).getD i (rationals.ofRat 0))
    if window ≤ i then rationals.sub sum
      ((bars.map fun bar => rationals.mul bar.close bar.volume).getD (i - window)
        (rationals.ofRat 0)) else sum
  have general : ∀ n ≤ bars.length, (List.range n).foldl (fun sofar i =>
      (next sofar i, sofar.2 ++ [if window ≤ i + 1 then
        some (rationals.div (next sofar i) (rationals.ofRat window)) else none]))
      (rationals.ofRat 0, ([] : List (Option ℚ))) = (((min n window : Nat) : ℚ) * 100000,
        (List.range n).map fun i => if window ≤ i + 1 then some 100000 else none) := by
    intro n short
    induction n with
    | zero => simp [rationals]
    | succ n ih =>
      rw [List.range_succ, List.foldl_append, ih (by omega), List.map_append]
      simp only [List.foldl_cons, List.foldl_nil, List.map_cons, List.map_nil]
      have sum : ∀ means, next (((min n window : Nat) : ℚ) * 100000, means) n =
          ((min (n + 1) window : Nat) : ℚ) * 100000 := by
        intro means
        simp only [next]
        rw [volumes n (by omega), volumes (n - window) (by omega)]
        by_cases past : window ≤ n
        · rw [if_pos past, Nat.min_eq_right past, Nat.min_eq_right (by omega)]
          simp [rationals]
        · rw [if_neg past, Nat.min_eq_left (by omega), Nat.min_eq_left (by omega)]
          simp only [rationals, Nat.cast_add, Nat.cast_one]
          ring
      rw [sum]
      congr 3
      by_cases whole : window ≤ n + 1
      · rw [if_pos whole, if_pos whole, Nat.min_eq_right whole]
        have nonzero : (window : ℚ) ≠ 0 := by
          exact_mod_cast positive.ne'
        simp [rationals, nonzero]
      · rw [if_neg whole, if_neg whole]
  have folded := general bars.length (Nat.le_refl _)
  unfold rollingMeanDollarVolume
  dsimp only
  rw [List.length_map, folded]
  simp [inside, full]

/-- A symbol of a flat market has the score zero, wherever it has the history. -/
theorem score_flat {bars : List (Bar ℚ)}
    (flat : ∀ bar ∈ bars, bar.close = 1 ∧ bar.volume = 100000) {idx : Nat}
    (inside : idx < bars.length) (history : 2592 ≤ idx + 1) :
    score rationals strategySpec bars idx = some 0 := by
  have taken : (bars.take (idx + 1)).length = idx + 1 := by
    rw [List.length_take]
    omega
  have liquidity : (rollingMeanDollarVolume rationals (bars.take (idx + 1))
      strategySpec.liquidityWindowBars)[idx]? = some (some 100000) := by
    refine rollingMeanDollarVolume_flat (by decide) ?_ (by omega) ?_
    · exact fun bar member => flat bar (List.mem_of_mem_take member)
    · simp only [strategySpec]
      omega
  have now := flat _ (List.getElem_mem inside)
  have earlier : idx - 576 < bars.length := by omega
  have before := flat _ (List.getElem_mem earlier)
  have enough : ¬idx < 576 := by omega
  have lookback : strategySpec.lookbackBars = 576 := rfl
  have plenty : rationals.less 100000 (rationals.ofRat strategySpec.liquidityFloorUsd) = false := by
    have floor : strategySpec.liquidityFloorUsd = 50000 := rfl
    simp only [rationals, floor, id, decide_eq_false_iff_not]
    norm_num
  have still : returnFrom rationals 1 1 = some 0 := by
    simp [returnFrom, rationals]
  simp only [score, List.getElem?_eq_getElem inside, liquidity, lookback, if_neg enough, plenty,
    List.getElem?_eq_getElem earlier, Option.bind_some, now.1, before.1, still]
  rfl

/-- A basket is picked in a flat market, wherever all symbols have the history. -/
theorem decideRebalance_flat {barsBySymbol : String → Option (List (Bar ℚ))} {idx : Nat}
    (history : 2592 ≤ idx + 1) (flat : ∀ symbol ∈ forwardUniverse, ∃ bars,
      barsBySymbol symbol = some bars ∧ idx < bars.length ∧
        ∀ bar ∈ bars, bar.close = 1 ∧ bar.volume = 100000) :
    ∃ basket, decideRebalance rationals strategySpec barsBySymbol idx = some basket ∧
      basket.picked.length = 6 := by
  have all : scored rationals strategySpec barsBySymbol idx =
      forwardUniverse.map fun symbol => (0, symbol) := by
    refine List.filterMap_eq_map_iff_forall_eq_some.mpr fun symbol member => ?_
    obtain ⟨bars, found, inside, same⟩ := flat symbol member
    simp [found, score_flat same inside history]
  obtain ⟨btcBars, found, inside, same⟩ := flat "BTCUSDT" (by decide)
  have earlier : idx - 576 < btcBars.length := by omega
  have enough : ¬idx < 576 := by omega
  unfold decideRebalance
  rw [all, found]
  simp only [List.length_map, strategySpec, Option.bind_eq_bind, Option.bind_some,
    List.getElem?_eq_getElem inside, List.getElem?_eq_getElem earlier, if_neg enough]
  refine ⟨_, rfl, ?_⟩
  rw [List.length_map, List.length_take, (rationals.sorted _).length_eq, List.length_map]
  rfl

namespace ForwardState

variable {F : Type} {floats : Floats F} {state : ForwardState F}

/-- New minutes in the order of their times are stored behind the others. -/
theorem rows_upsertBars {symbol : String} {minutes : List (Bar F)}
    (clean : ∀ value, floats.isNan value = false)
    (sorted : minutes.Pairwise fun first second => first.time < second.time)
    (fresh : ∀ row ∈ state.minutes.rows, row.symbol = symbol → ∀ minute ∈ minutes,
      row.minute.time < minute.time) :
    (state.apply floats (.upsertBars symbol minutes)).minutes.rows =
      state.minutes.rows ++ minutes.map (StoredMinute.mk symbol) := by
  change (minutes.foldl (insertMinute floats symbol) state).minutes.rows = _
  induction minutes generalizing state with
  | nil => simp
  | cons minute rest ih =>
    obtain ⟨before, sorted⟩ := List.pairwise_cons.mp sorted
    have free : state.minutes.find? (StoredMinute.key ⟨symbol, minute⟩) = none := by
      rw [Table.find?_eq_none_iff]
      intro row member same
      have earlier := fresh row member (congrArg Prod.fst same) minute List.mem_cons_self
      have time : row.minute.time = minute.time := congrArg Prod.snd same
      omega
    have one : (insertMinute floats symbol state minute).minutes.rows =
        state.minutes.rows ++ [⟨symbol, minute⟩] := by
      unfold insertMinute
      rw [if_neg (by simp [clean])]
      cases built : state.minutes.insert? ⟨symbol, minute⟩ with
      | none =>
        obtain ⟨old, found⟩ := Table.insert?_eq_none_iff.mp built
        rw [free] at found
        cases found
      | some grown => exact (Table.insert?_eq_some_iff.mp built).2
    rw [List.foldl_cons, ih sorted, one, List.map_cons, List.append_assoc, List.singleton_append]
    intro row member same later among
    rw [one, List.mem_append, List.mem_singleton] at member
    rcases member with old | rfl
    · exact fresh row old same later (List.mem_cons_of_mem _ among)
    · exact before later among

/-- The same new minutes are stored for one symbol after the other. -/
theorem rows_upserts {symbols : List String} {minutes : List (Bar F)}
    (clean : ∀ value, floats.isNan value = false)
    (sorted : minutes.Pairwise fun first second => first.time < second.time)
    (distinct : symbols.Nodup)
    (fresh : ∀ row ∈ state.minutes.rows, row.symbol ∉ symbols) :
    (state.applyAll floats (symbols.map fun symbol => .upsertBars symbol minutes)).minutes.rows =
      state.minutes.rows ++ symbols.flatMap fun symbol => minutes.map (StoredMinute.mk symbol) := by
  induction symbols generalizing state with
  | nil => simp [applyAll]
  | cons symbol rest ih =>
    obtain ⟨other, distinct⟩ := List.nodup_cons.mp distinct
    have one := @rows_upsertBars F floats state symbol minutes clean sorted
      fun row member same => absurd (same ▸ List.mem_cons_self) (fresh row member)
    rw [List.map_cons, applyAll, List.foldl_cons, ← applyAll, ih distinct, one, List.flatMap_cons,
      List.append_assoc]
    intro row member
    rw [one, List.mem_append] at member
    rcases member with old | new
    · exact fun among => fresh row old (List.mem_cons_of_mem _ among)
    · obtain ⟨minute, -, rfl⟩ := List.mem_map.mp new
      exact other

/-- The minutes that are stored for every symbol are loaded for each of them. -/
theorem load1mRows_upserts {symbols : List String} {minutes : List (Bar F)}
    (clean : ∀ value, floats.isNan value = false)
    (sorted : minutes.Pairwise fun first second => first.time < second.time)
    (distinct : symbols.Nodup) {symbol : String} (member : symbol ∈ symbols) :
    ((initial.applyAll floats (symbols.map fun symbol => .upsertBars symbol minutes)).load1mRows
      symbol) = minutes := by
  have rows := @rows_upserts F floats initial symbols minutes clean sorted distinct
    fun row there => by cases there
  have mine : ((symbols.flatMap fun symbol => minutes.map (StoredMinute.mk symbol)).filter
      fun row => row.symbol = symbol).map StoredMinute.minute = minutes := by
    -- The rows of the other symbols are left out.
    have of_other : ∀ rest : List String, symbol ∉ rest →
        (rest.flatMap fun symbol => minutes.map (StoredMinute.mk symbol)).filter
          (fun row => row.symbol = symbol) = [] := by
      intro rest absent
      rw [List.filter_eq_nil_iff]
      intro row among
      obtain ⟨other, inside, made⟩ := List.mem_flatMap.mp among
      obtain ⟨minute, -, rfl⟩ := List.mem_map.mp made
      simp only [decide_eq_true_eq]
      rintro rfl
      exact absent inside
    obtain ⟨before, after, rfl⟩ := List.append_of_mem member
    rw [List.nodup_append] at distinct
    obtain ⟨-, later, apart⟩ := distinct
    rw [List.flatMap_append, List.flatMap_cons, List.filter_append, List.filter_append,
      of_other before, of_other after (List.nodup_cons.mp later).1]
    · simp [List.filter_map, Function.comp_def]
    · exact fun among => apart symbol among symbol List.mem_cons_self rfl
  unfold load1mRows
  rw [rows]
  simp only [initial, Table.empty_rows, List.nil_append]
  rw [mine]
  refine List.mergeSort_of_pairwise (sorted.imp fun less => ?_)
  simpa using le_of_lt less

end ForwardState

end StrategyLab
