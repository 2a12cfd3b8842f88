import StrategyLab.Lib.Sorted
import StrategyLab.Research.FlatMarket
import Mathlib.Data.List.Dedup

/-! Bars in time: the complete groups of five minutes, and the positions that their bars have. -/

namespace StrategyLab

variable {F : Type}

/-- The rows of a group of five minutes. -/
def groupRows (rows : List (Bar F)) (group : Int) : List (Bar F) :=
  rows.filter fun row => row.time / 300000 = group

/-- A group is complete if its rows are those of its five minutes. -/
def Complete (rows : List (Bar F)) (group : Int) : Prop :=
  (groupRows rows group).map Bar.time = [300000 * group, 300000 * group + 60000,
    300000 * group + 120000, 300000 * group + 180000, 300000 * group + 240000]

instance (rows : List (Bar F)) (group : Int) : Decidable (Complete rows group) :=
  inferInstanceAs (Decidable (_ = _))

/-- The bar of a group that is complete. -/
def groupBar (floats : Floats F) (rows : List (Bar F)) (group : Int) : Option (Bar F) :=
  match groupRows rows group with
  | [first, second, third, fourth, fifth] =>
    if Complete rows group then fiveMinuteBar floats first second third fourth fifth else none
  | _ => none

/-- The complete groups in their order. -/
def completeGroups (rows : List (Bar F)) : List Int :=
  ((rows.map fun row => row.time / 300000).dedup).filter fun group => Complete rows group

/-- The bars of the complete groups in their order. -/
def groupBars (floats : Floats F) (rows : List (Bar F)) : List (Bar F) :=
  (completeGroups rows).filterMap (groupBar floats rows)

/-- Every complete group starts at a position that five divides, and five rows from such a position
on that span four minutes start a complete group. -/
structure Regular (rows : List (Bar F)) : Prop where
  starts : ∀ group, Complete rows group → 5 ∣ (rows.filter (·.time / 300000 < group)).length
  only : ∀ position first fifth, 5 ∣ position → rows[position]? = some first →
    rows[position + 4]? = some fifth → fifth.time - first.time = 240000 →
    300000 ∣ first.time ∧ Complete rows (first.time / 300000)

/-- Rows in the order of their times. -/
def InOrder (rows : List (Bar F)) : Prop :=
  rows.Pairwise fun first second => first.time < second.time

section Bars

variable {floats : Floats F} {rows : List (Bar F)}

/-- The groups of rows in order never fall. -/
theorem InOrder.groups (sorted : InOrder rows) :
    rows.Pairwise fun first second => first.time / 300000 ≤ second.time / 300000 := by
  refine List.Pairwise.imp ?_ sorted
  intro first second before
  omega

/-- Five rows make a bar exactly if they span four minutes, and the bar has the time of the last. -/
theorem fiveMinuteBar_eq_some {first second third fourth fifth bar : Bar F}
    (made : fiveMinuteBar floats first second third fourth fifth = some bar) :
    fifth.time - first.time = 240000 ∧ bar.time = fifth.time := by
  unfold fiveMinuteBar at made
  split at made
  · cases made
  · rename_i spans
    obtain rfl := Option.some.inj made
    exact ⟨not_not.mp spans, rfl⟩

/-- Five rows that span four minutes make a bar. -/
theorem exists_fiveMinuteBar (floats : Floats F) {first fifth : Bar F} (second third fourth : Bar F)
    (spans : fifth.time - first.time = 240000) :
    ∃ bar, fiveMinuteBar floats first second third fourth fifth = some bar := by
  unfold fiveMinuteBar
  rw [if_neg (not_not.mpr spans)]
  exact ⟨_, rfl⟩

/-- Blocks of five rows in front are turned into bars on their own. -/
theorem to5mBars_append (before rest : List (Bar F)) (blocks : 5 ∣ before.length) :
    to5mBars floats (before ++ rest) = to5mBars floats before ++ to5mBars floats rest := by
  obtain ⟨groups, length⟩ := blocks
  induction groups generalizing before with
  | zero =>
    obtain rfl := List.length_eq_zero_iff.mp length
    rfl
  | succ groups ih =>
    match before, length with
    | first :: second :: third :: fourth :: fifth :: before, length =>
      have fewer : before.length = 5 * groups := by
        simp only [List.length_cons] at length
        omega
      simp only [List.cons_append, to5mBars, ih before fewer]
      split
      · rfl
      · rfl

/-- A bar comes from five rows behind blocks of five. -/
theorem mem_to5mBars {bar : Bar F} : bar ∈ to5mBars floats rows ↔
    ∃ before first second third fourth fifth behind,
      rows = before ++ first :: second :: third :: fourth :: fifth :: behind ∧
        5 ∣ before.length ∧ fiveMinuteBar floats first second third fourth fifth = some bar := by
  constructor
  · intro member
    -- A bar of the rows behind the first five has one more block in front of it.
    have shift {rest : List (Bar F)} (a b c d e : Bar F) : (∃ before first second third fourth
        fifth behind, rest = before ++ first :: second :: third :: fourth :: fifth :: behind ∧
          5 ∣ before.length ∧ fiveMinuteBar floats first second third fourth fifth = some bar) →
        ∃ before first second third fourth fifth behind, a :: b :: c :: d :: e :: rest =
          before ++ first :: second :: third :: fourth :: fifth :: behind ∧ 5 ∣ before.length ∧
            fiveMinuteBar floats first second third fourth fifth = some bar := by
      rintro ⟨before, first, second, third, fourth, fifth, behind, rfl, blocks, made⟩
      refine ⟨a :: b :: c :: d :: e :: before, first, second, third, fourth, fifth, behind, rfl, ?_,
        made⟩
      simp only [List.length_cons]
      omega
    induction rows using to5mBars.induct floats with
    | case1 first second third fourth fifth rest none_ ih =>
      rw [to5mBars, none_] at member
      exact shift _ _ _ _ _ (ih member)
    | case2 first second third fourth fifth rest own made ih =>
      rw [to5mBars, made] at member
      rcases List.mem_cons.mp member with rfl | later
      · exact ⟨[], first, second, third, fourth, fifth, rest, rfl, Nat.dvd_zero 5, made⟩
      · exact shift _ _ _ _ _ (ih later)
    | case3 rows short =>
      rw [to5mBars] at member
      · cases member
      · exact short
  · rintro ⟨before, first, second, third, fourth, fifth, behind, rfl, blocks, made⟩
    rw [to5mBars_append before _ blocks, to5mBars, made]
    exact List.mem_append_right _ List.mem_cons_self

variable {group : Int}

/-- A group has a bar exactly if it is complete. -/
theorem groupBar_eq_some_iff {bar : Bar F} :
    groupBar floats rows group = some bar ↔ ∃ first second third fourth fifth,
      groupRows rows group = [first, second, third, fourth, fifth] ∧ Complete rows group ∧
        fiveMinuteBar floats first second third fourth fifth = some bar := by
  unfold groupBar
  split
  · rename_i first second third fourth fifth five
    constructor
    · intro made
      split at made
      · rename_i complete
        exact ⟨first, second, third, fourth, fifth, five, complete, made⟩
      · cases made
    · rintro ⟨a, b, c, d, e, same, complete, made⟩
      rw [five] at same
      cases same
      rw [if_pos complete, made]
  · rename_i other
    constructor
    · intro made
      cases made
    · rintro ⟨a, b, c, d, e, same, -, -⟩
      exact absurd same (other a b c d e)

/-- A complete group has five rows at its minutes. -/
theorem Complete.fiveRows (complete : Complete rows group) :
    ∃ first second third fourth fifth,
      groupRows rows group = [first, second, third, fourth, fifth] ∧
        first.time = 300000 * group ∧ fifth.time = 300000 * group + 240000 := by
  unfold Complete at complete
  obtain ⟨first, rest, five, starts, complete⟩ := List.map_eq_cons_iff.mp complete
  obtain ⟨second, rest, rfl, -, complete⟩ := List.map_eq_cons_iff.mp complete
  obtain ⟨third, rest, rfl, -, complete⟩ := List.map_eq_cons_iff.mp complete
  obtain ⟨fourth, rest, rfl, -, complete⟩ := List.map_eq_cons_iff.mp complete
  obtain ⟨fifth, rest, rfl, ends, complete⟩ := List.map_eq_cons_iff.mp complete
  obtain rfl := List.map_eq_nil_iff.mp complete
  exact ⟨first, second, third, fourth, fifth, five, starts, ends⟩

/-- A complete group has a bar of the time of its last minute. -/
theorem Complete.bar (floats : Floats F) (complete : Complete rows group) :
    ∃ bar, groupBar floats rows group = some bar ∧ bar.time = 300000 * group + 240000 := by
  obtain ⟨first, second, third, fourth, fifth, five, starts, ends⟩ := complete.fiveRows
  have spans : fifth.time - first.time = 240000 := by omega
  obtain ⟨bar, made⟩ := exists_fiveMinuteBar floats second third fourth spans
  refine ⟨bar, groupBar_eq_some_iff.mpr ⟨_, _, _, _, _, five, complete, made⟩, ?_⟩
  rw [(fiveMinuteBar_eq_some made).2, ends]

/-- The rows in order are those before a group, those of it, and those behind it. -/
theorem InOrder.split (sorted : InOrder rows) (group : Int) :
    rows = rows.filter (·.time / 300000 < group) ++
      (groupRows rows group ++ rows.filter (group < ·.time / 300000)) :=
  Py.split_at_key sorted.groups group

/-- The last of five rows in a row is the fourth behind the first one. -/
theorem getElem?_fifth {before behind : List (Bar F)} {first second third fourth fifth : Bar F} :
    (before ++ first :: second :: third :: fourth :: fifth :: behind)[before.length + 4]? =
      some fifth := by
  rw [List.getElem?_append_right (by omega)]
  have offset : before.length + 4 - before.length = 4 := by omega
  rw [offset]
  rfl

/-- The first of five rows in a row is at their position. -/
theorem getElem?_first {before behind : List (Bar F)} {first : Bar F} :
    (before ++ first :: behind)[before.length]? = some first := by
  rw [List.getElem?_append_right (Nat.le_refl _), Nat.sub_self]
  rfl

/-- From the first of five rows in a row on, the rows start with the five. -/
theorem drop_five {position : Nat} {first fifth : Bar F} (atFirst : rows[position]? = some first)
    (atFifth : rows[position + 4]? = some fifth) : ∃ second third fourth behind,
      rows.drop position = first :: second :: third :: fourth :: fifth :: behind := by
  obtain ⟨inside, rfl⟩ := List.getElem?_eq_some_iff.mp atFifth
  obtain ⟨_, rfl⟩ := List.getElem?_eq_some_iff.mp atFirst
  refine ⟨rows[position + 1], rows[position + 2], rows[position + 3], rows.drop (position + 5), ?_⟩
  rw [List.drop_eq_getElem_cons, List.drop_eq_getElem_cons, List.drop_eq_getElem_cons,
    List.drop_eq_getElem_cons, List.drop_eq_getElem_cons]

/-- A row of a complete group's last minute is at the end of that group's rows. -/
theorem InOrder.position_eq (sorted : InOrder rows) {position : Nat} {fifth : Bar F}
    (complete : Complete rows group) (there : rows[position + 4]? = some fifth)
    (last : fifth.time = 300000 * group + 240000) :
    position = (rows.filter (·.time / 300000 < group)).length := by
  obtain ⟨a, b, c, d, e, five, -, ends⟩ := complete.fiveRows
  have whole := sorted.split group
  rw [five] at whole
  have atEnd : ∀ before behind, rows = before ++ ([a, b, c, d, e] ++ behind) →
      rows[before.length + 4]? = some e := by
    rintro before behind rfl
    exact getElem?_fifth
  have same := @Py.index_eq_of_key_eq _ _ _ Bar.time _ sorted _ _ _ _ there (atEnd _ _ whole)
    (last.trans ends.symm)
  omega

/-- The bars of rows in order are those of the complete groups exactly if the rows are regular. -/
theorem InOrder.bars_iff (sorted : InOrder rows) :
    (∀ bar, bar ∈ to5mBars floats rows ↔ ∃ group, groupBar floats rows group = some bar) ↔
      Regular rows := by
  constructor
  · intro bars
    refine ⟨fun group complete => ?_, fun position first fifth blocks atFirst atFifth spans => ?_⟩
    · -- The bar of the group is one of a block, and its time tells where the block is.
      obtain ⟨bar, made, time⟩ := complete.bar floats
      obtain ⟨before, a, b, c, d, e, behind, whole, blocks, block⟩ :=
        mem_to5mBars.mp ((bars bar).mpr ⟨group, made⟩)
      have atEnd : rows[before.length + 4]? = some e := by
        rw [whole]
        exact getElem?_fifth
      have last : e.time = 300000 * group + 240000 :=
        (fiveMinuteBar_eq_some block).2.symm.trans time
      rwa [← sorted.position_eq complete atEnd last]
    · -- The block has a bar, which is one of a complete group that ends with it.
      obtain ⟨second, third, fourth, behind, rest⟩ : ∃ second third fourth behind,
          rows.drop position = first :: second :: third :: fourth :: fifth :: behind :=
        drop_five atFirst atFifth
      obtain ⟨bar, block⟩ := exists_fiveMinuteBar floats second third fourth spans
      have inside : position < rows.length := (List.getElem?_eq_some_iff.mp atFirst).1
      have member : bar ∈ to5mBars floats rows := by
        refine mem_to5mBars.mpr ⟨rows.take position, first, second, third, fourth, fifth, behind,
          ?_, ?_, block⟩
        · rw [← rest, List.take_append_drop]
        · rwa [List.length_take, Nat.min_eq_left inside.le]
      obtain ⟨group, made⟩ := (bars bar).mp member
      obtain ⟨a, b, c, d, e, five, complete, own⟩ := groupBar_eq_some_iff.mp made
      obtain ⟨_, _, _, _, last, same, -, ends⟩ := complete.fiveRows
      rw [five] at same
      cases same
      have time : fifth.time = e.time :=
        (fiveMinuteBar_eq_some block).2.symm.trans (fiveMinuteBar_eq_some own).2
      have start : first.time = 300000 * group := by omega
      have same : first.time / 300000 = group := by omega
      exact ⟨⟨group, start⟩, same ▸ complete⟩
  · intro regular bar
    constructor
    · intro member
      obtain ⟨before, a, b, c, d, e, behind, whole, blocks, made⟩ := mem_to5mBars.mp member
      have spans := (fiveMinuteBar_eq_some made).1
      have atFirst : rows[before.length]? = some a := by
        rw [whole]
        exact getElem?_first
      have atFifth : rows[before.length + 4]? = some e := by
        rw [whole]
        exact getElem?_fifth
      obtain ⟨divides, complete⟩ := regular.only _ a e blocks atFirst atFifth spans
      have position := sorted.position_eq complete atFifth (by omega)
      -- The block and the rows of the group have the same position, so they are the same rows.
      obtain ⟨a', b', c', d', e', five, -, -⟩ := complete.fiveRows
      have split := sorted.split (a.time / 300000)
      rw [five, whole] at split
      rw [whole] at position
      obtain ⟨-, rest⟩ := List.append_inj split position
      simp only [List.cons_append, List.nil_append, List.cons.injEq] at rest
      obtain ⟨rfl, rfl, rfl, rfl, rfl, -⟩ := rest
      exact ⟨_, groupBar_eq_some_iff.mpr ⟨_, _, _, _, _, five, complete, made⟩⟩
    · rintro ⟨group, made⟩
      obtain ⟨a, b, c, d, e, five, complete, own⟩ := groupBar_eq_some_iff.mp made
      have whole := sorted.split group
      rw [five] at whole
      exact mem_to5mBars.mpr ⟨_, a, b, c, d, e, _, whole, regular.starts group complete, own⟩

/-- The bars of rows in order are in order. -/
theorem InOrder.bars (sorted : InOrder rows) : InOrder (to5mBars floats rows) := by
  induction rows using to5mBars.induct floats with
  | case1 first second third fourth fifth rest none_ ih =>
    rw [to5mBars, none_]
    have five := List.drop_sublist 5 (first :: second :: third :: fourth :: fifth :: rest)
    exact ih (sorted.sublist five)
  | case2 first second third fourth fifth rest own made ih =>
    have later : InOrder (fifth :: rest) :=
      sorted.sublist (List.drop_sublist 4 (first :: second :: third :: fourth :: fifth :: _))
    obtain ⟨last, behind⟩ := List.pairwise_cons.mp later
    rw [to5mBars, made]
    refine List.pairwise_cons.mpr ⟨fun bar member => ?_, ih behind⟩
    -- A later bar has the time of a later row.
    obtain ⟨before, a, b, c, d, e, after, rfl, -, block⟩ := mem_to5mBars.mp member
    rw [(fiveMinuteBar_eq_some made).2, (fiveMinuteBar_eq_some block).2]
    exact last e (List.mem_append_right _ (by simp))
  | case3 rows short =>
    rw [to5mBars]
    · exact List.Pairwise.nil
    · exact short

/-- The complete groups are those that are complete. -/
theorem mem_completeGroups : group ∈ completeGroups rows ↔ Complete rows group := by
  unfold completeGroups
  rw [List.mem_filter, List.mem_dedup, decide_eq_true_eq]
  refine ⟨And.right, fun complete => ⟨?_, complete⟩⟩
  obtain ⟨first, _, _, _, _, five, -, -⟩ := complete.fiveRows
  have member : first ∈ groupRows rows group := five ▸ List.mem_cons_self
  obtain ⟨there, same⟩ := List.mem_filter.mp member
  exact List.mem_map.mpr ⟨first, there, of_decide_eq_true same⟩

/-- The complete groups of rows in order rise. -/
theorem InOrder.completeGroups (sorted : InOrder rows) :
    (completeGroups rows).Pairwise fun first second => first < second := by
  have groups : (rows.map fun row => row.time / 300000).Pairwise fun first second =>
      first ≤ second :=
    List.pairwise_map.mpr sorted.groups
  have kept := groups.sublist (List.dedup_sublist _)
  have distinct := List.nodup_dedup (rows.map fun row => row.time / 300000)
  refine List.Pairwise.filter _ ?_
  exact (kept.and distinct).imp fun both => lt_of_le_of_ne both.1 both.2

/-- The bars of the complete groups have the times of their last minutes. -/
theorem times_groupBars : (groupBars floats rows).map Bar.time =
    (completeGroups rows).map fun group => 300000 * group + 240000 := by
  have all : ∀ group ∈ completeGroups rows, Complete rows group :=
    fun group => mem_completeGroups.mp
  unfold groupBars
  generalize completeGroups rows = groups at all
  induction groups with
  | nil => rfl
  | cons group rest ih =>
    obtain ⟨bar, made, time⟩ := (all group List.mem_cons_self).bar floats
    rw [List.filterMap_cons, made, List.map_cons, List.map_cons, time]
    rw [ih fun other member => all other (List.mem_cons_of_mem _ member)]

/-- The bars of regular rows are those of the complete groups. -/
theorem Regular.bars (regular : Regular rows) (sorted : InOrder rows) :
    to5mBars floats rows = groupBars floats rows := by
  have rising : InOrder (groupBars floats rows) := by
    refine List.pairwise_map.mp (?_ : ((groupBars floats rows).map Bar.time).Pairwise (· < ·))
    rw [times_groupBars]
    refine List.pairwise_map.mpr (sorted.completeGroups.imp fun less => ?_)
    omega
  refine List.Pairwise.eq_of_mem_iff sorted.bars rising fun bar => ?_
  rw [sorted.bars_iff.mpr regular bar]
  unfold groupBars
  rw [List.mem_filterMap]
  constructor
  · rintro ⟨group, made⟩
    obtain ⟨_, _, _, _, _, -, complete, -⟩ := groupBar_eq_some_iff.mp made
    exact ⟨group, mem_completeGroups.mpr complete, made⟩
  · rintro ⟨group, -, made⟩
    exact ⟨group, made⟩

/-- Two lists of complete groups have bars of one time at a position exactly if they have the same
group there. -/
theorem time_eq_iff {others : List (Bar F)} (k : Nat) :
    (groupBars floats rows)[k]?.map Bar.time = (groupBars floats others)[k]?.map Bar.time ↔
      (completeGroups rows)[k]? = (completeGroups others)[k]? := by
  have injective : Function.Injective fun group : Int => 300000 * group + 240000 := by
    intro first second same
    dsimp only at same
    omega
  rw [← List.getElem?_map, ← List.getElem?_map, times_groupBars, times_groupBars,
    List.getElem?_map, List.getElem?_map]
  exact (Option.map_injective injective).eq_iff

/-- There are as many bars of complete groups as complete groups. -/
theorem length_groupBars : (groupBars floats rows).length = (completeGroups rows).length := by
  have same := congrArg List.length (@times_groupBars F floats rows)
  rwa [List.length_map, List.length_map] at same

/-- The bar behind a position is the first one that is later than the bar there. -/
theorem InOrder.find_next {bars : List (Bar F)} (sorted : InOrder bars) {k : Nat} {now next : Bar F}
    (atNow : bars[k]? = some now) (atNext : bars[k + 1]? = some next) :
    bars.find? (now.time < ·.time) = some next := by
  induction bars generalizing k with
  | nil => cases atNow
  | cons bar rest ih =>
    obtain ⟨first, sorted⟩ := List.pairwise_cons.mp sorted
    cases k with
    | zero =>
      obtain rfl := Option.some.inj atNow
      cases rest with
      | nil => cases atNext
      | cons other rest =>
        obtain rfl := Option.some.inj atNext
        have later := first other List.mem_cons_self
        simp [later]
    | succ k =>
      have before := first now (List.mem_of_getElem? atNow)
      rw [List.find?_cons_of_neg (by simpa using before.le)]
      exact ih sorted atNow atNext

end Bars

/-- The positions of the bars that the return and the liquidity at an index are taken from: their
common end, and the start of each. -/
def ForwardSpec.windowEnds (spec : ForwardSpec) (idx : Nat) : List Nat :=
  [idx, idx - spec.lookbackBars, idx + 1 - spec.liquidityWindowBars]

namespace ForwardState

variable (floats : Floats F) (spec : ForwardSpec) (state : ForwardState F)

/-- The time of the bar of a symbol at a position. -/
def barTime (symbol : String) (position : Nat) : Option Int :=
  (((state.barsBySymbol floats spec symbol).getD [])[position]?).map Bar.time

/-- The bars of the complete groups of a symbol of the universe. -/
def groupsBySymbol (symbol : String) : Option (List (Bar F)) :=
  if symbol ∈ spec.universe_ then some (groupBars floats (state.load1mRows symbol)) else none

/-- Every bar of a symbol is one of a complete group, and every complete group has its bar. -/
def OfGroups : Prop :=
  ∀ symbol bar, bar ∈ to5mBars floats (state.load1mRows symbol) ↔
    ∃ group, groupBar floats (state.load1mRows symbol) group = some bar

/-- Two states have the same rows of a symbol but for those of a group. -/
def SameBut (after : ForwardState F) (symbol : String) (group : Int) : Prop :=
  ∀ row : Bar F, row.time / 300000 ≠ group →
    (row ∈ state.load1mRows symbol ↔ row ∈ after.load1mRows symbol)

end ForwardState

/-- Symbols are compared at the same time, and bars are not rewritten: before and after a change,
the bars are those of the complete groups, so that a group that is not changed keeps its bar;
where a basket is decided, the symbols that are scored have their windows where the reference has
them; and a trade is entered with the bar behind the reference bar. -/
structure ComparedInTime (floats : Floats F) (state after : ForwardState F) (idx : Nat) : Prop where
  bars : state.OfGroups floats
  barsAfter : after.OfGroups floats
  kept : ∀ symbol group, state.SameBut after symbol group → ∀ other ≠ group, ∀ bar,
    groupBar floats (state.load1mRows symbol) other = some bar →
    (bar ∈ to5mBars floats (state.load1mRows symbol) ↔
      bar ∈ to5mBars floats (after.load1mRows symbol))
  windows : ∀ basket,
    decideRebalance floats strategySpec (state.barsBySymbol floats strategySpec) idx =
      some basket →
    ∀ member ∈ scored floats strategySpec (state.barsBySymbol floats strategySpec) idx,
    ∀ position ∈ strategySpec.windowEnds idx,
      state.barTime floats strategySpec member.2 position =
        state.barTime floats strategySpec "BTCUSDT" position
  entry : ∀ polled : ForwardState F, polled.minutes = state.minutes →
    polled.decisionIdx strategySpec = idx →
    ∀ decision, polled.decision floats strategySpec = some decision →
    ∀ trade, .openTrade trade ∈ polled.openings floats strategySpec decision →
    ∃ bar, ((polled.barsBySymbol floats strategySpec trade.symbol).getD []).find?
        (decision.decidedAtMs < ·.time) = some bar ∧
      trade.entryTimeMs = bar.time ∧ trade.entryPrice = bar.open_

/-- The rows are regular before and after the change, and where the reference has a complete group
at the index and enough symbols are scored there, each of them has the complete groups of the
reference at the ends of its windows. -/
structure InStep (floats : Floats F) (state after : ForwardState F) (idx : Nat) : Prop where
  regular : ∀ symbol, Regular (state.load1mRows symbol)
  regularAfter : ∀ symbol, Regular (after.load1mRows symbol)
  level : idx < (completeGroups (state.load1mRows "BTCUSDT")).length →
    strategySpec.minEligibleForRebalance ≤
      (scored floats strategySpec (state.groupsBySymbol floats strategySpec) idx).length →
    ∀ member ∈ scored floats strategySpec (state.groupsBySymbol floats strategySpec) idx,
    ∀ position ∈ strategySpec.windowEnds idx,
      (completeGroups (state.load1mRows member.2))[position]? =
        (completeGroups (state.load1mRows "BTCUSDT"))[position]?

namespace ForwardState

variable {floats : Floats F} {spec : ForwardSpec} {state after : ForwardState F}

/-- The minutes of a symbol are loaded in the order of their times. -/
theorem inOrder_load1mRows (symbol : String) : InOrder (state.load1mRows symbol) := by
  have sorted : (state.load1mRows symbol).Pairwise fun first second =>
      first.time ≤ second.time := by
    have total := @List.pairwise_mergeSort _ (fun first second : Bar F =>
      decide (first.time ≤ second.time)) (by simp; omega) (by simp; omega)
        ((state.minutes.rows.filter fun row => row.symbol = symbol).map StoredMinute.minute)
    exact total.imp of_decide_eq_true
  have distinct : (state.load1mRows symbol).Pairwise fun first second =>
      first.time ≠ second.time := by
    have keys : state.minutes.rows.Pairwise fun one other => one.key ≠ other.key :=
      List.pairwise_map.mp state.minutes.distinct
    -- Two rows of the symbol differ in their keys, so they differ in their times.
    have mine : ((state.minutes.rows.filter fun row => row.symbol = symbol).map
        StoredMinute.minute).Pairwise fun first second => first.time ≠ second.time := by
      refine List.pairwise_map.mpr (List.pairwise_filter.mpr (keys.imp ?_))
      intro one other apart hereOne hereOther same
      refine apart (Prod.ext ?_ same)
      exact (of_decide_eq_true hereOne).trans (of_decide_eq_true hereOther).symm
    exact (List.mergeSort_perm _ _).symm.pairwise mine fun apart => apart.symm
  exact (sorted.and distinct).imp fun both => lt_of_le_of_ne both.1 both.2

/-- The bars of regular rows are those of the complete groups, for every symbol. -/
theorem barsBySymbol_of_regular (regular : ∀ symbol, Regular (state.load1mRows symbol)) :
    state.barsBySymbol floats spec = state.groupsBySymbol floats spec := by
  funext symbol
  unfold barsBySymbol groupsBySymbol
  rw [(regular symbol).bars (inOrder_load1mRows symbol)]

/-- The bars are those of the complete groups exactly if the rows are regular. -/
theorem ofGroups_iff : state.OfGroups floats ↔ ∀ symbol, Regular (state.load1mRows symbol) :=
  forall_congr' fun symbol => (inOrder_load1mRows symbol).bars_iff

variable {symbol : String}

/-- A group that is not changed has the same bar before and after. -/
theorem groupBar_of_sameBut {group other : Int}
    (same : state.SameBut after symbol group) (different : other ≠ group) :
    groupBar floats (state.load1mRows symbol) other =
      groupBar floats (after.load1mRows symbol) other := by
  have rows : groupRows (state.load1mRows symbol) other =
      groupRows (after.load1mRows symbol) other := by
    refine List.Pairwise.eq_of_mem_iff ((inOrder_load1mRows symbol).filter _)
      ((inOrder_load1mRows symbol).filter _) fun row => ?_
    unfold groupRows
    rw [List.mem_filter, List.mem_filter]
    refine and_congr_left fun inside => same row ?_
    rwa [of_decide_eq_true inside]
  refine Option.ext fun bar => ?_
  rw [groupBar_eq_some_iff, groupBar_eq_some_iff]
  unfold Complete
  rw [rows]

/-- A bar of a complete group is there before a change of another group exactly if it is there
afterwards. -/
theorem kept_of_ofGroups (bars : state.OfGroups floats) (barsAfter : after.OfGroups floats)
    {group other : Int} (same : state.SameBut after symbol group)
    (different : other ≠ group) {bar : Bar F}
    (made : groupBar floats (state.load1mRows symbol) other = some bar) :
    bar ∈ to5mBars floats (state.load1mRows symbol) ↔
      bar ∈ to5mBars floats (after.load1mRows symbol) := by
  have there : bar ∈ to5mBars floats (state.load1mRows symbol) := (bars symbol bar).mpr ⟨_, made⟩
  have later : bar ∈ to5mBars floats (after.load1mRows symbol) := by
    refine (barsAfter symbol bar).mpr ⟨other, ?_⟩
    rw [← groupBar_of_sameBut same different, made]
  exact iff_of_true there later

/-- The bars of a symbol of the universe have the times of its complete groups. -/
theorem barTime_eq_iff (regular : ∀ symbol, Regular (state.load1mRows symbol))
    (inside : symbol ∈ spec.universe_) (reference : "BTCUSDT" ∈ spec.universe_) (position : Nat) :
    state.barTime floats spec symbol position = state.barTime floats spec "BTCUSDT" position ↔
      (completeGroups (state.load1mRows symbol))[position]? =
        (completeGroups (state.load1mRows "BTCUSDT"))[position]? := by
  unfold barTime
  rw [barsBySymbol_of_regular regular, groupsBySymbol, groupsBySymbol, if_pos inside,
    if_pos reference, Option.getD_some, Option.getD_some]
  exact time_eq_iff position

/-- A basket is decided over regular rows exactly if the reference has a complete group at the
index, and enough symbols are scored there. -/
theorem exists_basket_iff (regular : ∀ symbol, Regular (state.load1mRows symbol))
    (reference : "BTCUSDT" ∈ spec.universe_) (some_ : 0 < spec.minEligibleForRebalance)
    (idx : Nat) :
    (∃ basket, decideRebalance floats spec (state.barsBySymbol floats spec) idx = some basket) ↔
      idx < (completeGroups (state.load1mRows "BTCUSDT")).length ∧
        spec.minEligibleForRebalance ≤
          (scored floats spec (state.groupsBySymbol floats spec) idx).length := by
  have btc : state.groupsBySymbol floats spec "BTCUSDT" =
      some (groupBars floats (state.load1mRows "BTCUSDT")) := if_pos reference
  rw [barsBySymbol_of_regular regular, ← @length_groupBars F floats]
  constructor
  · rintro ⟨basket, decided⟩
    obtain ⟨btcBars, btcNow, _, found, now, -, -, enough, -⟩ :=
      (decideRebalance_eq_some_iff floats spec).mp decided
    obtain rfl := Option.some.inj (btc.symm.trans found)
    exact ⟨(List.getElem?_eq_some_iff.mp now).1, enough⟩
  · rintro ⟨inside, enough⟩
    -- One of the symbols that are scored tells that there is enough history.
    obtain ⟨member, scored_⟩ := List.exists_mem_of_length_pos (some_.trans_le enough)
    obtain ⟨-, bars, -, made⟩ := (mem_scored floats spec).mp scored_
    have history := lookbackBars_le_of_score floats spec made
    have earlier : idx - spec.lookbackBars <
        (groupBars floats (state.load1mRows "BTCUSDT")).length := by omega
    exact ⟨_, (decideRebalance_eq_some_iff floats spec).mpr ⟨_, _, _, btc,
      List.getElem?_eq_getElem inside, history, List.getElem?_eq_getElem earlier, enough, rfl⟩⟩

/-- A trade that is opened is entered with the bar of its symbol that is the first one behind the
reference bar, if the symbols that are scored have bars of the time of the reference bar. -/
theorem entry_of_windows {idx : Nat} (level : ∀ basket,
      decideRebalance floats spec (state.barsBySymbol floats spec) idx = some basket →
      ∀ member ∈ scored floats spec (state.barsBySymbol floats spec) idx,
        state.barTime floats spec member.2 idx = state.barTime floats spec "BTCUSDT" idx)
    (due : state.decisionIdx spec = idx) {decision : RebalanceDecision}
    (decided : state.decision floats spec = some decision) {trade : ForwardTrade F}
    (opening : .openTrade trade ∈ state.openings floats spec decision) :
    ∃ bar, ((state.barsBySymbol floats spec trade.symbol).getD []).find?
        (decision.decidedAtMs < ·.time) = some bar ∧
      trade.entryTimeMs = bar.time ∧ trade.entryPrice = bar.open_ := by
  subst due
  unfold ForwardState.decision at decided
  dsimp only at decided
  split at decided
  · obtain ⟨basket, made, rfl⟩ := Option.map_eq_some_iff.mp decided
    obtain ⟨symbol, picked, opens⟩ := List.mem_filterMap.mp opening
    obtain ⟨entry, found, same⟩ := Option.map_eq_some_iff.mp opens
    cases same
    refine ⟨entry, ?_, rfl, rfl⟩
    obtain ⟨btcBars, btcNow, _, btc, now, -, -, -, whole⟩ :=
      (decideRebalance_eq_some_iff floats spec).mp made
    -- The symbol is one of those that are scored, so its bar at the index has the reference's time.
    have member : ∃ member ∈ scored floats spec (state.barsBySymbol floats spec)
        (state.decisionIdx spec), member.2 = symbol := by
      rw [whole] at picked
      obtain ⟨member, taken, same⟩ := List.mem_map.mp picked
      exact ⟨member, (floats.sorted _).mem_iff.mp (List.mem_of_mem_take taken), same⟩
    obtain ⟨member, scored_, rfl⟩ := member
    have together := level basket made member scored_
    have time : basket.decidedAtMs = btcNow.time := by rw [whole]
    have reference_ : state.barTime floats spec "BTCUSDT" (state.decisionIdx spec) =
        some btcNow.time := by
      rw [barTime, btc, Option.getD_some, now, Option.map_some]
    rw [reference_, barTime] at together
    obtain ⟨bar, atNow, sameTime⟩ := Option.map_eq_some_iff.mp together
    have sorted : InOrder ((state.barsBySymbol floats spec member.2).getD []) := by
      unfold barsBySymbol
      split
      · exact (inOrder_load1mRows member.2).bars
      · exact List.Pairwise.nil
    dsimp only
    rw [time, ← sameTime]
    exact sorted.find_next atNow found
  · cases decided

end ForwardState

/-- If symbols are compared at the same time and bars are not rewritten, the rows are in step. -/
theorem inStep_of_comparedInTime {floats : Floats F} {state after : ForwardState F} {idx : Nat}
    (compared : ComparedInTime floats state after idx) : InStep floats state after idx := by
  have regular := ForwardState.ofGroups_iff.mp compared.bars
  refine ⟨regular, ForwardState.ofGroups_iff.mp compared.barsAfter, ?_⟩
  intro inside enough member scored_ position ends
  have reference : "BTCUSDT" ∈ strategySpec.universe_ := by decide
  obtain ⟨basket, decided⟩ := (ForwardState.exists_basket_iff regular reference
    (by decide) idx).mpr ⟨inside, enough⟩
  have inside := ((mem_scored floats strategySpec).mp scored_).1
  rw [← ForwardState.barsBySymbol_of_regular regular] at scored_
  have times := compared.windows basket decided member scored_ position ends
  exact (ForwardState.barTime_eq_iff regular inside reference position).mp times

/-- Symbols are compared at the same time and bars are not rewritten exactly if the rows are in
step. -/
theorem comparedInTime_iff_inStep (floats : Floats F) (state after : ForwardState F) (idx : Nat) :
    ComparedInTime floats state after idx ↔ InStep floats state after idx := by
  constructor
  · exact inStep_of_comparedInTime
  · intro step
    have reference : "BTCUSDT" ∈ strategySpec.universe_ := by decide
    have bars : state.OfGroups floats := ForwardState.ofGroups_iff.mpr step.regular
    have barsAfter : after.OfGroups floats := ForwardState.ofGroups_iff.mpr step.regularAfter
    have windows : ∀ basket,
        decideRebalance floats strategySpec (state.barsBySymbol floats strategySpec) idx =
          some basket →
        ∀ member ∈ scored floats strategySpec (state.barsBySymbol floats strategySpec) idx,
        ∀ position ∈ strategySpec.windowEnds idx,
          state.barTime floats strategySpec member.2 position =
            state.barTime floats strategySpec "BTCUSDT" position := by
      intro basket decided member scored_ position ends
      obtain ⟨inside, enough⟩ := (ForwardState.exists_basket_iff step.regular reference
        (by decide) idx).mp ⟨basket, decided⟩
      rw [ForwardState.barsBySymbol_of_regular step.regular] at scored_
      have known := ((mem_scored floats strategySpec).mp scored_).1
      rw [ForwardState.barTime_eq_iff step.regular known reference]
      exact step.level inside enough member scored_ position ends
    refine ⟨bars, barsAfter, ?_, windows, ?_⟩
    · intro symbol group same other different bar made
      exact ForwardState.kept_of_ofGroups bars barsAfter same different made
    · intro polled same due decision decided trade opening
      -- The poll looks at the same rows.
      have rows : polled.barsBySymbol floats strategySpec =
          state.barsBySymbol floats strategySpec := by
        funext symbol
        simp only [ForwardState.barsBySymbol, ForwardState.load1mRows, same]
      refine ForwardState.entry_of_windows ?_ due decided opening
      intro basket made member scored_
      rw [rows] at made scored_
      unfold ForwardState.barTime
      rw [rows]
      exact windows basket made member scored_ idx List.mem_cons_self

/-- The rows of the first two groups of five minutes without the first minute. -/
def missingFirst : List (Bar ℚ) :=
  [flatBar 60000 20000, flatBar 120000 20000, flatBar 180000 20000, flatBar 240000 20000,
    flatBar 300000 20000, flatBar 360000 20000, flatBar 420000 20000, flatBar 480000 20000,
    flatBar 540000 20000]

/-- The state in which only the reference symbol has rows, and its first minute is missing. -/
def missingFirstState : ForwardState ℚ :=
  ForwardState.initial.applyAll rationals (["BTCUSDT"].map fun symbol =>
    .upsertBars symbol missingFirst)

/-- The minute that is missing makes a bar of five minutes that are no group. -/
theorem missingFirst_not_compared :
    ¬ComparedInTime rationals missingFirstState missingFirstState 2591 := by
  intro compared
  have sorted : missingFirst.Pairwise fun first second => first.time < second.time := by
    simp [missingFirst, flatBar]
  have loaded : missingFirstState.load1mRows "BTCUSDT" = missingFirst :=
    ForwardState.load1mRows_upserts (fun _ => rfl) sorted (List.nodup_singleton _)
      (List.mem_singleton_self _)
  have regular := (inStep_of_comparedInTime compared).regular "BTCUSDT"
  rw [loaded] at regular
  -- The first five rows span four minutes, but they start one minute late.
  have start := regular.only 0 (flatBar 60000 20000) (flatBar 300000 20000) (Nat.dvd_zero 5) rfl rfl
    (by decide)
  exact absurd start.1 (by decide)

end StrategyLab
