import StrategyLab.Learning.SortedPayloads
import Mathlib.Data.List.Pairwise
import Mathlib.Data.Prod.Lex

/-! The order in which a repository lists what it stores, and what it depends on. -/

namespace StrategyLab.Learning.InMemoryLearningRepository

/-- Whether an id is the float that is no number. -/
def isNaN : Json → Bool
  | .nan => true
  | _ => false

/-- Whether two ids can be compared, and are neither of them the float that is no number. -/
def AreRanked (left right : Json) : Prop :=
  areOrderable left right = true ∧ isNaN left = false ∧ isNaN right = false

/-- The place of an id among texts, and among numbers. -/
def idRank (ident : Json) : (ℤ ×ₗ ℚ) ×ₗ String :=
  toLex (((magnitude? ident).map toLex).getD (toLex (0, 0)), ident.text?.getD "")

/-- A number other than that float has a size. -/
theorem exists_magnitude {ident : Json} (number : isNumber ident = true)
    (proper : isNaN ident = false) :
    ∃ size, magnitude? ident = some size ∧ ident.text? = none := by
  cases ident with
  | nan => cases proper
  | null => cases number
  | str text => cases number
  | list items => cases number
  | obj fields => cases number
  | bool value => exact ⟨_, rfl, rfl⟩
  | int value => exact ⟨_, rfl, rfl⟩
  | float value => exact ⟨_, rfl, rfl⟩
  | infinity negative => exact ⟨_, rfl, rfl⟩

variable {left right : Json}

/-- Comparable ids are two texts or two numbers with a size. -/
theorem AreRanked.cases (ranked : AreRanked left right) :
    (∃ first second, left = .str first ∧ right = .str second) ∨
      ∃ first second, magnitude? left = some first ∧ magnitude? right = some second ∧
        left.text? = none ∧ right.text? = none ∧ isNumber left = true ∧ isNumber right = true := by
  obtain ⟨orderable, proper, proper'⟩ := ranked
  unfold areOrderable at orderable
  rw [Bool.or_eq_true, Bool.and_eq_true, Bool.and_eq_true] at orderable
  obtain ⟨first, second⟩ | ⟨first, second⟩ := orderable
  · left
    cases left <;> cases first
    cases right <;> cases second
    exact ⟨_, _, rfl, rfl⟩
  · obtain ⟨size, sized, silent⟩ := exists_magnitude first proper
    obtain ⟨size', sized', silent'⟩ := exists_magnitude second proper'
    exact .inr ⟨size, size', sized, sized', silent, silent', first, second⟩

/-- Comparable ids are compared by their places. -/
theorem AreRanked.idNotAfter_iff (ranked : AreRanked left right) :
    idNotAfter left right = true ↔ idRank left ≤ idRank right := by
  obtain ⟨first, second, rfl, rfl⟩ | ⟨first, second, sized, sized', silent, silent', here, there⟩ :=
    ranked.cases
  · simp [idNotAfter, idRank, Json.text?, magnitude?, Json.number?, Prod.Lex.toLex_le_toLex]
  · obtain ⟨side, size⟩ := first
    obtain ⟨side', size'⟩ := second
    simp only [idNotAfter, silent, silent', isBelow, here, there, sized, sized', idRank, Option.map_some,
      Option.getD_some, Option.getD_none, Bool.and_self, reduceIte, Except.toOption]
    simp only [Prod.Lex.toLex_le_toLex, Prod.Lex.toLex_lt_toLex]
    simp
    rcases lt_trichotomy side side' with less | rfl | more
    · simp [less, less.le, less.ne, less.ne']
    · simp [le_iff_lt_or_eq]
    · simp [more.not_gt, more.not_ge, more.ne']

/-- Numbers of one size are the same. -/
theorem same_of_magnitude_eq {size : ℤ × ℚ}
    (sized : magnitude? left = some size) (sized' : magnitude? right = some size) :
    left.same right = true := by
  have equal := sized.trans sized'.symm
  -- Infinite numbers have a side of their own, and finite ones are compared by their values.
  cases left <;> cases right <;>
    simp [magnitude?, Json.number?, Json.same] at equal sized sized' ⊢ <;> grind

/-- Comparable ids at one place are the same. -/
theorem AreRanked.same_of_idRank_eq (ranked : AreRanked left right)
    (place : idRank left = idRank right) : left.same right = true := by
  obtain ⟨first, second, rfl, rfl⟩ | ⟨first, second, sized, sized', silent, silent', here, there⟩ :=
    ranked.cases
  · have texts := congrArg (fun rank => (ofLex rank).2) place
    simpa [idRank, Json.text?, Json.same] using texts
  · have sizes := congrArg (fun rank => ofLex (ofLex rank).1) place
    simp only [idRank, sized, sized', Option.map_some, Option.getD_some, ofLex_toLex] at sizes
    exact same_of_magnitude_eq sized (sizes ▸ sized')

/-- No id comes after itself. -/
theorem idNotAfter_self (ident : Json) : idNotAfter ident ident = true := by
  unfold idNotAfter
  cases given : ident.text? with
  | some text => simp
  | none =>
    cases number : isNumber ident with
    | false => simp [isBelow, number, Except.toOption]
    | true =>
      cases sized : magnitude? ident with
      | none => simp [isBelow, number, sized, Except.toOption]
      | some size => simp [isBelow, number, sized, Except.toOption]

/-- Ids can be compared in both directions. -/
theorem AreRanked.symm (ranked : AreRanked left right) :
    AreRanked right left := by
  obtain ⟨orderable, proper, proper'⟩ := ranked
  refine ⟨?_, proper', proper⟩
  unfold areOrderable at orderable ⊢
  rw [Bool.or_eq_true, Bool.and_eq_true, Bool.and_eq_true] at orderable ⊢
  exact orderable.imp And.symm And.symm

section

variable {α : Type} (moment : α → ℚ) (ident : α → Json)

/-- The place of an item in time, and among those of its moment. -/
def place (item : α) : ℚ ×ₗ (ℤ ×ₗ ℚ) ×ₗ String := toLex (moment item, idRank (ident item))

/-- Whether items have one order: ids of one moment can be compared, and no place is taken twice. -/
structure Placed (items : List α) : Prop where
  ranked : items.Pairwise fun left right =>
    moment left ≠ moment right ∨ AreRanked (ident left) (ident right)
  distinct : (items.map (place moment ident)).Nodup

variable {moment ident}

/-- Items whose ids are different have different places. -/
theorem Placed.of_distinct {items : List α} (ranked : items.Pairwise fun left right =>
      moment left ≠ moment right ∨ AreRanked (ident left) (ident right))
    (distinct : items.Pairwise fun left right => (ident left).same (ident right) = false) :
    Placed moment ident items := by
  refine ⟨ranked, List.pairwise_map.mpr ((ranked.and distinct).imp ?_)⟩
  rintro left right ⟨apart | ranked, differs⟩ taken
  · exact apart (congrArg (fun place => (ofLex place).1) taken)
  · rw [ranked.same_of_idRank_eq (congrArg (fun place => (ofLex place).2) taken)] at differs
    cases differs

/-- The order does not depend on how the items came. -/
theorem Placed.perm {items items' : List α} (placed : Placed moment ident items)
    (same : items'.Perm items) : Placed moment ident items' where
  ranked := by
    refine (same.pairwise_iff ?_).mpr placed.ranked
    intro left right either
    exact either.imp Ne.symm AreRanked.symm
  distinct := (same.map _).nodup_iff.mpr placed.distinct

/-- Items that have one order are listed in it. -/
theorem sortByMoment_eq {items : List α} (placed : Placed moment ident items) :
    sortByMoment moment ident items = .ok (Py.sortedBy (place moment ident) items) := by
  have orderable := placed.ranked.imp (S := fun left right =>
    moment left ≠ moment right ∨ areOrderable (ident left) (ident right) = true)
    fun either => either.imp_right And.left
  rw [sortByMoment, if_pos orderable]
  -- Each comparison is one of places.
  have step (left right : α)
      (either : moment left ≠ moment right ∨ AreRanked (ident left) (ident right)) :
      isNotAfter moment ident left right =
        decide (place moment ident left ≤ place moment ident right) := by
    rw [Bool.eq_iff_iff, decide_eq_true_iff, place, place, Prod.Lex.toLex_le_toLex]
    simp only [isNotAfter, Bool.or_eq_true, Bool.and_eq_true, decide_eq_true_eq]
    refine or_congr_right (and_congr_right fun same => ?_)
    exact (either.resolve_left (not_not_intro same)).idNotAfter_iff
  have compared := List.Pairwise.forall_of_forall_of_flip
    (R := fun left right => isNotAfter moment ident left right =
      decide (place moment ident left ≤ place moment ident right))
    (l := items) (fun item _ => by simp [isNotAfter, idNotAfter_self])
    (placed.ranked.imp fun either => step _ _ either)
    (placed.ranked.imp fun either => step _ _ (either.imp Ne.symm AreRanked.symm))
  have merged : (items.mergeSort (isNotAfter moment ident)).map id = (items.map id).mergeSort
      fun left right => decide (place moment ident left ≤ place moment ident right) :=
    List.map_mergeSort fun left first right second => compared first second
  rw [List.map_id, List.map_id] at merged
  rw [merged]
  have same := (List.mergeSort_perm items fun left right =>
    decide (place moment ident left ≤ place moment ident right))
  have distinct := (same.map (place moment ident)).nodup_iff.mpr placed.distinct
  have rises : (items.mergeSort fun left right =>
      decide (place moment ident left ≤ place moment ident right)).Pairwise fun left right =>
        decide (place moment ident left ≤ place moment ident right) = true := by
    refine List.pairwise_mergeSort (fun _ _ _ below above => ?_) (fun left right => ?_) items
    · rw [decide_eq_true_iff] at below above ⊢
      exact below.trans above
    · rw [Bool.or_eq_true, decide_eq_true_iff, decide_eq_true_iff]
      exact le_total _ _
  exact congrArg Except.ok (Py.eq_of_perm_of_rising (same.trans (Py.sortedBy_perm _ _).symm)
    distinct (rises.imp of_decide_eq_true) (Py.sortedBy_pairwise _ _))

/-- Items are listed only if the ids of each moment can be compared. -/
theorem orderable_of_sortByMoment {items listed : List α}
    (done : sortByMoment moment ident items = .ok listed) :
    items.Pairwise fun left right =>
      moment left ≠ moment right ∨ areOrderable (ident left) (ident right) = true := by
  unfold sortByMoment at done
  split_ifs at done with orderable
  exact orderable

/-- What is listed are the items. -/
theorem perm_of_sortByMoment {items listed : List α}
    (done : sortByMoment moment ident items = .ok listed) : listed.Perm items := by
  unfold sortByMoment at done
  split_ifs at done
  rw [← Except.ok.inj done]
  exact List.mergeSort_perm _ _

/-- Items that came in another order are listed in the same one. -/
theorem sortedBy_place_perm {items items' : List α} (placed : Placed moment ident items)
    (same : items'.Perm items) :
    Py.sortedBy (place moment ident) items' = Py.sortedBy (place moment ident) items :=
  Py.eq_of_perm_of_rising
    ((Py.sortedBy_perm _ _).trans (same.trans (Py.sortedBy_perm _ _).symm))
    (((Py.sortedBy_perm _ _).map _).nodup_iff.mpr (placed.perm same).distinct)
    (Py.sortedBy_pairwise _ _) (Py.sortedBy_pairwise _ _)

/-- Changing what has no part in the order leaves the order. -/
theorem sortedBy_place_map (change : α → α)
    (kept : ∀ item, place moment ident (change item) = place moment ident item)
    (items : List α) :
    Py.sortedBy (place moment ident) (items.map change) =
      (Py.sortedBy (place moment ident) items).map change :=
  (List.map_insertionSort _ _ _ _ fun left _ right _ => by rw [kept, kept]).symm

end

end StrategyLab.Learning.InMemoryLearningRepository
