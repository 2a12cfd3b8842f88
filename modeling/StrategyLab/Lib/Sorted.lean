import Mathlib.Data.List.Sort
import Mathlib.Data.List.Nodup
import Mathlib.Order.Defs.LinearOrder

/-! Lists sorted by a key: how a sorted list splits at a key, and when two sortings agree. -/

namespace Py

variable {α κ : Type*} [LinearOrder κ] (key : α → κ)

/-- The built-in `sorted` with a key: items with equal keys keep their order. -/
def sortedBy (items : List α) : List α :=
  items.insertionSort fun left right => key left ≤ key right

instance keyTotal : Std.Total fun left right : α => key left ≤ key right :=
  ⟨fun left right => le_total (key left) (key right)⟩

instance keyTrans : IsTrans α fun left right => key left ≤ key right :=
  ⟨fun _ _ _ => le_trans⟩

/-- Sorting reorders the items. -/
theorem sortedBy_perm (items : List α) : (sortedBy key items).Perm items :=
  List.perm_insertionSort _ items

variable {items : List α}

/-- Sorting keeps the items. -/
@[simp] theorem mem_sortedBy {item : α} :
    item ∈ sortedBy key items ↔ item ∈ items :=
  (sortedBy_perm key items).mem_iff

/-- Sorting keeps the number of items. -/
@[simp] theorem length_sortedBy (items : List α) : (sortedBy key items).length = items.length :=
  (sortedBy_perm key items).length_eq

/-- The keys of a sorted list never fall. -/
theorem sortedBy_pairwise (items : List α) :
    (sortedBy key items).Pairwise fun left right => key left ≤ key right :=
  List.pairwise_insertionSort _ items

/-- An item with a smaller key comes before one with a larger key. -/
theorem rel_of_key_lt {rel : α → α → Prop}
    (holds : (sortedBy key items).Pairwise rel) {one other : α} (first : one ∈ items)
    (second : other ∈ items) (less : key one < key other) : rel one other := by
  have rises := List.pairwise_iff_getElem.mp (sortedBy_pairwise key items)
  rw [← mem_sortedBy key] at first second
  obtain ⟨i, inside, rfl⟩ := List.mem_iff_getElem.mp first
  obtain ⟨j, below, rfl⟩ := List.mem_iff_getElem.mp second
  -- The keys rise with the places.
  have before : i < j := by
    rcases lt_trichotomy i j with smaller | same | larger
    · exact smaller
    · subst same
      exact absurd less (lt_irrefl _)
    · exact absurd less (rises j i below inside larger).not_gt
  exact List.pairwise_iff_getElem.mp holds i j inside below before

/-- A list whose keys never fall is already sorted. -/
theorem sortedBy_eq_self (rising : items.Pairwise fun left right => key left ≤ key right) :
    sortedBy key items = items := rising.insertionSort_eq

/-- Inserting an item before the first larger key commutes with leaving out items. -/
theorem filter_orderedInsert {items : List α} {cond : α → Bool} (item : α)
    (rising : items.Pairwise fun left right => key left ≤ key right) :
    (items.orderedInsert (fun left right => key left ≤ key right) item).filter cond =
      if cond item then
        (items.filter cond).orderedInsert (fun left right => key left ≤ key right) item
      else items.filter cond := by
  induction items with
  | nil => simp [List.filter_cons]
  | cons first rest ih =>
    obtain ⟨least, rising⟩ := List.pairwise_cons.mp rising
    by_cases before : key item ≤ key first
    · -- The item goes in front of everything, also of what is left.
      have front : ((first :: rest).filter cond).orderedInsert
          (fun left right => key left ≤ key right) item = item :: (first :: rest).filter cond := by
        cases kept : (first :: rest).filter cond with
        | nil => rfl
        | cons other others =>
          have member : other ∈ first :: rest :=
            (List.mem_filter.mp (kept ▸ List.mem_cons_self : other ∈ (first :: rest).filter cond)).1
          have below : key item ≤ key other := by
            rcases List.mem_cons.mp member with rfl | later
            · exact before
            · exact before.trans (least other later)
          rw [List.orderedInsert_cons, if_pos below]
      rw [List.orderedInsert_cons, if_pos before, front, List.filter_cons]
    · rw [List.orderedInsert_cons, if_neg before, List.filter_cons, ih rising, List.filter_cons]
      -- The first item stays in front of the inserted one when it is kept at all.
      split <;> split
      · rw [List.orderedInsert_cons, if_neg before]
      · rfl
      · rfl
      · rfl

/-- Sorting is stable, so it commutes with leaving out items. -/
theorem filter_sortedBy (items : List α) (cond : α → Bool) :
    (sortedBy key items).filter cond = sortedBy key (items.filter cond) := by
  induction items with
  | nil => rfl
  | cons item rest ih =>
    have sorted := @filter_orderedInsert _ _ _ key _ cond item (sortedBy_pairwise key rest)
    simp only [sortedBy, List.insertionSort_cons] at ih sorted ⊢
    rw [sorted, ih, List.filter_cons]
    split
    · rw [List.insertionSort_cons]
    · rfl

variable {key}

/-- The items of a sorted list from a key on are its last ones. -/
theorem filter_suffix (rising : items.Pairwise fun left right => key left ≤ key right) (cut : κ) :
    items.filter (cut ≤ key ·) <:+ items := by
  induction items with
  | nil => exact List.suffix_refl _
  | cons item rest ih =>
    obtain ⟨least, rising⟩ := List.pairwise_cons.mp rising
    by_cases late : cut ≤ key item
    · have all : (item :: rest).filter (cut ≤ key ·) = item :: rest := by
        rw [List.filter_eq_self]
        intro other member
        rcases List.mem_cons.mp member with rfl | behind
        · simpa using late
        · simpa using late.trans (least other behind)
      exact ⟨[], by rw [all, List.nil_append]⟩
    · rw [List.filter_cons_of_neg (by simpa using late)]
      exact (ih rising).trans (List.suffix_cons item rest)

/-- The items of a strictly sorted list from the key of one of them on start with that one. -/
theorem filter_eq_drop
    (rising : items.Pairwise fun left right => key left < key right) {index : Nat} {item : α}
    (there : items[index]? = some item) : items.filter (key item ≤ key ·) = items.drop index := by
  induction items generalizing index with
  | nil => simp at there
  | cons first rest ih =>
    obtain ⟨least, rising⟩ := List.pairwise_cons.mp rising
    cases index with
    | zero =>
      obtain rfl := Option.some.inj there
      rw [List.drop_zero, List.filter_eq_self]
      intro other member
      rcases List.mem_cons.mp member with rfl | behind
      · simp
      · simpa using (least other behind).le
    | succ index =>
      have below : key first < key item := least item (List.mem_of_getElem? there)
      rw [List.filter_cons_of_neg (by simpa using below), List.drop_succ_cons, ih rising there]

/-- A list whose keys never fall consists of its items up to a key and then of the later ones. -/
theorem filter_append_filter
    (rising : items.Pairwise fun left right => key left ≤ key right) (cut : κ) :
    items.filter (key · ≤ cut) ++ items.filter (cut < key ·) = items := by
  induction items with
  | nil => rfl
  | cons item rest ih =>
    obtain ⟨first, rising⟩ := List.pairwise_cons.mp rising
    by_cases early : key item ≤ cut
    · have late : ¬cut < key item := not_lt.mpr early
      rw [List.filter_cons_of_pos (by simpa using early),
        List.filter_cons_of_neg (by simpa using late), List.cons_append, ih rising]
    · -- Once an item is later than the cut, so are all items behind it.
      have none : rest.filter (key · ≤ cut) = [] := by
        rw [List.filter_eq_nil_iff]
        intro other member
        simpa using lt_of_lt_of_le (not_le.mp early) (first other member)
      have all : rest.filter (cut < key ·) = rest := by
        rw [List.filter_eq_self]
        intro other member
        simpa using lt_of_lt_of_le (not_le.mp early) (first other member)
      rw [List.filter_cons_of_neg (by simpa using early), none,
        List.filter_cons_of_pos (by simpa using not_le.mp early), all, List.nil_append]

/-- A list whose keys never fall consists of the items before a key, those at it, and those behind
it. -/
theorem split_at_key (rising : items.Pairwise fun left right => key left ≤ key right) (cut : κ) :
    items = items.filter (key · < cut) ++
      (items.filter (key · = cut) ++ items.filter (cut < key ·)) := by
  -- The items up to the key split once more: none of those at it is in front of one before it.
  have upTo : items.filter (key · ≤ cut) =
      items.filter (key · < cut) ++ items.filter (key · = cut) := by
    induction items with
    | nil => rfl
    | cons item rest ih =>
      obtain ⟨first, rising⟩ := List.pairwise_cons.mp rising
      rcases lt_trichotomy (key item) cut with before | at_ | behind
      · simp [before, before.le, before.ne, ih rising]
      · have none_ : rest.filter (key · < cut) = [] := by
          rw [List.filter_eq_nil_iff]
          intro other member
          simpa [← at_] using first other member
        simp [at_, ih rising, none_]
      · simp [behind.not_gt, behind.not_ge, behind.ne', ih rising]
  rw [← List.append_assoc, ← upTo]
  exact (filter_append_filter rising cut).symm

/-- Two positions of a list whose keys rise hold the same key only if they are one. -/
theorem index_eq_of_key_eq {items : List α}
    (rising : items.Pairwise fun left right => key left < key right) {first second : Nat}
    {left right : α} (atFirst : items[first]? = some left) (atSecond : items[second]? = some right)
    (same : key left = key right) : first = second := by
  obtain ⟨insideFirst, rfl⟩ := List.getElem?_eq_some_iff.mp atFirst
  obtain ⟨insideSecond, rfl⟩ := List.getElem?_eq_some_iff.mp atSecond
  rcases Nat.lt_trichotomy first second with less | equal | greater
  · exact absurd same (List.pairwise_iff_getElem.mp rising _ _ _ _ less).ne
  · exact equal
  · exact absurd same (List.pairwise_iff_getElem.mp rising _ _ _ _ greater).ne'

variable {left right : List α}

/-- Lists with the same items, whose keys never fall and are distinct, are the same list. -/
theorem eq_of_perm_of_rising (same : left.Perm right) (distinct : (left.map key).Nodup)
    (risingLeft : left.Pairwise fun one other => key one ≤ key other)
    (risingRight : right.Pairwise fun one other => key one ≤ key other) : left = right := by
  refine same.eq_of_pairwise (fun one other inLeft inRight below above => ?_) risingLeft risingRight
  -- Two items with one key are the same item.
  exact List.inj_on_of_nodup_map distinct inLeft (same.mem_iff.mpr inRight)
    (le_antisymm below above)

/-- Sorting two lists gives the same items under a condition when the lists have the same ones. -/
theorem filter_sortedBy_congr {cond : α → Bool} (same : (left.filter cond).Perm (right.filter cond))
    (distinct : ((left.filter cond).map key).Nodup) :
    (sortedBy key left).filter cond = (sortedBy key right).filter cond := by
  have reordered (items : List α) :
      ((sortedBy key items).filter cond).Perm (items.filter cond) :=
    (sortedBy_perm key items).filter cond
  refine eq_of_perm_of_rising ((reordered left).trans (same.trans (reordered right).symm)) ?_
    ((sortedBy_pairwise key left).filter cond) ((sortedBy_pairwise key right).filter cond)
  exact (((reordered left).map key).nodup_iff).mpr distinct

/-- Lists without repetitions give a partial function the same values when they agree on the
members it is defined on. -/
theorem filterMap_perm {β : Type*} {f : α → Option β} (distinct : left.Nodup)
    (otherDistinct : right.Nodup) (agree : ∀ a, f a ≠ none → (a ∈ left ↔ a ∈ right)) :
    (left.filterMap f).Perm (right.filterMap f) := by
  have reduced (items : List α) :
      items.filterMap f = (items.filter fun a => (f a).isSome).filterMap f := by
    rw [List.filterMap_filter]
    refine List.filterMap_congr fun a _ => ?_
    cases f a <;> rfl
  rw [reduced left, reduced right]
  refine List.Perm.filterMap f ?_
  rw [List.perm_ext_iff_of_nodup (distinct.filter _) (otherDistinct.filter _)]
  intro a
  simp only [List.mem_filter, Option.isSome_iff_ne_none]
  constructor
  · exact fun ⟨member, defined⟩ => ⟨(agree a defined).mp member, defined⟩
  · exact fun ⟨member, defined⟩ => ⟨(agree a defined).mpr member, defined⟩

/-- Sorting brings the keys of the same items into the same order. -/
theorem map_key_sortedBy {left right : List α} (same : left.Perm right) :
    (sortedBy key left).map key = (sortedBy key right).map key := by
  have keys := ((sortedBy_perm key left).trans (same.trans (sortedBy_perm key right).symm)).map key
  exact keys.eq_of_pairwise (fun _ _ _ _ => le_antisymm)
    (List.pairwise_map.mpr (sortedBy_pairwise key left))
    (List.pairwise_map.mpr (sortedBy_pairwise key right))

/-- The first item by key is the same one among the same items, if no key is that of two. -/
theorem minOn?_eq_of_perm (same : left.Perm right)
    (apart : ∀ one ∈ left, ∀ other ∈ left, key one = key other → one = other) :
    left.minOn? key = right.minOn? key := by
  -- The key of the first item is below all others, in both lists.
  have least : ∀ {items : List α} {first item : α}, items.minOn? key = some first →
      item ∈ items → key first ≤ key item := by
    intro items first item found member
    have below := List.apply_get_minOn?_le_of_mem (f := key) member
    rwa [Option.get_of_eq_some _ found] at below
  cases found : left.minOn? key with
  | none =>
    cases other : right.minOn? key with
    | none => rfl
    | some first =>
      have some_ := List.isSome_minOn?_of_mem (f := key) (same.mem_iff.mpr (List.minOn?_mem other))
      rw [found] at some_
      cases some_
  | some first =>
    have member := List.minOn?_mem found
    obtain ⟨second, other⟩ := Option.isSome_iff_exists.mp
      (List.isSome_minOn?_of_mem (f := key) (same.mem_iff.mp member))
    have among := same.mem_iff.mpr (List.minOn?_mem other)
    rw [other, apart first member second among (le_antisymm (least found among)
      (least other (same.mem_iff.mp member)))]

/-- The largest item by key is the first one with its key. -/
theorem maxOn_first {items : List α} (some_ : items ≠ []) :
    ∃ before after, items = before ++ items.maxOn key some_ :: after ∧
      ∀ item ∈ before, key item < key (items.maxOn key some_) := by
  induction items with
  | nil => exact absurd rfl some_
  | cons first rest ih =>
    rw [List.maxOn_cons]
    split
    · rename_i empty
      exact ⟨[], rest, rfl, by simp⟩
    · rename_i more
      obtain ⟨before, after, whole, below⟩ := ih more
      by_cases least : key (rest.maxOn key more) ≤ key first
      · rw [maxOn_eq_left least]
        exact ⟨[], rest, rfl, by simp⟩
      · -- The first item is below the largest one of the rest.
        rw [maxOn_eq_right least]
        refine ⟨first :: before, after, congrArg (first :: ·) whole, ?_⟩
        intro item member
        rcases List.mem_cons.mp member with rfl | later
        · exact not_le.mp least
        · exact below item later

/-- The largest item by key, in a list that a relation orders, is the one that no other item with
its key comes before. -/
theorem maxOn_eq_of_first {items : List α} {best : α} {rel : α → α → Prop} (member : best ∈ items)
    (largest : ∀ other ∈ items, key other ≤ key best) (ordered : items.Pairwise rel)
    (first : ∀ other ∈ items, key other = key best → rel other best → other = best) :
    items.maxOn key (List.ne_nil_of_mem member) = best := by
  obtain ⟨before, after, whole, below⟩ := @maxOn_first _ _ _ key _ (List.ne_nil_of_mem member)
  have among : items.maxOn key (List.ne_nil_of_mem member) ∈ items := List.maxOn_mem
  have above := List.le_apply_maxOn_of_mem (f := key) member
  generalize items.maxOn key (List.ne_nil_of_mem member) = chosen at whole below among above
  have same : key chosen = key best := le_antisymm (largest chosen among) above
  rw [whole] at member ordered
  rcases List.mem_append.mp member with early | late
  · exact absurd same (below best early).ne'
  · rcases List.mem_cons.mp late with rfl | behind
    · rfl
    · have related := (List.pairwise_cons.mp (List.pairwise_append.mp ordered).2.1).1 best behind
      exact first chosen among same related

end Py
