import StrategyLab.Lib.Json
import StrategyLab.Lib.Sorted
import Mathlib.Data.String.Basic

/-! JSON texts with sorted keys: the value that a reader gets back, whose keys are in order. -/

namespace Json

mutual

/-- The value with the fields of each object in the order of their keys. -/
def sortKeys : Json → Json
  | list items => list (sortItems items)
  | obj fields => obj (Py.sortedBy Prod.fst (sortFields fields))
  | value => value

/-- The items of a list with sorted keys. -/
def sortItems : List Json → List Json
  | [] => []
  | item :: rest => item.sortKeys :: sortItems rest

/-- The values under some keys with sorted keys. -/
def sortFields : List (String × Json) → List (String × Json)
  | [] => []
  | (key, value) :: rest => (key, value.sortKeys) :: sortFields rest

end

/-- The items of a list are sorted one by one. -/
theorem sortItems_eq (items : List Json) : sortItems items = items.map sortKeys := by
  induction items with
  | nil => rfl
  | cons item rest ih => rw [sortItems, ih, List.map_cons]

/-- The values under the keys are sorted one by one. -/
theorem sortFields_eq (fields : List (String × Json)) :
    sortFields fields = fields.map fun field => (field.1, field.2.sortKeys) := by
  induction fields with
  | nil => rfl
  | cons field rest ih => rw [sortFields, ih, List.map_cons]

/-- Sorting by the keys and sorting the values can change places. -/
theorem sortFields_sortedBy (fields : List (String × Json)) :
    sortFields (Py.sortedBy Prod.fst fields) = Py.sortedBy Prod.fst (sortFields fields) := by
  rw [sortFields_eq, sortFields_eq]
  exact List.map_insertionSort _ _ _ _ fun _ _ _ _ => Iff.rfl

mutual

/-- Keys that are sorted stay as they are. -/
theorem sortKeys_sortKeys : (value : Json) → value.sortKeys.sortKeys = value.sortKeys
  | null => rfl
  | bool _ => rfl
  | int _ => rfl
  | float _ => rfl
  | nan => rfl
  | infinity _ => rfl
  | str _ => rfl
  | list items => by
    rw [sortKeys, sortKeys, sortItems_sortItems items]
  | obj fields => by
    rw [sortKeys, sortKeys, sortFields_sortedBy, sortFields_sortFields fields]
    rw [Py.sortedBy_eq_self Prod.fst (Py.sortedBy_pairwise Prod.fst _)]

/-- So do the items of a list. -/
theorem sortItems_sortItems : (items : List Json) → sortItems (sortItems items) = sortItems items
  | [] => rfl
  | item :: rest => by
    rw [sortItems, sortItems, sortKeys_sortKeys item, sortItems_sortItems rest]

/-- And the values under some keys. -/
theorem sortFields_sortFields :
    (fields : List (String × Json)) → sortFields (sortFields fields) = sortFields fields
  | [] => rfl
  | (key, value) :: rest => by
    rw [sortFields, sortFields, sortKeys_sortKeys value, sortFields_sortFields rest]

end

/-- The first field of a key is the first one of those that have it. -/
theorem lookup_eq_filter (fields : List (String × Json)) (key : String) :
    fields.lookup key = ((fields.filter (·.1 = key)).head?).map (·.2) := by
  induction fields with
  | nil => rfl
  | cons field rest ih =>
    obtain ⟨name, value⟩ := field
    by_cases same : key = name
    · simp [same]
    · have other : (key == name) = false := beq_eq_false_iff_ne.mpr same
      rw [List.lookup_cons, other, List.filter_cons_of_neg (by simpa using Ne.symm same)]
      exact ih

/-- A key is found among sorted values as among the values. -/
theorem lookup_sortFields (fields : List (String × Json)) (key : String) :
    (sortFields fields).lookup key = (fields.lookup key).map sortKeys := by
  induction fields with
  | nil => rfl
  | cons field rest ih =>
    rw [sortFields, List.lookup_cons, List.lookup_cons, ih]
    cases key == field.1 <;> rfl

/-- Sorted keys are found as before, as fields of one key keep their order. -/
theorem lookup_sorted (fields : List (String × Json)) (key : String) :
    (Py.sortedBy Prod.fst (sortFields fields)).lookup key = (fields.lookup key).map sortKeys := by
  have kept : (Py.sortedBy Prod.fst (sortFields fields)).filter (·.1 = key) =
      (sortFields fields).filter (·.1 = key) := by
    rw [Py.filter_sortedBy]
    refine Py.sortedBy_eq_self _ (List.pairwise_of_forall_mem_list ?_)
    intro left first right second
    have one := (List.mem_filter.mp first).2
    have other := (List.mem_filter.mp second).2
    simp only [decide_eq_true_eq] at one other
    exact (one.trans other.symm).le
  rw [lookup_eq_filter, kept, ← lookup_eq_filter, lookup_sortFields]

/-- The value under a key is the sorted one. -/
theorem get?_sortKeys (value : Json) (key : String) :
    value.sortKeys.get? key = (value.get? key).map sortKeys := by
  cases value with
  | obj fields => exact lookup_sorted fields key
  | _ => rfl

/-- Sorting changes nothing but lists and objects, and leaves those what they are. -/
theorem truthy_sortKeys (value : Json) : value.sortKeys.truthy = value.truthy := by
  cases value with
  | list items => cases items <;> rfl
  | obj fields =>
    cases fields with
    | nil => rfl
    | cons field rest =>
      have filled : Py.sortedBy Prod.fst (sortFields (field :: rest)) ≠ [] := by
        intro none_
        have many := congrArg List.length none_
        simp [sortFields_eq] at many
      simp [sortKeys, truthy, List.isEmpty_eq_false_iff.mpr filled]
  | _ => rfl

end Json
