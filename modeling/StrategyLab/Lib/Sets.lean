import Mathlib.Data.List.Dedup

/-! Sets whose elements are visited in an order of their own. -/

namespace Py

variable {α β : Type*} [DecidableEq α]

/-- An order in which the sets of some items may be visited: every item once. -/
structure SetOrder (α : Type*) [DecidableEq α] where
  iterate : List α → List α
  perm : ∀ items, (iterate items).Perm items.dedup

namespace SetOrder

/-- What a set visits are the items it was made of. -/
@[simp] theorem mem_iterate (order : SetOrder α) {items : List α} {item : α} :
    item ∈ order.iterate items ↔ item ∈ items := by
  rw [(order.perm items).mem_iff, List.mem_dedup]

/-- A set visits nothing exactly if it was made of nothing. -/
@[simp] theorem iterate_eq_nil (order : SetOrder α) {items : List α} :
    order.iterate items = [] ↔ items = [] := by
  simp only [List.eq_nil_iff_forall_not_mem, mem_iterate]

/-- Visit one item first wherever it occurs. -/
def visitFirst (item : α) : SetOrder α where
  iterate items := if item ∈ items then item :: items.dedup.erase item else items.dedup
  perm items := by
    split
    · rename_i member
      exact (List.perm_cons_erase (List.mem_dedup.mpr member)).symm
    · exact List.Perm.refl _

/-- The item that is to be first is first where it occurs. -/
theorem iterate_visitFirst {item : α} {items : List α} (member : item ∈ items) :
    (visitFirst item).iterate items = item :: items.dedup.erase item :=
  if_pos member

end SetOrder

omit [DecidableEq α] in
/-- The first result among items that all give the same one is that of any list of them. -/
theorem findSome?_congr_of_agree {read : α → Option β} {left right : List α}
    (same : ∀ item, item ∈ left ↔ item ∈ right)
    (agree : ∀ first ∈ left, ∀ second ∈ left, ∀ one, read first = some one →
      ∀ other, read second = some other → one = other) :
    left.findSome? read = right.findSome? read := by
  cases found : left.findSome? read with
  | none =>
    -- Nothing is read from any item of either list.
    rw [List.findSome?_eq_none_iff] at found
    refine (List.findSome?_eq_none_iff.mpr ?_).symm
    intro item member
    exact found item ((same item).mpr member)
  | some one =>
    obtain ⟨first, member, reads⟩ := List.exists_of_findSome?_eq_some found
    cases other : right.findSome? read with
    | none =>
      rw [List.findSome?_eq_none_iff] at other
      rw [other first ((same first).mp member)] at reads
      cases reads
    | some two =>
      obtain ⟨second, there, also_⟩ := List.exists_of_findSome?_eq_some other
      rw [agree first member second ((same second).mpr there) one reads two also_]

end Py
