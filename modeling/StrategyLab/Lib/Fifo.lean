import Mathlib.Algebra.BigOperators.Group.List.Basic
import Mathlib.Algebra.Order.BigOperators.Group.List
import Mathlib.Algebra.Order.Field.Rat
import Mathlib.Data.List.Nodup
import Mathlib.Tactic.Linarith

/-! First in, first out: lots that are drawn from oldest first, and sums that are taken by label. -/

namespace Fifo

variable {α κ : Type*}

/-- A quantity that belongs to an owner. -/
structure Lot (α : Type*) where
  qty : ℚ
  owner : α

/-- The quantity of all lots whose owner meets a condition. -/
def held (cond : α → Bool) (lots : List (Lot α)) : ℚ :=
  ((lots.filter fun lot => cond lot.owner).map (·.qty)).sum

@[simp] theorem held_nil (cond : α → Bool) : held cond [] = 0 := rfl

/-- A lot in front counts exactly if its owner meets the condition. -/
@[simp] theorem held_cons (cond : α → Bool) (lot : Lot α) (lots : List (Lot α)) :
    held cond (lot :: lots) = (if cond lot.owner then lot.qty else 0) + held cond lots := by
  by_cases meets : cond lot.owner = true
  · simp [held, meets]
  · simp [held, meets]

/-- The lots of two lists count together. -/
@[simp] theorem held_append (cond : α → Bool) (first second : List (Lot α)) :
    held cond (first ++ second) = held cond first + held cond second := by
  simp [held, List.filter_append]

/-- Lots whose owners all miss the condition count nothing. -/
theorem held_eq_zero {cond : α → Bool} {lots : List (Lot α)}
    (missed : ∀ lot ∈ lots, cond lot.owner = false) : held cond lots = 0 := by
  rw [held, List.filter_eq_nil_iff.mpr]
  · rfl
  · intro lot member
    simp [missed lot member]

/-- What was drawn from lots: the parts that were taken, the lots left, and what was not there. -/
structure Drawn (α : Type*) where
  parts : List (Lot α)
  left : List (Lot α)
  missing : ℚ

/-- Take a quantity from lots, oldest first; what is not above the tolerance counts as nothing. -/
def draw (tolerance : ℚ) : ℚ → List (Lot α) → Drawn α
  | need, [] => ⟨[], [], need⟩
  | need, lot :: rest =>
    if need ≤ tolerance then ⟨[], lot :: rest, need⟩
    else
      let paired := min need lot.qty
      if lot.qty - paired ≤ tolerance then
        let later := draw tolerance (need - paired) rest
        ⟨⟨paired, lot.owner⟩ :: later.parts, later.left, later.missing⟩
      else
        -- A lot that is not used up has given all that was needed.
        ⟨[⟨paired, lot.owner⟩], ⟨lot.qty - paired, lot.owner⟩ :: rest, need - paired⟩

section Draw

variable {tolerance need : ℚ} {lots : List (Lot α)}

/-- The parts and what is missing are what was needed. -/
theorem draw_sum : ((draw tolerance need lots).parts.map (·.qty)).sum +
    (draw tolerance need lots).missing = need := by
  induction lots generalizing need with
  | nil => simp [draw]
  | cons lot rest ih =>
    rw [draw]
    split
    · simp
    · dsimp only
      split
      · have later := @ih (need - min need lot.qty)
        simp only [List.map_cons, List.sum_cons]
        linarith
      · simp

/-- No more is missing than was needed, and never less than nothing. -/
theorem draw_missing (wanted : 0 ≤ need) : 0 ≤ (draw tolerance need lots).missing := by
  induction lots generalizing need with
  | nil => exact wanted
  | cons lot rest ih =>
    have enough : 0 ≤ need - min need lot.qty := by
      have := min_le_left need lot.qty
      linarith
    rw [draw]
    split
    · exact wanted
    · dsimp only
      split
      · exact ih enough
      · exact enough

/-- Every part is taken from one of the lots and is more than nothing. -/
theorem draw_part (positive : ∀ lot ∈ lots, 0 < lot.qty) (tolerated : 0 ≤ tolerance) {part : Lot α}
    (member : part ∈ (draw tolerance need lots).parts) :
    0 < part.qty ∧ ∃ lot ∈ lots, lot.owner = part.owner := by
  induction lots generalizing need with
  | nil => cases member
  | cons lot rest ih =>
    rw [draw] at member
    split at member
    · cases member
    · rename_i above
      have taken : 0 < min need lot.qty :=
        lt_min (lt_of_le_of_lt tolerated (not_le.mp above)) (positive lot List.mem_cons_self)
      dsimp only at member
      split at member
      · rcases List.mem_cons.mp member with rfl | later
        · exact ⟨taken, lot, List.mem_cons_self, rfl⟩
        · obtain ⟨some_, from_, there, same⟩ :=
            ih (fun other inRest => positive other (List.mem_cons_of_mem _ inRest)) later
          exact ⟨some_, from_, List.mem_cons_of_mem _ there, same⟩
      · obtain rfl := List.mem_singleton.mp member
        exact ⟨taken, lot, List.mem_cons_self, rfl⟩

/-- Every lot that is left was there before and still holds something. -/
theorem draw_left (positive : ∀ lot ∈ lots, 0 < lot.qty) (tolerated : 0 ≤ tolerance) {lot : Lot α}
    (member : lot ∈ (draw tolerance need lots).left) :
    0 < lot.qty ∧ ∃ before ∈ lots, before.owner = lot.owner := by
  induction lots generalizing need with
  | nil => cases member
  | cons first rest ih =>
    rw [draw] at member
    split at member
    · exact ⟨positive lot member, lot, member, rfl⟩
    · dsimp only at member
      split at member
      · obtain ⟨some_, before, there, same⟩ :=
          ih (fun other inRest => positive other (List.mem_cons_of_mem _ inRest)) member
        exact ⟨some_, before, List.mem_cons_of_mem _ there, same⟩
      · rename_i remains
        rcases List.mem_cons.mp member with rfl | later
        · exact ⟨lt_of_le_of_lt tolerated (not_le.mp remains), first, List.mem_cons_self, rfl⟩
        · have there := List.mem_cons_of_mem first later
          exact ⟨positive lot there, lot, there, rfl⟩

/-- The owners of the lots that are left stand in their old order. -/
theorem draw_left_sublist :
    ((draw tolerance need lots).left.map (·.owner)).Sublist (lots.map (·.owner)) := by
  induction lots generalizing need with
  | nil => exact List.Sublist.refl _
  | cons lot rest ih =>
    rw [draw]
    split
    · exact List.Sublist.refl _
    · dsimp only
      split
      · exact (ih.cons _)
      · exact List.Sublist.refl _

/-- What is taken from some owners and what is left of them is not more than they had. -/
theorem held_draw (positive : ∀ lot ∈ lots, 0 < lot.qty) (cond : α → Bool) :
    held cond (draw tolerance need lots).parts + held cond (draw tolerance need lots).left ≤
      held cond lots := by
  induction lots generalizing need with
  | nil => simp [draw]
  | cons lot rest ih =>
    rw [draw]
    split
    · simp
    · dsimp only
      split
      · -- A remainder within the tolerance is dropped with its lot.
        have later := @ih (need - min need lot.qty)
          fun other inRest => positive other (List.mem_cons_of_mem _ inRest)
        have most := min_le_right need lot.qty
        simp only [held_cons]
        split
        · linarith
        · linarith
      · simp only [held_cons, held_nil]
        split
        · linarith
        · linarith

/-- The owners of the parts stand in the order of the lots. -/
theorem draw_parts_sublist :
    ((draw tolerance need lots).parts.map (·.owner)).Sublist (lots.map (·.owner)) := by
  induction lots generalizing need with
  | nil => exact List.Sublist.refl _
  | cons lot rest ih =>
    rw [draw]
    split
    · exact List.nil_sublist _
    · dsimp only
      split
      · exact ih.cons_cons _
      · exact (List.nil_sublist _).cons_cons _

/-- Parts are taken oldest first. -/
theorem draw_parts_rising {time : α → κ} [LinearOrder κ]
    (rising : (lots.map fun lot => time lot.owner).Pairwise (· < ·)) :
    ((draw tolerance need lots).parts.map fun part => time part.owner).Pairwise (· ≤ ·) := by
  have owners : ((lots.map (·.owner)).map time).Pairwise (· < ·) := by
    rwa [List.map_map]
  have taken := owners.sublist ((@draw_parts_sublist _ tolerance need lots).map time)
  rw [List.map_map] at taken
  exact taken.imp le_of_lt

/-- No lot that is left is older than a part. -/
theorem draw_behind {time : α → κ} [LinearOrder κ]
    (rising : (lots.map fun lot => time lot.owner).Pairwise (· < ·)) {part lot : Lot α}
    (member : part ∈ (draw tolerance need lots).parts)
    (left : lot ∈ (draw tolerance need lots).left) : time part.owner ≤ time lot.owner := by
  induction lots generalizing need with
  | nil => cases member
  | cons first rest ih =>
    rw [List.map_cons, List.pairwise_cons] at rising
    obtain ⟨older, restRising⟩ := rising
    have above (owner : α) (there : owner ∈ rest.map (·.owner)) :
        time first.owner ≤ time owner := by
      obtain ⟨other, inRest, rfl⟩ := List.mem_map.mp there
      exact le_of_lt (older _ (List.mem_map_of_mem inRest))
    rw [draw] at member left
    split at member
    · cases member
    · rename_i needed
      rw [if_neg needed] at left
      dsimp only at member left
      split at member
      · -- The first lot is used up, so every lot that is left is a later one.
        rename_i usedUp
        rw [if_pos usedUp] at left
        rcases List.mem_cons.mp member with rfl | later
        · exact above _ (draw_left_sublist.subset (List.mem_map_of_mem left))
        · exact ih restRising later left
      · rename_i remains
        rw [if_neg remains] at left
        obtain rfl := List.mem_singleton.mp member
        rcases List.mem_cons.mp left with rfl | later
        · exact le_refl _
        · exact above _ (List.mem_map_of_mem later)

/-- Naming the owners in another way changes nothing about what is drawn. -/
theorem draw_map {β : Type*} (rename : α → β) :
    draw tolerance need (lots.map fun lot => ⟨lot.qty, rename lot.owner⟩) =
      { parts := (draw tolerance need lots).parts.map fun lot => ⟨lot.qty, rename lot.owner⟩
        left := (draw tolerance need lots).left.map fun lot => ⟨lot.qty, rename lot.owner⟩
        missing := (draw tolerance need lots).missing } := by
  induction lots generalizing need with
  | nil => rfl
  | cons lot rest ih =>
    rw [List.map_cons, draw, draw]
    by_cases enough : need ≤ tolerance
    · simp [enough]
    · dsimp only
      by_cases usedUp : lot.qty - min need lot.qty ≤ tolerance
      · simp only [enough, usedUp, ih, if_true, if_false, List.map_cons]
      · simp [enough, usedUp]

end Draw

section Grouping

variable {ι γ : Type*} [DecidableEq κ]

/-- A sum splits into the items that meet a condition and those that do not. -/
theorem sum_filter_add (items : List ι) (cond : ι → Bool) (weight : ι → ℚ) :
    ((items.filter cond).map weight).sum + ((items.filter (!cond ·)).map weight).sum =
      (items.map weight).sum := by
  rw [← List.sum_append, ← List.map_append]
  exact ((List.filter_append_perm cond items).map weight).sum_eq

/-- A sum over items is taken group by group, if every item has the label of one of the groups. -/
theorem sum_grouped {items : List ι} {groups : List γ} {label : ι → κ} {name : γ → κ}
    (weight : ι → ℚ) (distinct : (groups.map name).Nodup)
    (covered : ∀ item ∈ items, ∃ group ∈ groups, name group = label item) :
    (items.map weight).sum =
      (groups.map fun group =>
        ((items.filter (label · = name group)).map weight).sum).sum := by
  induction groups generalizing items with
  | nil =>
    -- Without groups there is no item.
    have none_ : items = [] := by
      rw [List.eq_nil_iff_forall_not_mem]
      intro item member
      obtain ⟨_, absent, -⟩ := covered item member
      cases absent
    simp [none_]
  | cons group rest ih =>
    rw [List.map_cons, List.nodup_cons] at distinct
    obtain ⟨apart, distinct⟩ := distinct
    rw [List.map_cons, List.sum_cons, ← sum_filter_add items (label · = name group) weight]
    congr 1
    -- The items of other labels are those of the other groups.
    rw [ih distinct]
    · congr 1
      refine List.map_congr_left fun other member => ?_
      rw [List.filter_filter]
      congr 2
      refine List.filter_congr fun item _ => ?_
      by_cases named : label item = name other
      · have different : name other ≠ name group := by
          intro same
          exact apart (same ▸ List.mem_map_of_mem member)
        simp [named, different]
      · simp [named]
    · intro item member
      rw [List.mem_filter] at member
      obtain ⟨there, other⟩ := member
      obtain ⟨found, inGroups, same⟩ := covered item there
      rcases List.mem_cons.mp inGroups with rfl | inRest
      · simp [same] at other
      · exact ⟨found, inRest, same⟩

end Grouping

end Fifo
