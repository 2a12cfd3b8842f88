import Mathlib.Algebra.GroupWithZero.Nat
import Mathlib.Data.List.Basic

/-! Lists put together with a separator between them: when the parts can be told from the whole. -/

namespace Lines

variable {α : Type*} {sep : α}

/-- Two parts or more start with the first one and the separator. -/
theorem intercalate_cons_cons (sep : α) (first second : List α) (rest : List (List α)) :
    [sep].intercalate (first :: second :: rest) =
      first ++ sep :: [sep].intercalate (second :: rest) := by
  simp [List.intercalate]

/-- What stands before the first separator, and what stands behind it, are told by the whole. -/
theorem cut_unique {front front' back back' : List α} (clean : sep ∉ front)
    (clean' : sep ∉ front') (whole : front ++ sep :: back = front' ++ sep :: back') :
    front = front' ∧ back = back' := by
  induction front generalizing front' with
  | nil =>
    cases front' with
    | nil => exact ⟨rfl, (List.cons.inj whole).2⟩
    | cons first rest => exact absurd (List.cons.inj whole).1 fun same => clean' (same ▸ .head _)
  | cons first rest ih =>
    cases front' with
    | nil => exact absurd (List.cons.inj whole).1.symm fun same => clean (same ▸ .head _)
    | cons first' rest' =>
      obtain ⟨rfl, later⟩ := List.cons.inj whole
      obtain ⟨rfl, ends⟩ := ih (fun inside => clean (.tail _ inside))
        (fun inside => clean' (.tail _ inside)) later
      exact ⟨rfl, ends⟩

variable [DecidableEq α]

/-- Parts without a separator are told by their whole. -/
theorem eq_of_free {parts others : List (List α)} (free : ∀ part ∈ parts, sep ∉ part)
    (free' : ∀ other ∈ others, sep ∉ other) (filled : parts ≠ []) (filled' : others ≠ [])
    (whole : [sep].intercalate others = [sep].intercalate parts) : others = parts := by
  rw [← List.splitOn_intercalate sep free filled, ← whole,
    List.splitOn_intercalate sep free' filled']

/-- The separators in the whole are those between the parts and those in them. -/
theorem count_intercalate (sep : α) {parts : List (List α)} (filled : parts ≠ []) :
    ([sep].intercalate parts).count sep + 1 =
      parts.length + (parts.map fun part => part.count sep).sum := by
  induction parts with
  | nil => exact absurd rfl filled
  | cons first rest ih =>
    cases rest with
    | nil => simp [List.intercalate_singleton, Nat.add_comm]
    | cons second rest =>
      have later := ih (List.cons_ne_nil second rest)
      rw [intercalate_cons_cons, List.count_append, List.count_cons_self]
      simp only [List.map_cons, List.sum_cons, List.length_cons] at later ⊢
      omega

/-- Parts without a separator are the only ones, as many as they are, that make up their whole. -/
theorem eq_of_intercalate_eq {parts others : List (List α)} (free : ∀ part ∈ parts, sep ∉ part)
    (filled : parts ≠ []) (many : others.length = parts.length)
    (whole : [sep].intercalate others = [sep].intercalate parts) : others = parts := by
  have filled' : others ≠ [] := by
    intro empty
    rw [empty] at many
    exact filled (List.length_eq_zero_iff.mp many.symm)
  -- The whole has no separator to spare, so the others have none in them either.
  have here := count_intercalate sep filled
  have there := count_intercalate sep filled'
  have clean : (parts.map fun part => part.count sep).sum = 0 := by
    rw [List.sum_eq_zero_iff_forall_eq_nat]
    intro count member
    obtain ⟨part, present, rfl⟩ := List.mem_map.mp member
    exact List.count_eq_zero_of_not_mem (free part present)
  have free' : ∀ other ∈ others, sep ∉ other := by
    intro other member
    have none_ : (others.map fun part => part.count sep).sum = 0 := by
      rw [whole] at there
      omega
    rw [List.sum_eq_zero_iff_forall_eq_nat] at none_
    exact List.count_eq_zero.mp (none_ _ (List.mem_map.mpr ⟨other, member, rfl⟩))
  exact eq_of_free free free' filled filled' whole

/-- A separator in one of several parts can be moved: other parts make up the same whole. -/
theorem exists_others {parts : List (List α)} (several : 2 ≤ parts.length)
    (inside : ∃ part ∈ parts, sep ∈ part) :
    ∃ others, others.length = parts.length ∧ others ≠ parts ∧
      [sep].intercalate others = [sep].intercalate parts := by
  obtain ⟨part, member, present⟩ := inside
  induction parts with
  | nil => cases member
  | cons first rest ih =>
    obtain _ | ⟨second, rest⟩ := rest
    · simp at several
    by_cases front : sep ∈ first
    · -- What follows the separator goes to the second part.
      obtain ⟨before, after, rfl⟩ := List.append_of_mem front
      refine ⟨before :: (after ++ sep :: second) :: rest, rfl, ?_, ?_⟩
      · intro same
        have shorter := congrArg List.length (List.cons.inj same).1
        simp at shorter
      · cases rest with
        | nil => simp [List.intercalate]
        | cons third rest => simp [List.intercalate]
    · have later : part ∈ second :: rest := by
        obtain here | later := List.mem_cons.mp member
        · exact absurd (here ▸ present) front
        · exact later
      cases rest with
      | nil =>
        -- What precedes the separator in the last part goes to the part before it.
        obtain rfl := List.mem_singleton.mp later
        obtain ⟨before, after, rfl⟩ := List.append_of_mem present
        refine ⟨[first ++ sep :: before, after], rfl, ?_, by simp [List.intercalate]⟩
        intro same
        have shorter := congrArg List.length (List.cons.inj same).1
        simp at shorter
      | cons third rest =>
        obtain ⟨others, many, differs, whole⟩ := ih (by simp) later
        obtain _ | ⟨other, more⟩ := others
        · simp at many
        refine ⟨first :: other :: more, by simpa using many, ?_, ?_⟩
        · intro same
          exact differs (List.cons.inj same).2
        · rw [intercalate_cons_cons, whole, ← intercalate_cons_cons]

/-- Several parts are the only ones that make up their whole exactly if none has a separator. -/
theorem unique_iff_free (sep : α) {parts : List (List α)} (several : 2 ≤ parts.length) :
    (∀ others : List (List α), others.length = parts.length →
      [sep].intercalate others = [sep].intercalate parts → others = parts) ↔
      ∀ part ∈ parts, sep ∉ part := by
  constructor
  · intro unique part member present
    obtain ⟨others, many, differs, whole⟩ := exists_others several ⟨part, member, present⟩
    exact differs (unique others many whole)
  · intro free others many whole
    have filled : parts ≠ [] := by
      intro empty
      simp [empty] at several
    exact eq_of_intercalate_eq free filled many whole

end Lines
