import Mathlib.Data.List.Basic
import Mathlib.Data.List.Nodup
import Mathlib.Algebra.BigOperators.Group.List.Basic

/-! Keyed tables: rows with distinct primary keys, and the statements a database runs on them. -/

/-- A table whose rows have pairwise distinct primary keys. -/
structure Table {κ ρ : Type*} (key : ρ → κ) where
  /-- The rows, oldest insertion first. -/
  rows : List ρ
  /-- No two rows share a primary key. -/
  distinct : (rows.map key).Nodup

namespace Table

variable {κ ρ : Type*} {key : ρ → κ}

/-- Two tables with the same rows are the same table. -/
@[ext] theorem ext {left right : Table key} (same : left.rows = right.rows) : left = right := by
  cases left; cases right; simpa using same

/-- A table without rows. -/
def empty : Table key := ⟨[], List.nodup_nil⟩

@[simp] theorem empty_rows : (empty : Table key).rows = [] := rfl

/-- `UPDATE`: rewrite the rows that match, leaving every primary key alone. -/
def update (t : Table key) (hits : ρ → Bool) (change : ρ → ρ)
    (keeps : ∀ r, key (change r) = key r) : Table key where
  rows := t.rows.map fun r => if hits r then change r else r
  distinct := by
    -- The keys are the same list as before, since neither branch touches them.
    have same : (t.rows.map fun r => if hits r then change r else r).map key = t.rows.map key := by
      rw [List.map_map]
      refine List.map_congr_left fun r _ => ?_
      simp only [Function.comp_apply]
      split
      · exact keeps r
      · rfl
    rw [same]
    exact t.distinct

@[simp] theorem update_rows (t : Table key) (hits : ρ → Bool) (change : ρ → ρ)
    (keeps : ∀ r, key (change r) = key r) :
    (t.update hits change keeps).rows = t.rows.map fun r => if hits r then change r else r := rfl

/-- An update that makes no row countable and stops one row being counted lowers the count. -/
theorem countP_update_lt {t : Table key} {hits : ρ → Bool} {change : ρ → ρ}
    {keeps : ∀ r, key (change r) = key r} {counted : ρ → Bool} {r : ρ} (member : r ∈ t.rows)
    (hit : hits r) (before : counted r) (dropped : ¬counted (change r))
    (noNew : ∀ other, counted (change other) → counted other) :
    (t.update hits change keeps).rows.countP counted < t.rows.countP counted := by
  -- The other rows are counted at most as often as before, on either side of the dropped one.
  obtain ⟨left, right, split⟩ := List.append_of_mem member
  have weaker : ∀ rows : List ρ, (rows.map fun r => if hits r then change r else r).countP counted ≤
      rows.countP counted := by
    intro rows
    rw [List.countP_map]
    refine List.countP_mono_left fun other _ after => ?_
    simp only [Function.comp_apply] at after
    split at after
    · exact noNew other after
    · exact after
  have onLeft := weaker left
  have onRight := weaker right
  simp only [update_rows, split, List.map_append, List.map_cons, hit, if_true,
    List.countP_append, List.countP_cons, before, dropped]
  simp only [Bool.false_eq_true, if_false]
  omega

/-- A row with a key that is free can come last. -/
theorem nodup_append (t : Table key) (r : ρ) (free : key r ∉ t.rows.map key) :
    ((t.rows ++ [r]).map key).Nodup := by
  rw [List.map_append, List.map_singleton]
  refine List.nodup_append.mpr ⟨t.distinct, List.nodup_singleton _, ?_⟩
  intro k member other single same
  rw [List.mem_singleton] at single
  subst same single
  exact free member

variable [DecidableEq κ]

/-- `SELECT` by primary key. -/
def find? (t : Table key) (k : κ) : Option ρ := t.rows.find? fun r => key r = k

/-- `INSERT`: refused when the primary key is taken. -/
def insert? (t : Table key) (r : ρ) : Option (Table key) :=
  if taken : key r ∈ t.rows.map key then none
  else some
    { rows := t.rows ++ [r]
      distinct := nodup_append t r taken }

/-- `INSERT OR REPLACE`: a row with the same primary key is deleted first. -/
def replace (t : Table key) (r : ρ) : Table key where
  rows := t.rows.filter (fun old => key old ≠ key r) ++ [r]
  distinct := by
    rw [List.map_append, List.map_singleton]
    refine List.nodup_append.mpr ⟨t.distinct.sublist (List.filter_sublist.map key),
      List.nodup_singleton _, ?_⟩
    intro k member other single
    rw [List.mem_singleton.mp single]
    rintro rfl
    obtain ⟨old, kept, same⟩ := List.mem_map.mp member
    simp only [List.mem_filter, decide_eq_true_eq] at kept
    exact kept.2 same

@[simp] theorem find?_empty (k : κ) : (empty : Table key).find? k = none := rfl

/-- A lookup finds exactly the row that carries the key. -/
theorem find?_eq_some_iff {t : Table key} {k : κ} {r : ρ} :
    t.find? k = some r ↔ r ∈ t.rows ∧ key r = k := by
  constructor
  · intro found
    exact ⟨List.mem_of_find?_eq_some found, by simpa using List.find?_some found⟩
  · rintro ⟨member, rfl⟩
    obtain ⟨rows, distinct⟩ := t
    simp only [find?]
    -- Distinct keys leave no earlier row for the search to stop at.
    induction rows with
    | nil => simp at member
    | cons head rest ih =>
      simp only [List.map_cons, List.nodup_cons] at distinct
      rcases List.mem_cons.mp member with rfl | member
      · simp
      · have differs : key head ≠ key r := by
          intro same
          exact distinct.1 (List.mem_map.mpr ⟨r, member, same.symm⟩)
        rw [List.find?_cons_of_neg (by simpa using differs)]
        exact ih distinct.2 member

/-- A lookup fails exactly when no row carries the key. -/
theorem find?_eq_none_iff {t : Table key} {k : κ} :
    t.find? k = none ↔ ∀ r ∈ t.rows, key r ≠ k := by
  simp [find?]

/-- A row of the table is found under its own key. -/
theorem find?_of_mem {t : Table key} {r : ρ} (member : r ∈ t.rows) : t.find? (key r) = some r :=
  find?_eq_some_iff.mpr ⟨member, rfl⟩

/-- A found row carries the key it was looked up by. -/
theorem key_of_find? {t : Table key} {k : κ} {r : ρ} (found : t.find? k = some r) : key r = k :=
  (find?_eq_some_iff.mp found).2

/-- An update reads as the same change made to the row under each key. -/
@[simp] theorem find?_update (t : Table key) (hits : ρ → Bool) (change : ρ → ρ)
    (keeps : ∀ r, key (change r) = key r) (k : κ) :
    (t.update hits change keeps).find? k =
      (t.find? k).map fun r => if hits r then change r else r := by
  -- The search tests keys only, and neither branch of the change moves a key.
  have keyed : ∀ r, key (if hits r then change r else r) = key r := by
    intro r; split
    · exact keeps r
    · rfl
  simp only [find?, update_rows, List.find?_map, Function.comp_def, keyed]

/-- An accepted insertion appends the row, whose key was free. -/
theorem insert?_eq_some_iff {t t' : Table key} {r : ρ} :
    t.insert? r = some t' ↔ t.find? (key r) = none ∧ t'.rows = t.rows ++ [r] := by
  have free : key r ∉ t.rows.map key ↔ t.find? (key r) = none := by
    rw [find?_eq_none_iff]
    simp
  unfold insert?
  split
  · rename_i taken
    simp only [reduceCtorEq, false_iff, not_and]
    intro missing
    exact absurd taken (free.mpr missing)
  · rename_i untaken
    simp only [Option.some.injEq]
    constructor
    · rintro rfl
      exact ⟨free.mp untaken, rfl⟩
    · rintro ⟨_, same⟩
      exact Table.ext same.symm

/-- An insertion is refused exactly when the key is taken. -/
theorem insert?_eq_none_iff {t : Table key} {r : ρ} :
    t.insert? r = none ↔ ∃ old, t.find? (key r) = some old := by
  rw [← Option.isSome_iff_exists, ← not_iff_not, Option.not_isSome_iff_eq_none]
  constructor
  · intro accepted
    obtain ⟨t', built⟩ := Option.ne_none_iff_exists'.mp accepted
    exact (insert?_eq_some_iff.mp built).1
  · intro missing refused
    unfold insert? at refused
    split at refused
    · rename_i taken
      obtain ⟨old, member, same⟩ := List.mem_map.mp taken
      exact (find?_eq_none_iff.mp missing) old member same
    · simp at refused

/-- After an accepted insertion the new row is found, and every other key reads as before. -/
theorem find?_insert? {t t' : Table key} {r : ρ} (built : t.insert? r = some t') (k : κ) :
    t'.find? k = if k = key r then some r else t.find? k := by
  obtain ⟨missing, rows⟩ := insert?_eq_some_iff.mp built
  by_cases same : k = key r
  · subst same
    rw [if_pos rfl]
    exact find?_eq_some_iff.mpr ⟨by rw [rows]; simp, rfl⟩
  · rw [if_neg same]
    simp only [find?, rows, List.find?_append]
    have other : List.find? (fun row => decide (key row = k)) [r] = none := by
      simp [Ne.symm same]
    rw [other, Option.or_none]

/-- `INSERT OR IGNORE`: a row is found under its key unless there was one before. -/
theorem find?_getD_insert? (t : Table key) (r : ρ) (k : κ) :
    ((t.insert? r).getD t).find? k = (t.find? k).or (if k = key r then some r else none) := by
  cases built : t.insert? r with
  | none =>
    obtain ⟨old, found⟩ := insert?_eq_none_iff.mp built
    rw [Option.getD_none]
    by_cases same : k = key r
    · rw [same, found, Option.some_or]
    · rw [if_neg same, Option.or_none]
  | some grown =>
    rw [Option.getD_some, find?_insert? built]
    by_cases same : k = key r
    · rw [if_pos same, if_pos same, same, (insert?_eq_some_iff.mp built).1, Option.none_or]
    · rw [if_neg same, if_neg same, Option.or_none]

/-- A row that is found is still found after an accepted insertion. -/
theorem find?_insert?_of_found {t t' : Table key} {r old : ρ} {k : κ}
    (built : t.insert? r = some t') (found : t.find? k = some old) : t'.find? k = some old := by
  -- The inserted key was free, so it is not the one at hand.
  have free := (insert?_eq_some_iff.mp built).1
  rw [find?_insert? built, if_neg]
  · exact found
  · rintro rfl
    simp [free] at found

/-- After a replacement the new row is found, and every other key reads as before. -/
theorem find?_replace (t : Table key) (r : ρ) (k : κ) :
    (t.replace r).find? k = if k = key r then some r else t.find? k := by
  by_cases same : k = key r
  · subst same
    rw [if_pos rfl]
    exact find?_eq_some_iff.mpr ⟨by simp [replace], rfl⟩
  · rw [if_neg same]
    have other : List.find? (fun row => decide (key row = k)) [r] = none := by
      simp [Ne.symm same]
    simp only [find?, replace, List.find?_append, other, Option.or_none, List.find?_filter]
    -- A row with the wanted key is not the one the replacement deletes.
    congr 1
    funext row
    by_cases hit : key row = k
    · simp [hit, same]
    · simp [hit]

/-- A row of a table after a replacement is the new one or an old one. -/
theorem mem_replace {t : Table key} {new row : ρ} (member : row ∈ (t.replace new).rows) :
    row = new ∨ row ∈ t.rows := by
  have found := find?_of_mem member
  rw [find?_replace] at found
  split at found
  · exact .inl (Option.some.inj found).symm
  · exact .inr (find?_eq_some_iff.mp found).1

/-- An update naming a primary key counts one row exactly when that row meets its condition. -/
theorem countP_key_eq_one_iff {t : Table key} {k : κ} {cond : ρ → Prop} [DecidablePred cond] :
    t.rows.countP (fun r => decide (key r = k ∧ cond r)) = 1 ↔
      ∃ r, t.find? k = some r ∧ cond r := by
  -- At most one row carries the key, so the counted rows are that row or nothing.
  have bound : t.rows.countP (fun r => decide (key r = k ∧ cond r)) ≤
      (t.rows.map key).count k := by
    rw [List.count, List.countP_map]
    refine List.countP_mono_left fun r _ hit => ?_
    simp only [decide_eq_true_eq] at hit
    simp [hit.1]
  have single := List.nodup_iff_count_le_one.mp t.distinct k
  constructor
  · intro one
    have positive : 0 < t.rows.countP (fun r => decide (key r = k ∧ cond r)) := by omega
    obtain ⟨r, member, hit⟩ := List.countP_pos_iff.mp positive
    simp only [decide_eq_true_eq] at hit
    exact ⟨r, find?_eq_some_iff.mpr ⟨member, hit.1⟩, hit.2⟩
  · rintro ⟨r, found, met⟩
    obtain ⟨member, named⟩ := find?_eq_some_iff.mp found
    have positive : 0 < t.rows.countP (fun r => decide (key r = k ∧ cond r)) :=
      List.countP_pos_iff.mpr ⟨r, member, by simp [named, met]⟩
    omega

/-- A sum over rows is that over the rows with other keys and what the row with the key counts. -/
theorem sum_eq_filter_add {M : Type*} [AddCommMonoid M] (t : Table key) (k : κ) (f : ρ → M) :
    (t.rows.map f).sum =
      ((t.rows.filter fun r => key r ≠ k).map f).sum + ((t.find? k).map f).getD 0 := by
  obtain ⟨rows, distinct⟩ := t
  simp only [find?]
  induction rows with
  | nil => simp
  | cons head rest ih =>
    simp only [List.map_cons, List.nodup_cons] at distinct
    by_cases same : key head = k
    · -- No other row carries the key of the first one.
      have all : rest.filter (fun r => key r ≠ k) = rest := by
        rw [List.filter_eq_self]
        intro r member
        have differs : key r ≠ k := fun other =>
          distinct.1 (List.mem_map.mpr ⟨r, member, other.trans same.symm⟩)
        simpa using differs
      rw [List.filter_cons_of_neg (by simpa using same), all,
        List.find?_cons_of_pos (by simpa using same), List.map_cons, List.sum_cons, add_comm]
      rfl
    · rw [List.filter_cons_of_pos (by simpa using same),
        List.find?_cons_of_neg (by simpa using same), List.map_cons, List.sum_cons, List.map_cons,
        List.sum_cons, ih distinct.2, add_assoc]

/-- A replacement takes what the old row counts out of a sum, and adds what the new one counts. -/
theorem sum_replace {M : Type*} [AddCommGroup M] (t : Table key) (r : ρ) (f : ρ → M) :
    ((t.replace r).rows.map f).sum =
      (t.rows.map f).sum - ((t.find? (key r)).map f).getD 0 + f r := by
  have split := t.sum_eq_filter_add (key r) f
  simp only [replace, List.map_append, List.map_singleton, List.sum_append, List.sum_singleton]
  rw [split, add_sub_cancel_right]

@[simp] theorem find?_replace_self (t : Table key) (r : ρ) :
    (t.replace r).find? (key r) = some r := by
  rw [find?_replace, if_pos rfl]

end Table
