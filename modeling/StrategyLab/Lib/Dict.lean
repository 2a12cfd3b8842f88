import StrategyLab.Lib.Table

/-! Dictionaries that keep the order of insertion: distinct keys, assignment, defaults, and cuts. -/

namespace Py

variable {α : Type*} [DecidableEq α]

/-- Add keys behind those that are there already, each of them once. -/
def addKeys (seen keys : List α) : List α :=
  keys.foldl (fun seen key => if key ∈ seen then seen else seen ++ [key]) seen

/-- The keys of `dict.fromkeys`, and so the distinct items of a list in the order they come. -/
def fromkeys (keys : List α) : List α := addKeys [] keys

@[simp] theorem addKeys_nil (seen : List α) : addKeys seen [] = seen := rfl

@[simp] theorem addKeys_cons (seen : List α) (key : α) (keys : List α) :
    addKeys seen (key :: keys) = addKeys (if key ∈ seen then seen else seen ++ [key]) keys := rfl

/-- Keys are added one list after the other. -/
theorem addKeys_append (seen first second : List α) :
    addKeys seen (first ++ second) = addKeys (addKeys seen first) second :=
  List.foldl_append

/-- What is there before keys are added stays in front. -/
theorem prefix_addKeys (seen keys : List α) : seen <+: addKeys seen keys := by
  induction keys generalizing seen with
  | nil => exact List.prefix_refl seen
  | cons key keys ih =>
    rw [addKeys_cons]
    split
    · exact ih seen
    · exact (List.prefix_append seen [key]).trans (ih _)

/-- The keys that are there afterwards. -/
@[simp] theorem mem_addKeys {seen keys : List α} {key : α} :
    key ∈ addKeys seen keys ↔ key ∈ seen ∨ key ∈ keys := by
  induction keys generalizing seen with
  | nil => simp
  | cons first keys ih =>
    rw [addKeys_cons, ih, List.mem_cons]
    split
    · -- A key that is there already adds nothing.
      rename_i known
      constructor
      · rintro (before | later)
        · exact .inl before
        · exact .inr (.inr later)
      · rintro (before | rfl | later)
        · exact .inl before
        · exact .inl known
        · exact .inr later
    · rw [List.mem_append, List.mem_singleton, or_assoc]

@[simp] theorem mem_fromkeys {keys : List α} {key : α} : key ∈ fromkeys keys ↔ key ∈ keys := by
  simp [fromkeys]

/-- Adding keys repeats none. -/
theorem nodup_addKeys {seen : List α} (distinct : seen.Nodup) (keys : List α) :
    (addKeys seen keys).Nodup := by
  induction keys generalizing seen with
  | nil => exact distinct
  | cons key keys ih =>
    rw [addKeys_cons]
    split
    · exact ih distinct
    · rename_i fresh
      refine ih (List.nodup_append.mpr ⟨distinct, List.nodup_singleton key, ?_⟩)
      rintro other member _ (single : _ ∈ [key]) rfl
      exact fresh (List.mem_singleton.mp single ▸ member)

/-- Keys of a dictionary are distinct. -/
theorem nodup_fromkeys (keys : List α) : (fromkeys keys).Nodup :=
  nodup_addKeys List.nodup_nil keys

/-- Keys that are all there already add nothing. -/
theorem addKeys_eq_self {seen keys : List α} (known : ∀ key ∈ keys, key ∈ seen) :
    addKeys seen keys = seen := by
  induction keys with
  | nil => rfl
  | cons key keys ih =>
    rw [addKeys_cons, if_pos (known key List.mem_cons_self)]
    exact ih fun other member => known other (List.mem_cons_of_mem key member)

/-- Distinct new keys are appended as they are. -/
theorem addKeys_eq_append {seen keys : List α} (distinct : keys.Nodup)
    (fresh : ∀ key ∈ keys, key ∉ seen) : addKeys seen keys = seen ++ keys := by
  induction keys generalizing seen with
  | nil => simp
  | cons key keys ih =>
    obtain ⟨other, rest⟩ := List.nodup_cons.mp distinct
    rw [addKeys_cons, if_neg (fresh key List.mem_cons_self), ih rest]
    · simp
    · intro later member known
      rcases List.mem_append.mp known with known | known
      · exact fresh later (List.mem_cons_of_mem key member) known
      · exact other (List.mem_singleton.mp known ▸ member)

/-- A list of distinct keys is what it is made of. -/
theorem fromkeys_eq_self {keys : List α} (distinct : keys.Nodup) : fromkeys keys = keys :=
  addKeys_eq_append distinct fun _ _ => List.not_mem_nil

/-- Cutting the keys that are there, before others are added, does not change the first ones. -/
theorem take_addKeys_take (seen keys : List α) (n : Nat) :
    (addKeys (seen.take n) keys).take n = (addKeys seen keys).take n := by
  rcases Nat.le_total seen.length n with short | long
  · rw [List.take_of_length_le short]
  · -- There are enough keys in front on both sides, and they are the same.
    obtain ⟨rest, whole⟩ := prefix_addKeys seen keys
    obtain ⟨other, cut⟩ := prefix_addKeys (seen.take n) keys
    have width : (seen.take n).length = n := List.length_take_of_le long
    rw [← whole, ← cut, List.take_append_of_le_length long,
      List.take_append_of_le_length (Nat.le_of_eq width.symm),
      List.take_of_length_le (Nat.le_of_eq width)]

end Py

namespace Table

variable {κ ρ : Type*} {key : ρ → κ}

/-- The keys of a table, oldest insertion first. -/
def keyList (t : Table key) : List κ := t.rows.map key

/-- The first rows of a table. -/
def take (t : Table key) (n : Nat) : Table key where
  rows := t.rows.take n
  distinct := t.distinct.sublist ((List.take_sublist n t.rows).map key)

@[simp] theorem keyList_empty : (empty : Table key).keyList = [] := rfl

@[simp] theorem keyList_take (t : Table key) (n : Nat) :
    (t.take n).keyList = t.keyList.take n := by
  simp [keyList, take, List.map_take]

theorem nodup_keyList (t : Table key) : t.keyList.Nodup := t.distinct

variable [DecidableEq κ]

/-- Assignment to a key: a row with that key is overwritten where it stands, a new one comes last. -/
def assign (t : Table key) (r : ρ) : Table key :=
  if taken : key r ∈ t.rows.map key then
    { rows := t.rows.map fun old => if key old = key r then r else old
      distinct := by
        -- Every row keeps its key, the overwritten one included.
        have same : (t.rows.map fun old => if key old = key r then r else old).map key =
            t.rows.map key := by
          rw [List.map_map]
          refine List.map_congr_left fun old _ => ?_
          simp only [Function.comp_apply]
          split
          · rename_i hit
            exact hit.symm
          · rfl
        rw [same]
        exact t.distinct }
  else
    { rows := t.rows ++ [r]
      distinct := nodup_append t r taken }

/-- `setdefault`: assignment to a key that is not there yet. -/
def setDefault (t : Table key) (r : ρ) : Table key :=
  if key r ∈ t.keyList then t else t.assign r

/-- `dict.update`: every row of another table is assigned. -/
def overlay (t new : Table key) : Table key := new.rows.foldl assign t

/-- `setdefault` for one row after the other. -/
def setDefaults (t : Table key) (rs : List ρ) : Table key := rs.foldl setDefault t

/-- The rows as a dictionary; a later row overwrites an earlier one. -/
def ofRows (rs : List ρ) : Table key := rs.foldl assign empty

/-- Whether a key is there, asked of the keys or of a lookup. -/
theorem mem_keyList_iff {t : Table key} {k : κ} : k ∈ t.keyList ↔ (t.find? k).isSome := by
  rw [Option.isSome_iff_ne_none, Ne, find?_eq_none_iff, keyList, List.mem_map]
  push Not
  rfl

/-- Nothing is found under a key that is not there. -/
theorem find?_of_not_mem {t : Table key} {k : κ} (missing : k ∉ t.keyList) : t.find? k = none := by
  rw [mem_keyList_iff] at missing
  simpa using missing

@[simp] theorem keyList_assign (t : Table key) (r : ρ) :
    (t.assign r).keyList = Py.addKeys t.keyList [key r] := by
  unfold assign
  simp only [keyList, Py.addKeys_cons, Py.addKeys_nil]
  split
  · -- Both branches of the change leave the key alone.
    rw [List.map_map]
    refine List.map_congr_left fun old _ => ?_
    simp only [Function.comp_apply]
    split
    · rename_i hit
      exact hit.symm
    · rfl
  · simp

@[simp] theorem keyList_setDefault (t : Table key) (r : ρ) :
    (t.setDefault r).keyList = Py.addKeys t.keyList [key r] := by
  unfold setDefault
  split
  · rename_i known
    rw [Py.addKeys_eq_self]
    intro other single
    rw [List.mem_singleton.mp single]
    exact known
  · exact keyList_assign t r

/-- After an assignment the new row is found, and every other key reads as before. -/
theorem find?_assign (t : Table key) (r : ρ) (k : κ) :
    (t.assign r).find? k = if k = key r then some r else t.find? k := by
  by_cases same : k = key r
  · subst same
    rw [if_pos rfl, find?_eq_some_iff]
    refine ⟨?_, rfl⟩
    unfold assign
    split
    · rename_i taken
      obtain ⟨old, member, hit⟩ := List.mem_map.mp taken
      exact List.mem_map.mpr ⟨old, member, if_pos hit⟩
    · simp
  · rw [if_neg same]
    unfold assign
    split
    · simp only [find?, List.find?_map]
      -- Only rows with the assigned key are overwritten.
      have keyed : ((fun row => decide (key row = k)) ∘
          fun old => if key old = key r then r else old) = fun old => decide (key old = k) := by
        funext old
        simp only [Function.comp_apply]
        split
        · rename_i hit
          rw [hit]
        · rfl
      rw [keyed]
      cases found : t.rows.find? fun old => decide (key old = k) with
      | none => rfl
      | some old =>
        have hit : key old = k := by simpa using List.find?_some found
        simp [hit, same]
    · have other : List.find? (fun row => decide (key row = k)) [r] = none := by
        simp [Ne.symm same]
      simp [find?, List.find?_append, other]

/-- `setdefault` keeps what is found, and gives the new row otherwise. -/
theorem find?_setDefault (t : Table key) (r : ρ) (k : κ) :
    (t.setDefault r).find? k = (t.find? k).or (if k = key r then some r else none) := by
  unfold setDefault
  split
  · rename_i known
    by_cases same : k = key r
    · subst same
      obtain ⟨old, found⟩ := Option.isSome_iff_exists.mp (mem_keyList_iff.mp known)
      simp [found]
    · simp [same]
  · rename_i missing
    rw [find?_assign]
    by_cases same : k = key r
    · subst same
      simp [find?_of_not_mem missing]
    · simp [same]

@[simp] theorem keyList_overlay (t new : Table key) :
    (t.overlay new).keyList = Py.addKeys t.keyList new.keyList := by
  unfold overlay
  simp only [keyList]
  generalize new.rows = rs
  induction rs generalizing t with
  | nil => rfl
  | cons r rs ih =>
    rw [List.foldl_cons, ih, List.map_cons, Py.addKeys_cons]
    congr 1
    exact keyList_assign t r

@[simp] theorem keyList_setDefaults (t : Table key) (rs : List ρ) :
    (t.setDefaults rs).keyList = Py.addKeys t.keyList (rs.map key) := by
  induction rs generalizing t with
  | nil => rfl
  | cons r rs ih =>
    have first : (t.setDefaults (r :: rs)) = (t.setDefault r).setDefaults rs := rfl
    rw [first, ih, keyList_setDefault, List.map_cons, Py.addKeys_cons]
    rfl

/-- A dictionary of rows has the distinct keys of the rows. -/
@[simp] theorem keyList_ofRows (rs : List ρ) :
    (ofRows rs : Table key).keyList = Py.fromkeys (rs.map key) := by
  have grown : ∀ (rs : List ρ) (t : Table key),
      (rs.foldl assign t).keyList = Py.addKeys t.keyList (rs.map key) := by
    intro rs
    induction rs with
    | nil => exact fun t => rfl
    | cons r rs ih =>
      intro t
      rw [List.foldl_cons, ih, List.map_cons, Py.addKeys_cons]
      congr 1
      exact keyList_assign t r
  exact grown rs empty

/-- After an update the new table is asked first. -/
theorem find?_overlay (t new : Table key) (k : κ) :
    (t.overlay new).find? k = (new.find? k).or (t.find? k) := by
  obtain ⟨rs, distinct⟩ := new
  simp only [overlay]
  induction rs generalizing t with
  | nil => simp [find?]
  | cons r rs ih =>
    simp only [List.map_cons, List.nodup_cons] at distinct
    rw [List.foldl_cons, ih _ distinct.2, find?_assign]
    by_cases same : k = key r
    · subst same
      -- No later row has the key of the first one.
      have later : (Table.mk rs distinct.2 : Table key).find? (key r) = none :=
        find?_of_not_mem distinct.1
      simp only [find?] at later ⊢
      simp [later]
    · simp only [find?]
      rw [if_neg same, List.find?_cons_of_neg (by simpa using Ne.symm same)]

/-- After defaults the old table is asked first. -/
theorem find?_setDefaults (t : Table key) (rs : List ρ) (k : κ) :
    (t.setDefaults rs).find? k = (t.find? k).or (rs.find? fun r => key r = k) := by
  induction rs generalizing t with
  | nil => simp [setDefaults]
  | cons r rs ih =>
    have first : (t.setDefaults (r :: rs)) = (t.setDefault r).setDefaults rs := rfl
    rw [first, ih, find?_setDefault, Option.or_assoc]
    congr 1
    by_cases same : k = key r
    · subst same
      simp
    · rw [if_neg same, List.find?_cons_of_neg (by simpa using Ne.symm same)]
      simp

/-- What a dictionary of rows finds is one of the rows. -/
theorem mem_of_find?_ofRows {rs : List ρ} {k : κ} {r : ρ}
    (found : (ofRows rs : Table key).find? k = some r) : r ∈ rs := by
  -- A row comes from the table that was there before or from one of the assignments.
  have grown : ∀ (rs : List ρ) (t : Table key),
      (rs.foldl assign t).find? k = some r → r ∈ rs ∨ t.find? k = some r := by
    intro rs
    induction rs with
    | nil => exact fun t there => .inr there
    | cons first rs ih =>
      intro t there
      rcases ih (t.assign first) there with later | before
      · exact .inl (List.mem_cons_of_mem first later)
      · rw [find?_assign] at before
        split at before
        · exact .inl (List.mem_cons.mpr (.inl (Option.some.inj before).symm))
        · exact .inr before
  rcases grown rs empty found with member | there
  · exact member
  · simp at there

/-- A cut table finds the rows whose keys are before the cut. -/
theorem find?_take (t : Table key) (n : Nat) (k : κ) :
    (t.take n).find? k = if k ∈ t.keyList.take n then t.find? k else none := by
  split
  · rename_i kept
    rw [← keyList_take, mem_keyList_iff] at kept
    obtain ⟨r, found⟩ := Option.isSome_iff_exists.mp kept
    obtain ⟨member, keyed⟩ := find?_eq_some_iff.mp found
    rw [found, eq_comm, find?_eq_some_iff]
    exact ⟨List.mem_of_mem_take member, keyed⟩
  · rename_i dropped
    rw [← keyList_take] at dropped
    exact find?_of_not_mem dropped

/-- A table is what is found under its keys. -/
theorem rows_eq_filterMap (t : Table key) : t.rows = t.keyList.filterMap t.find? := by
  rw [keyList, List.filterMap_map]
  symm
  refine (List.filterMap_congr (g := some) fun r member => ?_).trans List.filterMap_some
  exact find?_of_mem member

/-- Two tables with the same keys under which the same is found are the same table. -/
theorem ext_of_find? {left right : Table key} (keys : left.keyList = right.keyList)
    (same : ∀ k ∈ left.keyList, left.find? k = right.find? k) : left = right := by
  refine Table.ext ?_
  rw [rows_eq_filterMap left, rows_eq_filterMap right, ← keys]
  exact List.filterMap_congr same

/-- A sum over the rows, taken over the keys. -/
theorem sum_rows {M : Type*} [AddCommMonoid M] (t : Table key) (f : ρ → M) :
    (t.rows.map f).sum = (t.keyList.map fun k => ((t.find? k).map f).getD 0).sum := by
  rw [keyList, List.map_map]
  congr 1
  refine List.map_congr_left fun r member => ?_
  simp [find?_of_mem member]

/-- An assignment leaves the rows with other keys alone. -/
theorem filter_assign (t : Table key) (r : ρ) :
    (t.assign r).rows.filter (fun row => key row ≠ key r) =
      t.rows.filter fun row => key row ≠ key r := by
  unfold assign
  split
  · rw [List.filter_map]
    -- The overwritten row is not among the others, before and after.
    have same : ((fun row => decide (key row ≠ key r)) ∘
        fun old => if key old = key r then r else old) = fun old => decide (key old ≠ key r) := by
      funext old
      simp only [Function.comp_apply]
      split
      · rename_i hit
        rw [hit]
      · rfl
    rw [same]
    have kept : ∀ old ∈ t.rows.filter fun row => key row ≠ key r,
        (if key old = key r then r else old) = old := by
      intro old member
      exact if_neg (by simpa using (List.mem_filter.mp member).2)
    exact (List.map_congr_left kept).trans (List.map_id _)
  · simp

/-- A sum over the rows changes by what the assigned row replaces. -/
theorem sum_assign {M : Type*} [AddCommGroup M] (t : Table key) (r : ρ) (f : ρ → M) :
    ((t.assign r).rows.map f).sum =
      (t.rows.map f).sum - ((t.find? (key r)).map f).getD 0 + f r := by
  have before := sum_eq_filter_add t (key r) f
  have after := sum_eq_filter_add (t.assign r) (key r) f
  rw [filter_assign, find?_assign, if_pos rfl] at after
  rw [after, before]
  simp

/-- The keys of the rows that meet a condition. -/
theorem keys_filter (t : Table key) (cond : ρ → Bool) :
    (t.rows.filter cond).map key = t.keyList.filter fun k => (t.find? k).any cond := by
  rw [keyList, List.filter_map]
  congr 1
  refine List.filter_congr fun r member => ?_
  simp [find?_of_mem member]

end Table
