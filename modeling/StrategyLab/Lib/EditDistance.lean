import Mathlib.Data.List.Basic
import Mathlib.Order.Bounds.Basic
import Mathlib.Order.MinMax

/-! Edit distance: the fewest letters that are inserted, deleted or substituted to turn one word
into another. -/

namespace EditDistance

variable {α : Type*}

/-- One letter is inserted, deleted or substituted. -/
inductive Edit : List α → List α → Prop where
  | insert (before after : List α) (a : α) : Edit (before ++ after) (before ++ a :: after)
  | delete (before after : List α) (a : α) : Edit (before ++ a :: after) (before ++ after)
  | substitute (before after : List α) (a b : α) :
      Edit (before ++ a :: after) (before ++ b :: after)

/-- A word is turned into another one by a number of edits. -/
inductive Edits : Nat → List α → List α → Prop where
  | none (word : List α) : Edits 0 word word
  | one {n : Nat} {first second third : List α} (edit : Edit first second)
      (more : Edits n second third) : Edits (n + 1) first third

variable {first second : List α}

/-- Edits can be made behind one more letter. -/
theorem Edit.cons (edit : Edit first second) (a : α) :
    Edit (a :: first) (a :: second) := by
  cases edit with
  | insert before after b => exact .insert (a :: before) after b
  | delete before after b => exact .delete (a :: before) after b
  | substitute before after b c => exact .substitute (a :: before) after b c

variable {n : Nat}

/-- So can any number of them. -/
theorem Edits.cons (edits : Edits n first second) (a : α) :
    Edits n (a :: first) (a :: second) := by
  induction edits with
  | none word => exact .none (a :: word)
  | one edit _ ih => exact .one (edit.cons a) ih

/-- An edit is undone by one. -/
theorem Edit.symm (edit : Edit first second) : Edit second first := by
  cases edit with
  | insert before after a => exact .delete before after a
  | delete before after a => exact .insert before after a
  | substitute before after a b => exact .substitute before after b a

/-- Edits are made one after the other. -/
theorem Edits.trans {n m : Nat} {first second third : List α} (edits : Edits n first second)
    (more : Edits m second third) : Edits (n + m) first third := by
  induction edits with
  | none word => simpa using more
  | one edit _ ih =>
    rw [Nat.succ_add]
    exact .one edit (ih more)

/-- Edits are undone by as many. -/
theorem Edits.symm (edits : Edits n first second) :
    Edits n second first := by
  induction edits with
  | none word => exact .none word
  | one edit _ ih => exact ih.trans (.one edit.symm (.none _))

/-- An edit of a word is one of the word read backwards. -/
theorem Edit.reverse (edit : Edit first second) :
    Edit first.reverse second.reverse := by
  cases edit with
  | insert before after a => simpa using Edit.insert after.reverse before.reverse a
  | delete before after a => simpa using Edit.delete after.reverse before.reverse a
  | substitute before after a b =>
    simpa using Edit.substitute after.reverse before.reverse a b

/-- So are any number of them. -/
theorem Edits.reverse (edits : Edits n first second) :
    Edits n first.reverse second.reverse := by
  induction edits with
  | none word => exact .none word.reverse
  | one edit _ ih => exact .one edit.reverse ih

/-- A word is made by inserting its letters. -/
theorem edits_of_nil (ys : List α) : Edits ys.length [] ys := by
  induction ys with
  | nil => exact .none []
  | cons y ys ih => exact .one (.insert [] [] y) (ih.cons y)

/-- And it is undone by deleting them. -/
theorem edits_to_nil (xs : List α) : Edits xs.length xs [] :=
  (edits_of_nil xs).symm

variable [DecidableEq α]

/-- The distance of two words, letter by letter. -/
def distance : List α → List α → Nat
  | [], ys => ys.length
  | xs, [] => xs.length
  | x :: xs, y :: ys =>
    min (min (distance xs (y :: ys) + 1) (distance (x :: xs) ys + 1))
      (distance xs ys + if x = y then 0 else 1)
termination_by xs ys => xs.length + ys.length

/-- The empty word is as far from a word as that is long. -/
@[simp] theorem distance_nil_left (ys : List α) : distance [] ys = ys.length := by
  rw [distance]

/-- And a word is as far from it. -/
@[simp] theorem distance_nil_right (xs : List α) : distance xs [] = xs.length := by
  cases xs with
  | nil => rw [distance]
  | cons x xs => rw [distance]; simp

/-- The first letters are deleted, inserted or laid over each other. -/
theorem distance_cons_cons (x y : α) (xs ys : List α) :
    distance (x :: xs) (y :: ys) =
      min (min (distance xs (y :: ys) + 1) (distance (x :: xs) ys + 1))
        (distance xs ys + if x = y then 0 else 1) := by
  rw [distance]

/-- A letter in front adds at most one. -/
theorem distance_cons_left_le (x : α) (xs ys : List α) :
    distance (x :: xs) ys ≤ distance xs ys + 1 := by
  cases ys with
  | nil => simp
  | cons y ys =>
    rw [distance_cons_cons]
    omega

/-- So does one in front of the other word. -/
theorem distance_cons_right_le (y : α) (xs ys : List α) :
    distance xs (y :: ys) ≤ distance xs ys + 1 := by
  cases xs with
  | nil => simp
  | cons x xs =>
    rw [distance_cons_cons]
    omega

/-- A letter in front takes at most one away. -/
theorem distance_le_cons_left (x : α) (xs ys : List α) :
    distance xs ys ≤ distance (x :: xs) ys + 1 := by
  induction ys with
  | nil => simp; omega
  | cons y ys ih =>
    have longer := distance_cons_right_le y xs ys
    rw [distance_cons_cons]
    split <;> omega

/-- Another letter in front makes a difference of at most one. -/
theorem distance_cons_le_cons (x z : α) (xs ys : List α) :
    distance (x :: xs) ys ≤ distance (z :: xs) ys + 1 := by
  induction ys with
  | nil => simp
  | cons y ys ih =>
    rw [distance_cons_cons, distance_cons_cons]
    split <;> split <;> omega

/-- Words that are one apart from each other still are behind one more letter. -/
theorem distance_cons_of_forall
    (near : ∀ word, distance first word ≤ distance second word + 1) (a : α) (word : List α) :
    distance (a :: first) word ≤ distance (a :: second) word + 1 := by
  induction word with
  | nil =>
    have lengths := near []
    simp only [distance_nil_right, List.length_cons] at lengths ⊢
    omega
  | cons y ys ih =>
    have whole := near (y :: ys)
    have rest := near ys
    rw [distance_cons_cons, distance_cons_cons]
    split <;> omega

/-- An edit changes the distance from any word by at most one. -/
theorem Edit.distance_le (edit : Edit first second) (word : List α) :
    distance first word ≤ distance second word + 1 := by
  -- The letters before the edit are taken off one by one.
  have behind {left right : List α} (before : List α)
      (near : ∀ word, distance left word ≤ distance right word + 1) :
      ∀ word, distance (before ++ left) word ≤ distance (before ++ right) word + 1 := by
    induction before with
    | nil => exact near
    | cons a before ih => exact distance_cons_of_forall ih a
  cases edit with
  | insert before after a => exact behind before (distance_le_cons_left a after) word
  | delete before after a => exact behind before (distance_cons_left_le a after) word
  | substitute before after a b => exact behind before (distance_cons_le_cons a b after) word

/-- A word is no distance from itself. -/
@[simp] theorem distance_self (word : List α) : distance word word = 0 := by
  induction word with
  | nil => simp
  | cons a word ih =>
    rw [distance_cons_cons, ih, if_pos rfl]
    omega

/-- No fewer edits than the distance turn a word into another one. -/
theorem Edits.distance_le (edits : Edits n first second) :
    distance first second ≤ n := by
  induction edits with
  | none word => rw [distance_self]
  | one edit _ ih => exact (edit.distance_le _).trans (Nat.succ_le_succ ih)

/-- As many edits as the distance are enough. -/
theorem edits_distance (xs ys : List α) : Edits (distance xs ys) xs ys := by
  induction xs, ys using distance.induct with
  | case1 ys => simpa using edits_of_nil ys
  | case2 xs => simpa using edits_to_nil xs
  | case3 x xs y ys delete insert both =>
    rw [distance_cons_cons]
    -- The least of the three ways is taken.
    rcases min_choice (min (distance xs (y :: ys) + 1) (distance (x :: xs) ys + 1))
      (distance xs ys + if x = y then 0 else 1) with least | least
    · rw [least]
      rcases min_choice (distance xs (y :: ys) + 1) (distance (x :: xs) ys + 1) with way | way
      · rw [way]
        exact .one (.delete [] xs x) delete
      · rw [way]
        exact .one (.insert [] (x :: xs) y) (insert.cons y)
    · rw [least]
      split
      · rename_i same
        subst same
        exact both.cons x
      · exact .one (.substitute [] xs x y) (both.cons y)

/-- The distance is the least number of edits that turn one word into the other. -/
theorem isLeast_distance (xs ys : List α) : IsLeast {n | Edits n xs ys} (distance xs ys) :=
  ⟨edits_distance xs ys, fun _ edits => edits.distance_le⟩

/-- Only a word itself is no distance away. -/
theorem distance_eq_zero_iff {xs ys : List α} : distance xs ys = 0 ↔ xs = ys := by
  constructor
  · intro none_
    have edits := edits_distance xs ys
    rw [none_] at edits
    cases edits
    rfl
  · rintro rfl
    exact distance_self xs

/-- The distance is the same both ways. -/
theorem distance_comm (xs ys : List α) : distance xs ys = distance ys xs :=
  Nat.le_antisymm (edits_distance ys xs).symm.distance_le (edits_distance xs ys).symm.distance_le

/-- A detour is no shorter. -/
theorem distance_triangle (xs ys zs : List α) :
    distance xs zs ≤ distance xs ys + distance ys zs :=
  ((edits_distance xs ys).trans (edits_distance ys zs)).distance_le

/-- Words read backwards are as far from each other. -/
theorem distance_reverse (xs ys : List α) : distance xs.reverse ys.reverse = distance xs ys := by
  apply Nat.le_antisymm
  · exact (edits_distance xs ys).reverse.distance_le
  · have edits := (edits_distance xs.reverse ys.reverse).reverse
    rw [List.reverse_reverse, List.reverse_reverse] at edits
    exact edits.distance_le

/-- The last letters are deleted, inserted or laid over each other. -/
theorem distance_concat_concat (x y : α) (xs ys : List α) :
    distance (xs ++ [x]) (ys ++ [y]) =
      min (min (distance xs (ys ++ [y]) + 1) (distance (xs ++ [x]) ys + 1))
        (distance xs ys + if x = y then 0 else 1) := by
  rw [← distance_reverse (xs ++ [x]), ← distance_reverse xs (ys ++ [y]),
    ← distance_reverse (xs ++ [x]) ys, ← distance_reverse xs ys]
  simp only [List.reverse_append, List.reverse_singleton, List.singleton_append]
  exact distance_cons_cons ..

end EditDistance
