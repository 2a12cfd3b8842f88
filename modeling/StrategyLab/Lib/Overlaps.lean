import Mathlib.Data.List.DropRight
import Mathlib.Data.List.Induction
import Mathlib.Data.Nat.Find
import Mathlib.Order.Bounds.Basic

/-! Texts over an alphabet with blanks: trimming, weight, overlaps of two texts, and texts that are
woven of pieces. -/

namespace Overlaps

variable {α : Type*} {blank : α → Bool}

/-- A text without the blanks around it. -/
def trim (blank : α → Bool) (text : List α) : List α := (text.dropWhile blank).rdropWhile blank

/-- How many letters of a text are no blanks. -/
def weight (blank : α → Bool) (text : List α) : Nat := text.countP fun letter => !blank letter

/-- The first letter is no blank. -/
def StartsFirm (blank : α → Bool) (text : List α) : Prop :=
  ∀ letter ∈ text.head?, ¬blank letter

/-- The last letter is no blank. -/
def EndsFirm (blank : α → Bool) (text : List α) : Prop :=
  ∀ letter ∈ text.getLast?, ¬blank letter

/-- How many letters a text may begin with that another text ends with, up to a limit. -/
def overlaps (limit : Nat) (left right : List α) : Set Nat :=
  {size | size ≤ limit ∧ size ≤ right.length ∧ right.take size <:+ left}

/-- A text is made of trimmed pieces with nothing but blanks between them. -/
inductive Woven (blank : α → Bool) : List (List α) → List α → Prop where
  | nil : Woven blank [] []
  | snoc {pieces : List (List α)} {text : List α} (woven : Woven blank pieces text)
      (gap piece : List α) (blanks : ∀ letter ∈ gap, blank letter) :
      Woven blank (pieces ++ [piece]) (text ++ gap ++ trim blank piece)

section Weight

/-- Weights add up. -/
@[simp] theorem weight_append (front back : List α) :
    weight blank (front ++ back) = weight blank front + weight blank back := by
  simp [weight]

/-- Nothing but blanks weighs nothing. -/
theorem weight_eq_zero_iff {text : List α} :
    weight blank text = 0 ↔ ∀ letter ∈ text, blank letter := by
  simp [weight]

/-- A text that does not end in a blank weighs something, if it is not empty. -/
theorem weight_pos {text : List α} (firm : EndsFirm blank text) (filled : text ≠ []) :
    0 < weight blank text := by
  by_contra light
  have blanks := weight_eq_zero_iff.mp (Nat.eq_zero_of_not_pos light)
  exact firm _ (List.getLast?_eq_getLast_of_ne_nil filled) (blanks _ (List.getLast_mem filled))

end Weight

section Trim

/-- What is trimmed away are blanks. -/
theorem exists_around (blank : α → Bool) (text : List α) :
    ∃ front back, text = front ++ trim blank text ++ back ∧ (∀ letter ∈ front, blank letter) ∧
      ∀ letter ∈ back, blank letter := by
  refine ⟨text.takeWhile blank, (text.dropWhile blank).rtakeWhile blank, ?_, ?_, ?_⟩
  · rw [trim, List.append_assoc, List.rdropWhile_append_rtakeWhile,
      List.takeWhile_append_dropWhile]
  · intro letter member
    exact List.mem_takeWhile_imp member
  · intro letter member
    exact List.mem_rtakeWhile_imp member

/-- A trimmed text does not end in a blank. -/
theorem endsFirm_trim (text : List α) : EndsFirm blank (trim blank text) := by
  intro letter last
  have filled : trim blank text ≠ [] := by
    intro empty
    rw [empty] at last
    cases last
  rw [List.getLast?_eq_getLast_of_ne_nil filled, Option.mem_some_iff] at last
  rw [← last]
  exact List.rdropWhile_last_not blank _ filled

/-- A trimmed text does not start with a blank. -/
theorem startsFirm_trim (text : List α) : StartsFirm blank (trim blank text) := by
  intro letter first
  -- The cut at the end leaves the first letter alone as long as anything is left.
  have front : trim blank text <+: text.dropWhile blank := List.rdropWhile_prefix blank _
  obtain ⟨rest, same⟩ := front
  cases kept : trim blank text with
  | nil =>
    rw [kept] at first
    cases first
  | cons head tail =>
    rw [kept, List.head?_cons, Option.mem_some_iff] at first
    rw [kept, List.cons_append] at same
    have filled : text.dropWhile blank ≠ [] := by rw [← same]; simp
    have solid := List.head_dropWhile_not blank filled
    simp only [← same, List.head_cons, first] at solid
    simp [solid]

/-- Blanks around a text that neither starts nor ends with one are trimmed away. -/
theorem trim_around {front core back : List α} (blankFront : ∀ letter ∈ front, blank letter)
    (blankBack : ∀ letter ∈ back, blank letter) (starts : StartsFirm blank core)
    (ends : EndsFirm blank core) : trim blank (front ++ core ++ back) = core := by
  cases core with
  | nil =>
    have blanks : ∀ letter ∈ front ++ [] ++ back, blank letter := by
      intro letter member
      rw [List.append_nil] at member
      rcases List.mem_append.mp member with inFront | inBack
      · exact blankFront letter inFront
      · exact blankBack letter inBack
    rw [trim, List.dropWhile_eq_nil_iff.mpr blanks]
    rfl
  | cons head tail =>
    have kept : (front ++ (head :: tail) ++ back).dropWhile blank = (head :: tail) ++ back := by
      rw [List.append_assoc, List.dropWhile_append_of_pos blankFront, List.cons_append,
        List.dropWhile_cons_of_neg (starts head rfl)]
    have solid : (head :: tail).rdropWhile blank = head :: tail := by
      rw [List.rdropWhile_eq_self_iff]
      intro filled
      exact ends _ (List.getLast?_eq_getLast_of_ne_nil filled)
    rw [trim, kept, List.rdropWhile, List.reverse_append, List.dropWhile_append_of_pos]
    · exact solid
    · intro letter member
      exact blankBack letter (List.mem_reverse.mp member)

/-- A text that neither starts nor ends with a blank is left alone. -/
theorem trim_eq_self {text : List α} (starts : StartsFirm blank text)
    (ends : EndsFirm blank text) : trim blank text = text := by
  have nothing : ∀ letter ∈ ([] : List α), blank letter := by simp
  have around := trim_around nothing nothing starts ends
  simpa using around

/-- Trimming takes away no weight. -/
@[simp] theorem weight_trim (text : List α) :
    weight blank (trim blank text) = weight blank text := by
  obtain ⟨front, back, same, blankFront, blankBack⟩ := exists_around blank text
  have whole := congrArg (weight blank) same
  rw [weight_append, weight_append, weight_eq_zero_iff.mpr blankFront,
    weight_eq_zero_iff.mpr blankBack] at whole
  omega

/-- Nothing is left of a text exactly if it weighs nothing. -/
theorem trim_eq_nil_iff {text : List α} : trim blank text = [] ↔ weight blank text = 0 := by
  constructor
  · intro empty
    rw [← weight_trim, empty]
    rfl
  · intro light
    by_contra filled
    have heavy := weight_pos (endsFirm_trim text) filled
    rw [weight_trim] at heavy
    omega

/-- Two texts in a row are trimmed to the two trimmed texts with blanks between them. -/
theorem trim_append (blank : α → Bool) (first second : List α) :
    ∃ gap, trim blank (first ++ second) = trim blank first ++ gap ++ trim blank second ∧
      (∀ letter ∈ gap, blank letter) ∧ (trim blank first = [] → gap = []) := by
  obtain ⟨front, afterFirst, sameFirst, blankFront, blankAfter⟩ := exists_around blank first
  obtain ⟨beforeSecond, back, sameSecond, blankBefore, blankBack⟩ := exists_around blank second
  by_cases emptyFirst : trim blank first = []
  · -- The whole first text is a blank in front of the second one.
    refine ⟨[], ?_, by simp, fun _ => rfl⟩
    have blankFirst := weight_eq_zero_iff.mp (trim_eq_nil_iff.mp emptyFirst)
    have blanks : ∀ letter ∈ first ++ beforeSecond, blank letter := by
      intro letter member
      rcases List.mem_append.mp member with inFirst | inSecond
      · exact blankFirst letter inFirst
      · exact blankBefore letter inSecond
    have around := trim_around blanks blankBack (startsFirm_trim second) (endsFirm_trim second)
    rw [emptyFirst, List.nil_append, List.nil_append, ← around]
    congr 1
    simpa using sameSecond
  · by_cases emptySecond : trim blank second = []
    · refine ⟨[], ?_, by simp, fun _ => rfl⟩
      have blankSecond := weight_eq_zero_iff.mp (trim_eq_nil_iff.mp emptySecond)
      have blanks : ∀ letter ∈ afterFirst ++ second, blank letter := by
        intro letter member
        rcases List.mem_append.mp member with inFirst | inSecond
        · exact blankAfter letter inFirst
        · exact blankSecond letter inSecond
      have around := trim_around blankFront blanks (startsFirm_trim first) (endsFirm_trim first)
      rw [emptySecond, List.append_nil, List.append_nil]
      refine Eq.trans ?_ around
      congr 1
      rw [← List.append_assoc, ← sameFirst]
    · refine ⟨afterFirst ++ beforeSecond, ?_, ?_, fun empty => absurd empty emptyFirst⟩
      · have starts : StartsFirm blank
            (trim blank first ++ (afterFirst ++ beforeSecond) ++ trim blank second) := by
          intro letter member
          rw [List.append_assoc, List.head?_append_of_ne_nil _ emptyFirst] at member
          exact startsFirm_trim first letter member
        have ends : EndsFirm blank
            (trim blank first ++ (afterFirst ++ beforeSecond) ++ trim blank second) := by
          intro letter member
          rw [List.getLast?_append_of_ne_nil _ emptySecond] at member
          exact endsFirm_trim second letter member
        refine Eq.trans ?_ (trim_around blankFront blankBack starts ends)
        congr 1
        conv_lhs => rw [sameFirst, sameSecond]
        simp only [List.append_assoc]
      · intro letter member
        rcases List.mem_append.mp member with inFirst | inSecond
        · exact blankAfter letter inFirst
        · exact blankBefore letter inSecond

end Trim

section Overlap

variable {left right : List α} {limit first second : Nat}

/-- A longer beginning weighs more, if it does not end in a blank. -/
theorem weight_take_lt (shorter : first < second) (within : second ≤ right.length)
    (firm : EndsFirm blank (right.take second)) :
    weight blank (right.take first) < weight blank (right.take second) := by
  have cut : right.take second = right.take first ++ (right.take second).drop first := by
    conv_lhs => rw [← List.take_append_drop first (right.take second), List.take_take,
      Nat.min_eq_left shorter.le]
  have filled : (right.take second).drop first ≠ [] := by
    rw [Ne, List.drop_eq_nil_iff, List.length_take]
    omega
  have ends : EndsFirm blank ((right.take second).drop first) := by
    intro letter last
    apply firm letter
    rw [cut, List.getLast?_append_of_ne_nil _ filled]
    exact last
  have heavy := weight_pos ends filled
  rw [cut, weight_append]
  omega

/-- Beginnings that do not end in a blank are told apart by their weight. -/
theorem eq_of_weight_take (withinFirst : first ≤ right.length)
    (withinSecond : second ≤ right.length)
    (firmFirst : EndsFirm blank (right.take first))
    (firmSecond : EndsFirm blank (right.take second))
    (same : weight blank (right.take first) = weight blank (right.take second)) :
    first = second := by
  rcases Nat.lt_trichotomy first second with less | equal | greater
  · have lighter := weight_take_lt less withinSecond firmSecond
    omega
  · exact equal
  · have lighter := weight_take_lt greater withinFirst firmFirst
    omega

/-- The end of a text ends as the text does. -/
theorem EndsFirm.of_suffix {text part : List α} (firm : EndsFirm blank text)
    (suffix : part <:+ text) : EndsFirm blank part := by
  intro letter last
  have filled : part ≠ [] := by
    intro empty
    rw [empty] at last
    cases last
  obtain ⟨front, rfl⟩ := suffix
  apply firm letter
  rw [List.getLast?_append_of_ne_nil _ filled]
  exact last

/-- Texts always overlap in nothing. -/
theorem zero_mem_overlaps (limit : Nat) (left right : List α) : 0 ∈ overlaps limit left right :=
  ⟨Nat.zero_le _, Nat.zero_le _, by simp⟩

/-- Nothing overlaps with an empty text. -/
theorem isGreatest_overlaps_nil (limit : Nat) (right : List α) :
    IsGreatest (overlaps limit [] right) 0 := by
  refine ⟨zero_mem_overlaps limit [] right, fun size overlap => ?_⟩
  obtain ⟨_, within, suffix⟩ := overlap
  have empty := List.suffix_nil.mp suffix
  rw [List.take_eq_nil_iff] at empty
  rcases empty with zero | rfl
  · exact zero.le
  · exact within

/-- An empty text overlaps with nothing. -/
theorem isGreatest_nil_overlaps (limit : Nat) (left : List α) :
    IsGreatest (overlaps limit left []) 0 :=
  ⟨zero_mem_overlaps limit left [], fun _ overlap => overlap.2.1⟩

/-- Nothing overlaps exactly if no beginning of one text ends the other. -/
theorem isGreatest_zero_iff :
    IsGreatest (overlaps limit left right) 0 ↔
      ∀ head, head ≠ [] → head.length ≤ limit → head <+: right → ¬head <:+ left := by
  constructor
  · intro greatest head filled bound starts ends
    have overlap : head.length ∈ overlaps limit left right := by
      refine ⟨bound, starts.length_le, ?_⟩
      rwa [← List.prefix_iff_eq_take.mp starts]
    have length := greatest.2 overlap
    exact filled (List.length_eq_zero_iff.mp (Nat.le_zero.mp length))
  · intro differs
    refine ⟨zero_mem_overlaps limit left right, fun size overlap => ?_⟩
    obtain ⟨bound, within, suffix⟩ := overlap
    by_contra positive
    have length : (right.take size).length = size := List.length_take_of_le within
    refine differs (right.take size) ?_ (by omega) (List.take_prefix _ _) suffix
    intro empty
    rw [empty, List.length_nil] at length
    omega

end Overlap

section Woven

variable {pieces : List (List α)} {text : List α}

/-- Weaving keeps the weight of the pieces. -/
theorem Woven.weight_eq (woven : Woven blank pieces text) :
    weight blank text = weight blank pieces.flatten := by
  induction woven with
  | nil => rfl
  | snoc _ gap piece blanks ih =>
    simp [ih, weight_eq_zero_iff.mpr blanks]

end Woven

section Beginnings

variable {xs : List α} {x : α}

/-- All beginnings of a list with one more entry are those of the list and the whole. -/
theorem forall_prefix_snoc {p : List α → Prop} :
    (∀ before, before <+: xs ++ [x] → p before) ↔
      (∀ before, before <+: xs → p before) ∧ p (xs ++ [x]) := by
  constructor
  · intro all
    refine ⟨fun before start => all before (start.trans (List.prefix_append _ _)), ?_⟩
    exact all _ (List.prefix_refl _)
  · intro both before start
    rcases List.prefix_concat_iff.mp start with rfl | shorter
    · exact both.2
    · exact both.1 before shorter

/-- An empty list has no entry. -/
theorem forall_entry_nil {p : List α → α → Prop} :
    ∀ before y, before ++ [y] <+: ([] : List α) → p before y := by
  intro before y start
  have length := start.length_le
  simp at length

/-- All entries of a list with one more, behind those before them, are those of the list and the
last. -/
theorem forall_entry_snoc {p : List α → α → Prop} :
    (∀ before y, before ++ [y] <+: xs ++ [x] → p before y) ↔
      (∀ before y, before ++ [y] <+: xs → p before y) ∧ p xs x := by
  constructor
  · intro all
    refine ⟨fun before y start => all before y (start.trans (List.prefix_append _ _)), ?_⟩
    exact all xs x (List.prefix_refl _)
  · intro both before y start
    rcases List.prefix_concat_iff.mp start with same | shorter
    · obtain ⟨rfl, rfl⟩ := List.append_singleton_inj.mp same
      exact both.2
    · exact both.1 before y shorter

end Beginnings

end Overlaps
