import StrategyLab.Lib.EditDistance
import Mathlib.Data.List.Induction
import Mathlib.Data.String.Basic

/-! Typo-tolerant continuation: the distance of two texts row by row, and the scan for the words
that ask to go on. -/

namespace StrategyLab.ContinuationMatch

open EditDistance (Edits distance)

/-- One entry of a row: the cheapest of a deletion, an insertion and a substitution. -/
def cell (previous current : List Nat) (charA charB : Char) (j : Nat) : Nat :=
  min (min (previous.getD j 0 + 1) (current.getD (j - 1) 0 + 1))
    (previous.getD (j - 1) 0 + if charA = charB then 0 else 1)

/-- Fill the entries of a row for some letters. -/
def fillRow (previous : List Nat) (charA : Char) (letters : List Char) (start : List Nat) :
    List Nat :=
  (letters.zipIdx 1).foldl
    (fun current entry => current.set entry.2 (cell previous current charA entry.1 entry.2)) start

/-- The row below a row, for the letter at a position. -/
def nextRow (b : List Char) (previous : List Nat) (i : Nat) (charA : Char) : List Nat :=
  fillRow previous charA b (i :: List.replicate b.length 0)

/-- The distance of two texts; only one row is kept. -/
def levenshtein (a b : String) : Nat :=
  if a = b then 0
  else if a = "" then b.length
  else if b = "" then a.length
  else
    ((a.toList.zipIdx 1).foldl
      (fun previous entry => nextRow b.toList previous entry.2 entry.1)
      (List.range (b.length + 1))).getLastD 0

/-- The words that a request to go on begins with, known misspellings included. -/
def continuationAnchorTokens : List String := ["계속", "계솟", "계쏙", "이어서", "이어가"]

/-- The endings that stand right behind them. -/
def continuationSuffixTokens : List String := ["해주세요", "해줘", "해달라"]

/-- The method `find`: the first place from a position on where a text occurs. -/
def find? (text part : List Char) (searchFrom : Nat) : Option Nat :=
  (List.range' searchFrom (text.length + 1 - searchFrom)).find? fun start =>
    part.isPrefixOf (text.drop start)

/-- How many typos an ending may have. -/
def budget (suffix : String) : Nat := if suffix.length ≤ 3 then 1 else 2

/-- Whether what follows a known beginning looks like a known ending. -/
def resemblesSuffix (remainder : List Char) : Bool :=
  continuationSuffixTokens.any fun suffix =>
    suffix.length ≤ remainder.length &&
      levenshtein (String.ofList (remainder.take suffix.length)) suffix ≤ budget suffix

variable {text part : List Char}

/-- A place that is found lies behind the position and within the text. -/
theorem find?_eq_some {searchFrom start : Nat} (found : find? text part searchFrom = some start) :
    searchFrom ≤ start ∧ start ≤ text.length ∧ part <+: text.drop start ∧
      ∀ other, searchFrom ≤ other → other < start → ¬part <+: text.drop other := by
  unfold find? at found
  obtain ⟨here, member, before⟩ := List.find?_range'_eq_some.mp found
  rw [List.mem_range'_1] at member
  rw [List.isPrefixOf_iff_prefix] at here
  refine ⟨by omega, by omega, here, fun other low high => ?_⟩
  have differs := before other low high
  rwa [Bool.not_eq_true', ← Bool.not_eq_true, List.isPrefixOf_iff_prefix] at differs

/-- Where nothing is found a text occurs no more. -/
theorem find?_eq_none {searchFrom : Nat}
    (none_ : find? text part searchFrom = none) (other : Nat) (low : searchFrom ≤ other)
    (high : other ≤ text.length) : ¬part <+: text.drop other := by
  unfold find? at none_
  have differs := List.find?_eq_none.mp none_ other (by rw [List.mem_range'_1]; omega)
  rwa [List.isPrefixOf_iff_prefix] at differs

/-- Less of a text is left behind a place that was found. -/
theorem left_lt {searchFrom start : Nat} (found : find? text part searchFrom = some start) :
    text.length + 1 - (start + 1) < text.length + 1 - searchFrom := by
  have place := find?_eq_some found
  omega

/-- Whether a known beginning has a known ending behind it, from a position on. -/
def matchesFrom (normalized anchor : List Char) (searchFrom : Nat) : Bool :=
  match found : find? normalized anchor searchFrom with
  | none => false
  | some start =>
    if resemblesSuffix ((normalized.drop (start + anchor.length)).take 8) then true
    else matchesFrom normalized anchor (start + 1)
termination_by normalized.length + 1 - searchFrom
decreasing_by exact left_lt found

/-- Whether a text asks to go on, with few typos in the ending. -/
def isTypoTolerantContinuationMatch (normalized : String) : Bool :=
  continuationAnchorTokens.any fun anchor => matchesFrom normalized.toList anchor.toList 0

section Rows

variable {xs b : List Char} {previous : List Nat}

/-- A row holds the distances of a word from all beginnings of a text. -/
structure IsRow (xs b : List Char) (row : List Nat) : Prop where
  length : row.length = b.length + 1
  entry : ∀ j ≤ b.length, row.getD j 0 = distance xs (b.take j)

/-- A row is filled from the left. -/
theorem nextRow_upTo (row : IsRow xs b previous) (charA : Char) (done rest : List Char)
    (cut : done ++ rest = b) :
    let current := fillRow previous charA done ((xs.length + 1) :: List.replicate b.length 0)
    current.length = b.length + 1 ∧
      ∀ j ≤ done.length, current.getD j 0 = distance (xs ++ [charA]) (b.take j) := by
  induction done using List.reverseRecOn generalizing rest with
  | nil =>
    refine ⟨by simp [fillRow], fun j first => ?_⟩
    obtain rfl := Nat.le_zero.mp first
    simp [fillRow]
  | append_singleton done charB ih =>
    have shorter : done ++ (charB :: rest) = b := by simpa using cut
    obtain ⟨length, filled⟩ := ih (charB :: rest) shorter
    have within : done.length < b.length := by
      rw [← shorter]
      simp
    have takeDone : b.take done.length = done := by rw [← shorter]; simp
    have takeNext : b.take (done.length + 1) = done ++ [charB] := by
      rw [← shorter, List.take_append, List.take_of_length_le (by omega)]
      simp
    have step : fillRow previous charA (done ++ [charB])
        ((xs.length + 1) :: List.replicate b.length 0) =
        (fillRow previous charA done ((xs.length + 1) :: List.replicate b.length 0)).set
          (done.length + 1) (cell previous (fillRow previous charA done
            ((xs.length + 1) :: List.replicate b.length 0)) charA charB (done.length + 1)) := by
      simp [fillRow, List.zipIdx_append, Nat.add_comm]
    rw [step]
    refine ⟨by rw [List.length_set, length], fun j bound => ?_⟩
    rw [List.length_append, List.length_singleton] at bound
    rcases Nat.eq_or_lt_of_le bound with rfl | below
    · -- The new entry is made of the three around it.
      have above := row.entry (done.length + 1) (by omega)
      have corner := row.entry done.length (by omega)
      have left := filled done.length le_rfl
      rw [List.getD_eq_getElem?_getD, List.getElem?_set_self (by omega),
        Option.getD_some, cell, Nat.add_sub_cancel, above, corner, left, takeDone, takeNext,
        EditDistance.distance_concat_concat]
    · rw [List.getD_eq_getElem?_getD, List.getElem?_set_ne (by omega),
        ← List.getD_eq_getElem?_getD]
      exact filled j (by omega)

/-- The row below a row is the one of the longer word. -/
theorem IsRow.next (row : IsRow xs b previous) (charA : Char) :
    IsRow (xs ++ [charA]) b (nextRow b previous (xs.length + 1) charA) := by
  obtain ⟨length, filled⟩ := nextRow_upTo row charA b [] (List.append_nil b)
  exact ⟨length, filled⟩

/-- The first row counts the letters that are inserted. -/
theorem isRow_range (b : List Char) : IsRow [] b (List.range (b.length + 1)) := by
  refine ⟨List.length_range, fun j within => ?_⟩
  rw [List.getD_eq_getElem?_getD, List.getElem?_range (by omega)]
  simp [Nat.min_eq_left within]

/-- The last row is the one of the whole word. -/
theorem isRow_foldl (a b : List Char) :
    IsRow a b ((a.zipIdx 1).foldl
      (fun previous entry => nextRow b previous entry.2 entry.1) (List.range (b.length + 1))) := by
  induction a using List.reverseRecOn with
  | nil => exact isRow_range b
  | append_singleton a charA ih =>
    have next := ih.next charA
    simp only [List.zipIdx_append, List.zipIdx_singleton, List.foldl_append, List.foldl_cons,
      List.foldl_nil]
    rwa [Nat.add_comm 1 a.length]

end Rows

/-- What is computed row by row is the distance. -/
theorem levenshtein_eq (a b : String) : levenshtein a b = distance a.toList b.toList := by
  unfold levenshtein
  split
  · rename_i same
    rw [same, EditDistance.distance_self]
  · split
    · rename_i empty
      rw [empty, String.toList_empty, EditDistance.distance_nil_left, String.length_toList]
    · split
      · rename_i empty
        rw [empty, String.toList_empty, EditDistance.distance_nil_right, String.length_toList]
      · have row := isRow_foldl a.toList b.toList
        have last := row.entry b.toList.length le_rfl
        have length := row.length
        rw [List.take_length] at last
        rw [← String.length_toList, ← last, List.getLastD_eq_getLast?, List.getLast?_eq_getElem?,
          List.getD_eq_getElem?_getD, length, Nat.add_sub_cancel]

/-- The distance of texts is a metric. -/
theorem levenshtein_metric (a b c : String) :
    (levenshtein a b = 0 ↔ a = b) ∧ levenshtein a b = levenshtein b a ∧
      levenshtein a c ≤ levenshtein a b + levenshtein b c := by
  simp only [levenshtein_eq]
  refine ⟨?_, EditDistance.distance_comm _ _, EditDistance.distance_triangle _ _ _⟩
  rw [EditDistance.distance_eq_zero_iff, String.toList_inj]

/-- What looks like an ending starts with a text that few edits turn into the ending. -/
theorem resemblesSuffix_iff {text : List Char} :
    resemblesSuffix (text.take 8) = true ↔
      ∃ suffix ∈ continuationSuffixTokens, ∃ window rest, text = window ++ rest ∧
        window.length = suffix.length ∧
        ∃ edits ≤ budget suffix, Edits edits window suffix.toList := by
  have short : ∀ suffix ∈ continuationSuffixTokens, suffix.length ≤ 8 := by decide
  unfold resemblesSuffix
  simp only [List.any_eq_true, Bool.and_eq_true, decide_eq_true_eq, levenshtein_eq,
    String.toList_ofList]
  refine exists_congr fun suffix => and_congr_right fun member => ?_
  have fits := short suffix member
  constructor
  · rintro ⟨long, near⟩
    rw [List.length_take] at long
    rw [List.take_take, Nat.min_eq_left fits] at near
    exact ⟨text.take suffix.length, text.drop suffix.length, (List.take_append_drop _ _).symm,
      by rw [List.length_take]; omega, _, near, EditDistance.edits_distance _ _⟩
  · rintro ⟨window, rest, rfl, length, edits, few, made⟩
    rw [List.length_take, List.length_append, List.take_take, Nat.min_eq_left fits, ← length,
      List.take_left']
    · exact ⟨by omega, made.distance_le.trans few⟩
    · rfl

/-- The scan misses no place, though places may overlap. -/
theorem matchesFrom_iff {normalized anchor : List Char} {searchFrom : Nat} :
    matchesFrom normalized anchor searchFrom = true ↔
      ∃ start, searchFrom ≤ start ∧ start ≤ normalized.length ∧ anchor <+: normalized.drop start ∧
        resemblesSuffix ((normalized.drop (start + anchor.length)).take 8) = true := by
  fun_induction matchesFrom normalized anchor searchFrom with
  | case1 searchFrom found =>
    simp only [Bool.false_eq_true, false_iff]
    rintro ⟨start, low, high, here, -⟩
    exact find?_eq_none found start low high here
  | case2 searchFrom start found resembles =>
    have place := find?_eq_some found
    exact iff_of_true rfl ⟨start, place.1, place.2.1, place.2.2.1, resembles⟩
  | case3 searchFrom start found other ih =>
    obtain ⟨low, -, -, before⟩ := find?_eq_some found
    rw [ih]
    refine exists_congr fun place => ?_
    constructor
    · rintro ⟨later, rest⟩
      exact ⟨by omega, rest⟩
    · rintro ⟨behind, high, here, resembles⟩
      refine ⟨?_, high, here, resembles⟩
      -- It is neither the place that was found nor one before it.
      rcases Nat.lt_trichotomy place start with earlier | rfl | later
      · exact absurd here (before place behind earlier)
      · exact absurd resembles other
      · omega

/-- The distance is the least number of edits, and a text asks to go on exactly if behind some place
of a known beginning there is a text as long as an ending and within its budget of edits. -/
theorem continuation_match_exact :
    (∀ a b : String, IsLeast {edits | Edits edits a.toList b.toList} (levenshtein a b)) ∧
    ∀ normalized : String, isTypoTolerantContinuationMatch normalized = true ↔
      ∃ anchor ∈ continuationAnchorTokens, ∃ before remainder,
        normalized.toList = before ++ anchor.toList ++ remainder ∧
        ∃ suffix ∈ continuationSuffixTokens, ∃ window rest, remainder = window ++ rest ∧
          window.length = suffix.length ∧
          ∃ edits ≤ budget suffix, Edits edits window suffix.toList := by
  constructor
  · intro a b
    rw [levenshtein_eq]
    exact EditDistance.isLeast_distance _ _
  · intro normalized
    unfold isTypoTolerantContinuationMatch
    simp only [List.any_eq_true, matchesFrom_iff, resemblesSuffix_iff, Nat.zero_le, true_and]
    refine exists_congr fun anchor => and_congr_right fun _ => ?_
    constructor
    · rintro ⟨start, high, ⟨remainder, here⟩, ends⟩
      refine ⟨normalized.toList.take start, remainder, ?_, ?_⟩
      · rw [List.append_assoc, here, List.take_append_drop]
      · rwa [← List.drop_drop, ← here, List.drop_left'] at ends
        rfl
    · rintro ⟨before, remainder, whole, ends⟩
      have behind : normalized.toList.drop before.length = anchor.toList ++ remainder := by
        rw [whole, List.append_assoc, List.drop_left']
        rfl
      refine ⟨before.length, ?_, ⟨remainder, behind.symm⟩, ?_⟩
      · rw [whole, List.append_assoc, List.length_append]
        omega
      · rw [← List.drop_drop, behind, List.drop_left']
        · exact ends
        · rfl

end StrategyLab.ContinuationMatch
