import StrategyLab.Lib.Overlaps
import StrategyLab.Lib.Python

/-! Long responses: the parts that a provider continues an answer with are put together, and
exactly which cuts of a text this undoes. -/

namespace StrategyLab.LongResponse

open Overlaps (Woven weight trim overlaps)

/-- The longest end of a text, up to a size, that another text begins with. -/
def overlapSuffixPrefix (left right : String) (maxSize : Nat) : Nat :=
  Nat.findGreatest
    (fun size => left.toList.drop (left.length - size) = right.toList.take size)
    (min (min left.length right.length) maxSize)

/-- Put a text behind another one without the letters that both have; an empty line separates them
where there are none. -/
def attach (merged clean : String) (overlap : Nat) : String :=
  merged ++ (if overlap ≠ 0 then "" else "\n\n") ++ String.ofList (clean.toList.drop overlap)

/-- Merge one more part. -/
def mergePart (merged part : String) : String :=
  let clean := Py.strip part
  if clean = "" then merged
  else if merged = "" then clean
  else attach merged clean (overlapSuffixPrefix merged clean 300)

/-- The merged parts of a response. -/
def mergeResponseParts (parts : List String) : String := parts.foldl mergePart ""

/-- A part of a text that is cut: what it adds, behind what it repeats of the text before. -/
structure Piece where
  repeated : String
  added : String
  deriving DecidableEq

namespace Piece

/-- The part as it arrives. -/
def part (piece : Piece) : String := piece.repeated ++ piece.added

end Piece

/-- The text that the pieces add up to. -/
def textOf (pieces : List Piece) : String := String.join (pieces.map Piece.added)

/-- A text without whitespace around it is cut into parts, each of which may repeat some of the
text before it. -/
structure IsCut (text : String) (pieces : List Piece) : Prop where
  trimmed : Py.strip text = text
  whole : textOf pieces = text
  filled : ∀ piece ∈ pieces, piece.added ≠ ""
  repeats : ∀ before piece, before ++ [piece] <+: pieces →
    piece.repeated.length ≤ 300 ∧ piece.repeated.toList <:+ (textOf before).toList

/-- A text is what the pieces add up to, up to whitespace where one follows the other. -/
structure SameUpToSpace (pieces : List String) (merged : String) : Prop where
  woven : Woven Py.isSpace (pieces.map String.toList) merged.toList
  trimmed : Py.strip merged = merged

/-- Put one more piece behind what is there, without exactly what it repeats. -/
def rejoinPart (joined : String) (piece : Piece) : String :=
  let clean := Py.strip piece.part
  if clean = "" then joined
  else if joined = "" then clean
  else attach joined clean (Py.strip piece.repeated).length

/-- The pieces put together without exactly what they repeat. -/
def rejoined (pieces : List Piece) : String := pieces.foldl rejoinPart ""

/-- The longest overlap of a part with what is there is what it repeats, whitespace around it
apart. -/
def Recognised (left : String) (piece : Piece) : Prop :=
  IsGreatest (overlaps 300 left.toList (Py.strip piece.part).toList)
    (Py.strip piece.repeated).length

/-- The parts that are not blank, one below the other. -/
def joined (parts : List String) : String :=
  "\n\n".intercalate ((parts.map Py.strip).filter (· ≠ ""))

section Letters

/-- The letters that `strip` leaves. -/
theorem toList_strip (text : String) : (Py.strip text).toList = trim Py.isSpace text.toList := by
  rw [Py.strip, String.toList_ofList]
  rfl

/-- The letters of texts that are put together. -/
theorem toList_attach (merged clean : String) (overlap : Nat) :
    (attach merged clean overlap).toList = merged.toList ++
      (if overlap ≠ 0 then [] else ['\n', '\n']) ++ clean.toList.drop overlap := by
  unfold attach
  split <;> simp

/-- What stands between texts are blanks. -/
theorem isSpace_separator (overlap : Nat) (letter : Char)
    (member : letter ∈ if overlap ≠ 0 then [] else ['\n', '\n']) : Py.isSpace letter := by
  split at member
  · cases member
  · simp only [List.mem_cons, List.not_mem_nil, or_false, or_self] at member
    rw [member]
    decide

/-- The overlap that is found is the greatest one. -/
theorem isGreatest_overlapSuffixPrefix (left right : String) :
    IsGreatest (overlaps 300 left.toList right.toList) (overlapSuffixPrefix left right 300) := by
  obtain ⟨bound, matching, none⟩ := Nat.findGreatest_eq_iff.mp
    (rfl : overlapSuffixPrefix left right 300 = overlapSuffixPrefix left right 300)
  rw [le_min_iff, le_min_iff] at bound
  obtain ⟨⟨withinLeft, withinRight⟩, small⟩ := bound
  constructor
  · refine ⟨small, by rwa [String.length_toList], ?_⟩
    by_cases empty : overlapSuffixPrefix left right 300 = 0
    · simp [empty]
    · rw [← matching empty]
      exact List.drop_suffix _ _
  · intro size overlap
    obtain ⟨bounded, within, suffix⟩ := overlap
    by_contra longer
    have length : (right.toList.take size).length = size := List.length_take_of_le within
    have shorter := suffix.length_le
    rw [length, String.length_toList] at shorter
    rw [String.length_toList] at within
    have same := List.suffix_iff_eq_drop.mp suffix
    rw [length, String.length_toList] at same
    exact none (by omega) (le_min (le_min shorter within) bounded) same.symm

end Letters

section Steps

variable {left : String} {piece : Piece}

/-- A part that repeats exactly what overlaps is merged as it is meant. -/
theorem mergePart_eq_rejoinPart (exactly : Recognised left piece) :
    mergePart left piece.part = rejoinPart left piece := by
  have size := (isGreatest_overlapSuffixPrefix left (Py.strip piece.part)).unique exactly
  rw [mergePart, rejoinPart, size]

/-- Merging takes the weight of the greatest overlap away, and no other. -/
theorem weight_mergePart (left part : String) :
    ∃ size, IsGreatest (overlaps 300 left.toList (Py.strip part).toList) size ∧
      weight Py.isSpace (mergePart left part).toList +
          weight Py.isSpace ((Py.strip part).toList.take size) =
        weight Py.isSpace left.toList + weight Py.isSpace part.toList := by
  have whole : weight Py.isSpace (Py.strip part).toList = weight Py.isSpace part.toList := by
    rw [toList_strip, Overlaps.weight_trim]
  unfold mergePart
  by_cases blank : Py.strip part = ""
  · refine ⟨0, ?_, ?_⟩
    · rw [blank]
      exact Overlaps.isGreatest_nil_overlaps 300 left.toList
    · rw [blank] at whole
      simp only [blank, if_pos, ← whole]
      simp
  · by_cases empty : left = ""
    · refine ⟨0, ?_, ?_⟩
      · rw [empty]
        exact Overlaps.isGreatest_overlaps_nil 300 _
      · have none : weight Py.isSpace [] = 0 := rfl
        simp only [if_neg blank, if_pos empty]
        rw [List.take_zero, empty, String.toList_empty, whole, none, Nat.zero_add, Nat.add_zero]
    · refine ⟨_, isGreatest_overlapSuffixPrefix left (Py.strip part), ?_⟩
      -- What is left of the part and what is taken away are the whole part.
      have cut := congrArg (weight Py.isSpace) (List.take_append_drop
        (overlapSuffixPrefix left (Py.strip part) 300) (Py.strip part).toList)
      have nothing := Overlaps.weight_eq_zero_iff.mpr
        (isSpace_separator (overlapSuffixPrefix left (Py.strip part) 300))
      rw [Overlaps.weight_append] at cut
      simp only [if_neg blank, if_neg empty, toList_attach, Overlaps.weight_append, nothing]
      omega

/-- What has been merged has no whitespace around it. -/
theorem strip_mergePart (trimmed : Py.strip left = left) (part : String) :
    Py.strip (mergePart left part) = mergePart left part := by
  have kept : ∀ text : String, Overlaps.StartsFirm Py.isSpace text.toList →
      Overlaps.EndsFirm Py.isSpace text.toList → Py.strip text = text := by
    intro text starts ends
    rw [← String.toList_inj, toList_strip, Overlaps.trim_eq_self starts ends]
  have clean : Py.strip (Py.strip part) = Py.strip part := by
    apply kept <;> rw [toList_strip]
    · exact Overlaps.startsFirm_trim part.toList
    · exact Overlaps.endsFirm_trim part.toList
  unfold mergePart
  by_cases blank : Py.strip part = ""
  · simpa only [blank, if_pos] using trimmed
  · by_cases empty : left = ""
    · simpa only [if_neg blank, if_pos empty] using clean
    · simp only [if_neg blank, if_neg empty]
      have starts : Overlaps.StartsFirm Py.isSpace left.toList := by
        rw [← trimmed, toList_strip]
        exact Overlaps.startsFirm_trim left.toList
      have ends : Overlaps.EndsFirm Py.isSpace left.toList := by
        rw [← trimmed, toList_strip]
        exact Overlaps.endsFirm_trim left.toList
      have endsPart : Overlaps.EndsFirm Py.isSpace (Py.strip part).toList := by
        rw [toList_strip]
        exact Overlaps.endsFirm_trim part.toList
      have filled : left.toList ≠ [] := by rwa [Ne, String.toList_eq_nil_iff]
      apply kept <;> rw [toList_attach]
      · intro letter first
        rw [List.append_assoc, List.head?_append_of_ne_nil _ filled] at first
        exact starts letter first
      · -- The end is that of the part, unless the part is repeated as a whole.
        intro letter last
        by_cases more : (Py.strip part).toList.drop
            (overlapSuffixPrefix left (Py.strip part) 300) = []
        · have positive : overlapSuffixPrefix left (Py.strip part) 300 ≠ 0 := by
            intro zero
            rw [zero, List.drop_zero, String.toList_eq_nil_iff] at more
            exact blank more
          rw [more, if_pos positive, List.append_nil, List.append_nil] at last
          exact ends letter last
        · rw [List.getLast?_append_of_ne_nil _ more] at last
          apply endsPart letter
          rw [← List.take_append_drop (overlapSuffixPrefix left (Py.strip part) 300)
            (Py.strip part).toList, List.getLast?_append_of_ne_nil _ more]
          exact last

/-- A piece that repeats a part of the text before is woven into it. -/
theorem woven_rejoinPart {pieces : List (List Char)}
    (woven : Woven Py.isSpace pieces left.toList)
    (repeats : piece.repeated.toList <:+ pieces.flatten) :
    Woven Py.isSpace (pieces ++ [piece.added.toList]) (rejoinPart left piece).toList := by
  obtain ⟨gap, clean, blanks, together⟩ :=
    Overlaps.trim_append Py.isSpace piece.repeated.toList piece.added.toList
  have part : (Py.strip piece.part).toList = trim Py.isSpace piece.repeated.toList ++ gap ++
      trim Py.isSpace piece.added.toList := by
    rw [toList_strip, ← clean, Piece.part, String.toList_append]
  unfold rejoinPart
  by_cases blank : Py.strip piece.part = ""
  · have nothing : gap ++ trim Py.isSpace piece.added.toList = [] := by
      rw [blank, String.toList_empty, List.append_assoc] at part
      exact (List.append_eq_nil_iff.mp part.symm).2
    have step := Woven.snoc woven gap piece.added.toList blanks
    rw [List.append_assoc, nothing, List.append_nil] at step
    simpa only [blank, if_pos] using step
  · by_cases empty : left = ""
    · -- There is nothing yet that could be repeated.
      have light : weight Py.isSpace piece.repeated.toList = 0 := by
        obtain ⟨front, same⟩ := repeats
        have before := woven.weight_eq
        rw [← same, Overlaps.weight_append, empty, String.toList_empty] at before
        have none : weight Py.isSpace [] = 0 := rfl
        omega
      have bare := Overlaps.trim_eq_nil_iff.mpr light
      rw [bare, together bare, List.nil_append, List.nil_append] at part
      have step := Woven.snoc woven [] piece.added.toList (by simp)
      rw [empty, String.toList_empty, List.nil_append, List.nil_append, ← part] at step
      simpa only [if_neg blank, if_pos empty] using step
    · have rest : (Py.strip piece.part).toList.drop (Py.strip piece.repeated).length =
          gap ++ trim Py.isSpace piece.added.toList := by
        rw [← String.length_toList, toList_strip piece.repeated, part, List.append_assoc,
          List.drop_left]
      have step := Woven.snoc woven
        ((if (Py.strip piece.repeated).length ≠ 0 then [] else ['\n', '\n']) ++ gap)
        piece.added.toList (by
          intro letter member
          rcases List.mem_append.mp member with between | inGap
          · exact isSpace_separator _ letter between
          · exact blanks letter inGap)
      simp only [if_neg blank, if_neg empty, toList_attach, rest]
      simpa only [List.append_assoc] using step

end Steps

section Cuts

variable {pieces : List Piece}

/-- The letters of a text are those of its pieces. -/
theorem toList_textOf (pieces : List Piece) :
    (textOf pieces).toList = ((pieces.map Piece.added).map String.toList).flatten := by
  induction pieces with
  | nil => rfl
  | cons piece pieces ih =>
    rw [textOf, List.map_cons, String.join_cons, String.toList_append, ← textOf, ih]
    rfl

/-- Merging goes on with the next part. -/
theorem mergeResponseParts_snoc (parts : List String) (part : String) :
    mergeResponseParts (parts ++ [part]) = mergePart (mergeResponseParts parts) part := by
  simp [mergeResponseParts]

/-- What has been merged never has whitespace around it. -/
theorem strip_mergeResponseParts (parts : List String) :
    Py.strip (mergeResponseParts parts) = mergeResponseParts parts := by
  induction parts using List.reverseRecOn with
  | nil => rfl
  | append_singleton parts part ih =>
    rw [mergeResponseParts_snoc]
    exact strip_mergePart ih part

/-- The pieces are rejoined one by one. -/
theorem rejoined_snoc (pieces : List Piece) (piece : Piece) :
    rejoined (pieces ++ [piece]) = rejoinPart (rejoined pieces) piece := by
  simp [rejoined]

/-- One more part is merged right exactly if what it repeats is what overlaps. -/
theorem sameUpToSpace_snoc_iff {left : String} {piece : Piece}
    (same : SameUpToSpace (pieces.map Piece.added) left)
    (repeats : piece.repeated.toList <:+ (textOf pieces).toList) :
    SameUpToSpace (pieces.map Piece.added ++ [piece.added]) (mergePart left piece.part) ↔
      Recognised left piece := by
  obtain ⟨gap, clean, blanks, _⟩ :=
    Overlaps.trim_append Py.isSpace piece.repeated.toList piece.added.toList
  have part : (Py.strip piece.part).toList =
      (Py.strip piece.repeated).toList ++ (gap ++ trim Py.isSpace piece.added.toList) := by
    rw [toList_strip, toList_strip, ← List.append_assoc, ← clean, Piece.part,
      String.toList_append]
  have taken : (Py.strip piece.part).toList.take (Py.strip piece.repeated).length =
      trim Py.isSpace piece.repeated.toList := by
    rw [part, ← String.length_toList, List.take_left, toList_strip]
  have within : (Py.strip piece.repeated).length ≤ (Py.strip piece.part).toList.length := by
    rw [part, List.length_append, String.length_toList]
    omega
  constructor
  · intro merged
    obtain ⟨size, greatest, balance⟩ := weight_mergePart left piece.part
    -- Both sides weigh what the pieces weigh, so the overlap weighs what is repeated.
    have before := same.woven.weight_eq
    have after := merged.woven.weight_eq
    rw [List.map_append, List.map_singleton, List.flatten_append, List.flatten_singleton,
      Overlaps.weight_append, ← before] at after
    have whole : weight Py.isSpace piece.part.toList =
        weight Py.isSpace piece.repeated.toList + weight Py.isSpace piece.added.toList := by
      rw [Piece.part, String.toList_append, Overlaps.weight_append]
    have equal : size = (Py.strip piece.repeated).length := by
      have suffix := greatest.1.2.2
      have firmLeft : Overlaps.EndsFirm Py.isSpace left.toList := by
        rw [← same.trimmed, toList_strip]
        exact Overlaps.endsFirm_trim left.toList
      have firmRight : Overlaps.EndsFirm Py.isSpace
          ((Py.strip piece.part).toList.take (Py.strip piece.repeated).length) := by
        rw [taken]
        exact Overlaps.endsFirm_trim piece.repeated.toList
      apply Overlaps.eq_of_weight_take greatest.1.2.1 within (firmLeft.of_suffix suffix) firmRight
      rw [taken, Overlaps.weight_trim]
      omega
    rw [Recognised, ← equal]
    exact greatest
  · intro exactly
    refine ⟨?_, strip_mergePart same.trimmed piece.part⟩
    rw [mergePart_eq_rejoinPart exactly]
    rw [toList_textOf] at repeats
    have step := woven_rejoinPart same.woven repeats
    simpa only [List.map_append, List.map_singleton] using step

/-- Where every part so far was merged right, the parts are merged as they are meant. -/
theorem sameUpToSpace_iff
    (repeats : ∀ before piece, before ++ [piece] <+: pieces →
      piece.repeated.toList <:+ (textOf before).toList) :
    ((∀ before, before <+: pieces → SameUpToSpace (before.map Piece.added)
        (mergeResponseParts (before.map Piece.part))) ↔
      ∀ before piece, before ++ [piece] <+: pieces → Recognised (rejoined before) piece) ∧
    ((∀ before piece, before ++ [piece] <+: pieces → Recognised (rejoined before) piece) →
      mergeResponseParts (pieces.map Piece.part) = rejoined pieces) := by
  induction pieces using List.reverseRecOn with
  | nil =>
    refine ⟨⟨fun _ => Overlaps.forall_entry_nil, fun _ before start => ?_⟩, fun _ => rfl⟩
    rw [List.prefix_nil.mp start]
    exact ⟨.nil, rfl⟩
  | append_singleton pieces piece ih =>
    obtain ⟨earlier, last⟩ := Overlaps.forall_entry_snoc.mp repeats
    obtain ⟨undone, together⟩ := ih earlier
    rw [Overlaps.forall_prefix_snoc, Overlaps.forall_entry_snoc, undone]
    simp only [List.map_append, List.map_singleton, mergeResponseParts_snoc, rejoined_snoc]
    constructor
    · refine and_congr_right fun recognised => ?_
      have same := undone.mpr recognised pieces (List.prefix_refl _)
      rw [sameUpToSpace_snoc_iff same last, together recognised]
    · intro recognised
      rw [together recognised.1]
      exact mergePart_eq_rejoinPart recognised.2

end Cuts

section Parts

variable {parts : List String}

/-- A part that repeats nothing. -/
def fresh (part : String) : Piece := ⟨"", part⟩

/-- A part that repeats nothing is recognised exactly if nothing overlaps. -/
theorem recognised_fresh_iff {left part : String} :
    Recognised left (fresh part) ↔
      IsGreatest (overlaps 300 left.toList (Py.strip part).toList) 0 := by
  have whole : (fresh part).part = part := by rw [fresh, Piece.part, String.empty_append]
  have none : (Py.strip (fresh part).repeated).length = 0 := rfl
  rw [Recognised, whole, none]

/-- Nothing stands one below the other only if there is nothing. -/
theorem joined_eq_empty (empty : joined parts = "") :
    (parts.map Py.strip).filter (· ≠ "") = [] := by
  by_contra filled
  obtain ⟨first, rest, list⟩ := List.exists_cons_of_ne_nil filled
  have solid : first ≠ "" := by
    have member : first ∈ (parts.map Py.strip).filter (· ≠ "") := by
      rw [list]
      exact List.mem_cons_self
    simpa using (List.mem_filter.mp member).2
  rw [joined, list] at empty
  cases rest with
  | nil =>
    rw [String.intercalate_singleton] at empty
    exact solid empty
  | cons second rest =>
    rw [String.intercalate_cons_cons, String.append_eq_empty_iff] at empty
    exact solid (String.append_eq_empty_iff.mp empty.1).1

/-- One more part is put below those before it. -/
theorem joined_snoc (parts : List String) (part : String) :
    joined (parts ++ [part]) = rejoinPart (joined parts) (fresh part) := by
  have whole : (fresh part).part = part := by rw [fresh, Piece.part, String.empty_append]
  have none : (Py.strip (fresh part).repeated).length = 0 := rfl
  rw [rejoinPart, whole, none]
  by_cases blank : Py.strip part = ""
  · simp [joined, blank]
  · by_cases empty : joined parts = ""
    · have nothing := joined_eq_empty empty
      simp only [if_neg blank, if_pos empty]
      rw [joined, List.map_append, List.filter_append, nothing]
      simp [blank]
    · have filled : (parts.map Py.strip).filter (· ≠ "") ≠ [] := by
        intro nothing
        rw [joined, nothing] at empty
        exact empty rfl
      simp only [if_neg blank, if_neg empty]
      have kept : [Py.strip part].filter (· ≠ "") = [Py.strip part] := by simp [blank]
      rw [joined, List.map_append, List.filter_append, List.map_singleton, kept,
        String.intercalate_append_of_ne_nil filled (by simp), String.intercalate_singleton,
        ← joined]
      simp [attach]

/-- Nothing of the parts is lost exactly if none begins as those before it end. -/
theorem weight_mergeResponseParts (parts : List String) :
    weight Py.isSpace (mergeResponseParts parts).toList ≤
        weight Py.isSpace (parts.map String.toList).flatten ∧
      (weight Py.isSpace (mergeResponseParts parts).toList =
          weight Py.isSpace (parts.map String.toList).flatten ↔
        ∀ before part, before ++ [part] <+: parts → Recognised (joined before) (fresh part)) ∧
      ((∀ before part, before ++ [part] <+: parts → Recognised (joined before) (fresh part)) →
        mergeResponseParts parts = joined parts ∧
          Woven Py.isSpace (parts.map String.toList) (mergeResponseParts parts).toList) := by
  induction parts using List.reverseRecOn with
  | nil =>
    have light : weight Py.isSpace (mergeResponseParts []).toList =
        weight Py.isSpace (([] : List String).map String.toList).flatten := rfl
    exact ⟨light.le, ⟨fun _ => Overlaps.forall_entry_nil, fun _ => light⟩, fun _ => ⟨rfl, .nil⟩⟩
  | append_singleton parts part ih =>
    obtain ⟨atMost, equalIff, together⟩ := ih
    obtain ⟨size, greatest, balance⟩ := weight_mergePart (mergeResponseParts parts) part
    rw [Overlaps.forall_entry_snoc, mergeResponseParts_snoc, joined_snoc, List.map_append,
      List.map_singleton, List.flatten_append, List.flatten_singleton, Overlaps.weight_append]
    refine ⟨by omega, ⟨fun equal => ?_, fun recognised => ?_⟩, fun recognised => ?_⟩
    · -- Weight that is lost once never comes back.
      have earlier := equalIff.mp (by omega)
      refine ⟨earlier, ?_⟩
      rw [recognised_fresh_iff, ← (together earlier).1]
      have firm : Overlaps.EndsFirm Py.isSpace (mergeResponseParts parts).toList := by
        rw [← strip_mergeResponseParts parts, toList_strip]
        exact Overlaps.endsFirm_trim (mergeResponseParts parts).toList
      have light : weight Py.isSpace ((Py.strip part).toList.take size) = 0 := by omega
      have zero : size = 0 := by
        apply Overlaps.eq_of_weight_take greatest.1.2.1 (Nat.zero_le _)
          (firm.of_suffix greatest.1.2.2) (firm.of_suffix (by simp))
        rw [light, List.take_zero]
        rfl
      rw [← zero]
      exact greatest
    · have exactly := recognised.2
      rw [recognised_fresh_iff, ← (together recognised.1).1] at exactly
      obtain rfl := greatest.unique exactly
      have equal := equalIff.mpr recognised.1
      have none : weight Py.isSpace ((Py.strip part).toList.take 0) = 0 := rfl
      omega
    · obtain ⟨same, woven⟩ := together recognised.1
      have exactly := recognised.2
      have whole : (fresh part).part = part := by rw [fresh, Piece.part, String.empty_append]
      rw [← same] at exactly
      have step := mergePart_eq_rejoinPart exactly
      rw [whole] at step
      rw [step, ← same]
      exact ⟨rfl, @woven_rejoinPart _ (fresh part) _ woven List.nil_suffix⟩

/-- After every part the merged text is the text so far, up to whitespace at the cuts, exactly if
what overlaps is always what the part repeats; parts that repeat nothing keep all their letters
exactly if none begins as the parts before it end. -/
theorem merged_exactly_iff {text : String} {pieces : List Piece} (cut : IsCut text pieces)
    (parts : List String) :
    ((∀ before, before <+: pieces →
        SameUpToSpace (before.map Piece.added) (mergeResponseParts (before.map Piece.part))) ↔
      ∀ before piece, before ++ [piece] <+: pieces → Recognised (rejoined before) piece) ∧
    (SameUpToSpace parts (mergeResponseParts parts) ↔
      ∀ before part, before ++ [part] <+: parts → ∀ head, head ≠ [] → head.length ≤ 300 →
        head <+: (Py.strip part).toList → ¬head <:+ (joined before).toList) := by
  constructor
  · have repeats : ∀ before piece, before ++ [piece] <+: pieces →
        piece.repeated.toList <:+ (textOf before).toList := by
      intro before piece start
      exact (cut.repeats before piece start).2
    exact (sameUpToSpace_iff repeats).1
  · obtain ⟨_, equalIff, together⟩ := weight_mergeResponseParts parts
    have differs : (∀ before part, before ++ [part] <+: parts → ∀ head, head ≠ [] →
        head.length ≤ 300 → head <+: (Py.strip part).toList → ¬head <:+ (joined before).toList) ↔
        ∀ before part, before ++ [part] <+: parts → Recognised (joined before) (fresh part) := by
      refine forall₃_congr fun before part _ => ?_
      rw [recognised_fresh_iff, Overlaps.isGreatest_zero_iff]
    rw [differs]
    constructor
    · intro same
      exact equalIff.mp same.woven.weight_eq
    · intro recognised
      exact ⟨(together recognised).2, strip_mergeResponseParts parts⟩

/-- A cut with a repetition that is recognised. -/
theorem repetition_merged_exactly :
    SameUpToSpace ["abc ", "def"] (mergeResponseParts ["abc ", "bc def"]) := by
  have cut : IsCut "abc def" ([] ++ [⟨"", "abc "⟩] ++ [⟨"bc ", "def"⟩]) := by
    refine ⟨by decide, by decide, by decide, ?_⟩
    rw [Overlaps.forall_entry_snoc, Overlaps.forall_entry_snoc]
    exact ⟨⟨Overlaps.forall_entry_nil, by decide, List.nil_suffix⟩, by decide, ['a'], rfl⟩
  apply ((merged_exactly_iff cut []).1.mpr ?_) _ (List.prefix_refl _)
  rw [Overlaps.forall_entry_snoc, Overlaps.forall_entry_snoc]
  refine ⟨⟨Overlaps.forall_entry_nil, ?_⟩, ?_⟩
  · exact Overlaps.isGreatest_overlaps_nil 300 _
  · have found : overlapSuffixPrefix "abc" "bc def" 300 = 2 := by decide
    have greatest := isGreatest_overlapSuffixPrefix "abc" "bc def"
    rw [found] at greatest
    exact greatest

/-- A letter that the text has twice is lost if the cut falls between the two. -/
theorem doubled_letter_lost :
    IsCut "abbc" [⟨"", "ab"⟩, ⟨"", "bc"⟩] ∧
      mergeResponseParts ["ab", "bc"] = "abc" ∧
      ¬SameUpToSpace ["ab", "bc"] (mergeResponseParts ["ab", "bc"]) := by
  have merged : mergeResponseParts ["ab", "bc"] = "abc" := by decide
  refine ⟨⟨by decide, by decide, by decide, fun before piece start => ?_⟩, merged, ?_⟩
  · have nothing : ∀ piece ∈ [Piece.mk "" "ab", ⟨"", "bc"⟩], piece.repeated = "" := by decide
    rw [nothing piece (start.subset (by simp))]
    exact ⟨by decide, List.nil_suffix⟩
  · intro same
    have weights := same.woven.weight_eq
    rw [merged] at weights
    revert weights
    decide

end Parts

end StrategyLab.LongResponse
