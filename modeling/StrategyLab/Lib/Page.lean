import Mathlib.Data.List.Sort

/-! Pages of a keyed log: the next rows after a cursor, in key order and up to a limit. -/

namespace Page

variable {ρ κ : Type*} [LinearOrder κ]

/-- A key lies past a cursor, which may still be at the very start. -/
def Past (cursor : Option κ) (k : κ) : Prop := ∀ mark ∈ cursor, mark < k

instance (cursor : Option κ) : DecidablePred (Past cursor) := fun k =>
  inferInstanceAs (Decidable (∀ mark ∈ cursor, mark < k))

/-- The rows past the cursor, ordered by key. -/
def listing (key : ρ → κ) (rows : List ρ) (cursor : Option κ) : List ρ :=
  (rows.filter fun r => Past cursor (key r)).insertionSort fun a b => key a ≤ key b

/-- The first rows past the cursor, ordered by key. -/
def page (key : ρ → κ) (rows : List ρ) (cursor : Option κ) (limit : Nat) : List ρ :=
  (listing key rows cursor).take limit

/-- A key lies past a cursor that stands at a smaller key. -/
@[simp] theorem past_some {mark k : κ} : Past (some mark) k ↔ mark < k := by simp [Past]

/-- Whatever lies past a later key lies past the cursor before it. -/
theorem Past.trans {cursor : Option κ} {mid k : κ} (first : Past cursor mid)
    (second : Past (some mid) k) : Past cursor k := by
  intro mark stands
  exact lt_trans (first mark stands) (past_some.mp second)

variable {key : ρ → κ} {rows : List ρ} {cursor : Option κ} {limit : Nat}

/-- The listing holds exactly the rows past the cursor. -/
theorem mem_listing {r : ρ} :
    r ∈ listing key rows cursor ↔ r ∈ rows ∧ Past cursor (key r) := by
  rw [listing, (List.perm_insertionSort _ _).mem_iff, List.mem_filter, decide_eq_true_eq]

/-- The listing is in key order. -/
theorem listing_pairwise : (listing key rows cursor).Pairwise fun a b => key a ≤ key b := by
  have total : Std.Total (fun a b : ρ => key a ≤ key b) := ⟨fun a b => le_total (key a) (key b)⟩
  have trans : IsTrans ρ (fun a b : ρ => key a ≤ key b) := ⟨fun _ _ _ => le_trans⟩
  exact List.pairwise_insertionSort _ _

/-- A row of a page is a row of the log past the cursor. -/
theorem mem_of_page {r : ρ} (member : r ∈ page key rows cursor limit) :
    r ∈ rows ∧ Past cursor (key r) :=
  mem_listing.mp (List.mem_of_mem_take member)

/-- A page leaves out no row before one of its own. -/
theorem page_closed {early late : ρ} (listed : late ∈ page key rows cursor limit)
    (member : early ∈ rows) (past : Past cursor (key early)) (before : key early < key late) :
    early ∈ page key rows cursor limit := by
  have present := mem_listing.mpr ⟨member, past⟩
  have sorted : (listing key rows cursor).Pairwise fun a b => key a ≤ key b := listing_pairwise
  rw [← List.take_append_drop limit (listing key rows cursor)] at present sorted
  rcases List.mem_append.mp present with taken | dropped
  · exact taken
  · -- A dropped row comes after every taken one, so its key cannot be smaller.
    have order := (List.pairwise_append.mp sorted).2.2 late listed early dropped
    exact absurd before (not_lt.mpr order)

/-- A page with room for a row is not empty while some row lies past the cursor. -/
theorem page_ne_nil {r : ρ} (room : 0 < limit) (member : r ∈ rows) (past : Past cursor (key r)) :
    page key rows cursor limit ≠ [] := by
  have present := mem_listing.mpr ⟨member, past⟩
  intro empty
  rcases List.take_eq_nil_iff.mp empty with full | nothing
  · omega
  · simp [nothing] at present

/-- Moving the cursor onto a row past it leaves fewer rows past the cursor. -/
theorem countP_past_lt {r : ρ} (member : r ∈ rows) (past : Past cursor (key r)) :
    rows.countP (fun other => Past (some (key r)) (key other)) <
      rows.countP fun other => Past cursor (key other) := by
  -- The row itself is no longer past, and no row comes to lie past the cursor.
  obtain ⟨left, right, rfl⟩ := List.append_of_mem member
  have weaker (part : List ρ) : part.countP (fun other => Past (some (key r)) (key other)) ≤
      part.countP fun other => Past cursor (key other) := by
    refine List.countP_mono_left fun other _ later => ?_
    simp only [decide_eq_true_eq] at later ⊢
    exact past.trans later
  have onLeft := weaker left
  have onRight := weaker right
  have self : ¬Past (some (key r)) (key r) := by simp
  simp only [List.countP_append, List.countP_cons, past, self, decide_true, decide_false,
    Bool.false_eq_true, if_true, if_false]
  omega

end Page
