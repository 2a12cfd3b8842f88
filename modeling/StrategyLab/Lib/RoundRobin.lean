import StrategyLab.Lib.Dict

/-! Drawing from several queues in turn: every item once, until a round brings nothing new. -/

namespace RoundRobin

variable {α : Type*}

/-- The items in front of the queues. -/
def fronts (queues : List (List α)) : List α := queues.filterMap List.head?

/-- What is behind the items in front. -/
def rests (queues : List (List α)) : List (List α) := queues.map List.tail

/-- The number of rounds after which every queue is empty. -/
def rounds (queues : List (List α)) : Nat := (queues.map List.length).foldr max 0

@[simp] theorem fronts_nil : fronts ([] : List (List α)) = [] := rfl

@[simp] theorem fronts_cons_nil (queues : List (List α)) :
    fronts ([] :: queues) = fronts queues := rfl

@[simp] theorem fronts_cons_cons (item : α) (queue : List α) (queues : List (List α)) :
    fronts ((item :: queue) :: queues) = item :: fronts queues := rfl

@[simp] theorem rests_cons (queue : List α) (queues : List (List α)) :
    rests (queue :: queues) = queue.tail :: rests queues := rfl

@[simp] theorem rounds_cons (queue : List α) (queues : List (List α)) :
    rounds (queue :: queues) = max queue.length (rounds queues) := rfl

/-- Every round leaves one round less. -/
theorem rounds_rests (queues : List (List α)) : rounds (rests queues) = rounds queues - 1 := by
  induction queues with
  | nil => rfl
  | cons queue queues ih =>
    rw [rests_cons, rounds_cons, rounds_cons, ih, List.length_tail]
    omega

variable {queues : List (List α)} {item : α}

/-- An item in front of a queue leaves a round to be drawn. -/
theorem rounds_pos (front : item ∈ fronts queues) :
    0 < rounds queues := by
  induction queues with
  | nil => cases front
  | cons queue queues ih =>
    rw [rounds_cons]
    cases queue with
    | nil =>
      have later := ih front
      omega
    | cons first queue =>
      rw [List.length_cons]
      omega

/-- What is in front after some rounds is what stood at their place. -/
theorem mem_fronts_drop {n : Nat} :
    item ∈ fronts (queues.map (·.drop n)) ↔ ∃ queue ∈ queues, queue[n]? = some item := by
  unfold fronts
  simp only [List.mem_filterMap, List.mem_map, exists_exists_and_eq_and, List.head?_drop]

variable [DecidableEq α]

/-- Draw some rounds on top of what is drawn already, but none from a round that only repeats. -/
def drawRounds : Nat → List α → List (List α) → List α
  | 0, drawn, _ => drawn
  | more + 1, drawn, queues =>
    if ∀ item ∈ fronts queues, item ∈ drawn then drawn
    else drawRounds more (Py.addKeys drawn (fronts queues)) (rests queues)

/-- Everything that is drawn from queues, in the order it is drawn. -/
def draw (queues : List (List α)) : List α := drawRounds (rounds queues) [] queues

/-- What is drawn already stays in front. -/
theorem prefix_drawRounds (n : Nat) (drawn : List α) (queues : List (List α)) :
    drawn <+: drawRounds n drawn queues := by
  induction n generalizing drawn queues with
  | zero => exact List.prefix_refl drawn
  | succ n ih =>
    rw [drawRounds]
    split
    · exact List.prefix_refl drawn
    · exact (Py.prefix_addKeys drawn _).trans (ih _ _)

/-- Nothing is drawn twice. -/
theorem nodup_drawRounds (n : Nat) {drawn : List α} (distinct : drawn.Nodup)
    (queues : List (List α)) : (drawRounds n drawn queues).Nodup := by
  induction n generalizing drawn queues with
  | zero => exact distinct
  | succ n ih =>
    rw [drawRounds]
    split
    · exact distinct
    · exact ih (Py.nodup_addKeys distinct _) _

/-- Nothing is drawn twice from queues. -/
theorem nodup_draw (queues : List (List α)) : (draw queues).Nodup :=
  nodup_drawRounds _ List.nodup_nil queues

/-- What is drawn was there before or waits in one of the queues. -/
theorem mem_or_of_mem_drawRounds {n : Nat} {drawn : List α}
    (member : item ∈ drawRounds n drawn queues) :
    item ∈ drawn ∨ ∃ queue ∈ queues, item ∈ queue := by
  induction n generalizing drawn queues with
  | zero => exact .inl member
  | succ n ih =>
    rw [drawRounds] at member
    split at member
    · exact .inl member
    · rcases ih member with added | ⟨rest, waiting, later⟩
      · -- The item was there, or it was in front of a queue.
        rcases Py.mem_addKeys.mp added with before | front
        · exact .inl before
        · obtain ⟨queue, waiting, first⟩ := List.mem_filterMap.mp front
          exact .inr ⟨queue, waiting, List.mem_of_mem_head? first⟩
      · obtain ⟨queue, inside, rfl⟩ := List.mem_map.mp waiting
        exact .inr ⟨queue, inside, List.mem_of_mem_tail later⟩

/-- What is drawn from queues waits in one of them. -/
theorem mem_queue_of_mem_draw (member : item ∈ draw queues) :
    ∃ queue ∈ queues, item ∈ queue := by
  rcases mem_or_of_mem_drawRounds member with nothing | waiting
  · cases nothing
  · exact waiting

/-- The items among the first ones of the queues, each once. -/
def firstOf (n : Nat) (queues : List (List α)) : List α :=
  Py.fromkeys (queues.flatMap (·.take n))

/-- The items at one place of the queues all stand before it in some queue. -/
def Stalls (queues : List (List α)) (n : Nat) : Prop :=
  ∀ queue ∈ queues, ∀ item, queue[n]? = some item → item ∈ firstOf n queues

/-- The first items of the queues are those before the last place and those at it. -/
theorem mem_firstOf_succ {n : Nat} :
    item ∈ firstOf (n + 1) queues ↔
      item ∈ firstOf n queues ∨ ∃ queue ∈ queues, queue[n]? = some item := by
  unfold firstOf
  simp only [Py.mem_fromkeys, List.mem_flatMap, List.take_add_one, List.mem_append,
    Option.mem_toList, and_or_left, exists_or]

/-- The more places, the more items. -/
theorem firstOf_subset {m n : Nat} (fewer : m ≤ n)
    (member : item ∈ firstOf m queues) : item ∈ firstOf n queues := by
  unfold firstOf at member ⊢
  rw [Py.mem_fromkeys, List.mem_flatMap] at member ⊢
  obtain ⟨queue, waiting, inside⟩ := member
  exact ⟨queue, waiting, (List.take_prefix_take_left fewer).subset inside⟩

/-- What is drawn is what stands before the first place at which the queues stall. -/
theorem exists_stall (queues : List (List α)) :
    ∃ n, (∀ item, item ∈ draw queues ↔ item ∈ firstOf n queues) ∧ Stalls queues n ∧
      ∀ m < n, ¬Stalls queues m := by
  -- After some rounds without a stall, what is drawn are the items before the next place.
  have general : ∀ k n drawn, rounds (queues.map (·.drop n)) = k →
      (∀ item, item ∈ drawn ↔ item ∈ firstOf n queues) → (∀ m < n, ¬Stalls queues m) →
      ∃ last, (∀ item, item ∈ drawRounds k drawn (queues.map (·.drop n)) ↔
        item ∈ firstOf last queues) ∧ Stalls queues last ∧ ∀ m < last, ¬Stalls queues m := by
    intro k
    induction k with
    | zero =>
      intro n drawn none_ same before
      refine ⟨n, same, fun queue waiting item there => ?_, before⟩
      have front := mem_fronts_drop.mpr ⟨queue, waiting, there⟩
      have more := rounds_pos front
      omega
    | succ k ih =>
      intro n drawn many same before
      rw [drawRounds]
      by_cases idle : ∀ item ∈ fronts (queues.map (·.drop n)), item ∈ drawn
      · rw [if_pos idle]
        refine ⟨n, same, fun queue waiting item there => ?_, before⟩
        exact (same item).mp (idle item (mem_fronts_drop.mpr ⟨queue, waiting, there⟩))
      · -- The round brings something new, so the queues do not stall here.
        rw [if_neg idle]
        have further : rests (queues.map (·.drop n)) = queues.map (·.drop (n + 1)) := by
          unfold rests
          rw [List.map_map]
          exact List.map_congr_left fun queue _ => List.tail_drop
        have left := rounds_rests (queues.map (·.drop n))
        rw [further] at left ⊢
        refine ih (n + 1) _ (by omega) (fun item => ?_) fun m earlier => ?_
        · rw [Py.mem_addKeys, mem_firstOf_succ, same, mem_fronts_drop]
        · rcases Nat.lt_succ_iff_lt_or_eq.mp earlier with old | rfl
          · exact before m old
          · intro stalls
            refine idle fun item front => ?_
            obtain ⟨queue, waiting, there⟩ := mem_fronts_drop.mp front
            exact (same item).mpr (stalls queue waiting item there)
  have start : queues.map (·.drop 0) = queues := by simp
  have whole := general (rounds queues) 0 [] (by rw [start]) (fun item => by simp [firstOf])
    fun m none_ => absurd none_ (Nat.not_lt_zero m)
  rwa [start] at whole

/-- As many items are drawn into some room as there are, exactly if the queues stall only where the
room is filled or nothing new stands behind. -/
theorem length_take_draw_iff (queues : List (List α)) (room : Nat) :
    ((draw queues).take room).length = min room (Py.fromkeys queues.flatten).length ↔
      ∀ n, Stalls queues n → room ≤ (firstOf n queues).length ∨
        ∀ queue ∈ queues, ∀ item ∈ queue, item ∈ firstOf n queues := by
  obtain ⟨n, drawn, stalls, first⟩ := exists_stall queues
  have distinct : ∀ n, (firstOf n queues).Nodup := fun n => Py.nodup_fromkeys _
  have long : (draw queues).length = (firstOf n queues).length :=
    ((List.perm_ext_iff_of_nodup (nodup_draw queues) (distinct n)).mpr drawn).length_eq
  have inside : ∀ item ∈ draw queues, item ∈ Py.fromkeys queues.flatten := by
    intro item member
    rw [Py.mem_fromkeys, List.mem_flatten]
    exact mem_queue_of_mem_draw member
  have fewer := (List.subperm_of_subset (nodup_draw queues) inside).length_le
  rw [List.length_take]
  constructor
  · intro complete m here
    have later : n ≤ m := by
      by_contra earlier
      exact first m (Nat.not_le.mp earlier) here
    by_cases filled : room ≤ (draw queues).length
    · -- What stands before a later place is no less.
      left
      have more := (List.subperm_of_subset (distinct n)
        fun item => firstOf_subset later).length_le
      omega
    · right
      intro queue waiting item member
      have all := (List.subperm_of_subset (nodup_draw queues) inside).perm_of_length_le (by omega)
      refine firstOf_subset later ((drawn item).mp (all.mem_iff.mpr ?_))
      rw [Py.mem_fromkeys, List.mem_flatten]
      exact ⟨queue, waiting, member⟩
  · intro condition
    rcases condition n stalls with filled | whole
    · omega
    · have all : (draw queues).length = (Py.fromkeys queues.flatten).length := by
        refine ((List.perm_ext_iff_of_nodup (nodup_draw queues) (Py.nodup_fromkeys _)).mpr
          fun item => ⟨inside item, fun member => ?_⟩).length_eq
        rw [Py.mem_fromkeys, List.mem_flatten] at member
        obtain ⟨queue, waiting, among⟩ := member
        exact (drawn item).mpr (whole queue waiting item among)
      omega

end RoundRobin
