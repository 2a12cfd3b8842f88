import StrategyLab.Research.SampleExhaustion
import StrategyLab.Runtime.PaperObservations
import Mathlib.Data.List.Infix
import Mathlib.Data.List.Pairwise

/-! Closed trades: when the ledger of observations counts each of them exactly once. -/

namespace StrategyLab.PaperObservation

/-- What tells one trade from another. -/
structure Trade where
  strategyVersionId : String
  direction : String
  symbol : String
  signalAt : String
  entryAt : Option String
  exitAt : Option String
  deriving DecidableEq, Repr

variable {F : Type} {numerics : Numerics F} {table : ObservationTable F}

/-- The trade of a row. -/
def ObservationRow.trade (row : ObservationRow F) : Trade where
  strategyVersionId := row.strategyVersionId
  direction := row.direction
  symbol := row.symbol
  signalAt := row.signalAt
  entryAt := row.entryAt
  exitAt := row.exitAt

/-- Whether two rows are the same for the unique index. -/
def ObservationRow.Same (old row : ObservationRow F) : Prop :=
  row.identity.isSome ∧ old.identity = row.identity

instance (old row : ObservationRow F) : Decidable (old.Same row) :=
  inferInstanceAs (Decidable (_ ∧ _))

/-- Whether the letter case of a direction that the check knows makes no difference to it. -/
def ObservationRow.AnyCase (numerics : Numerics F) (row : ObservationRow F) : Prop :=
  row.status = "closed" → numerics.casing.upper row.direction ∈ ["LONG", "SHORT"] →
    (row.Counts numerics ↔
      { row with direction := numerics.casing.upper row.direction }.Counts numerics)

/-- The rows that the reports of a run stand for. -/
def reportedRows (numerics : Numerics F) (reports : List Report) : List (ObservationRow F) :=
  reports.filterMap fun report => (readRow numerics report).toOption

/-- The table after reports. -/
def tableAfter (numerics : Numerics F) (reports : List Report) : ObservationTable F :=
  (observationMachine numerics).run .empty reports

/-- Each closed trade of a family that is reported with a pnl that counts is counted once; a report
is answered with a row of its own trade; and the letter case of a direction does not decide what
counts. -/
structure CountedOnce (numerics : Numerics F) (reports : List Report) : Prop where
  once : ∀ familyId, (((tableAfter numerics reports).eligible numerics familyId).map
    ObservationRow.trade).Nodup
  counted : ∀ familyId trade,
    trade ∈ ((tableAfter numerics reports).eligible numerics familyId).map ObservationRow.trade ↔
      ∃ row ∈ reportedRows numerics reports, row.familyId = familyId ∧ row.Counts numerics ∧
        row.trade = trade
  apart : ∀ before report after, reports = before ++ report :: after → ∀ id row,
    (observationMachine numerics).answer (tableAfter numerics before) report = .ok id →
    readRow numerics report = .ok row →
    ∃ stored, (tableAfter numerics (before ++ [report])).rows[id - 1]? = some stored ∧
      stored.trade = row.trade
  anyCase : ∀ row ∈ (tableAfter numerics reports).rows, row.AnyCase numerics

/-- What a report has to meet: where there is a row that is the same, that row is of the same trade,
and counts if the report counts; otherwise, if the report counts, no row of its family counts for
the same trade, and the letter case of its direction makes no difference. -/
def Clear (numerics : Numerics F) (table : ObservationTable F) (report : Report) : Prop :=
  ∀ row, readRow numerics report = .ok row →
    (∀ old ∈ table.rows, old.Same row →
      old.trade = row.trade ∧ (row.Counts numerics → old.Counts numerics)) ∧
    ((∀ old ∈ table.rows, ¬old.Same row) →
      (row.Counts numerics → ∀ old ∈ table.rows, old.familyId = row.familyId →
        old.Counts numerics → old.trade ≠ row.trade) ∧ row.AnyCase numerics)

variable {row : ObservationRow F}

/-- The row that a new one is the same as is at its position. -/
theorem ObservationTable.existing_eq_some {position : Nat}
    (found : table.existing row = some position) :
    ∃ old, table.rows[position]? = some old ∧ old.Same row := by
  obtain ⟨inside, same, -⟩ := List.findIdx?_eq_some_iff_getElem.mp found
  refine ⟨table.rows[position], List.getElem?_eq_getElem inside, ?_⟩
  simpa [ObservationRow.Same] using same

/-- A row that is the same as none has no row that it is the same as. -/
theorem ObservationTable.existing_eq_none_iff :
    table.existing row = none ↔ ∀ old ∈ table.rows, ¬old.Same row := by
  unfold existing
  rw [List.findIdx?_eq_none_iff]
  refine forall₂_congr fun old _ => ?_
  simp only [ObservationRow.Same, Bool.and_eq_false_iff, decide_eq_false_iff_not,
    Option.isSome_iff_ne_none, not_and, Option.isSome_eq_false_iff, Option.isNone_iff_eq_none]
  tauto

/-- Rows that are the same for the index are one row of the table. -/
theorem ObservationTable.eq_of_identity {one other : ObservationRow F} (member : one ∈ table.rows)
    (otherMember : other ∈ table.rows) (some_ : one.identity.isSome)
    (same : one.identity = other.identity) : one = other := by
  have apart := List.pairwise_filterMap.mp table.unique
  by_contra differ
  obtain ⟨key, found⟩ := Option.isSome_iff_exists.mp some_
  have symmetric : Std.Symm fun one other : ObservationRow F =>
      ∀ key, one.identity = some key → ∀ key', other.identity = some key' → key ≠ key' :=
    ⟨fun one other apart key found key' found' same => apart key' found' key found same.symm⟩
  exact apart.forall member otherMember differ key found key (same.symm.trans found) rfl

/-- Rows that are the same for the index are of one family. -/
theorem family_of_same {old row : ObservationRow F} (same : old.Same row) :
    old.familyId = row.familyId := by
  obtain ⟨some_, equal⟩ := same
  obtain ⟨key, found⟩ := Option.isSome_iff_exists.mp some_
  rw [found] at equal
  unfold ObservationRow.identity at found equal
  simp only [Option.bind_eq_bind, Option.bind_eq_some_iff, Option.pure_def] at found equal
  obtain ⟨_, -, _, -, one⟩ := found
  obtain ⟨_, -, _, -, other⟩ := equal
  exact congrArg Prod.fst (Option.some.inj (other.trans one.symm))

/-- What a report does to the table: nothing, where it cannot be read or where there is a row that
is the same; otherwise its row comes last. -/
theorem insert_cases (numerics : Numerics F) (table : ObservationTable F) (report : Report) :
    (∃ raised, readRow numerics report = .error raised ∧
      (observationMachine numerics).step table report = (.error raised, table)) ∨
    (∃ row position old, readRow numerics report = .ok row ∧
      table.rows[position]? = some old ∧ old.Same row ∧
      (observationMachine numerics).step table report = (.ok (position + 1), table)) ∨
    ∃ row, readRow numerics report = .ok row ∧ (∀ old ∈ table.rows, ¬old.Same row) ∧
      ((observationMachine numerics).step table report).1 = .ok (table.rows.length + 1) ∧
      ((observationMachine numerics).step table report).2.rows = table.rows ++ [row] := by
  have unfolded : (observationMachine numerics).step table report = table.insert numerics report :=
    rfl
  rw [unfolded]
  unfold ObservationTable.insert
  cases read : readRow numerics report with
  | error raised => exact .inl ⟨raised, rfl, rfl⟩
  | ok row =>
    refine .inr ?_
    dsimp only
    split
    · rename_i position found
      obtain ⟨old, there, same⟩ := ObservationTable.existing_eq_some found
      exact .inl ⟨row, position, old, rfl, there, same, rfl⟩
    · rename_i found
      exact .inr ⟨row, rfl, ObservationTable.existing_eq_none_iff.mp found, rfl, rfl⟩

variable {reports : List Report}

/-- The rows that reports stand for are those that they are read as. -/
theorem mem_reportedRows :
    row ∈ reportedRows numerics reports ↔
      ∃ report ∈ reports, readRow numerics report = .ok row := by
  unfold reportedRows
  rw [List.mem_filterMap]
  refine exists_congr fun report => and_congr_right fun _ => ?_
  cases readRow numerics report with
  | error raised => simp [Except.toOption]
  | ok other => simp [Except.toOption]

/-- Reports only add rows, behind those that are there. -/
theorem prefix_run (table : ObservationTable F) (reports : List Report) :
    table.rows <+: ((observationMachine numerics).run table reports).rows := by
  induction reports generalizing table with
  | nil => exact List.prefix_refl _
  | cons report rest ih =>
    refine List.IsPrefix.trans ?_ (ih _)
    rcases insert_cases numerics table report with
      ⟨_, -, same⟩ | ⟨_, _, _, -, -, -, same⟩ | ⟨row, -, -, -, rows⟩
    · rw [Machine.next, same]
    · rw [Machine.next, same]
    · rw [Machine.next, rows]
      exact List.prefix_append _ _

/-- Every row is one that was there or that a report stands for. -/
theorem mem_rows_run {table : ObservationTable F}
    (member : row ∈ ((observationMachine numerics).run table reports).rows) :
    row ∈ table.rows ∨ row ∈ reportedRows numerics reports := by
  induction reports generalizing table with
  | nil => exact .inl member
  | cons report rest ih =>
    have later : ∀ {row}, row ∈ reportedRows numerics rest →
        row ∈ reportedRows numerics (report :: rest) := by
      intro row among
      obtain ⟨other, inside, read⟩ := mem_reportedRows.mp among
      exact mem_reportedRows.mpr ⟨other, List.mem_cons_of_mem _ inside, read⟩
    rcases ih member with before | among
    · rcases insert_cases numerics table report with
        ⟨_, -, same⟩ | ⟨_, _, _, -, -, -, same⟩ | ⟨new, read, -, -, rows⟩
      · rw [Machine.next, same] at before
        exact .inl before
      · rw [Machine.next, same] at before
        exact .inl before
      · rw [Machine.next, rows, List.mem_append, List.mem_singleton] at before
        rcases before with old | rfl
        · exact .inl old
        · exact .inr (mem_reportedRows.mpr ⟨report, List.mem_cons_self, read⟩)
    · exact .inr (later among)

/-- The rows that count for a family are the rows of the family that count. -/
theorem eligible_eq (familyId : String) : table.eligible numerics familyId =
    table.rows.filter fun row => row.familyId = familyId ∧ row.Counts numerics := by
  unfold ObservationTable.eligible ObservationTable.closedRows
  rw [List.filter_filter]
  refine List.filter_congr fun row _ => ?_
  by_cases counts : row.Counts numerics
  · -- A row that counts is closed, and its pnl is known.
    obtain ⟨closed, check, found, -⟩ := id counts
    obtain ⟨pnl, known, -⟩ := Option.map_eq_some_iff.mp found
    simp [counts, closed, known]
  · simp [counts]

/-- A row counts for a family exactly if it is a row of the family that counts. -/
theorem mem_eligible {familyId : String} :
    row ∈ table.eligible numerics familyId ↔
      row ∈ table.rows ∧ row.familyId = familyId ∧ row.Counts numerics := by
  rw [eligible_eq, List.mem_filter, decide_eq_true_eq]

/-- Rows of one family that count for the same trade are the same for the index, if they have both
times. -/
theorem identity_eq {one other : ObservationRow F} (family : one.familyId = other.familyId)
    (counts : one.Counts numerics) (otherCounts : other.Counts numerics)
    (trade : one.trade = other.trade) : one.identity = other.identity := by
  have status : one.status = other.status := counts.1.trans otherCounts.1.symm
  simp only [ObservationRow.trade, Trade.mk.injEq] at trade
  obtain ⟨-, -, symbol, -, entryAt, exitAt⟩ := trade
  simp only [ObservationRow.identity, family, symbol, status, entryAt, exitAt]

/-- The rows of a family that count, when one row comes last. -/
theorem eligible_of_rows {after : ObservationTable F}
    (rows : after.rows = table.rows ++ [row]) (familyId : String) :
    after.eligible numerics familyId = table.eligible numerics familyId ++
      if row.familyId = familyId ∧ row.Counts numerics then [row] else [] := by
  rw [eligible_eq, eligible_eq, rows, List.filter_append, List.filter_singleton]
  by_cases here : row.familyId = familyId ∧ row.Counts numerics
  · rw [if_pos here, decide_eq_true here]
    rfl
  · rw [if_neg here, decide_eq_false here]
    rfl

/-- The table of a longer list of reports starts with the rows of the shorter one. -/
theorem prefix_tableAfter (numerics : Numerics F) (before after : List Report) :
    (tableAfter numerics before).rows <+: (tableAfter numerics (before ++ after)).rows := by
  unfold tableAfter
  rw [Machine.run_append]
  exact prefix_run _ after

/-- The table after one more report is the next one. -/
theorem tableAfter_append (before : List Report) (report : Report) :
    tableAfter numerics (before ++ [report]) =
      (observationMachine numerics).next (tableAfter numerics before) report := by
  unfold tableAfter
  rw [Machine.run_append]
  rfl

/-- A row that is there after a part of the reports is there after all of them. -/
theorem mem_of_mem_before {before after : List Report} {report : Report}
    (member : row ∈ (tableAfter numerics before).rows) :
    row ∈ (tableAfter numerics (before ++ report :: after)).rows :=
  (prefix_tableAfter numerics before (report :: after)).subset member

/-- If every report of a run is clear, no trade of a family counts twice, and letter case makes no
difference. -/
theorem once_of_guarded
    (guarded : (observationMachine numerics).Guarded (Clear numerics) .empty reports) :
    (∀ familyId, (((tableAfter numerics reports).eligible numerics familyId).map
      ObservationRow.trade).Nodup) ∧
    ∀ row ∈ (tableAfter numerics reports).rows, row.AnyCase numerics := by
  refine @Machine.guarded_invariant _ _ _ (observationMachine numerics) (Clear numerics)
    (fun table => (∀ familyId, ((table.eligible numerics familyId).map
      ObservationRow.trade).Nodup) ∧ ∀ row ∈ table.rows, row.AnyCase numerics) ?_ _ _ guarded
    ⟨fun familyId => List.nodup_nil, fun row member => by cases member⟩
  intro table report clear inv
  rcases insert_cases numerics table report with
    ⟨_, -, same⟩ | ⟨_, _, _, -, -, -, same⟩ | ⟨row, read, fresh, -, rows⟩
  · rwa [Machine.next, same]
  · rwa [Machine.next, same]
  · obtain ⟨other, case⟩ := (clear row read).2 fresh
    rw [Machine.next]
    refine ⟨fun familyId => ?_, fun old member => ?_⟩
    · rw [eligible_of_rows rows]
      by_cases here : row.familyId = familyId ∧ row.Counts numerics
      · -- The new row counts for a trade that no other row of the family counts for.
        rw [if_pos here, List.map_append, List.map_singleton]
        refine List.nodup_append.mpr ⟨inv.1 familyId, List.nodup_singleton _, ?_⟩
        intro trade among new single same
        rw [List.mem_singleton] at single
        obtain ⟨old, member, rfl⟩ := List.mem_map.mp among
        obtain ⟨there, family, counts⟩ := mem_eligible.mp member
        exact other here.2 old there (family.trans here.1.symm) counts (same.trans single)
      · rw [if_neg here, List.append_nil]
        exact inv.1 familyId
    · rw [rows, List.mem_append, List.mem_singleton] at member
      rcases member with there | rfl
      · exact inv.2 old there
      · exact case

/-- If every report of a run is clear, each closed trade is counted once. -/
theorem countedOnce_of_guarded
    (guarded : (observationMachine numerics).Guarded (Clear numerics) .empty reports) :
    CountedOnce numerics reports := by
  have clear := (Machine.guarded_iff_split (observationMachine numerics) _ _).mp guarded
  obtain ⟨once, anyCase⟩ := once_of_guarded guarded
  refine ⟨once, fun familyId trade => ⟨fun member => ?_, ?_⟩, ?_, anyCase⟩
  · obtain ⟨row, among, rfl⟩ := List.mem_map.mp member
    obtain ⟨there, family, counts⟩ := mem_eligible.mp among
    rcases mem_rows_run there with none_ | reported
    · cases none_
    · exact ⟨row, reported, family, counts, rfl⟩
  · rintro ⟨row, reported, family, counts, rfl⟩
    -- The report was stored, or there was a row of its trade that counts.
    obtain ⟨report, inside, read⟩ := mem_reportedRows.mp reported
    obtain ⟨before, after, rfl⟩ := List.append_of_mem inside
    have now := clear before report after rfl row read
    rcases insert_cases numerics (tableAfter numerics before) report with
      ⟨_, raised, -⟩ | ⟨other, _, old, own, there, same, -⟩ | ⟨other, own, -, -, rows⟩
    · rw [read] at raised
      cases raised
    · rw [read] at own
      cases own
      have member := List.mem_of_getElem? there
      obtain ⟨trade, oldCounts⟩ := now.1 old member same
      refine List.mem_map.mpr ⟨old, mem_eligible.mpr ⟨mem_of_mem_before member, ?_,
        oldCounts counts⟩, trade⟩
      exact (family_of_same same).trans family
    · rw [read] at own
      cases own
      refine List.mem_map.mpr ⟨row, mem_eligible.mpr ⟨?_, family, counts⟩, rfl⟩
      have stored : row ∈ (tableAfter numerics (before ++ [report])).rows := by
        rw [tableAfter_append, Machine.next]
        exact rows ▸ List.mem_append_right _ (List.mem_singleton_self row)
      have more := prefix_tableAfter numerics (before ++ [report]) after
      rw [List.append_assoc, List.singleton_append] at more
      exact more.subset stored
  · intro before report after split id row answered read
    have now := clear before report after split row read
    rw [Machine.answer] at answered
    rw [tableAfter_append, Machine.next]
    rcases insert_cases numerics (tableAfter numerics before) report with
      ⟨_, raised, -⟩ | ⟨other, position, old, own, there, same, step⟩ |
        ⟨other, own, -, answer, rows⟩
    · rw [read] at raised
      cases raised
    · rw [read] at own
      cases own
      rw [step] at answered ⊢
      cases answered
      exact ⟨old, there, (now.1 old (List.mem_of_getElem? there) same).1⟩
    · rw [read] at own
      cases own
      rw [answer] at answered
      cases answered
      rw [rows]
      exact ⟨row, List.getElem?_concat_length, rfl⟩

/-- If each closed trade is counted once, every report of the run is clear. -/
theorem guarded_of_countedOnce (kept : CountedOnce numerics reports) :
    (observationMachine numerics).Guarded (Clear numerics) .empty reports := by
  rw [Machine.guarded_iff_split]
  intro before report after split row read
  refine ⟨fun old member same => ?_, fun fresh => ?_⟩
  · -- The report is answered with the row that it is the same as.
    rcases insert_cases numerics (tableAfter numerics before) report with
      ⟨_, raised, -⟩ | ⟨other, position, found, own, there, sameFound, step⟩ |
        ⟨other, own, fresh, -, -⟩
    · rw [read] at raised
      cases raised
    · rw [read] at own
      cases own
      have foundMember := List.mem_of_getElem? there
      have one : found = old := ObservationTable.eq_of_identity foundMember member
        (sameFound.2 ▸ sameFound.1) (sameFound.2.trans same.2.symm)
      subst one
      have answered : (observationMachine numerics).answer (tableAfter numerics before) report =
          .ok (position + 1) := congrArg Prod.fst step
      obtain ⟨stored, atId, trade⟩ := kept.apart before report after split _ row answered read
      rw [tableAfter_append, Machine.next, step, Nat.add_sub_cancel, there] at atId
      cases atId
      refine ⟨trade, fun counts => ?_⟩
      -- The trade of the report is counted, and only this row can be the one that counts for it.
      have reported : row ∈ reportedRows numerics reports :=
        mem_reportedRows.mpr ⟨report, by rw [split]; simp, read⟩
      have counted := (kept.counted row.familyId row.trade).mpr ⟨row, reported, rfl, counts, rfl⟩
      obtain ⟨other, among, otherTrade⟩ := List.mem_map.mp counted
      obtain ⟨otherMember, family, otherCounts⟩ := mem_eligible.mp among
      have identity := identity_eq family otherCounts counts otherTrade
      have later : found ∈ (tableAfter numerics reports).rows := by
        rw [split]
        exact mem_of_mem_before member
      have one : other = found := ObservationTable.eq_of_identity otherMember later
        (identity ▸ same.1) (identity.trans same.2.symm)
      exact one ▸ otherCounts
    · rw [read] at own
      cases own
      exact absurd same (fresh old member)
  · -- The row of the report comes last, behind the rows that are there.
    rcases insert_cases numerics (tableAfter numerics before) report with
      ⟨_, raised, -⟩ | ⟨other, position, found, own, there, same, -⟩ | ⟨other, own, -, -, rows⟩
    · rw [read] at raised
      cases raised
    · rw [read] at own
      cases own
      exact absurd same (fresh found (List.mem_of_getElem? there))
    · rw [read] at own
      cases own
      have more := prefix_tableAfter numerics (before ++ [report]) after
      rw [tableAfter_append, Machine.next, rows, List.append_assoc, List.singleton_append,
        ← split] at more
      refine ⟨fun counts old member family oldCounts trade => ?_, kept.anyCase row ?_⟩
      · -- Both rows would count for the trade.
        have twice := kept.once row.familyId
        obtain ⟨rest, whole⟩ := more
        rw [eligible_eq, ← whole, List.filter_append, List.filter_append, List.map_append,
          List.map_append, List.append_assoc] at twice
        refine (List.nodup_append.mp twice).2.2 row.trade ?_ row.trade ?_ rfl
        · exact List.mem_map.mpr ⟨old, List.mem_filter.mpr ⟨member,
            decide_eq_true ⟨family, oldCounts⟩⟩, trade⟩
        · refine List.mem_append_left _ (List.mem_map.mpr ⟨row, List.mem_filter.mpr
            ⟨List.mem_singleton_self row, decide_eq_true ⟨rfl, counts⟩⟩, rfl⟩)
      · exact more.subset (List.mem_append_right _ (List.mem_singleton_self row))

/-- Each closed trade is counted once exactly if every report of the run is clear. -/
theorem countedOnce_iff_clear {F : Type} (numerics : Numerics F) (reports : List Report) :
    CountedOnce numerics reports ↔
      (observationMachine numerics).Guarded (Clear numerics) .empty reports :=
  ⟨guarded_of_countedOnce, countedOnce_of_guarded⟩

/-- Exact arithmetic in place of the one of floats, and capitals of the letters in ASCII. -/
def exactNumerics : Numerics ℚ where
  str _ := "value"
  casing := asciiCasing
  read := Json.finite?
  ofRat := id
  isNan _ := false
  isFinite _ := true
  neg := (- ·)
  abs := fun value => |value|
  sub := (· - ·)
  mul := (· * ·)
  div := (· / ·)
  less left right := left < right
  sum values := values.foldl (· + ·) 0

/-- A report of a closed trade that tells its pnl, but not when it was entered and left. -/
def untimedReport : Report where
  observation := [("family_id", .str "csm-48h-long"), ("strategy_version_id", .str "version"),
    ("spec_fingerprint", .str "fingerprint"), ("direction", .str "LONG"),
    ("symbol", .str "SOLUSDT"), ("signal_at", .str "2026-10-20T00:00:00Z"),
    ("status", .str "closed"), ("pnl", .int 10)]
  createdAt := "2026-10-22T00:00:01Z"

/-- A closed trade without its times that is reported again counts twice. -/
theorem untimed_counted_twice : ¬CountedOnce exactNumerics [untimedReport, untimedReport] := by
  intro kept
  exact absurd (kept.once "csm-48h-long") (by decide +kernel)

/-! ### Reports that are delivered again -/

/-- A reported row with both times is stored, or one that is the same is. -/
theorem stored_same (reported : row ∈ reportedRows numerics reports)
    (timed : row.identity.isSome) : ∃ old ∈ (tableAfter numerics reports).rows, old.Same row := by
  obtain ⟨report, inside, read⟩ := mem_reportedRows.mp reported
  obtain ⟨before, after, rfl⟩ := List.append_of_mem inside
  rcases insert_cases numerics (tableAfter numerics before) report with
    ⟨_, raised, -⟩ | ⟨other, _, old, own, there, same, -⟩ | ⟨other, own, -, -, rows⟩
  · rw [read] at raised
    cases raised
  · rw [read] at own
    cases own
    exact ⟨old, mem_of_mem_before (List.mem_of_getElem? there), same⟩
  · rw [read] at own
    cases own
    have more := prefix_tableAfter numerics (before ++ [report]) after
    rw [tableAfter_append, Machine.next, rows, List.append_assoc, List.singleton_append] at more
    exact ⟨row, more.subset (List.mem_append_right _ List.mem_cons_self), timed, rfl⟩

/-- Reports of rows that are stored already leave the table as it is. -/
theorem run_stored {again : List Report}
    (stored : ∀ row ∈ reportedRows numerics again, ∃ old ∈ table.rows, old.Same row) :
    (observationMachine numerics).run table again = table := by
  induction again with
  | nil => rfl
  | cons report rest ih =>
    have same : (observationMachine numerics).next table report = table := by
      rcases insert_cases numerics table report with
        ⟨_, -, step⟩ | ⟨_, _, _, -, -, -, step⟩ | ⟨row, read, fresh, -, -⟩
      · rw [Machine.next, step]
      · rw [Machine.next, step]
      · obtain ⟨old, member, known⟩ :=
          stored row (mem_reportedRows.mpr ⟨report, List.mem_cons_self, read⟩)
        exact absurd known (fresh old member)
    rw [Machine.run_cons, same]
    refine ih fun row reported => stored row ?_
    obtain ⟨other, inside, read⟩ := mem_reportedRows.mp reported
    exact mem_reportedRows.mpr ⟨other, List.mem_cons_of_mem _ inside, read⟩

/-- The report of the same trade with its times. -/
def timedReport : Report :=
  { untimedReport with
    observation := untimedReport.observation ++
      [("entry_at", .str "2026-10-20T00:00:00Z"), ("exit_at", .str "2026-10-22T00:00:00Z")] }

end StrategyLab.PaperObservation
