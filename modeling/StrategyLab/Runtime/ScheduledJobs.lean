import StrategyLab.Adapters.Validation
import StrategyLab.Lib.Sorted
import StrategyLab.Lib.Table
import Mathlib.Data.Prod.Lex
import StrategyLab.Lib.Raise
import StrategyLab.Lib.UtcText

/-! The scheduled jobs that are due by the texts of their times, and when the texts tell. -/

namespace StrategyLab

/-- When a job runs. -/
structure ScheduleDefinition where
  timezone : String
  nextRunAt : String
  cadence : String := "manual"
  /-- The next run has been checked. -/
  valid : isoUtc nextRunAt = true
  deriving DecidableEq

/-- A job that runs at its times. -/
structure ScheduledJob where
  jobId : String
  name : String
  requestText : String
  schedule : ScheduleDefinition
  enabled : Bool
  createdAt : String
  updatedAt : String
  approvalRequired : Bool := false
  maxAttempts : Nat := 2
  deriving DecidableEq

/-- The stored jobs. -/
abbrev ScheduledJobTable := Table ScheduledJob.jobId

namespace ScheduledJobRepository

/-- The `WHERE` of the due jobs: texts are compared character by character. -/
def dueRow (now : String) (job : ScheduledJob) : Bool :=
  job.enabled && decide (job.schedule.nextRunAt ≤ now)

/-- The `ORDER BY` of the due jobs. -/
def dueOrder (job : ScheduledJob) : String ×ₗ String := toLex (job.schedule.nextRunAt, job.jobId)

/-- The jobs that are due. -/
def due (table : ScheduledJobTable) (now : String) : Except ServiceError (List ScheduledJob) := do
  validateUtc now
  return Py.sortedBy dueOrder (table.rows.filter (dueRow now))

end ScheduledJobRepository

open ScheduledJobRepository UtcText

/-- The instant that a text denotes. -/
def instant? (text : String) : Option ℚ := (time? text).map Time.instant

/-- The jobs of a table that are selected at a time, and those at another time, are the due ones. -/
structure ChronologicallyDue (table : ScheduledJobTable) (now later : String)
    (jobs others : List ScheduledJob) : Prop where
  /-- The selected jobs are the enabled ones whose instant is not after that of the time. -/
  exact : ∀ job, job ∈ jobs ↔ job ∈ table.rows ∧ job.enabled = true ∧ ∃ next limit,
    instant? job.schedule.nextRunAt = some next ∧ instant? now = some limit ∧ next ≤ limit
  /-- They come in the order of the instants, jobs of one instant in that of their names. -/
  ordered : jobs.Pairwise fun first second => ∀ one other,
    instant? first.schedule.nextRunAt = some one → instant? second.schedule.nextRunAt = some other →
      one < other ∨ one = other ∧ first.jobId ≤ second.jobId
  /-- At a later instant all of them are still selected. -/
  grows : ∀ limit further, instant? now = some limit → instant? later = some further →
    limit < further → ∀ job ∈ jobs, job ∈ others

/-- The texts of a table and of two times tell the instants. -/
structure TextsTell (table : ScheduledJobTable) (now later : String) : Prop where
  /-- What is due by its text denotes an instant, and so does the time. -/
  denote : ∀ job ∈ table.rows, dueRow now job = true →
    (instant? job.schedule.nextRunAt).isSome = true ∧ (instant? now).isSome = true
  /-- The time does not go on where that of an enabled job ends. -/
  whole : ∀ job ∈ table.rows, job.enabled = true → ∀ next limit,
    time? job.schedule.nextRunAt = some next → time? now = some limit → ¬Cut next limit
  /-- The time of an enabled job goes on where the time ends only by zeros. -/
  zeros : ∀ job ∈ table.rows, job.enabled = true → ∀ next limit,
    time? job.schedule.nextRunAt = some next → time? now = some limit → Cut limit next →
    next.instant = limit.instant
  /-- Among jobs that are due by their texts, one time goes on where another one ends only by zeros,
  and with a smaller name. -/
  apart : ∀ job ∈ table.rows, ∀ other ∈ table.rows, dueRow now job = true → dueRow now other = true →
    ∀ shorter longer, time? job.schedule.nextRunAt = some shorter →
    time? other.schedule.nextRunAt = some longer → Cut shorter longer →
    longer.instant = shorter.instant ∧ other.jobId ≤ job.jobId
  /-- A later time does not go on where that of a job ends that is due by its text. -/
  onward : ∀ limit further, time? now = some limit → time? later = some further →
    limit.instant < further.instant → ∀ job ∈ table.rows, dueRow now job = true → ∀ next,
    time? job.schedule.nextRunAt = some next → ¬Cut next further

variable {table : ScheduledJobTable} {now later : String} {jobs others : List ScheduledJob}

/-- An instant is that of the time that a text denotes. -/
theorem instant?_eq_some {text : String} {at_ : ℚ} :
    instant? text = some at_ ↔ ∃ time, time? text = some time ∧ time.instant = at_ := by
  rw [instant?, Option.map_eq_some_iff]

/-- The time of a text with an instant. -/
theorem time?_of_isSome {text : String} (denotes : (instant? text).isSome = true) :
    ∃ time, time? text = some time := by
  rw [instant?, Option.isSome_map] at denotes
  exact Option.isSome_iff_exists.mp denotes

variable {job : ScheduledJob}

/-- The selected jobs are those in the table that are due by their texts. -/
theorem mem_due (done : due table now = .ok jobs) :
    job ∈ jobs ↔ job ∈ table.rows ∧ dueRow now job = true := by
  obtain ⟨_, _, returned⟩ := Raise.bind_eq_ok.mp done
  cases Raise.pure_eq_ok.mp returned
  rw [Py.mem_sortedBy, List.mem_filter]

/-- A job is due by its text when the job is enabled and the text is not larger. -/
theorem dueRow_iff :
    dueRow now job = true ↔ job.enabled = true ∧ ¬now < job.schedule.nextRunAt := by
  rw [dueRow, Bool.and_eq_true, decide_eq_true_eq, not_lt]

/-- An order of the selected jobs relates a smaller text to a larger one. -/
theorem rel_of_text_lt (done : due table now = .ok jobs)
    {rel : ScheduledJob → ScheduledJob → Prop} (holds : jobs.Pairwise rel)
    {one other : ScheduledJob} (first : one ∈ jobs) (second : other ∈ jobs)
    (less : one.schedule.nextRunAt < other.schedule.nextRunAt) : rel one other := by
  obtain ⟨_, _, returned⟩ := Raise.bind_eq_ok.mp done
  cases Raise.pure_eq_ok.mp returned
  rw [Py.mem_sortedBy] at first second
  exact Py.rel_of_key_lt _ holds first second (Prod.Lex.toLex_lt_toLex.mpr (Or.inl less))

/-- The selected jobs come in the order of their texts, and then of their names. -/
theorem pairwise_due (done : due table now = .ok jobs) :
    jobs.Pairwise fun first second => first.schedule.nextRunAt < second.schedule.nextRunAt ∨
      first.schedule.nextRunAt = second.schedule.nextRunAt ∧ first.jobId ≤ second.jobId := by
  obtain ⟨_, _, returned⟩ := Raise.bind_eq_ok.mp done
  cases Raise.pure_eq_ok.mp returned
  exact (Py.sortedBy_pairwise dueOrder _).imp fun below => Prod.Lex.toLex_le_toLex.mp below

/-- Where the texts tell, a job is due by its text exactly when it is due by its instant. -/
theorem TextsTell.dueRow_iff (tells : TextsTell table now later) (member : job ∈ table.rows) :
    dueRow now job = true ↔ job.enabled = true ∧ ∃ next limit,
      instant? job.schedule.nextRunAt = some next ∧ instant? now = some limit ∧ next ≤ limit := by
  constructor
  · intro selected
    obtain ⟨one, other⟩ := tells.denote job member selected
    obtain ⟨next, reads⟩ := time?_of_isSome one
    obtain ⟨limit, read⟩ := time?_of_isSome other
    obtain ⟨enabled, below⟩ := StrategyLab.dueRow_iff.mp selected
    refine ⟨enabled, next.instant, limit.instant, instant?_eq_some.mpr ⟨next, reads, rfl⟩,
      instant?_eq_some.mpr ⟨limit, read, rfl⟩, ?_⟩
    rw [text_lt_iff read reads] at below
    by_cases longer : Cut limit next
    · exact (tells.zeros job member enabled next limit reads read longer).le
    · exact not_lt.mp fun less => below (Or.inr ⟨longer, less⟩)
  · rintro ⟨enabled, _, _, one, other, before⟩
    obtain ⟨next, reads, rfl⟩ := instant?_eq_some.mp one
    obtain ⟨limit, read, rfl⟩ := instant?_eq_some.mp other
    refine StrategyLab.dueRow_iff.mpr ⟨enabled, ?_⟩
    rw [text_lt_iff read reads]
    rintro (cut | ⟨_, less⟩)
    · exact tells.whole job member enabled next limit reads read cut
    · exact absurd less before.not_gt

/-- Where the texts tell, the selected jobs are the due ones, in the order of time. -/
theorem TextsTell.chronologicallyDue (tells : TextsTell table now later)
    (done : due table now = .ok jobs) (again : due table later = .ok others) :
    ChronologicallyDue table now later jobs others := by
  refine ⟨fun job => ?_, ?_, ?_⟩
  · rw [mem_due done]
    exact and_congr_right fun member => tells.dueRow_iff member
  · refine (pairwise_due done).imp_of_mem ?_
    intro first second inside also order one other at_ behind
    obtain ⟨member, selected⟩ := (mem_due done).mp inside
    obtain ⟨member', selected'⟩ := (mem_due done).mp also
    obtain ⟨time, reads, rfl⟩ := instant?_eq_some.mp at_
    obtain ⟨time', reads', rfl⟩ := instant?_eq_some.mp behind
    rcases order with less | ⟨same, names⟩
    · rcases (text_lt_iff reads reads').mp less with cut | ⟨_, before⟩
      · -- The first one goes on where the second one ends, by zeros.
        obtain ⟨equal, names⟩ :=
          tells.apart second member' first member selected' selected time' time reads' reads cut
        exact Or.inr ⟨equal, names⟩
      · exact Or.inl before
    · rw [same, reads'] at reads
      cases reads
      exact Or.inr ⟨rfl, names⟩
  · intro _ _ one other before job inside
    obtain ⟨limit, read, rfl⟩ := instant?_eq_some.mp one
    obtain ⟨further, ahead, rfl⟩ := instant?_eq_some.mp other
    obtain ⟨member, selected⟩ := (mem_due done).mp inside
    obtain ⟨enabled, _, _, due_, upTo, within⟩ := (tells.dueRow_iff member).mp selected
    obtain ⟨next, reads, rfl⟩ := instant?_eq_some.mp due_
    rw [instant?, read] at upTo
    cases upTo
    refine (mem_due again).mpr ⟨member, StrategyLab.dueRow_iff.mpr ⟨enabled, ?_⟩⟩
    rw [text_lt_iff ahead reads]
    rintro (cut | ⟨_, less⟩)
    · exact tells.onward limit further read ahead before job member selected next reads cut
    · exact absurd (within.trans_lt before) less.not_gt

/-- The selected jobs are the due ones exactly when the texts tell. -/
theorem chronologicallyDue_iff (done : due table now = .ok jobs)
    (again : due table later = .ok others) :
    ChronologicallyDue table now later jobs others ↔ TextsTell table now later := by
  refine ⟨fun due_ => ⟨?_, ?_, ?_, ?_, ?_⟩, fun tells => tells.chronologicallyDue done again⟩
  · intro job member selected
    obtain ⟨_, _, _, _, one, other, _⟩ := (due_.exact job).mp ((mem_due done).mpr ⟨member, selected⟩)
    rw [one, other]
    exact ⟨rfl, rfl⟩
  · intro job member enabled next limit reads read cut
    -- The job is due by its instant and not by its text.
    have inside := (due_.exact job).mpr ⟨member, enabled, next.instant, limit.instant,
      instant?_eq_some.mpr ⟨next, reads, rfl⟩, instant?_eq_some.mpr ⟨limit, read, rfl⟩,
      cut.instant_le read⟩
    exact (dueRow_iff.mp ((mem_due done).mp inside).2).2 ((text_lt_iff read reads).mpr (Or.inl cut))
  · intro job member enabled next limit reads read cut
    -- The job is due by its text.
    have before := (text_lt_iff reads read).mpr (Or.inl cut)
    have inside := (mem_due done).mpr ⟨member, dueRow_iff.mpr ⟨enabled, before.not_gt⟩⟩
    obtain ⟨_, _, _, _, one, other, within⟩ := (due_.exact job).mp inside
    rw [instant?, reads] at one
    rw [instant?, read] at other
    cases one
    cases other
    exact le_antisymm within (cut.instant_le reads)
  · intro job member other member' selected selected' shorter longer reads reads' cut
    -- The longer text comes first.
    have less := (text_lt_iff reads' reads).mpr (Or.inl cut)
    have order := rel_of_text_lt done due_.ordered ((mem_due done).mpr ⟨member', selected'⟩)
      ((mem_due done).mpr ⟨member, selected⟩) less _ _ (instant?_eq_some.mpr ⟨longer, reads', rfl⟩)
      (instant?_eq_some.mpr ⟨shorter, reads, rfl⟩)
    rcases order with before | equal
    · exact absurd (cut.instant_le reads') before.not_ge
    · exact equal
  · intro limit further read ahead before job member selected next reads cut
    have still := due_.grows _ _ (instant?_eq_some.mpr ⟨limit, read, rfl⟩)
      (instant?_eq_some.mpr ⟨further, ahead, rfl⟩) before job ((mem_due done).mpr ⟨member, selected⟩)
    exact (dueRow_iff.mp ((mem_due again).mp still).2).2 ((text_lt_iff ahead reads).mpr (Or.inl cut))

/-- The text of a whole second is one of a time. -/
theorem midnight_valid : isoUtc "2026-01-01T00:00:00Z" = true := by
  decide +kernel

/-- A job that runs at midnight. -/
def midnightJob : ScheduledJob where
  jobId := "daily"
  name := "Daily research"
  requestText := "Run the daily research."
  schedule := { timezone := "UTC", nextRunAt := "2026-01-01T00:00:00Z", valid := midnight_valid }
  enabled := true
  createdAt := "2025-12-31T00:00:00Z"
  updatedAt := "2025-12-31T00:00:00Z"

/-- The table of the job that runs at midnight. -/
def midnightJobs : ScheduledJobTable := ⟨[midnightJob], List.nodup_singleton _⟩

/-- The job is not selected half a second after midnight. -/
theorem midnight_missed : due midnightJobs "2026-01-01T00:00:00.5Z" = .ok [] := by
  decide +kernel

/-- The job is selected one second after midnight. -/
theorem midnight_selected : due midnightJobs "2026-01-01T00:00:01Z" = .ok [midnightJob] := by
  decide +kernel

/-- What tells whether the job of midnight is selected when it is due. -/
theorem midnight_chronologicallyDue_iff :
    due midnightJobs "2026-01-01T00:00:00.5Z" = .ok [] ∧
      due midnightJobs "2026-01-01T00:00:01Z" = .ok [midnightJob] ∧
      (ChronologicallyDue midnightJobs "2026-01-01T00:00:00.5Z" "2026-01-01T00:00:01Z" []
          [midnightJob] ↔
        TextsTell midnightJobs "2026-01-01T00:00:00.5Z" "2026-01-01T00:00:01Z") :=
  ⟨midnight_missed, midnight_selected, chronologicallyDue_iff midnight_missed midnight_selected⟩

/-- A job of a whole second is not selected at a fraction of that second. -/
theorem midnight_not_chronologicallyDue :
    due midnightJobs "2026-01-01T00:00:00.5Z" = .ok [] ∧
      due midnightJobs "2026-01-01T00:00:01Z" = .ok [midnightJob] ∧
      ¬ChronologicallyDue midnightJobs "2026-01-01T00:00:00.5Z" "2026-01-01T00:00:01Z" []
        [midnightJob] := by
  refine ⟨midnight_missed, midnight_selected, fun due_ => ?_⟩
  have next : time? "2026-01-01T00:00:00Z" = some ⟨65120025600, []⟩ := by decide +kernel
  have limit : time? "2026-01-01T00:00:00.5Z" = some ⟨65120025600, ['5']⟩ := by decide +kernel
  have cut : Cut ⟨65120025600, []⟩ ⟨65120025600, ['5']⟩ := ⟨rfl, List.nil_prefix, by simp⟩
  have selected := (due_.exact midnightJob).mpr ⟨List.mem_singleton_self _, rfl, _, _,
    instant?_eq_some.mpr ⟨_, next, rfl⟩, instant?_eq_some.mpr ⟨_, limit, rfl⟩, cut.instant_le limit⟩
  cases selected

end StrategyLab
